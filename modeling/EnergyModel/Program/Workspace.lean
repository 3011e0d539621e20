import EnergyModel.Program.Commands
import EnergyModel.Sql.Dump

/-!
# The files a run works on

A run works on a file tree held in memory. To run on real files, the tree is filled first with
every file the run may read, and the changes the run made are carried back afterwards.

The files a run may read are found from its arguments alone: the settings file, every argument
taken as a path, the files a model folder holds (the bundled examples name them all) below every
argument, and the databases a build may replace in its output folder. Reading more than needed
does no harm, since a file the run does not look at changes nothing.

What is found at a path enters the tree as it is: a text file as a text file, a directory as a
directory, and another file as a database with no tables, since a database's own format is not
read. A database is carried back as the SQL statements that rebuild its data.

A path is kept as the tree keeps it, relative to the working folder; a path below an argument
that starts at the root starts at the root again when it is carried back.
-/

namespace EnergyModel.Program

/-- The names of the files that model folders hold: input tables, scenario tables and variable
selections, as the bundled examples show them. -/
def folderFileNames : List String :=
  (Examples.all.flatMap fun ex => ex.files.filterMap fun (path, _) => Path.fileName? path).eraseDups

/-- The names a build may give its model: every argument, and every default name made of a
folder argument and another argument. -/
def modelNames (args : List String) : List String :=
  args ++ args.flatMap fun a =>
    match Path.fileName? a with
    | some folder => args.map fun b => folder ++ "_" ++ b
    | none => []

/-- The paths a run on some arguments may read, given the output folder the settings name. -/
def candidatePaths (args : List String) (outputDir : String) : List String :=
  let places := outputDir :: args
  let inside := places.flatMap fun a =>
    (folderFileNames ++ [infoLogName, errorLogName, summaryFileName]).map (Path.join a)
  let databases := places.flatMap fun o => (modelNames args).map (databasePath o)
  (settingsFileName :: places ++ inside ++ databases).eraseDups

/-- A path of the tree as it is spelled on disk: from the root when it lies below an argument
that starts at the root. -/
def spelledPath (args : List String) (path : String) : String :=
  let key := Path.parts path
  if args.any fun a => a.startsWith "/" && (Path.parts a).isPrefixOf key then "/" ++ path else path

/-- What is at a path on disk: a text file, a directory, another file, or nothing. -/
inductive Found where
  | text (content : String)
  | directory
  | binary
  | nothing

/-- Adds a file to a tree, with its parent folders. -/
def addFile (t : FileTree Content) (path : String) (c : Content) : FileTree Content :=
  let t := match Path.parent? path with
    | some folder => (t.createDirectories folder).toOption.getD t
    | none => t
  (t.write path c).toOption.getD t

/-- Adds what is at a path to a tree, with its parent folders. -/
def addFound (t : FileTree Content) (path : String) : Found → FileTree Content
  | .nothing => t
  | .directory => (t.createDirectories path).toOption.getD t
  | .text s => addFile t path (.text s)
  | .binary => addFile t path (.database {})

/-- The output folder the settings file names, found at a path; the default one when the file is
missing or cannot be read. -/
def configuredOutputDir (path : String) (found : Found) : String :=
  ((Settings.load (addFound {} path found)).toOption.getD {}).outputDir

/-- A change a run made to its files. -/
inductive FileChange where
  /-- A directory was created. -/
  | createDirectory (path : String)
  /-- A file was removed. -/
  | remove (path : String)
  /-- A file was written, with its text: a database as the statements that rebuild it. -/
  | write (path : String) (text : String)
  deriving Inhabited

/-- The text a file's content is written as. -/
def contentText : Content → String
  | .text s => s
  | .database db => db.script

/-- The changes that lead from one tree to another: the new directories, the removed files and
the new files and those whose text changed, each in the order the tree holds them. -/
def fileChanges (before after : FileTree Content) : List FileChange :=
  let created := after.directories.filterMap fun p =>
    if before.isDirectory p then none else some (.createDirectory p)
  let removed := before.files.filterMap fun (p, _) =>
    if after.isFile p then none else some (.remove p)
  let written := after.files.filterMap fun (p, c) =>
    match before.read p with
    | .ok old => if contentText old == contentText c then none else some (.write p (contentText c))
    | .error _ => some (.write p (contentText c))
  created ++ removed ++ written

end EnergyModel.Program
