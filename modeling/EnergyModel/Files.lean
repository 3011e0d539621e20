import EnergyModel.Fault

/-!
# Files

A file tree maps paths to directories and files. Paths are texts with `/` between their parts;
a part `.` is ignored and `..` steps back, so `inputs/./Demand.csv` and `inputs/Demand.csv` name
the same file. The tree's root is always a directory.

The operations fail the way the operating system does: reading a missing file gives
`FileError.notFound`, a path through a file gives `notADirectory`, and so on. The text helpers
`Path.join`, `Path.fileName?` and `Path.parent?` work on the path text itself, as written.
-/

namespace EnergyModel

namespace Path

/-- Appends a relative path to a base path; an absolute child replaces the base. -/
def join (base child : String) : String :=
  if child.startsWith "/" || base.isEmpty then child
  else if base.endsWith "/" then base ++ child
  else base ++ "/" ++ child

/-- The parts of a path, with `.` removed and `..` stepping back. -/
def parts (p : String) : List String :=
  let raw := (p.splitOn "/").filter fun s => !s.isEmpty && s != "."
  (raw.foldl (fun acc s => if s == ".." then acc.dropLast else acc ++ [s]) [])

/-- The parts of a path as written, with `.` removed except at the start. -/
def writtenParts (p : String) : List String :=
  let raw := (p.splitOn "/").filter fun s => !s.isEmpty
  match raw with
  | "." :: rest => "." :: rest.filter (· != ".")
  | _ => raw.filter (· != ".")

/-- What the system compares when it compares two paths: whether the path starts at the root,
and its parts as written, where `.` counts only at the start of a relative path. So `a//b`,
`a/./b` and `a/b/` are the same path, and `./a` and `a` are not. -/
def components (p : String) : Bool × List String :=
  if p.startsWith "/" then (true, (writtenParts p).filter (· != ".")) else (false, writtenParts p)

/-- The last part of a path when it names an entry: not `.`, `..` or the root. -/
def fileName? (p : String) : Option String :=
  match (writtenParts p).getLast? with
  | some last => if last == "." || last == ".." then none else some last
  | none => none

/-- The path without its last part, as written; `none` for the root and the empty path. -/
def parent? (p : String) : Option String :=
  let trimmed := String.ofList (p.toList.reverse.dropWhile (· == '/')).reverse
  if trimmed.isEmpty then none
  else
    let pieces := trimmed.splitOn "/"
    let front := pieces.dropLast
    -- trailing `.` parts are not parts of their own
    let front := if (pieces.getLast?) == some "." then front.dropLast else front
    let text := "/".intercalate front
    let text := String.ofList (text.toList.reverse.dropWhile (· == '/')).reverse
    if text.isEmpty && p.startsWith "/" then some "/" else some text

end Path

/-- An entry of a file tree. -/
inductive Node (α : Type) where
  | directory
  | file (content : α)
  deriving Inhabited

/-- A file tree: each entry under the parts of its path. -/
structure FileTree (α : Type) where
  entries : List (List String × Node α) := []
  deriving Inhabited

namespace FileTree

variable {α : Type}

/-- The entry at the given parts; the root is a directory. -/
def node? (t : FileTree α) (key : List String) : Option (Node α) :=
  if key.isEmpty then some .directory
  else (t.entries.find? (·.1 == key)).map (·.2)

/-- Whether the entry at the given parts is a directory. -/
def isDirectoryAt (t : FileTree α) (key : List String) : Bool :=
  match t.node? key with
  | some .directory => true
  | _ => false

/-- Whether the entry at the given parts is a file. -/
def isFileAt (t : FileTree α) (key : List String) : Bool :=
  match t.node? key with
  | some (.file _) => true
  | _ => false

/-- Whether a path names a directory. -/
def isDirectory (t : FileTree α) (p : String) : Bool := t.isDirectoryAt (Path.parts p)

/-- Whether a path names a file. -/
def isFile (t : FileTree α) (p : String) : Bool := t.isFileAt (Path.parts p)

/-- Whether a path names anything. -/
def exists? (t : FileTree α) (p : String) : Bool := (t.node? (Path.parts p)).isSome

/-- The proper prefixes of a list of parts, shortest first. -/
def prefixes (key : List String) : List (List String) :=
  (List.range key.length).map fun n => key.take n

/-- Why the parents of a path cannot hold an entry, if they cannot. -/
def parentProblem (t : FileTree α) (key : List String) : Option FileError :=
  if (prefixes key).any t.isFileAt then some .notADirectory
  else if t.isDirectoryAt key.dropLast then none
  else some .notFound

/-- The content of a file. -/
def read (t : FileTree α) (p : String) : Except FileError α :=
  let key := Path.parts p
  if (prefixes key).any t.isFileAt then .error .notADirectory
  else
    match t.node? key with
    | some (.file c) => .ok c
    | some .directory => .error .isADirectory
    | none => .error .notFound

/-- Sets the entry at the given parts. -/
def setAt (t : FileTree α) (key : List String) (n : Node α) : FileTree α :=
  if t.entries.any (·.1 == key) then
    { entries := t.entries.map fun e => if e.1 == key then (key, n) else e }
  else { entries := t.entries ++ [(key, n)] }

/-- Writes a file, replacing one that is there. -/
def write (t : FileTree α) (p : String) (content : α) : Except FileError (FileTree α) :=
  let key := Path.parts p
  match t.parentProblem key with
  | some e => .error e
  | none =>
    if t.isDirectoryAt key then .error .isADirectory
    else .ok (t.setAt key (.file content))

/-- Creates one directory, whose parent must exist. -/
def createDirectory (t : FileTree α) (p : String) : Except FileError (FileTree α) :=
  let key := Path.parts p
  if (t.node? key).isSome then .error .alreadyExists
  else
    match t.parentProblem key with
    | some e => .error e
    | none => .ok (t.setAt key .directory)

/-- Creates a directory and any missing parents; an existing directory is fine. -/
def createDirectories (t : FileTree α) (p : String) : Except FileError (FileTree α) :=
  let key := Path.parts p
  if t.isDirectoryAt key then .ok t
  else if t.isFileAt key then .error .alreadyExists
  else if (prefixes key).any t.isFileAt then .error .notADirectory
  else .ok ((prefixes key ++ [key]).foldl (fun acc k =>
    if acc.isDirectoryAt k then acc else acc.setAt k .directory) t)

/-- Removes a file. -/
def remove (t : FileTree α) (p : String) : Except FileError (FileTree α) :=
  let key := Path.parts p
  match t.node? key with
  | some (.file _) => .ok { entries := t.entries.filter (·.1 != key) }
  | some .directory => .error .isADirectory
  | none => .error .notFound

/-- Removes a directory with everything under it. -/
def removeTree (t : FileTree α) (p : String) : FileTree α :=
  let key := Path.parts p
  { entries := t.entries.filter fun e => !(key.isPrefixOf e.1) }

/-- Every directory with its path, in the order the directories were first created. -/
def directories (t : FileTree α) : List String :=
  t.entries.filterMap fun e =>
    match e.2 with
    | .directory => some ("/".intercalate e.1)
    | .file _ => none

/-- Every file with its path, in the order the files were first created. -/
def files (t : FileTree α) : List (String × α) :=
  t.entries.filterMap fun e =>
    match e.2 with
    | .file c => some ("/".intercalate e.1, c)
    | .directory => none

end FileTree

end EnergyModel
