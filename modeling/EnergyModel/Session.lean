import EnergyModel.Files
import EnergyModel.Journal
import EnergyModel.Sql.Schema

/-!
# Runs

A run of the program changes a file tree, writes notes, and may print to its two output
streams. `Session` is that state, and `Run` is a computation on it that may fail with a
`Failure`; a failure keeps the state reached so far, notes included.

Computations that only write notes and may fail are `Logged`; `Run.ofLogged` replays their
notes into a session in order.

Notes reach the output streams and the log files only once logging is set up (`LogSetup`):
informational notes up to the chosen level go to the standard output, warnings and errors up to
that level to the error output, informational notes up to at least `info` to the information log,
and all warnings and errors to the error log.
-/

namespace EnergyModel

/-- The content of a file: text, or a database. -/
inductive Content where
  | text (s : String)
  | database (db : Sql.Database)
  deriving Inhabited

/-- The header every database file starts with, which is what a text reader sees of it. -/
def databaseHeader : String := "SQLite format 3\x00"

/-- The text of a file's content. -/
def Content.asText : Content → String
  | .text s => s
  | .database _ => databaseHeader

/-- Where logging goes once it is set up: the most detailed level shown (none when logging is
off) and the directory of the log files. -/
structure LogSetup where
  level : Option Level
  directory : String
  deriving Inhabited

/-- The name of the log file of informational notes. -/
def infoLogName : String := "temoatools_info.log"

/-- The name of the log file of warnings and errors. -/
def errorLogName : String := "temoatools_error.log"

/-- The state of a run. -/
structure Session where
  files : FileTree Content
  notes : Array Note := #[]
  logging : Option LogSetup := none
  stdout : String := ""
  stderr : String := ""
  deriving Inhabited

/-- Appends a line to a text file of the tree, if it holds one. -/
def appendLine (t : FileTree Content) (p : String) (line : String) : FileTree Content :=
  match t.read p with
  | .ok (.text s) =>
    match t.write p (.text (s ++ line)) with
    | .ok t' => t'
    | .error _ => t
  | _ => t

/-- Whether a note of level `l` passes a limit given as a rank (0 shows nothing). -/
def Level.within (l : Level) (limit : Nat) : Bool := l.rank ≤ limit

/-- The rank of an optional level, 0 when logging is off. -/
def rankOf : Option Level → Nat
  | some l => l.rank
  | none => 0

/-- Records a note, and writes it wherever logging sends it. -/
def Session.record (s : Session) (n : Note) : Session :=
  let s := { s with notes := s.notes.push n }
  match s.logging with
  | none => s
  | some setup =>
    let line := n.line ++ "\n"
    let chosen := rankOf setup.level
    let serious := n.level.rank ≤ 2
    let s := if !serious && n.level.within chosen then { s with stdout := s.stdout ++ line } else s
    let s := if serious && n.level.within (min chosen 2) then { s with stderr := s.stderr ++ line } else s
    let s :=
      if !serious && n.level.within (max chosen 3) then
        { s with files := appendLine s.files (Path.join setup.directory infoLogName) line }
      else s
    if serious then { s with files := appendLine s.files (Path.join setup.directory errorLogName) line }
    else s

/-- A computation that writes notes and may fail. -/
abbrev Logged := ExceptT Failure (StateM (Array Note))

/-- A computation on a run's state that may fail. -/
abbrev Run := ExceptT Failure (StateM Session)

/-- Writes a note. -/
def Logged.note (level : Level) (origin : Origin) (text : String) : Logged Unit :=
  modify fun notes => notes.push ⟨level, origin, text⟩

/-- Writes a note. -/
def Run.note (level : Level) (origin : Origin) (text : String) : Run Unit :=
  modify fun s => s.record ⟨level, origin, text⟩

/-- Fails with a broken rule of the program. -/
def Logged.fail {α : Type} (p : Problem) : Logged α := throw (Failure.rule p)

/-- Fails with a broken rule of the program. -/
def Run.fail {α : Type} (p : Problem) : Run α := throw (Failure.rule p)

/-- Runs a computation, adding a context to its failure. -/
def Logged.within {α : Type} (outer : String) (m : Logged α) : Logged α :=
  tryCatch m fun f => throw (f.within outer)

/-- Runs a computation, adding a context to its failure. -/
def Run.within {α : Type} (outer : String) (m : Run α) : Run α :=
  tryCatch m fun f => throw (f.within outer)

/-- The result of a plain computation that may fail. -/
def Logged.ofExcept {α : Type} (e : Except Failure α) : Logged α :=
  match e with
  | .ok a => pure a
  | .error f => throw f

/-- The result of a plain computation that may fail. -/
def Run.ofExcept {α : Type} (e : Except Failure α) : Run α :=
  match e with
  | .ok a => pure a
  | .error f => throw f

/-- Runs a computation that writes notes: its notes are recorded in order, then its result or
failure is passed on. -/
def Run.ofLogged {α : Type} (m : Logged α) : Run α := do
  let (result, notes) := (m.run).run #[]
  for n in notes do
    modify fun s => s.record n
  Run.ofExcept result

/-- Runs a logged computation on its own: the result and the notes it wrote. -/
def Logged.collect {α : Type} (m : Logged α) : Except Failure α × Array Note :=
  (m.run).run #[]

/-- The files of the run. -/
def Run.files : Run (FileTree Content) := do
  return (← get).files

/-- Replaces the files of the run. -/
def Run.setFiles (t : FileTree Content) : Run Unit :=
  modify fun s => { s with files := t }

/-- Prints a line on the standard output. -/
def Run.printLine (text : String) : Run Unit :=
  modify fun s => { s with stdout := s.stdout ++ text ++ "\n" }

end EnergyModel
