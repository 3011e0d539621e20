/-!
# Log notes

What the program reports while it works: a note has a level, the part of the program it comes
from, and its text. `Note.line` is the line a note takes in a log: time, level and origin in
brackets, then the text. The time is written as the fixed placeholder `HH:MM:SS`, since a run's
answers do not depend on the clock.
-/

namespace EnergyModel

/-- How serious a note is, from the most to the least serious. -/
inductive Level where
  | error
  | warn
  | info
  | debug
  | trace
  deriving Repr, BEq, Inhabited

/-- The rank of a level: 1 for errors up to 5 for traces. -/
def Level.rank : Level → Nat
  | .error => 1
  | .warn => 2
  | .info => 3
  | .debug => 4
  | .trace => 5

/-- The name of a level in a log line. -/
def Level.label : Level → String
  | .error => "ERROR"
  | .warn => "WARN"
  | .info => "INFO"
  | .debug => "DEBUG"
  | .trace => "TRACE"

/-- The part of the program a note comes from. -/
inductive Origin where
  | program
  | pipeline
  | database
  | commandLine
  | batch
  | perturbation
  | assembly
  | technologies
  | system
  | cases
  deriving Repr, BEq, Inhabited

/-- The name a log line gives the origin of a note. -/
def Origin.target : Origin → String
  | .program => "temoatools"
  | .pipeline => "temoatools::pipeline"
  | .database => "temoatools::database"
  | .commandLine => "temoatools::cli"
  | .batch => "temoatools::batch"
  | .perturbation => "temoatools::perturbation"
  | .assembly => "temoatools::model"
  | .technologies => "temoatools::model::emitter"
  | .system => "temoatools::model::system"
  | .cases => "temoatools::cases"

/-- A note of the log. -/
structure Note where
  level : Level
  origin : Origin
  text : String
  deriving Repr, Inhabited

/-- The line of a note in a log, without its line end. -/
def Note.line (n : Note) : String :=
  "[HH:MM:SS " ++ n.level.label ++ " " ++ n.origin.target ++ "] " ++ n.text

/-- Whether a note is a warning or an error. -/
def Note.isProblem (n : Note) : Bool := n.level.rank ≤ 2

end EnergyModel
