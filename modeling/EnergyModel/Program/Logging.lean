import EnergyModel.Session

/-!
# Logging and failure reports

Logging starts once per run, in the output folder: the level comes from the environment's
`TEMOATOOLS_LOG_LEVEL` if it is set, else from the settings, and is one of `off`, `error`,
`warn`, `info`, `debug` and `trace`, in any case. Starting it creates (or empties) the two log
files. From then on notes reach the output streams and log files as `Session.record` says.

A run that fails reports its failure once: as an error note when logging has started, and
otherwise as `Error: ` and the report on the error stream.
-/

namespace EnergyModel.Program

/-- What the program takes from its surroundings besides its arguments and files. -/
structure Environment where
  /-- The log level the environment asks for, if any. -/
  logLevel : Option String := none
  /-- A fresh temporary folder, for examples that are built. -/
  tempDir : String := "tmp"
  /-- The number of threads a batch uses when asked for every core. -/
  cores : Nat := 1
  /-- Thirty-two bytes of the system's random source as eight little-endian words: the key of
  the generator of Monte Carlo draws when no seed is given. -/
  entropy : Vector UInt32 8 := Vector.replicate 8 0
  deriving Inhabited

/-- The level a log level name chooses; `off` chooses none. -/
def parseLogLevel (name : String) : Except Problem (Option Level) :=
  match name.toLower with
  | "off" => .ok none
  | "error" => .ok (some .error)
  | "warn" => .ok (some .warn)
  | "info" => .ok (some .info)
  | "debug" => .ok (some .debug)
  | "trace" => .ok (some .trace)
  | other => .error (.unknownLogLevel other)

/-- Whether logging has started. -/
def Run.logging : Run Bool := do
  return (← get).logging.isSome

/-- Starts logging into `dir` at the level the environment or else the settings choose. -/
def startLogging (env : Environment) (fromSettings : String) (dir : String) : Run Unit :=
  Run.within "Failed to initialise logging." do
    if ← Run.logging then return
    let level ← Run.ofExcept ((parseLogLevel (env.logLevel.getD fromSettings)).mapError Failure.rule)
    for name in [infoLogName, errorLogName] do
      match (← Run.files).write (Path.join dir name) (.text "") with
      | .ok t => Run.setFiles t
      | .error e => throw (Failure.of (.file e))
    modify fun s => { s with logging := some ⟨level, dir⟩ }

/-- Writes a text on the error stream. -/
def Run.printError (text : String) : Run Unit :=
  modify fun s => { s with stderr := s.stderr ++ text }

/-- Writes a text on the standard output as it is. -/
def Run.print (text : String) : Run Unit :=
  modify fun s => { s with stdout := s.stdout ++ text }

/-- Reports a failure: as an error note once logging has started, else on the error stream. -/
def reportFailure (f : Failure) : Run Unit := do
  if ← Run.logging then Run.note .error .program f.report
  else Run.printError ("Error: " ++ f.report ++ "\n")

end EnergyModel.Program
