import EnergyModel.Program.Run
import EnergyModel.Program.Workspace

/-!
# The program on real files

`main` is the thin outer layer: it fills a file tree with the files the run may read, runs the
program on its arguments, prints what the run printed, carries the run's changes back to disk
and exits with the run's status.

Reading a path tells a text file, a directory (it cannot be read as a file), another file (it
cannot be read as text) and nothing there apart; which files to read and how the changes look
is the work of the workspace module.
-/

namespace EnergyModel.Program

/-- Looks at a path on disk. -/
def look (path : String) : IO Found := do
  try
    return .text (← IO.FS.readFile path)
  catch e =>
    match e with
    | .noFileOrDirectory .. => return .nothing
    | .inappropriateType .. => return .directory
    | _ => return .binary

/-- Thirty-two bytes of the system's random source, read as eight little-endian words. -/
def systemEntropy : IO (Vector UInt32 8) := do
  let bytes ← IO.getRandomBytes 32
  let byte (i : Nat) : UInt32 := (bytes.data.getD i 0).toUInt32
  pure (Vector.ofFn fun i =>
    byte (4 * i) ||| byte (4 * i + 1) <<< 8 ||| byte (4 * i + 2) <<< 16 ||| byte (4 * i + 3) <<< 24)

/-- Carries one change back to disk. -/
def applyChange (args : List String) : FileChange → IO Unit
  | .createDirectory p => IO.FS.createDirAll (spelledPath args p)
  | .remove p => IO.FS.removeFile (spelledPath args p)
  | .write p text => IO.FS.writeFile (spelledPath args p) text

end EnergyModel.Program

section

open EnergyModel EnergyModel.Program

/-- Runs the program on its arguments and the files of the working folder. -/
def main (args : List String) : IO UInt32 := do
  let outputDir := configuredOutputDir settingsFileName (← look settingsFileName)
  let mut files : FileTree Content := {}
  for path in candidatePaths args outputDir do
    files := addFound files path (← look path)
  let env : Environment :=
    { logLevel := ← IO.getEnv "TEMOATOOLS_LOG_LEVEL", tempDir := ".temoatools-example"
      entropy := ← systemEntropy }
  let (result, session) := ((runProgram env args).run).run { files }
  for change in fileChanges files session.files do
    try applyChange args change
    catch e => IO.eprintln (toString e)
  IO.print session.stdout
  IO.eprint session.stderr
  match result with
  | .ok status => return status.toUInt32
  | .error _ => return 1

end
