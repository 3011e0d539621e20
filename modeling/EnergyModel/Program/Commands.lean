import EnergyModel.Program.Logging
import EnergyModel.Batch
import EnergyModel.Settings
import EnergyModel.Examples.Simple

/-!
# The program's commands

A build or a batch first loads the settings, creates the output folder (the one asked for, else
the settings' one) and starts logging there; it then reads the perturbations, if any, and builds.
A batch that had failed builds fails in the end, pointing to its summary table.

Case generation checks its multiplier (a non-negative number) and that the output file's folder
exists, reads the scenario and the variable selection, and writes the cases; it does not log.

The examples are kept inside the program. Extracting one copies its files into a new folder; an
example build extracts it into a temporary folder, builds it under the name
`<example>_<scenario>`, and removes the temporary folder again, whether the build succeeded or
not.
-/

namespace EnergyModel.Program

open Input

/-- What a build command is asked for beyond its inputs. -/
structure BuildOptions where
  name : Option String := none
  outputDir : Option String := none
  template : Option String := none
  case : Nat := 0
  sensitivity : Option String := none
  monteCarlo : Option String := none
  mode : CaseMode := .perturbations
  deriving Inhabited

/-- Loads the settings, creates the output folder and starts logging in it. -/
def prepareOutput (env : Environment) (outputDir : Option String) : Run (Settings × String) := do
  let settings ← Run.within "Failed to load settings." (Run.ofExcept (Settings.load (← Run.files)))
  let dir := outputDir.getD settings.outputDir
  match (← Run.files).createDirectories dir with
  | .ok t => Run.setFiles t
  | .error e => throw ((Failure.of (.file e)).within ("Failed to create output directory: " ++ dir))
  startLogging env settings.logLevel dir
  pure (settings, dir)

/-- The directives of a build: those of a sensitivity file, or of one case of a Monte Carlo
file, or none. -/
def buildDirectives (opts : BuildOptions) : Run (List Directive) := do
  let files ← Run.files
  match opts.sensitivity, opts.monteCarlo with
  | some path, _ => Run.ofExcept (readDirectives files path)
  | none, some path =>
    let rows ← Run.ofExcept (readMonteCarloCases files path)
    Run.ofExcept ((caseDirectives rows opts.case opts.mode).mapError Failure.rule)
  | none, none => pure []

/-- Builds one model. -/
def buildCommand (env : Environment) (inputsDir scenarioDir scenario : String) (opts : BuildOptions) :
    Run Unit := do
  let (settings, outputDir) ← prepareOutput env opts.outputDir
  let base := BuildRequest.plain inputsDir scenarioDir scenario outputDir
  let directives ← buildDirectives opts
  let request := { base with name := opts.name.getD base.name, template := opts.template,
                             overwrite := settings.overwrite, directives }
  let outcome ← Run.within "Failed to build model." (buildModel request)
  if !outcome.warnings.isEmpty then
    Run.note .warn .commandLine (toString outcome.warnings.length ++ " tables could not be written to " ++
      outcome.database)
  Run.note .info .commandLine ("Model written to " ++ outcome.database ++ " (" ++
    toString outcome.rowCount ++ " rows)")

/-- What a batch command is asked for beyond its inputs. -/
structure BatchOptions where
  outputDir : Option String := none
  threads : Option Nat := none
  template : Option String := none
  sensitivity : Option String := none
  monteCarlo : Option String := none
  mode : CaseMode := .perturbations
  deriving Inhabited

/-- Builds the models of several scenarios, perturbed by every directive or every case of a
file if one is given. -/
def batchCommand (env : Environment) (inputsDir scenarioDir : String) (scenarios : List String)
    (opts : BatchOptions) : Run Unit := do
  let (settings, outputDir) ← prepareOutput env opts.outputDir
  let files ← Run.files
  let directives ← match opts.sensitivity with
    | some path => some <$> Run.ofExcept (readDirectives files path)
    | none => pure none
  let cases ← match opts.monteCarlo with
    | some path => some <$> Run.ofExcept (readMonteCarloCases files path)
    | none => pure none
  let jobs ← Run.ofExcept ((batchJobs inputsDir scenarioDir scenarios outputDir opts.template
    settings.overwrite directives cases opts.mode).mapError Failure.rule)
  let threads := opts.threads.getD settings.threads
  let summary ← runBatch jobs outputDir (if threads == 0 then env.cores else threads)
  Run.note .info .commandLine ("Batch complete: " ++ toString summary.success ++ " succeeded, " ++
    toString summary.failure ++ " failed")
  if summary.failure > 0 then Run.fail (.buildsFailed summary.failure summary.summaryPath)

/-- What every kind of case generation is asked for. -/
structure CaseRequest where
  scenarioDir : String
  scenario : String
  variablesDir : String
  multiplier : Float
  output : String
  deriving Inhabited

/-- Checks the multiplier and that the output file's folder exists. -/
def checkCaseRequest (req : CaseRequest) : Run Unit := do
  if !(req.multiplier.isFinite && req.multiplier ≥ 0.0) then Run.fail .negativeMultiplier
  match Path.parent? req.output with
  | some folder =>
    if !folder.isEmpty && !(← Run.files).isDirectory folder then Run.fail (.missingOutputFolder folder)
  | none => pure ()

/-- Writes a case file: the text written before a problem stopped the writing is kept. -/
def writeCaseFile (path text : String) : Run Unit := do
  match (← Run.files).write path (.text text) with
  | .ok t => Run.setFiles t
  | .error e => throw ((Failure.of (.file e)).within ("Could not create " ++ path))

/-- Generates sensitivity cases. -/
def sensitivityCommand (req : CaseRequest) : Run Unit := do
  checkCaseRequest req
  let files ← Run.files
  let scenario ← Run.ofExcept (readScenario files req.scenarioDir req.scenario)
  let selection ← Run.ofExcept (readVariableSelection files req.variablesDir)
  let directives := sensitivityCases scenario selection req.multiplier
  let (text, problem) := writeSensitivityCases directives
  writeCaseFile req.output text
  if let some p := problem then Run.fail p
  let message := "Wrote " ++ toString directives.length ++ " sensitivity cases to " ++ req.output
  Run.note .info .cases message
  Run.printLine message

/-- Generates Monte Carlo cases. With a seed the draws use the generator of that seed; without
one, a generator keyed by the environment's random bytes. -/
def monteCarloCommand (env : Environment) (req : CaseRequest) (count : Nat) (seed : Option Nat) :
    Run Unit := do
  checkCaseRequest req
  if count == 0 then Run.fail .noCases
  let files ← Run.files
  let scenario ← Run.ofExcept (readScenario files req.scenarioDir req.scenario)
  let selection ← Run.ofExcept (readVariableSelection files req.variablesDir)
  let start : Random.Generator := match seed with
    | some n => .ofSeed n.toUInt64
    | none => { key := env.entropy }
  let rows := monteCarloDraws scenario selection req.multiplier count start
  let (text, mismatch) := writeMonteCarloCases rows
  writeCaseFile req.output text
  if let some m := mismatch then throw (Failure.of (.table (.lengths none m.expected m.found)))
  let tail := " Monte Carlo cases for " ++ toString rows.length ++ " variables to " ++ req.output
  Run.note .info .cases ("Wrote " ++ toString (caseCount rows) ++ tail)
  Run.printLine ("Wrote " ++ toString count ++ tail)

/-! ## Examples -/

/-- The bundled files, by their paths below the examples' root. -/
def bundledFiles : List (String × String) :=
  Examples.all.flatMap fun ex => ex.files.map fun (path, text) => (ex.name ++ "/" ++ path, text)

/-- The parts of a path, as the bundle compares paths: `.` parts after the first do not count,
and a path from the root never names a bundled entry. -/
def bundlePath (p : String) : List String :=
  if p.startsWith "/" then "/" :: Path.writtenParts p else Path.writtenParts p

/-- The files of the bundled folder at a path, by their paths within it; `none` when no bundled
folder is there. -/
def bundledFolder (p : String) : Option (List (String × String)) :=
  let key := bundlePath p
  let inside := bundledFiles.filterMap fun (path, text) =>
    let parts := bundlePath path
    if key.length < parts.length && parts.take key.length == key then
      some ("/".intercalate (parts.drop key.length), text)
    else none
  if key.isEmpty || inside.isEmpty then none else some inside

/-- Copies a bundled folder into a new folder. -/
def extractExample (name dest : String) : Run Unit := do
  let some contents := bundledFolder name | Run.fail .exampleNotFound
  if (← Run.files).exists? dest then Run.fail (.destinationExists dest)
  match (← Run.files).createDirectory dest with
  | .ok t => Run.setFiles t
  | .error e => throw (Failure.of (.file e))
  for (path, text) in contents do
    let target := Path.join dest path
    let files ← Run.files
    let files := match Path.parent? target with
      | some folder => (files.createDirectories folder).toOption.getD files
      | none => files
    match files.write target (.text text) with
    | .ok t => Run.setFiles t
    | .error e => throw (Failure.of (.file e))

/-- Lists the examples. -/
def exampleListCommand : Run Unit :=
  Examples.all.forM fun ex => Run.printLine ex.name

/-- Prints an example's description. -/
def exampleInfoCommand (name : String) : Run Unit := do
  let key := bundlePath (Path.join name "README.txt")
  match bundledFiles.find? fun (path, _) => bundlePath path == key with
  | some (_, text) => Run.printLine text
  | none => Run.fail .exampleNotFound

/-- Builds one scenario of an example in a temporary folder, which is removed afterwards. -/
def exampleBuildCommand (env : Environment) (name scenario : String) (outputDir : Option String) :
    Run Unit := do
  match (← Run.files).createDirectories env.tempDir with
  | .ok t => Run.setFiles t
  | .error e => throw ((Failure.of (.file e)).within "Failed to create temporary directory.")
  let modelPath := Path.join env.tempDir name
  let result ← tryCatch
    (do
      extractExample name modelPath
      buildCommand env (Path.join modelPath "inputs") (Path.join modelPath "scenarios") scenario
        { name := some (name ++ "_" ++ scenario), outputDir }
      pure none)
    fun f => pure (some f)
  modify fun s => { s with files := s.files.removeTree env.tempDir }
  if let some f := result then throw f

end EnergyModel.Program
