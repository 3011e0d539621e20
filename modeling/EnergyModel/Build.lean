import EnergyModel.Store
import EnergyModel.Model.Assembly
import EnergyModel.Perturbation

/-!
# Building a model

A build turns one scenario of a folder of input tables into a model database: it loads the
inputs and the scenario, applies the perturbation directives in order, assembles the model and
writes it into `<output folder>/<name>.sqlite`, creating the output folder if needed.

A build that may not overwrite stops before anything else when the database path exists. A model
is named by default after the inputs folder and the scenario, `inputs_A` for the folder `inputs`
and the scenario `A`; a folder path with no last name (such as `.`) gives the scenario alone.
-/

namespace EnergyModel

open Input

/-- Everything one build needs. -/
structure BuildRequest where
  inputsDir : String
  scenarioDir : String
  scenario : String
  name : String
  outputDir : String
  /-- Perturbations applied before assembly, in order. -/
  directives : List Directive := []
  /-- A database whose tables are kept, with only the missing ones created. -/
  template : Option String := none
  /-- Whether an existing database of the same name may be replaced. -/
  overwrite : Bool := true
  deriving Inhabited

/-- The default model name: the inputs folder's name, an underscore and the scenario. -/
def defaultModelName (inputsDir scenario : String) : String :=
  match Path.fileName? inputsDir with
  | some folder => folder ++ "_" ++ scenario
  | none => scenario

/-- The unperturbed build of a scenario, with the default name. -/
def BuildRequest.plain (inputsDir scenarioDir scenario outputDir : String) : BuildRequest :=
  { inputsDir, scenarioDir, scenario, outputDir, name := defaultModelName inputsDir scenario }

/-- The database file a request writes. -/
def BuildRequest.databasePath (r : BuildRequest) : String := EnergyModel.databasePath r.outputDir r.name

/-- What a successful build gives. -/
structure BuildOutcome where
  database : String
  /-- The input tables after perturbation. -/
  inputs : InputTables
  /-- The scenario after perturbation. -/
  scenario : Scenario
  rowCount : Nat
  warnings : List WriteWarning

/-- Records notes in order. -/
def Run.noteAll (notes : Array Note) : Run Unit :=
  notes.forM fun n => modify fun s => s.record n

/-- Applies directives to loaded inputs: their notes are recorded, and the first directive that
fails stops the build. -/
def Run.perturb (inputs : InputTables) (scenario : Scenario) (ds : List Directive) :
    Run (InputTables × Scenario) := do
  let (result, state) := (applyDirectives ds).run.run { inputs, scenario }
  Run.noteAll state.notes
  Run.ofExcept result
  pure (state.inputs, state.scenario)

/-- Runs a complete build. A failed build may leave a partly written database behind. -/
def buildModel (request : BuildRequest) : Run BuildOutcome := do
  let database := request.databasePath
  if !request.overwrite && (← Run.files).exists? database then
    Run.fail (.databaseExists database)
  let files ← Run.files
  let inputs ← Run.within ("Failed to load inputs from " ++ request.inputsDir)
    (Run.ofExcept (loadInputs files request.inputsDir))
  let scenario ← Run.ofExcept (readScenario files request.scenarioDir request.scenario)
  Run.note .info .pipeline
    ("Building model " ++ request.name ++ " for scenario " ++ request.scenario)
  let (inputs, scenario) ←
    if request.directives.isEmpty then pure (inputs, scenario)
    else do
      let changed ← Run.perturb inputs scenario request.directives
      Run.note .info .pipeline
        ("Applied " ++ toString request.directives.length ++ " perturbations")
      pure changed
  let (assembled, notes) := assembleModel inputs scenario
  Run.noteAll notes
  let relations ← Run.within ("Failed to assemble model " ++ request.name) (Run.ofExcept assembled)
  match (← Run.files).createDirectories request.outputDir with
  | .ok t => Run.setFiles t
  | .error e =>
    throw ((Failure.of (.file e)).within ("Failed to create output directory " ++ request.outputDir))
  let warnings ← writeModel database relations request.template
  pure { database, inputs, scenario, rowCount := relations.totalRows, warnings }

end EnergyModel
