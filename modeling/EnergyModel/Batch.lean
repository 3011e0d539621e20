import EnergyModel.Build
import EnergyModel.Cases

/-!
# Batches of builds

A batch runs many builds into one output folder and keeps going past failed ones. The jobs come
from scenarios: one plain build per scenario, or, with sensitivity directives, one build per
directive named `<base>_<i>`, or, with Monte Carlo cases, one build per case named
`<base>_MC_<case>`.

No two jobs may write the same database, however its path is spelt. Each job is recorded with
its row count and warnings, or with its failure, which is also logged as an error with the
failure's report. The batch ends with a summary table, `batch_summary.csv`, one line per job.

The jobs run one after the other, in order, so their log lines come in job order.
-/

namespace EnergyModel

/-- The name of the summary table of a batch. -/
def summaryFileName : String := "batch_summary.csv"

/-- How one job of a batch went. -/
structure JobRecord where
  name : String
  scenario : String
  database : String
  rowCount : Option Nat
  warnings : List WriteWarning
  /-- The one-line form of the failure, for a failed job. -/
  error : Option String

/-- Whether a job succeeded. -/
def JobRecord.succeeded (j : JobRecord) : Bool := j.error.isNone

/-- What a batch gives. -/
structure BatchSummary where
  success : Nat
  failure : Nat
  summaryPath : String
  jobs : List JobRecord

/-- One plain build per scenario. -/
def scenarioJobs (inputsDir scenarioDir : String) (scenarios : List String) (outputDir : String) :
    List BuildRequest :=
  scenarios.map fun s => BuildRequest.plain inputsDir scenarioDir s outputDir

/-- One build per directive, each with that directive alone. -/
def sensitivityJobs (base : BuildRequest) (ds : List Directive) : List BuildRequest :=
  ds.zipIdx.map fun (d, i) => { base with name := base.name ++ "_" ++ toString i, directives := [d] }

/-- One build per Monte Carlo case, each with the case's directives. -/
def monteCarloJobs (base : BuildRequest) (rows : List MonteCarloRow) (mode : CaseMode) :
    Except Problem (List BuildRequest) :=
  (List.range (caseCount rows)).mapM fun case => do
    let ds ← caseDirectives rows case mode
    pure { base with name := base.name ++ "_MC_" ++ toString case, directives := ds }

/-- The jobs of a batch, scenario by scenario: the scenario's plain build, with the batch's
template and overwrite setting, gives one job per directive when directives are given, else one
per Monte Carlo case when cases are given, else itself. -/
def batchJobs (inputsDir scenarioDir : String) (scenarios : List String) (outputDir : String)
    (template : Option String) (overwrite : Bool) (directives : Option (List Directive))
    (cases : Option (List MonteCarloRow)) (mode : CaseMode) : Except Problem (List BuildRequest) :=
  let bases := (scenarioJobs inputsDir scenarioDir scenarios outputDir).map fun b =>
    { b with template, overwrite }
  bases.flatMapM fun base =>
    match directives, cases with
    | some ds, _ => pure (sensitivityJobs base ds)
    | none, some rows => monteCarloJobs base rows mode
    | none, none => pure [base]

/-- The first job whose database an earlier job already writes: two database paths are one
when they are the same path, part by part. -/
def repeatedJob? (jobs : List BuildRequest) : Option BuildRequest :=
  let rec go (seen : List (Bool × List String)) : List BuildRequest → Option BuildRequest
    | [] => none
    | j :: rest =>
      let key := Path.components j.databasePath
      if seen.contains key then some j else go (key :: seen) rest
  go [] jobs

/-- Runs one job, turning its failure into a record and an error note. -/
def runJob (job : BuildRequest) : Run JobRecord :=
  let record (rowCount : Option Nat) (warnings : List WriteWarning) (error : Option String) :
      JobRecord :=
    { name := job.name, scenario := job.scenario, database := job.databasePath
      rowCount, warnings, error }
  tryCatch
    (do
      let outcome ← buildModel job
      pure (record (some outcome.rowCount) outcome.warnings none))
    fun f => do
      Run.note .error .batch ("Build of model " ++ job.name ++ " failed: " ++ f.report)
      pure (record none [] (some f.summary))

/-- The summary line of a job. -/
def JobRecord.summaryFields (j : JobRecord) : List String :=
  [j.name, j.scenario, if j.succeeded then "ok" else "error",
    (j.rowCount.map toString).getD "", toString j.warnings.length, j.error.getD "", j.database]

/-- The text of a summary table: a header with the first line, then a line per job. -/
def summaryText (jobs : List JobRecord) : String :=
  match jobs with
  | [] => ""
  | _ =>
    Csv.writeRecord ["name", "scenario", "status", "rows", "warnings", "error", "database"] ++
      String.join (jobs.map fun j => Csv.writeRecord j.summaryFields)

/-- Runs every job in order into the output folder, on the given number of workers, and writes
the summary table. -/
def runBatch (jobs : List BuildRequest) (outputDir : String) (workers : Nat) : Run BatchSummary := do
  if let some j := repeatedJob? jobs then Run.fail (.duplicateModel j.name)
  match (← Run.files).createDirectories outputDir with
  | .ok t => Run.setFiles t
  | .error e =>
    throw ((Failure.of (.file e)).within ("Failed to create batch output directory " ++ outputDir))
  Run.note .info .batch
    ("Running " ++ toString jobs.length ++ " builds on " ++ toString workers ++ " threads")
  let records ← jobs.mapM runJob
  let success := (records.filter (·.succeeded)).length
  let failure := records.length - success
  if failure > 0 then
    Run.note .warn .batch (toString failure ++ " of " ++ toString records.length ++ " builds failed")
  let summaryPath := Path.join outputDir summaryFileName
  match (← Run.files).write summaryPath (.text (summaryText records)) with
  | .ok t => Run.setFiles t
  | .error e => throw ((Failure.of (.file e)).within ("Could not create " ++ summaryPath))
  Run.note .info .batch ("Batch summary written to " ++ summaryPath)
  pure { success, failure, summaryPath, jobs := records }

end EnergyModel
