import EnergyModel.Program.Commands
import EnergyModel.Program.Grammar
import EnergyModel.CommandLine.Parse
import EnergyModel.CommandLine.Markdown

/-!
# Running the program

A run reads its command line first. Help and version texts go to the standard output and end
the run with status 0; a command line that is refused is explained on the error stream with
status 2. A command line that is read runs its command: status 0 when it succeeds, 1 when it
fails, after the failure was reported.

Without a command the program prints its long help; with the hidden `--markdown-help` flag it
prints its whole command tree as a Markdown document instead, whatever command follows.
-/

namespace EnergyModel.Program

open CommandLine

/-- The exit status of a run that succeeded. -/
def exitSuccess : Nat := 0

/-- The exit status of a run whose command failed. -/
def exitFailure : Nat := 1

/-- The exit status of a run whose command line was refused. -/
def exitUsage : Nat := 2

/-- The number of levels of the command tree: the program, its commands and their
subcommands. -/
def commandDepth : Nat := 3

/-- The Monte Carlo mode an invocation chose. -/
def chosenMode (inv : Invocation) : CaseMode :=
  if inv.text? "mc_mode" == some "values" then .values else .perturbations

/-- The build options of an invocation. -/
def buildOptionsOf (inv : Invocation) : BuildOptions :=
  { name := inv.text? "name", outputDir := inv.text? "output_dir", template := inv.text? "template"
    case := (inv.count? "case").getD 0, sensitivity := inv.text? "sensitivity"
    monteCarlo := inv.text? "monte_carlo", mode := chosenMode inv }

/-- The batch options of an invocation. -/
def batchOptionsOf (inv : Invocation) : BatchOptions :=
  { outputDir := inv.text? "output_dir", threads := inv.count? "threads"
    template := inv.text? "template", sensitivity := inv.text? "sensitivity"
    monteCarlo := inv.text? "monte_carlo", mode := chosenMode inv }

/-- The case request of an invocation. -/
def caseRequestOf (inv : Invocation) : CaseRequest :=
  { scenarioDir := (inv.text? "scenario_dir").getD "", scenario := (inv.text? "scenario").getD ""
    variablesDir := (inv.text? "variables_dir").getD "", multiplier := (inv.number? "multiplier").getD 0.0
    output := (inv.text? "output").getD "" }

/-- Runs the command an invocation chose. -/
def runInvocation (env : Environment) (inv : Invocation) : Run Unit :=
  let text (id : String) : String := (inv.text? id).getD ""
  if inv.flag "markdown_help" then Run.printLine (markdownHelp commandLine commandDepth)
  else
    match inv.path with
    | ["build"] =>
      buildCommand env (text "inputs_dir") (text "scenario_dir") (text "scenario") (buildOptionsOf inv)
    | ["batch"] =>
      batchCommand env (text "inputs_dir") (text "scenario_dir") (inv.texts "scenarios") (batchOptionsOf inv)
    | ["cases", "sensitivity"] => sensitivityCommand (caseRequestOf inv)
    | ["cases", "monte-carlo"] =>
      monteCarloCommand env (caseRequestOf inv) ((inv.count? "cases").getD 100) (inv.count? "seed")
    | ["example", "list"] => exampleListCommand
    | ["example", "info"] => exampleInfoCommand (text "name")
    | ["example", "extract"] => extractExample (text "name") ((inv.text? "new_path").getD (text "name"))
    | ["example", "build"] =>
      exampleBuildCommand env (text "name") ((inv.text? "scenario").getD "A") (inv.text? "output_dir")
    | _ => Run.printLine (helpText commandLine programName true)

/-- Runs the program on its arguments, giving its exit status. -/
def runProgram (env : Environment) (args : List String) : Run Nat :=
  match readCommandLine commandLine args with
  | .inform text => do
    Run.print text
    pure exitSuccess
  | .refuse text => do
    Run.printError text
    pure exitUsage
  | .run inv =>
    tryCatch (do runInvocation env inv; pure exitSuccess) fun f => do
      reportFailure f
      pure exitFailure

end EnergyModel.Program
