import EnergyModel.CommandLine.Grammar

/-!
# The program's command line

`temoatools` builds model databases (`build`, one scenario; `batch`, several), generates
sensitivity and Monte Carlo cases (`cases`), and works with the bundled examples (`example`).
A build or a batch may be perturbed by a file of sensitivity directives or of Monte Carlo cases,
but not by both.
-/

namespace EnergyModel.Program

open CommandLine

/-- The program's name. -/
def programName : String := "temoatools"

/-- The program's version. -/
def programVersion : String := "0.1.0"

/-- The ways Monte Carlo draws change values. -/
def modeChoices : List Choice :=
  [⟨"perturbations", "Draws are percentage changes to the original values"⟩,
   ⟨"values", "Draws replace the original values"⟩]

/-- A required positional path. -/
def pathArgument (id valueName help : String) : Param :=
  { id, valueName, help, kind := .path, required := true }

/-- The inputs folder of a build. -/
def inputsDirArgument : Param :=
  pathArgument "inputs_dir" "INPUTS_DIR" "Path to the folder of input tables"

/-- The scenarios folder. -/
def scenarioDirArgument : Param :=
  pathArgument "scenario_dir" "SCENARIO_DIR" "Path to the folder of scenario definitions"

/-- The output folder option. -/
def outputDirOption : Param :=
  { id := "output_dir", valueName := "OUTPUT_DIR", help := "Directory for output files"
    short := some 'o', long := some "output-dir", kind := .path }

/-- The template database option. -/
def templateOption : Param :=
  { id := "template", valueName := "TEMPLATE", help := "Database to copy the schema from"
    long := some "template", kind := .path }

/-- The options that perturb a build. -/
def perturbationOptions : List Param :=
  [{ id := "sensitivity", valueName := "SENSITIVITY", help := "CSV file of sensitivity directives"
     long := some "sensitivity", kind := .path, conflicts := ["monte_carlo"] },
   { id := "monte_carlo", valueName := "MONTE_CARLO", help := "CSV file of Monte Carlo cases"
     long := some "monte-carlo", kind := .path },
   { id := "mc_mode", valueName := "MC_MODE", help := "How Monte Carlo draws are applied"
     long := some "mc-mode", kind := .choice modeChoices, default := some "perturbations" }]

/-- The `build` command. -/
def buildSpec : Command :=
  { name := "build", about := "Build a model database for one scenario"
    params := [inputsDirArgument, scenarioDirArgument,
      { id := "scenario", valueName := "SCENARIO", help := "Name of the scenario to build"
        required := true },
      { id := "name", valueName := "NAME"
        help := "Name of the model (defaults to the inputs folder name followed by the scenario)"
        short := some 'n', long := some "name" },
      outputDirOption, templateOption,
      { id := "case", valueName := "CASE", help := "The Monte Carlo case to build"
        long := some "case", kind := .count, default := some "0" }] ++ perturbationOptions }

/-- The `batch` command. -/
def batchSpec : Command :=
  { name := "batch", about := "Build model databases for several scenarios in parallel"
    params := [inputsDirArgument, scenarioDirArgument,
      { id := "scenarios", valueName := "SCENARIOS", help := "Names of the scenarios to build"
        required := true, many := true },
      outputDirOption,
      { id := "threads", valueName := "THREADS"
        help := "Number of worker threads (zero uses every core)"
        short := some 't', long := some "threads", kind := .count },
      templateOption] ++ perturbationOptions }

/-- The arguments every kind of case generation takes. -/
def caseArguments : List Param :=
  [scenarioDirArgument,
   { id := "scenario", valueName := "SCENARIO", help := "Name of the scenario whose entities are varied"
     required := true },
   pathArgument "variables_dir" "VARIABLES_DIR" "Path to the folder listing which variables to vary",
   { id := "multiplier", valueName := "MULTIPLIER", help := "Size of the variation, in percent"
     kind := .number, required := true },
   pathArgument "output" "OUTPUT" "Path of the CSV file to write"]

/-- The `cases` command. -/
def casesSpec : Command :=
  { name := "cases", about := "Generate sensitivity or Monte Carlo cases", subcommandRequired := true
    subcommands := [
      { name := "sensitivity", about := "Vary one value at a time down and up by the multiplier"
        params := caseArguments },
      { name := "monte-carlo", about := "Vary every value at once with random draws"
        params := caseArguments ++
          [{ id := "cases", valueName := "CASES", help := "Number of cases to draw"
             long := some "cases", kind := .count, default := some "100" },
           { id := "seed", valueName := "SEED", help := "Seed for reproducible draws"
             long := some "seed", kind := .count }] }] }

/-- The `example` command. -/
def exampleSpec : Command :=
  { name := "example", about := "Manage example models", subcommandRequired := true
    subcommands := [
      { name := "list", about := "List available examples" },
      { name := "info", about := "Provide information about the specified example"
        params := [{ id := "name", valueName := "NAME", help := "The name of the example"
                     required := true }] },
      { name := "extract", about := "Extract an example model configuration to a new directory"
        params := [{ id := "name", valueName := "NAME", help := "The name of the example to extract"
                     required := true },
                   { id := "new_path", valueName := "NEW_PATH"
                     help := "The destination folder for the example", kind := .path }] },
      { name := "build", about := "Build a database for one scenario of an example"
        params := [{ id := "name", valueName := "NAME", help := "The name of the example to build"
                     required := true },
                   { id := "scenario", valueName := "SCENARIO", help := "The scenario to build"
                     short := some 's', long := some "scenario", default := some "A" },
                   outputDirOption] }] }

/-- The program's command line. -/
def commandLine : Command :=
  { name := programName
    about := "Build Temoa energy system model databases from tabular scenario inputs"
    version := some programVersion
    params := [{ id := "markdown_help", help := "Flag to provide the CLI docs as markdown"
                 long := some "markdown-help", action := .flag, hidden := true }]
    subcommands := [buildSpec, batchSpec, casesSpec, exampleSpec] }

end EnergyModel.Program
