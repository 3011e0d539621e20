import EnergyModel.Input.Row

/-!
# Scenarios

A scenario is a column of the scenario tables. The first column of each table, headed
`Scenario`, names an entity or a setting; a scenario's column marks with `Y` the plants, fuels
and connections that take part, and gives the solver settings: seven switches for optional
families of constraints and three numbers (growth rate, growth seed and longest loan).

A setting named twice takes its last value.
-/

namespace EnergyModel

/-- Optional families of constraints, switched on or off per scenario. -/
structure Toggles where
  baseload : Bool := false
  reserveMargin : Bool := false
  ramping : Bool := false
  growthLimit : Bool := false
  rps : Bool := false
  emissionLimit : Bool := false
  minCapacityLimit : Bool := false
  deriving Inhabited, BEq

/-- What a model needs to know of its scenario. -/
structure Scenario where
  name : String
  toggles : Toggles
  /-- Largest yearly growth of new capacity, in percent. -/
  maxGrowthRate : Option Float
  /-- Growth allowed from nothing, in MW. -/
  minGrowthSeed : Option Float
  /-- Longest loan, in years. -/
  maxLoanYears : Option Float
  plants : List String
  fuels : List String
  connections : List String
  deriving Inhabited

namespace Scenario

open Input

/-- The header of the column that names entities and settings. -/
def keyColumn : String := "Scenario"

/-- The column of a scenario in a table: never the first, which must be the key column. -/
def column (table : RawTable) (scenario : String) : Except Problem Nat :=
  if table.header.head? != some keyColumn then .error .keyColumnMisnamed
  else
    match table.header.findIdx? (· == scenario) with
    | some i => if i > 0 then .ok i else .error (.scenarioNotFound scenario)
    | none => .error (.scenarioNotFound scenario)

/-- The entities of a table that a scenario includes, in file order. -/
def readIncluded (files : FileTree Content) (path scenario : String) :
    Except Failure (List String) := do
  let table ← readRawTable files path
  match column table scenario with
  | .error p => throw ((Failure.rule p).within (readingContext path))
  | .ok i =>
    pure ((table.rows.filter fun row => (row[i]?.map isYes).getD false).map fun row =>
      row.headD "")

/-- The solver settings of a scenario: each setting's name and value, in file order. -/
structure Settings where
  values : List (String × String)

/-- Reads the solver settings of a scenario. -/
def Settings.read (files : FileTree Content) (path scenario : String) : Except Failure Settings := do
  let table ← readRawTable files path
  match column table scenario with
  | .error p => throw ((Failure.rule p).within (readingContext path))
  | .ok i => pure ⟨table.rows.map fun row => (row.headD "", row.getD i "")⟩

/-- The value of a setting: the last row of its name. -/
def Settings.get (s : Settings) (name : String) : Except Failure String :=
  match (s.values.filter (·.1 == name)).getLast? with
  | some (_, v) => .ok v
  | none => .error (Failure.rule (.missingSetting name))

/-- A switch setting. -/
def Settings.flag (s : Settings) (name : String) : Except Failure Bool :=
  (s.get name).map isYes

/-- A numeric setting, which may have no value. -/
def Settings.value (s : Settings) (name : String) : Except Failure (Option Float) := do
  let text ← s.get name
  match parseValue text with
  | .ok v => pure v
  | .error p => throw ((Failure.rule p).within ("Bad value for setting " ++ name))

/-- The switches and numbers of a scenario's settings, in the order they are looked up. -/
def Settings.decode (s : Settings) : Except Failure (Toggles × Option Float × Option Float × Option Float) := do
  let toggles : Toggles := {
    baseload := ← s.flag "include_baseload"
    reserveMargin := ← s.flag "include_reserve_margin"
    ramping := ← s.flag "include_ramping"
    growthLimit := ← s.flag "include_growth_limit"
    rps := ← s.flag "include_RPS"
    emissionLimit := ← s.flag "include_emission_limit"
    minCapacityLimit := ← s.flag "include_min_capacity_limit" }
  let growth ← s.value "MaxGrowthRate"
  let seed ← s.value "MinGrowthSeed"
  let loan ← s.value "MaxLoan_yrs"
  pure (toggles, growth, seed, loan)

end Scenario

/-- Reads a scenario from the scenario directory: the included plants, fuels and connections,
then the solver settings. -/
def readScenario (files : FileTree Content) (dir scenario : String) : Except Failure Scenario := do
  let plants ← Scenario.readIncluded files (Path.join dir "PowerPlants.csv") scenario
  let fuels ← Scenario.readIncluded files (Path.join dir "Fuels.csv") scenario
  let connections ← Scenario.readIncluded files (Path.join dir "Connections.csv") scenario
  let settingsPath := Path.join dir "SolverSettings.csv"
  let settings ← Scenario.Settings.read files settingsPath scenario
  let (toggles, growth, seed, loan) ←
    match settings.decode with
    | .ok v => pure v
    | .error f => throw (f.within (Input.readingContext settingsPath))
  pure { name := scenario, toggles, maxGrowthRate := growth, minGrowthSeed := seed
         maxLoanYears := loan, plants, fuels, connections }

end EnergyModel
