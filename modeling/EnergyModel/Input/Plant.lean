import EnergyModel.Input.Row
import EnergyModel.Input.Catalog

/-!
# Power plant tables

A power plant is described by four tables, one row per plant in each: its identity (fuel,
output and the flags that classify it), its performance, its costs and its constraints.
Numbers are in input units: capacities in MW, efficiencies and capacity factors in percent.
A fifth table lists capacity that already exists, by year of installation; it may only name
known plants.
-/

namespace EnergyModel.Input

/-- What a plant is: what it burns and makes, and how it is classified. -/
structure Plant where
  name : String
  fuel : String
  output : String
  baseload : Bool
  reserve : Bool
  newBuilds : Bool
  renewable : Bool
  storage : Bool
  capacityCredit : Option Float
  storageDuration : Option Float
  deriving Inhabited

/-- How a plant performs. -/
structure Performance where
  name : String
  efficiency : Option Float
  heatRate : Option Float
  expectedLifetime : Option Float
  capacityFactor : Option Float
  deriving Inhabited

/-- What a plant costs, with yearly escalators in percent. -/
structure Costs where
  name : String
  costInvest : Option Float
  costFixed : Option Float
  costVariable : Option Float
  costInvestIncr : Option Float
  costFixedIncr : Option Float
  costVariableIncr : Option Float
  discountRate : Option Float
  discountRateSource : Option String
  deriving Inhabited

/-- Limits on a plant's capacity, activity, ramping and build years. -/
structure Constraints where
  name : String
  maxCapacity : Option Float
  maxActivity : Option Float
  rampRate : Option Float
  firstBuild : Option Float
  lastBuild : Option Float
  deriving Inhabited

/-- Capacity of a plant, fuel or connection that exists from a year on. -/
structure ExistingCapacity where
  name : String
  year : Nat
  capacity : Float
  deriving Inhabited

/-- The power plant tables. -/
structure PlantTables where
  plants : Catalog Plant
  performance : Catalog Performance
  costs : Catalog Costs
  constraints : Catalog Constraints
  existing : List ExistingCapacity
  deriving Inhabited

/-! ## Layouts -/

/-- Columns of `PowerPlants.csv`; the flags are required. -/
def Plant.fields : List Field :=
  [.required "powerplant" .text, .required "fuel" .text, .required "output" .text,
   .required "baseload" .flag, .required "reserve" .flag, .required "newBuilds" .flag,
   .required "renewable" .flag, .required "storage" .flag,
   .optionalNumber "CapacityCredit", .optionalNumber "StorageDuration"]

/-- The plant of a row. -/
def Plant.ofRow (r : Row) : Plant :=
  { name := r.text "powerplant", fuel := r.text "fuel", output := r.text "output"
    baseload := r.flag "baseload", reserve := r.flag "reserve", newBuilds := r.flag "newBuilds"
    renewable := r.flag "renewable", storage := r.flag "storage"
    capacityCredit := r.optionalNumber "CapacityCredit"
    storageDuration := r.optionalNumber "StorageDuration" }

/-- The numeric columns of `PowerPlants.csv`. -/
def Plant.columns : List (NumericColumn Plant) :=
  [⟨"CapacityCredit", (·.capacityCredit), fun p v => { p with capacityCredit := v }⟩,
   ⟨"StorageDuration", (·.storageDuration), fun p v => { p with storageDuration := v }⟩]

/-- Columns of `PowerPlantsPerformance.csv`. -/
def Performance.fields : List Field :=
  [.required "powerplant" .text, .optionalNumber "Efficiency", .optionalNumber "HeatRate",
   .optionalNumber "ExpectedLifetime", .optionalNumber "CapacityFactor"]

/-- The performance of a row. -/
def Performance.ofRow (r : Row) : Performance :=
  ⟨r.text "powerplant", r.optionalNumber "Efficiency", r.optionalNumber "HeatRate",
   r.optionalNumber "ExpectedLifetime", r.optionalNumber "CapacityFactor"⟩

/-- The numeric columns of `PowerPlantsPerformance.csv`. -/
def Performance.columns : List (NumericColumn Performance) :=
  [⟨"Efficiency", (·.efficiency), fun p v => { p with efficiency := v }⟩,
   ⟨"HeatRate", (·.heatRate), fun p v => { p with heatRate := v }⟩,
   ⟨"ExpectedLifetime", (·.expectedLifetime), fun p v => { p with expectedLifetime := v }⟩,
   ⟨"CapacityFactor", (·.capacityFactor), fun p v => { p with capacityFactor := v }⟩]

/-- Columns of `PowerPlantsCosts.csv`. -/
def Costs.fields : List Field :=
  [.required "powerplant" .text, .optionalNumber "CostInvest", .optionalNumber "CostFixed",
   .optionalNumber "CostVariable", .optionalNumber "CostInvestIncr",
   .optionalNumber "CostFixedIncr", .optionalNumber "CostVariableIncr",
   .optionalNumber "DiscountRate", .optionalText "Ref_DiscountRate"]

/-- The costs of a row. -/
def Costs.ofRow (r : Row) : Costs :=
  ⟨r.text "powerplant", r.optionalNumber "CostInvest", r.optionalNumber "CostFixed",
   r.optionalNumber "CostVariable", r.optionalNumber "CostInvestIncr",
   r.optionalNumber "CostFixedIncr", r.optionalNumber "CostVariableIncr",
   r.optionalNumber "DiscountRate", r.optionalText "Ref_DiscountRate"⟩

/-- The numeric columns of `PowerPlantsCosts.csv`. -/
def Costs.columns : List (NumericColumn Costs) :=
  [⟨"CostInvest", (·.costInvest), fun c v => { c with costInvest := v }⟩,
   ⟨"CostFixed", (·.costFixed), fun c v => { c with costFixed := v }⟩,
   ⟨"CostVariable", (·.costVariable), fun c v => { c with costVariable := v }⟩,
   ⟨"CostInvestIncr", (·.costInvestIncr), fun c v => { c with costInvestIncr := v }⟩,
   ⟨"CostFixedIncr", (·.costFixedIncr), fun c v => { c with costFixedIncr := v }⟩,
   ⟨"CostVariableIncr", (·.costVariableIncr), fun c v => { c with costVariableIncr := v }⟩,
   ⟨"DiscountRate", (·.discountRate), fun c v => { c with discountRate := v }⟩]

/-- Columns of `PowerPlantsConstraints.csv`. -/
def Constraints.fields : List Field :=
  [.required "powerplant" .text, .optionalNumber "MaxCapacity", .optionalNumber "MaxActivity",
   .optionalNumber "RampRate", .optionalNumber "FirstBuild", .optionalNumber "LastBuild"]

/-- The constraints of a row. -/
def Constraints.ofRow (r : Row) : Constraints :=
  ⟨r.text "powerplant", r.optionalNumber "MaxCapacity", r.optionalNumber "MaxActivity",
   r.optionalNumber "RampRate", r.optionalNumber "FirstBuild", r.optionalNumber "LastBuild"⟩

/-- The numeric columns of `PowerPlantsConstraints.csv`. -/
def Constraints.columns : List (NumericColumn Constraints) :=
  [⟨"MaxCapacity", (·.maxCapacity), fun c v => { c with maxCapacity := v }⟩,
   ⟨"MaxActivity", (·.maxActivity), fun c v => { c with maxActivity := v }⟩,
   ⟨"RampRate", (·.rampRate), fun c v => { c with rampRate := v }⟩,
   ⟨"FirstBuild", (·.firstBuild), fun c v => { c with firstBuild := v }⟩,
   ⟨"LastBuild", (·.lastBuild), fun c v => { c with lastBuild := v }⟩]

/-- Columns of the existing-capacity tables; the name column may be headed by the kind of
entity. -/
def ExistingCapacity.fields : List Field :=
  [{ name := "name", kind := .text, aliases := ["powerplant", "fuel", "connection"] },
   .required "YearInstalled" .count, .required "Capacity" .number]

/-- The existing capacity of a row. -/
def ExistingCapacity.ofRow (r : Row) : ExistingCapacity :=
  ⟨r.text "name", r.count "YearInstalled", r.number "Capacity"⟩

/-! ## Reading -/

/-- Reads a table of named rows that must not be empty, and indexes it by name under the table's
name. -/
def readCatalog {α : Type} (files : FileTree Content) (dir table : String) (fields : List Field)
    (ofRow : Row → α) (name : α → String) : Except Failure (Catalog α) := do
  let path := Path.join dir (table ++ ".csv")
  let rows ← readSomeRows files path fields
  match Catalog.ofRows (rows.map ofRow) name table with
  | .ok c => pure c
  | .error p => throw ((Failure.rule p).within (readingContext path))

/-- Reads an existing-capacity table, which may be empty, and checks that it names known
entities only. -/
def readExisting {α : Type} (files : FileTree Content) (path : String) (known : Catalog α) :
    Except Failure (List ExistingCapacity) := do
  let rows := (← readRows files path ExistingCapacity.fields).map ExistingCapacity.ofRow
  match rows.find? (fun row => !known.contains row.name) with
  | some row => throw (Failure.rule (.unknownExisting path row.name))
  | none => pure rows

/-- Reads the power plant tables: identities, existing capacity, performance, costs and
constraints, in that order. -/
def readPlantTables (files : FileTree Content) (dir : String) : Except Failure PlantTables := do
  let plants ← readCatalog files dir "PowerPlants" Plant.fields Plant.ofRow (·.name)
  let existing ← readExisting files (Path.join dir "PowerPlantsExisting.csv") plants
  let performance ← readCatalog files dir "PowerPlantsPerformance" Performance.fields
    Performance.ofRow (·.name)
  let costs ← readCatalog files dir "PowerPlantsCosts" Costs.fields Costs.ofRow (·.name)
  let constraints ← readCatalog files dir "PowerPlantsConstraints" Constraints.fields
    Constraints.ofRow (·.name)
  pure { plants, performance, costs, constraints, existing }

end EnergyModel.Input
