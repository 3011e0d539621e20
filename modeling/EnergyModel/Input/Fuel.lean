import EnergyModel.Input.Plant

/-!
# Fuel tables

A fuel is imported into the model by a supply technology of the same name. Its row gives the
lifetime and costs of import capacity, the emissions per unit of output, a cap on activity and
the years in which the supply may be built or must stop. Existing import capacity is listed by
year, for known fuels only.
-/

namespace EnergyModel.Input

/-- A fuel and the supply technology that imports it. -/
structure Fuel where
  name : String
  lifetime : Option Float
  emissionActivity : Option Float
  costInvest : Option Float
  costVariable : Option Float
  costInvestIncr : Option Float
  costVariableIncr : Option Float
  maxActivity : Option Float
  retirement : Option Float
  firstBuild : Option Float
  lastBuild : Option Float
  deriving Inhabited

/-- Columns of `Fuels.csv`. -/
def Fuel.fields : List Field :=
  [.required "fuel" .text, .optionalNumber "Lifetime", .optionalNumber "EmissionActivity",
   .optionalNumber "CostInvest", .optionalNumber "CostVariable", .optionalNumber "CostInvestIncr",
   .optionalNumber "CostVariableIncr", .optionalNumber "MaxActivity", .optionalNumber "Retirement",
   .optionalNumber "FirstBuild", .optionalNumber "LastBuild"]

/-- The fuel of a row. -/
def Fuel.ofRow (r : Row) : Fuel :=
  ⟨r.text "fuel", r.optionalNumber "Lifetime", r.optionalNumber "EmissionActivity",
   r.optionalNumber "CostInvest", r.optionalNumber "CostVariable",
   r.optionalNumber "CostInvestIncr", r.optionalNumber "CostVariableIncr",
   r.optionalNumber "MaxActivity", r.optionalNumber "Retirement", r.optionalNumber "FirstBuild",
   r.optionalNumber "LastBuild"⟩

/-- The numeric columns of `Fuels.csv`. -/
def Fuel.columns : List (NumericColumn Fuel) :=
  [⟨"Lifetime", (·.lifetime), fun f v => { f with lifetime := v }⟩,
   ⟨"EmissionActivity", (·.emissionActivity), fun f v => { f with emissionActivity := v }⟩,
   ⟨"CostInvest", (·.costInvest), fun f v => { f with costInvest := v }⟩,
   ⟨"CostVariable", (·.costVariable), fun f v => { f with costVariable := v }⟩,
   ⟨"CostInvestIncr", (·.costInvestIncr), fun f v => { f with costInvestIncr := v }⟩,
   ⟨"CostVariableIncr", (·.costVariableIncr), fun f v => { f with costVariableIncr := v }⟩,
   ⟨"MaxActivity", (·.maxActivity), fun f v => { f with maxActivity := v }⟩,
   ⟨"Retirement", (·.retirement), fun f v => { f with retirement := v }⟩,
   ⟨"FirstBuild", (·.firstBuild), fun f v => { f with firstBuild := v }⟩,
   ⟨"LastBuild", (·.lastBuild), fun f v => { f with lastBuild := v }⟩]

/-- Reads the fuels, which must not be empty, and their existing capacity. -/
def readFuels (files : FileTree Content) (dir : String) :
    Except Failure (Catalog Fuel × List ExistingCapacity) := do
  let fuels ← readCatalog files dir "Fuels" Fuel.fields Fuel.ofRow (·.name)
  let existing ← readExisting files (Path.join dir "FuelsExisting.csv") fuels
  pure (fuels, existing)

end EnergyModel.Input
