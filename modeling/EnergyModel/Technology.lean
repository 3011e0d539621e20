import EnergyModel.Input.Tables
import EnergyModel.Schedule
import EnergyModel.Quantity

/-!
# Technologies

A technology is what the model builds: a power plant, the import of a fuel, or a connection.
It is made afresh from the input tables for every model, in model units: capacities in GW
rather than MW, efficiencies and capacity factors as fractions rather than percentages.

A plant's efficiency comes from its efficiency percentage, or failing that from a positive
heat rate: a plant that turns 3412 BTU into one kWh is fully efficient. A fuel is imported by
the technology `IMP<fuel>` from the dummy commodity `ethos`, with efficiency 1. A connection's
efficiency is what its loss leaves.
-/

namespace EnergyModel

open Input

/-- The heat rate, in BTU/kWh, of a plant that is fully efficient. -/
def heatRateAtFullEfficiency : Float := 3412.0

/-- The dummy commodity that fuel imports consume. -/
def dummyCommodity : String := "ethos"

/-- MW in a GW. -/
def megawattsPerGigawatt : Float := 1000.0

/-- The part of the energy system a technology belongs to. -/
inductive Sector where
  | electric
  | supply
  | transport
  deriving BEq, DecidableEq, Repr, Inhabited

/-- The name of a sector in the model. -/
def Sector.name : Sector → String
  | .electric => "electric"
  | .supply => "supply"
  | .transport => "transport"

/-- Capacity that exists when the model starts: its year of installation and size in GW. -/
structure ExistingUnit where
  year : Nat
  capacity : Float
  deriving Inhabited

/-- A technology, in model units. -/
structure Technology where
  name : String
  input : String
  output : String
  sector : Sector
  baseload : Bool := false
  reserve : Bool := false
  storage : Bool := false
  newBuilds : Bool := false
  renewable : Bool := false
  capacityToActivity : Bool := false
  capacityCredit : Option Float := none
  storageDuration : Option Float := none
  efficiency : Option Float := none
  lifetime : Option Float := none
  emissionActivity : Option Float := none
  capacityFactor : Option Float := none
  costInvest : Option Float := none
  costFixed : Option Float := none
  costVariable : Option Float := none
  costInvestIncr : Option Float := none
  costFixedIncr : Option Float := none
  costVariableIncr : Option Float := none
  discountRate : Option Float := none
  discountRateSource : Option String := none
  maxCapacity : Option Float := none
  maxActivity : Option Float := none
  rampRate : Option Float := none
  retirement : Option Float := none
  firstBuild : Option Float := none
  lastBuild : Option Float := none
  existing : List ExistingUnit := []
  deriving Inhabited

/-- The existing capacity of an entity, in GW. -/
def existingUnits (rows : List ExistingCapacity) (name : String) : List ExistingUnit :=
  (rows.filter (·.name == name)).map fun row => ⟨row.year, row.capacity / megawattsPerGigawatt⟩

/-- A plant's efficiency as a fraction: its percentage if present, else what a positive heat
rate gives. -/
def plantEfficiency (efficiency heatRate : Option Float) : Option Float :=
  match present efficiency with
  | some e => some (e / 100.0)
  | none =>
    match present heatRate with
    | some h => if h > 0.0 then some (heatRateAtFullEfficiency / h) else none
    | none => none

namespace Technology

/-- The technology of a power plant, which must have a row in each of the four plant tables. -/
def ofPlant (name : String) (tables : PlantTables) : Except Problem Technology := do
  let plant ← tables.plants.find name "PowerPlants"
  let performance ← tables.performance.find name "PowerPlantsPerformance"
  let costs ← tables.costs.find name "PowerPlantsCosts"
  let constraints ← tables.constraints.find name "PowerPlantsConstraints"
  pure {
    name, input := plant.fuel, output := plant.output, sector := .electric
    baseload := plant.baseload, reserve := plant.reserve, storage := plant.storage
    newBuilds := plant.newBuilds, renewable := plant.renewable, capacityToActivity := true
    capacityCredit := plant.capacityCredit, storageDuration := plant.storageDuration
    efficiency := plantEfficiency performance.efficiency performance.heatRate
    lifetime := performance.expectedLifetime
    capacityFactor := performance.capacityFactor.map (· / 100.0)
    costInvest := costs.costInvest, costFixed := costs.costFixed
    costVariable := costs.costVariable, costInvestIncr := costs.costInvestIncr
    costFixedIncr := costs.costFixedIncr, costVariableIncr := costs.costVariableIncr
    discountRate := costs.discountRate, discountRateSource := costs.discountRateSource
    maxCapacity := constraints.maxCapacity.map (· / megawattsPerGigawatt)
    maxActivity := constraints.maxActivity, rampRate := constraints.rampRate
    firstBuild := constraints.firstBuild, lastBuild := constraints.lastBuild
    existing := existingUnits tables.existing name }

/-- The import technology of a fuel. -/
def ofFuel (name : String) (fuels : Catalog Fuel) (existing : List ExistingCapacity) :
    Except Problem Technology := do
  let fuel ← fuels.find name "Fuels"
  pure {
    name := "IMP" ++ name, input := dummyCommodity, output := name, sector := .supply
    newBuilds := true, capacityToActivity := true, efficiency := some 1.0
    lifetime := fuel.lifetime, emissionActivity := fuel.emissionActivity
    costInvest := fuel.costInvest, costVariable := fuel.costVariable
    costInvestIncr := fuel.costInvestIncr, costVariableIncr := fuel.costVariableIncr
    maxActivity := fuel.maxActivity, retirement := fuel.retirement
    firstBuild := fuel.firstBuild, lastBuild := fuel.lastBuild
    existing := existingUnits existing name }

/-- The technology of a connection. -/
def ofConnection (name : String) (connections : Catalog Connection)
    (existing : List ExistingCapacity) : Except Problem Technology := do
  let c ← connections.find name "Connections"
  pure {
    name, input := c.input, output := c.output, sector := .transport
    newBuilds := true, capacityToActivity := true
    efficiency := c.loss.map fun loss => 1.0 - loss / 100.0
    lifetime := c.lifetime, emissionActivity := c.emissionActivity
    costInvest := c.costInvest, costVariable := c.costVariable
    costInvestIncr := c.costInvestIncr, costVariableIncr := c.costVariableIncr
    firstBuild := c.firstBuild, lastBuild := c.lastBuild
    existing := existingUnits existing name }

/-- What decides when the technology can be built; NaN values count as absent. -/
def buildPolicy (t : Technology) : BuildPolicy :=
  { newBuilds := t.newBuilds, lifetime := present t.lifetime
    firstBuild := present t.firstBuild, lastBuild := present t.lastBuild }

/-- The installation years of the existing capacity. -/
def existingYears (t : Technology) : List Nat := t.existing.map (·.year)

end Technology

end EnergyModel
