import EnergyModel.Decimal.Format
import EnergyModel.Input.Tables
import EnergyModel.Scenario
import EnergyModel.Journal
import EnergyModel.Technology

/-!
# Perturbations

A perturbation changes one input value before a model is assembled. A directive names the
family of inputs (global parameters, power plants, fuels or connections), the variable (a
column, or a global parameter) and the entity, and either scales the value by a percentage or
replaces it. An absent value (missing, or NaN) is never changed.

A changed value is kept in range: efficiencies and capacity factors above 100 percent become
100, a negative loss becomes 0 (each with a warning), and lifetimes lose their fraction. A
plant's efficiency and heat rate describe one thing, so changing one that is positive
recomputes the other when the other is present.

Each step works on the input tables and the scenario; a failing directive keeps what it changed
before failing.
-/

namespace EnergyModel

open Input

/-- The family of inputs a directive changes. -/
inductive Family where
  | baseline
  | globals
  | powerPlants
  | fuels
  | connections
  deriving BEq, DecidableEq, Repr, Inhabited

/-- Every family, in order. -/
def Family.all : List Family := [.baseline, .globals, .powerPlants, .fuels, .connections]

/-- The name of a family. -/
def Family.name : Family → String
  | .baseline => "Baseline"
  | .globals => "Globals"
  | .powerPlants => "PowerPlants"
  | .fuels => "Fuels"
  | .connections => "Connections"

/-- The family of a name. -/
def Family.ofName? (s : String) : Option Family := Family.all.find? (·.name == s)

/-- How a directive changes a value. -/
inductive Magnitude where
  /-- Scale by a percentage: 10 gives 110 percent of the value. -/
  | multiplier (percent : Float)
  /-- Replace the value. -/
  | value (x : Float)
  deriving Inhabited

/-- The changed value. -/
def Magnitude.apply : Magnitude → Float → Float
  | .multiplier percent, current => current * (1.0 + percent / 100.0)
  | .value x, _ => x

/-- A change to one input value. -/
structure Directive where
  family : Family
  quantity : String
  tech : String
  magnitude : Magnitude
  deriving Inhabited

/-- The directive that changes nothing. -/
def Directive.baseline : Directive := ⟨.baseline, "Baseline", "Baseline", .multiplier 0.0⟩

/-- Columns of a directive file. -/
def Directive.fields : List Field :=
  [.required "type" (.choice (Family.all.map Family.name)), .required "variable" .text,
   .required "tech" .text, .optionalNumber "multiplier", .optionalNumber "value"]

/-- The directive of a row, which gives either a multiplier or a value (a baseline may give
neither). -/
def Directive.ofRow (r : Row) : Except Problem Directive :=
  let family := (Family.ofName? (r.text "type")).getD .baseline
  let quantity := r.text "variable"
  let tech := r.text "tech"
  let make (m : Magnitude) : Directive := ⟨family, quantity, tech, m⟩
  match r.optionalNumber "multiplier", r.optionalNumber "value" with
  | some m, none => .ok (make (.multiplier m))
  | none, some v => .ok (make (.value v))
  | none, none => if family == .baseline then .ok (make (.multiplier 0.0)) else .error (.noMagnitude quantity tech)
  | some _, some _ => .error (.bothMagnitudes quantity tech)

/-- Reads the directives of a file, which may hold none. -/
def readDirectives (files : FileTree Content) (path : String) : Except Failure (List Directive) := do
  let rows ← readRows files path Directive.fields
  match rows.mapM Directive.ofRow with
  | .ok ds => pure ds
  | .error p => throw ((Failure.rule p).within (readingContext path))

/-- A changed value kept in its range, with the warning when it was outside. -/
def clampValue (quantity : String) (value : Float) (tech : String) : Float × Array Note :=
  let outside (clamped : Float) : Float × Array Note :=
    let shown := Decimal.plainText value
    let shownClamped := Decimal.plainText clamped
    (clamped, #[⟨.warn, .perturbation,
      s!"{quantity} of {tech} out of range ({shown}), set to {shownClamped}"⟩])
  if (quantity == "Efficiency" || quantity == "CapacityFactor") && value > 100.0 then outside 100.0
  else if quantity == "Loss" && value < 0.0 then outside 0.0
  else if quantity == "ExpectedLifetime" then (Float.truncate value, #[])
  else (value, #[])

/-- The efficiency, in percent, of a heat rate in BTU/kWh. -/
def efficiencyOfHeatRate (heatRate : Float) : Float :=
  Float.minNum (heatRateAtFullEfficiency * 100.0 / heatRate) 100.0

/-- The heat rate, in BTU/kWh, of an efficiency in percent. -/
def heatRateOfEfficiency (efficiency : Float) : Float :=
  Float.maxNum (heatRateAtFullEfficiency * 100.0 / efficiency) heatRateAtFullEfficiency

/-- What perturbations work on: the input tables, the scenario and the notes written. -/
structure Perturbed where
  inputs : InputTables
  scenario : Scenario
  notes : Array Note := #[]
  deriving Inhabited

/-- A step of perturbation. -/
abbrev Perturbing := ExceptT Failure (StateM Perturbed)

namespace Perturbing

/-- Writes notes. -/
def record (notes : Array Note) : Perturbing Unit :=
  modify fun s => { s with notes := s.notes ++ notes }

/-- Fails with a broken rule. -/
def fail {α : Type} (p : Problem) : Perturbing α := throw (Failure.rule p)

/-- The result of a rule check, as a step. -/
def ofExcept {α : Type} : Except Problem α → Perturbing α
  | .ok a => pure a
  | .error p => fail p

/-- Changes a value that is present, and gives the new value. -/
def cell (current : Option Float) (quantity tech : String) (m : Magnitude) :
    Perturbing (Option Float) :=
  match present current with
  | none => pure none
  | some now => do
    let (new, warnings) := clampValue quantity (m.apply now) tech
    record warnings
    let before := Decimal.plainText now
    let after := Decimal.plainText new
    record #[⟨.debug, .perturbation, s!"Changing {quantity} of {tech} from {before} to {after}"⟩]
    pure (some new)

/-- Changes the value of a directive in a table of named rows, giving the changed table and the
new value. -/
def row {α : Type} (catalog : Catalog α) (columns : List (NumericColumn α)) (table : String)
    (d : Directive) : Perturbing (Catalog α × Option Float) := do
  let r ← ofExcept (catalog.find d.tech table)
  match NumericColumn.find? columns d.quantity with
  | none => fail (.missingColumn table d.quantity)
  | some col =>
    match ← cell (col.get r) d.quantity d.tech d.magnitude with
    | some v => pure (catalog.set d.tech (col.set r (some v)), some v)
    | none => pure (catalog, none)

/-- Changes the first entry of a list of optional values. -/
def first (values : List (Option Float)) (quantity : String) (m : Magnitude) :
    Perturbing (List (Option Float)) :=
  match values with
  | [] => pure []
  | v :: rest => do
    match ← cell v quantity "global" m with
    | some new => pure (some new :: rest)
    | none => pure (v :: rest)

/-- Changes a global parameter. -/
def global (d : Directive) : Perturbing Unit := do
  let s ← get
  let system := s.inputs.system
  match d.quantity with
  | "DiscountRate" =>
    let rates ← first system.discountRates d.quantity d.magnitude
    modify fun s => { s with inputs.system.discountRates := rates }
  | "ReserveMargin" =>
    let margins ← first system.reserveMargins d.quantity d.magnitude
    modify fun s => { s with inputs.system.reserveMargins := margins }
  | "MaxGrowthRate" =>
    let v ← cell s.scenario.maxGrowthRate d.quantity "global" d.magnitude
    if v.isSome then modify fun s => { s with scenario.maxGrowthRate := v }
  | "MinGrowthSeed" =>
    let v ← cell s.scenario.minGrowthSeed d.quantity "global" d.magnitude
    if v.isSome then modify fun s => { s with scenario.minGrowthSeed := v }
  | other => fail (.unknownGlobalVariable other)

/-- The plant table that holds a variable. -/
inductive PlantTable where
  | identity
  | performance
  | costs
  | constraints

/-- The plant table of a variable, if it is one of theirs. -/
def PlantTable.ofQuantity (quantity : String) : Option PlantTable :=
  if ["Efficiency", "ExpectedLifetime", "CapacityFactor", "HeatRate"].contains quantity then
    some .performance
  else if ["CostInvest", "CostInvestIncr", "CostFixed", "CostFixedIncr", "CostVariable",
      "CostVariableIncr", "DiscountRate"].contains quantity then some .costs
  else if ["RampRate", "MaxCapacity", "MaxActivity", "FirstBuild", "LastBuild"].contains quantity then
    some .constraints
  else if ["CapacityCredit", "StorageDuration"].contains quantity then some .identity
  else none

/-- Changes a power plant value; a new positive efficiency or heat rate recomputes the other
when the other is present. -/
def plant (d : Directive) : Perturbing Unit := do
  let some table := PlantTable.ofQuantity d.quantity | fail (.unknownPlantVariable d.quantity)
  let tables := (← get).inputs.plants
  let new ← match table with
    | .identity => do
      let (c, v) ← row tables.plants Plant.columns "PowerPlants" d
      modify fun s => { s with inputs.plants.plants := c }
      pure v
    | .performance => do
      let (c, v) ← row tables.performance Performance.columns "PowerPlantsPerformance" d
      modify fun s => { s with inputs.plants.performance := c }
      pure v
    | .costs => do
      let (c, v) ← row tables.costs Costs.columns "PowerPlantsCosts" d
      modify fun s => { s with inputs.plants.costs := c }
      pure v
    | .constraints => do
      let (c, v) ← row tables.constraints Constraints.columns "PowerPlantsConstraints" d
      modify fun s => { s with inputs.plants.constraints := c }
      pure v
  let some new := new | pure ()
  let performance := (← get).inputs.plants.performance
  let p ← ofExcept (performance.find d.tech "PowerPlantsPerformance")
  let tech := d.tech
  let update (p' : Performance) : Perturbing Unit :=
    modify fun s => { s with inputs.plants.performance := performance.set tech p' }
  if d.quantity == "Efficiency" && (present p.heatRate).isSome then
    if new > 0.0 then update { p with heatRate := some (heatRateOfEfficiency new) }
    else record #[⟨.warn, .perturbation, s!"Efficiency of {tech} is not positive, heat rate left unchanged"⟩]
  else if d.quantity == "HeatRate" && (present p.efficiency).isSome then
    if new > 0.0 then update { p with efficiency := some (efficiencyOfHeatRate new) }
    else record #[⟨.warn, .perturbation, s!"Heat rate of {tech} is not positive, efficiency left unchanged"⟩]

end Perturbing

/-- Applies one directive. -/
def applyDirective (d : Directive) : Perturbing Unit :=
  match d.family with
  | .baseline => pure ()
  | .globals => Perturbing.global d
  | .powerPlants => Perturbing.plant d
  | .fuels => do
    let (c, _) ← Perturbing.row (← get).inputs.fuels Fuel.columns "Fuels" d
    modify fun s => { s with inputs.fuels := c }
  | .connections => do
    let (c, _) ← Perturbing.row (← get).inputs.connections Connection.columns "Connections" d
    modify fun s => { s with inputs.connections := c }

/-- The context of a directive's failure. -/
def Directive.context (d : Directive) : String :=
  "Failed to apply " ++ d.family.name ++ " directive for " ++ d.quantity ++ " of " ++ d.tech

/-- Applies directives in order, stopping at the first that fails. -/
def applyDirectives (ds : List Directive) : Perturbing Unit :=
  ds.forM fun d => tryCatch (applyDirective d) fun f => throw (f.within d.context)

end EnergyModel
