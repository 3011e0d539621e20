import EnergyModel.Model.Relation
import EnergyModel.Technology
import EnergyModel.Scenario
import EnergyModel.Journal

/-!
# Assembling a model

A model is assembled from its input tables and scenario in stages, each adding rows to the
relations. `Builder` is the state of an assembly: besides the rows, it keeps every period the
model has (the demand years, then vintages of existing capacity as they are met) and the
commodities registered so far, each registered once, in order.

An `Assembly` is a step on that state that may warn and may fail; a failed step keeps the rows
it added before failing.

The demand years give the periods: all of them are the model's future, and all but the last,
which only closes the horizon, are open for investment.
-/

namespace EnergyModel

/-- The periods of a model. -/
structure Periods where
  /-- Every demand year, ascending. -/
  future : List Nat
  /-- Every demand year but the last. -/
  activeFuture : List Nat
  deriving Inhabited

/-- The periods given by the demand years, of which there must be two at least. -/
def Periods.ofDemandYears (years : List Nat) : Except Problem Periods :=
  if years.length < 2 then .error .tooFewDemandYears
  else .ok ⟨years, years.dropLast⟩

/-- The first period open for investment. -/
def Periods.startYear (p : Periods) : Nat := p.activeFuture.headD 0

/-- The state of an assembly. -/
structure Builder where
  inputs : Input.InputTables
  scenario : Scenario
  periods : Periods
  /-- Every period of the model, in the order met. -/
  allTimePeriods : List Nat
  /-- The registered commodities, in order of registration. -/
  commodities : List String := []
  relations : RelationSet := {}
  /-- The warnings written so far. -/
  notes : Array Note := #[]
  deriving Inhabited

/-- Starts an assembly: the periods come from the demand years. -/
def Builder.start (inputs : Input.InputTables) (scenario : Scenario) : Except Problem Builder := do
  let periods ← Periods.ofDemandYears (inputs.system.demand.map (·.year))
  pure { inputs, scenario, periods
         allTimePeriods := periods.future.foldl (fun acc y => if acc.contains y then acc else acc ++ [y]) [] }

/-- A step of an assembly. -/
abbrev Assembly := ExceptT Failure (StateM Builder)

namespace Assembly

/-- Writes a warning. -/
def warn (origin : Origin) (text : String) : Assembly Unit :=
  modify fun b => { b with notes := b.notes.push ⟨.warn, origin, text⟩ }

/-- Appends a row to a relation. -/
def push (r : Relation) (row : Tuple) : Assembly Unit := do
  let b ← get
  match b.relations.push r row with
  | .ok s => set { b with relations := s }
  | .error p => throw (Failure.rule p)

/-- Fails with a broken rule. -/
def fail {α : Type} (p : Problem) : Assembly α := throw (Failure.rule p)

/-- The result of a rule check, as a step. -/
def ofExcept {α : Type} : Except Problem α → Assembly α
  | .ok a => pure a
  | .error p => fail p

/-- Runs a step, adding a context to its failure. -/
def within {α : Type} (outer : String) (m : Assembly α) : Assembly α :=
  tryCatch m fun f => throw (f.within outer)

/-- Registers a commodity unless it is registered already; true when it was new. -/
def registerCommodity (id flag description : String) : Assembly Bool := do
  if (← get).commodities.contains id then return false
  modify fun b => { b with commodities := b.commodities ++ [id] }
  push .commodities [.text id, .text flag, .text description]
  return true

/-- Adds vintages of existing capacity to the periods, each new one as a row flagged `e`. -/
def addLegacyPeriods (years : List Nat) : Assembly Unit :=
  years.forM fun y => do
    if !(← get).allTimePeriods.contains y then
      modify fun b => { b with allTimePeriods := b.allTimePeriods ++ [y] }
      push .timePeriods [.year y, .text "e"]

end Assembly

end EnergyModel
