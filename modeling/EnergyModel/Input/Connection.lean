import EnergyModel.Input.Plant

/-!
# Connection tables

A connection carries one commodity into another, such as a transmission line or a pipeline,
losing a share of it on the way. Its row gives that loss in percent, the lifetime and costs of
its capacity, its emissions and its build years. The table may be empty; existing capacity is
listed by year, for known connections only.
-/

namespace EnergyModel.Input

/-- A connection from one commodity to another. -/
structure Connection where
  name : String
  input : String
  output : String
  loss : Option Float
  lifetime : Option Float
  emissionActivity : Option Float
  costInvest : Option Float
  costVariable : Option Float
  costInvestIncr : Option Float
  costVariableIncr : Option Float
  firstBuild : Option Float
  lastBuild : Option Float
  deriving Inhabited

/-- Columns of `Connections.csv`. -/
def Connection.fields : List Field :=
  [.required "connection" .text, .required "input" .text, .required "output" .text,
   .optionalNumber "Loss", .optionalNumber "Lifetime", .optionalNumber "EmissionActivity",
   .optionalNumber "CostInvest", .optionalNumber "CostVariable", .optionalNumber "CostInvestIncr",
   .optionalNumber "CostVariableIncr", .optionalNumber "FirstBuild", .optionalNumber "LastBuild"]

/-- The connection of a row. -/
def Connection.ofRow (r : Row) : Connection :=
  ⟨r.text "connection", r.text "input", r.text "output", r.optionalNumber "Loss",
   r.optionalNumber "Lifetime", r.optionalNumber "EmissionActivity",
   r.optionalNumber "CostInvest", r.optionalNumber "CostVariable",
   r.optionalNumber "CostInvestIncr", r.optionalNumber "CostVariableIncr",
   r.optionalNumber "FirstBuild", r.optionalNumber "LastBuild"⟩

/-- The numeric columns of `Connections.csv`. -/
def Connection.columns : List (NumericColumn Connection) :=
  [⟨"Loss", (·.loss), fun c v => { c with loss := v }⟩,
   ⟨"Lifetime", (·.lifetime), fun c v => { c with lifetime := v }⟩,
   ⟨"EmissionActivity", (·.emissionActivity), fun c v => { c with emissionActivity := v }⟩,
   ⟨"CostInvest", (·.costInvest), fun c v => { c with costInvest := v }⟩,
   ⟨"CostVariable", (·.costVariable), fun c v => { c with costVariable := v }⟩,
   ⟨"CostInvestIncr", (·.costInvestIncr), fun c v => { c with costInvestIncr := v }⟩,
   ⟨"CostVariableIncr", (·.costVariableIncr), fun c v => { c with costVariableIncr := v }⟩,
   ⟨"FirstBuild", (·.firstBuild), fun c v => { c with firstBuild := v }⟩,
   ⟨"LastBuild", (·.lastBuild), fun c v => { c with lastBuild := v }⟩]

/-- Reads the connections, which may be empty, and their existing capacity. -/
def readConnections (files : FileTree Content) (dir : String) :
    Except Failure (Catalog Connection × List ExistingCapacity) := do
  let path := Path.join dir "Connections.csv"
  let rows ← readRows files path Connection.fields
  let connections ←
    match Catalog.ofRows (rows.map Connection.ofRow) (·.name) "Connections" with
    | .ok c => pure c
    | .error p => throw ((Failure.rule p).within (readingContext path))
  let existing ← readExisting files (Path.join dir "ConnectionsExisting.csv") connections
  pure (connections, existing)

end EnergyModel.Input
