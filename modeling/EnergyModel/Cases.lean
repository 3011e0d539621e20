import EnergyModel.Perturbation
import EnergyModel.Random

/-!
# Sensitivity and Monte Carlo cases

A case is a list of directives to build a model with. The values to vary are chosen per family
of inputs (global parameters, power plant, fuel and connection columns) in selection tables,
and every selected column is varied for every entity the scenario includes; the targets come
in a fixed order: globals, then plants, fuels and connections, each column over all entities.

Sensitivity cases vary one value at a time: the baseline first, then for each target a
decrease and an increase by the multiplier. Monte Carlo cases vary every target at once: each
target gets one draw per case from the triangular distribution over [-multiplier, multiplier]
peaking at zero, all draws of one target before the next. A case's draws are either percentage
changes or the new values themselves.

Case files are CSV: sensitivity cases as one directive per line with its multiplier, Monte
Carlo cases as one target per line with one column per case.
-/

namespace EnergyModel

open Input

/-- The variables selected for variation, per family. -/
structure VariableSelection where
  globals : List String := []
  plants : List String := []
  fuels : List String := []
  connections : List String := []
  deriving Inhabited

/-- Columns of a selection table. -/
def selectionFields : List Field := [.required "variable" .text, .required "include" .flag]

/-- The included variables of a selection table, which must not be empty. -/
def readIncludedVariables (files : FileTree Content) (path : String) : Except Failure (List String) := do
  let rows ← readSomeRows files path selectionFields
  pure ((rows.filter (·.flag "include")).map (·.text "variable"))

/-- Reads the selection tables of a directory. -/
def readVariableSelection (files : FileTree Content) (dir : String) :
    Except Failure VariableSelection := do
  let globals ← readIncludedVariables files (Path.join dir "Globals.csv")
  let plants ← readIncludedVariables files (Path.join dir "PowerPlants.csv")
  let fuels ← readIncludedVariables files (Path.join dir "Fuels.csv")
  let connections ← readIncludedVariables files (Path.join dir "Connections.csv")
  pure { globals, plants, fuels, connections }

/-- The entity name of directives on global parameters. -/
def globalTech : String := "global"

/-- Every (family, variable, entity) to vary, in order. -/
def targets (scenario : Scenario) (selection : VariableSelection) : List (Family × String × String) :=
  let perEntity (family : Family) (quantities entities : List String) :=
    quantities.flatMap fun v => entities.map fun e => (family, v, e)
  selection.globals.map (fun v => (.globals, v, globalTech)) ++
    perEntity .powerPlants selection.plants scenario.plants ++
    perEntity .fuels selection.fuels scenario.fuels ++
    perEntity .connections selection.connections scenario.connections

/-- Sensitivity cases: the baseline, then a decrease and an increase by the multiplier (in
percent) for every target. -/
def sensitivityCases (scenario : Scenario) (selection : VariableSelection) (multiplier : Float) :
    List Directive :=
  Directive.baseline :: (targets scenario selection).flatMap fun (family, v, tech) =>
    [-multiplier, multiplier].map fun p => ⟨family, v, tech, .multiplier p⟩

/-- How Monte Carlo draws change values. -/
inductive CaseMode where
  /-- Draws are percentage changes. -/
  | perturbations
  /-- Draws replace the values. -/
  | values
  deriving BEq, Inhabited

/-- The draws of one target, one per case. -/
structure MonteCarloRow where
  family : Family
  quantity : String
  tech : String
  draws : List Float
  deriving Inhabited

/-- Monte Carlo cases: `count` draws per target, target by target, from the triangular
distribution over [-multiplier, multiplier] peaking at zero, with the generator it starts from. -/
def monteCarloDraws (scenario : Scenario) (selection : VariableSelection) (multiplier : Float)
    (count : Nat) (start : Random.Generator) : List MonteCarloRow :=
  let step (acc : List MonteCarloRow × Random.Generator) (target : Family × String × String) :=
    let (rows, g) := acc
    let (draws, g) := (List.range count).foldl (fun (ds, g) _ =>
      let (x, g) := g.triangular (-multiplier) 0.0 multiplier
      (ds ++ [x], g)) ([], g)
    let (family, v, tech) := target
    (rows ++ [⟨family, v, tech, draws⟩], g)
  ((targets scenario selection).foldl step ([], start)).1

/-- Monte Carlo cases drawn with the generator of a seed, so that they can be drawn again. -/
def monteCarloCases (scenario : Scenario) (selection : VariableSelection) (multiplier : Float)
    (count : Nat) (seed : UInt64) : List MonteCarloRow :=
  monteCarloDraws scenario selection multiplier count (Random.Generator.ofSeed seed)

/-- The number of cases of a Monte Carlo table: the first row's number of draws. -/
def caseCount (rows : List MonteCarloRow) : Nat := (rows.head?.map (·.draws.length)).getD 0

/-- The directives of one Monte Carlo case. Every row must have as many draws as the first,
and the case must be one of them. -/
def caseDirectives (rows : List MonteCarloRow) (index : Nat) (mode : CaseMode) :
    Except Problem (List Directive) := do
  let n := caseCount rows
  if let some row := rows.find? (·.draws.length != n) then
    throw (.drawCount row.tech row.quantity row.draws.length n)
  if index ≥ n then throw (.caseOutOfRange index n)
  pure (rows.map fun row =>
    let draw := row.draws.getD index 0.0
    ⟨row.family, row.quantity, row.tech,
      match mode with
      | .perturbations => .multiplier draw
      | .values => .value draw⟩)

/-! ## Case files -/

/-- The text of a sensitivity case file, and the directive that stopped the writing if one
gives a value rather than a multiplier: the records before it are written. Floats are written
in their compact form. Nothing, not even the header, is written without directives. -/
def writeSensitivityCases (ds : List Directive) : String × Option Problem :=
  let rec go : List Directive → String × Option Problem
    | [] => ("", none)
    | d :: rest =>
      match d.magnitude with
      | .value _ => ("", some (.multiplierRequired d.quantity d.tech))
      | .multiplier m =>
        let (text, problem) := go rest
        (Csv.writeRecord [d.family.name, d.quantity, d.tech, Decimal.compactText m] ++ text, problem)
  match ds with
  | [] => ("", none)
  | _ =>
    let (text, problem) := go ds
    -- the header goes with the first record
    if text.isEmpty then (text, problem)
    else (Csv.writeRecord ["type", "variable", "tech", "multiplier"] ++ text, problem)

/-- The text of a Monte Carlo case file: a header with one column per case, then one line per
target with its draws in plain notation. A row with another number of draws stops the
writing. -/
def writeMonteCarloCases (rows : List MonteCarloRow) : String × Option Csv.WriteMismatch :=
  let header := ["type", "variable", "tech"] ++ (List.range (caseCount rows)).map toString
  Csv.writeTable (header :: rows.map fun r =>
    [r.family.name, r.quantity, r.tech] ++ r.draws.map Decimal.plainText)

/-- Reads a Monte Carlo case file: its header must start with `type`, `variable` and `tech` and
name at least one case; every draw must be a number. -/
def readMonteCarloCases (files : FileTree Content) (path : String) :
    Except Failure (List MonteCarloRow) := do
  let table ← readRawTable files path
  if !(table.header.length > 3 && table.header.take 3 == ["type", "variable", "tech"]) then
    throw (Failure.rule (.caseColumns path))
  let row (record : List String) : Except Problem MonteCarloRow := do
    let tech := record.getD 2 ""
    let draws ← (record.drop 3).mapM fun cell => do
      match ← parseValue cell with
      | some x => pure x
      | none => throw (.missingDraw tech)
    let family ←
      match Family.ofName? (record.getD 0 "") with
      | some f => pure f
      | none => throw (.unknownFamily (record.getD 0 ""))
    pure ⟨family, record.getD 1 "", tech, draws⟩
  match table.rows.mapM row with
  | .ok rows => pure rows
  | .error p => throw ((Failure.rule p).within (readingContext path))

end EnergyModel
