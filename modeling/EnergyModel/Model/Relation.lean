import EnergyModel.Decimal.Format
import EnergyModel.Fault

/-!
# Relations of a model

A model is a set of relations (tables), each with a fixed list of columns. `Relation.all` is
the catalogue, in the order the tables are written; `RelationSet` holds the rows of every
relation and refuses a row whose number of values differs from the relation's number of
columns.

A cell is null, an integer (years and vintages), a real or a text. Its display writes null as
`NULL` and reals in plain decimal notation.
-/

namespace EnergyModel

/-- The relations of a model. -/
inductive Relation where
  | commodities
  | technologies
  | techBaseload
  | techReserve
  | techRamping
  | timeOfDay
  | timePeriods
  | timeSeason
  | capacityFactorTech
  | capacityToActivity
  | costFixed
  | costInvest
  | costVariable
  | demand
  | demandSpecificDistribution
  | discountRate
  | efficiency
  | emissionActivity
  | emissionLimit
  | existingCapacity
  | lifetimeLoanTech
  | lifetimeTech
  | maxCapacity
  | maxActivity
  | minCapacity
  | globalDiscountRate
  | growthRateMax
  | growthRateSeed
  | rampUp
  | rampDown
  | reserveMargin
  | segFrac
  | storageDuration
  | minGenGroupData
  | minGenGroup
  | capacityCredit
  deriving BEq, DecidableEq, Repr, Inhabited

namespace Relation

/-- Every relation, in the order the tables are written. -/
def all : List Relation :=
  [commodities, technologies, techBaseload, techReserve, techRamping, timeOfDay, timePeriods,
   timeSeason, capacityFactorTech, capacityToActivity, costFixed, costInvest, costVariable,
   demand, demandSpecificDistribution, discountRate, efficiency, emissionActivity, emissionLimit,
   existingCapacity, lifetimeLoanTech, lifetimeTech, maxCapacity, maxActivity, minCapacity,
   globalDiscountRate, growthRateMax, growthRateSeed, rampUp, rampDown, reserveMargin, segFrac,
   storageDuration, minGenGroupData, minGenGroup, capacityCredit]

/-- The name of a relation's table. -/
def tableName : Relation → String
  | commodities => "commodities"
  | technologies => "technologies"
  | techBaseload => "tech_baseload"
  | techReserve => "tech_reserve"
  | techRamping => "tech_ramping"
  | timeOfDay => "time_of_day"
  | timePeriods => "time_periods"
  | timeSeason => "time_season"
  | capacityFactorTech => "CapacityFactorTech"
  | capacityToActivity => "CapacityToActivity"
  | costFixed => "CostFixed"
  | costInvest => "CostInvest"
  | costVariable => "CostVariable"
  | demand => "Demand"
  | demandSpecificDistribution => "DemandSpecificDistribution"
  | discountRate => "DiscountRate"
  | efficiency => "Efficiency"
  | emissionActivity => "EmissionActivity"
  | emissionLimit => "EmissionLimit"
  | existingCapacity => "ExistingCapacity"
  | lifetimeLoanTech => "LifetimeLoanTech"
  | lifetimeTech => "LifetimeTech"
  | maxCapacity => "MaxCapacity"
  | maxActivity => "MaxActivity"
  | minCapacity => "MinCapacity"
  | globalDiscountRate => "GlobalDiscountRate"
  | growthRateMax => "GrowthRateMax"
  | growthRateSeed => "GrowthRateSeed"
  | rampUp => "RampUp"
  | rampDown => "RampDown"
  | reserveMargin => "ReserveMargin"
  | segFrac => "SegFrac"
  | storageDuration => "StorageDuration"
  | minGenGroupData => "MinGenGroupOfTechnologies_Data"
  | minGenGroup => "MinGenGroupOfTechnologies"
  | capacityCredit => "CapacityCredit"

/-- The columns of a relation, in order. -/
def columns : Relation → List String
  | commodities => ["comm_name", "flag", "comm_desc"]
  | technologies => ["tech", "flag", "sector", "tech_desc", "tech_category"]
  | techBaseload => ["tech"]
  | techReserve => ["tech"]
  | techRamping => ["tech"]
  | timeOfDay => ["t_day"]
  | timePeriods => ["t_periods", "flag"]
  | timeSeason => ["t_season"]
  | capacityFactorTech => ["season_name", "time_of_day_name", "tech", "cf_tech", "cf_tech_notes"]
  | capacityToActivity => ["tech", "c2a", "c2a_notes"]
  | costFixed =>
    ["periods", "tech", "vintage", "cost_fixed", "cost_fixed_units", "cost_fixed_notes"]
  | costInvest => ["tech", "vintage", "cost_invest", "cost_invest_units", "cost_invest_notes"]
  | costVariable =>
    ["periods", "tech", "vintage", "cost_variable", "cost_variable_units", "cost_variable_notes"]
  | demand => ["periods", "demand_comm", "demand", "demand_units", "demand_notes"]
  | demandSpecificDistribution =>
    ["season_name", "time_of_day_name", "demand_name", "dds", "dds_notes"]
  | discountRate => ["tech", "vintage", "tech_rate", "tech_rate_notes"]
  | efficiency => ["input_comm", "tech", "vintage", "output_comm", "efficiency", "eff_notes"]
  | emissionActivity =>
    ["emis_comm", "input_comm", "tech", "vintage", "output_comm", "emis_act", "emis_act_units",
     "emis_act_notes"]
  | emissionLimit => ["periods", "emis_comm", "emis_limit", "emis_limit_units", "emis_limit_notes"]
  | existingCapacity => ["tech", "vintage", "exist_cap", "exist_cap_units", "exist_cap_notes"]
  | lifetimeLoanTech => ["tech", "life_loan", "life_loan_notes"]
  | lifetimeTech => ["tech", "life", "life_notes"]
  | maxCapacity => ["periods", "tech", "maxcap", "maxcap_units", "maxcap_notes"]
  | maxActivity => ["periods", "tech", "maxact", "maxact_units", "maxact_notes"]
  | minCapacity => ["periods", "tech", "mincap", "mincap_units", "mincap_notes"]
  | globalDiscountRate => ["rate"]
  | growthRateMax => ["tech", "growthrate_max", "growthrate_max_notes"]
  | growthRateSeed => ["tech", "growthrate_seed", "growthrate_seed_units", "growthrate_seed_notes"]
  | rampUp => ["tech", "ramp_up"]
  | rampDown => ["tech", "ramp_down"]
  | reserveMargin => ["demand_comm", "reserve_margin"]
  | segFrac => ["season_name", "time_of_day_name", "segfrac", "segfrac_notes"]
  | storageDuration => ["tech", "duration", "duration_notes"]
  | minGenGroupData => ["periods", "group_name", "min_act_g"]
  | minGenGroup => ["tech", "group_name", "weight", "notes"]
  | capacityCredit => ["tech", "cf_tech"]

/-- The number of columns of a relation. -/
def arity (r : Relation) : Nat := r.columns.length

/-- The relation of a table name. -/
def ofName? (name : String) : Option Relation := all.find? (·.tableName == name)

end Relation

/-- A value of a relation's row. -/
inductive Cell where
  | null
  | integer (n : Int)
  | real (x : Float)
  | text (s : String)
  deriving Inhabited

/-- The display of a cell: `NULL`, the integer, the real in plain notation, or the text. -/
def Cell.display : Cell → String
  | .null => "NULL"
  | .integer n => toString n
  | .real x => Decimal.plainText x
  | .text s => s

/-- The cell of an optional real: null when absent. -/
def Cell.ofOptional : Option Float → Cell
  | some x => .real x
  | none => .null

/-- The cell of a year. -/
def Cell.year (n : Nat) : Cell := .integer n

/-- A row of a relation: one cell per column. -/
abbrev Tuple := List Cell

/-- The rows of every relation, in catalogue order. -/
structure RelationSet where
  tables : List (Relation × Array Tuple) := Relation.all.map fun r => (r, #[])
  deriving Inhabited

namespace RelationSet

/-- The rows of a relation. -/
def rows (s : RelationSet) (r : Relation) : Array Tuple :=
  ((s.tables.find? (·.1 == r)).map (·.2)).getD #[]

/-- Appends a row to a relation, which must have as many values as the relation has columns. -/
def push (s : RelationSet) (r : Relation) (row : Tuple) : Except Problem RelationSet :=
  if row.length != r.arity then .error (.relationArity r.tableName r.arity row.length)
  else .ok ⟨s.tables.map fun e => if e.1 == r then (r, e.2.push row) else e⟩

/-- The number of rows in all relations. -/
def totalRows (s : RelationSet) : Nat := s.tables.foldl (fun n e => n + e.2.size) 0

end RelationSet

/-- The names of the technologies with rows in a relation, in order of first appearance: the
text values of its `tech` column. -/
def technologiesIn (s : RelationSet) (r : Relation) : List String :=
  match r.columns.findIdx? (· == "tech") with
  | none => []
  | some i =>
    (s.rows r).foldl (fun acc row =>
      match (row[i]? : Option Cell) with
      | some (.text name) => if acc.contains name then acc else acc ++ [name]
      | _ => acc) []

end EnergyModel
