import EnergyModel.Input.Row

/-!
# System-wide input tables

The tables that describe the whole system rather than one technology: the representative days
and times of day that slice a year, yearly demand and its split over the slices, the global
discount rate, emission limits, the reserve margin, capacity-factor profiles of fuels and
minimum capacities. Two more tables, the technology discount rates and the references, are
kept as text.

Demand years must rise strictly, and there must be at least two of them: the last year only
closes the horizon of the model.
-/

namespace EnergyModel.Input

/-- A representative day (a season): its share of the year and of the demand. -/
structure RepresentativeDay where
  name : String
  timeFraction : Float
  demandFraction : Float
  deriving Inhabited

/-- A time of day and its share of a day. -/
structure TimeOfDay where
  name : String
  timeFraction : Float
  deriving Inhabited

/-- The demand of a year, with the renewable share required in it if any. -/
structure YearlyDemand where
  year : Nat
  demand : Float
  renewableShare : Option Float
  deriving Inhabited

/-- The share of a day's demand that falls in a time of day. -/
structure DemandShare where
  day : String
  timeOfDay : String
  fraction : Float
  deriving Inhabited

/-- A limit on the emission of a commodity in a period. -/
structure EmissionLimit where
  period : Nat
  commodity : String
  limit : Float
  units : String
  notes : String
  deriving Inhabited

/-- The capacity factor, in a time slice, of the technologies that use a fuel. -/
structure CapacityFactorProfile where
  fuel : String
  day : String
  timeOfDay : String
  factor : Float
  deriving Inhabited

/-- The least capacity a technology must have in a year. -/
structure MinimumCapacity where
  technology : String
  year : Nat
  capacity : Float
  deriving Inhabited

/-- The system-wide tables. The discount rates and reserve margins keep one entry per row of
their files; only the first counts. -/
structure SystemTables where
  days : List RepresentativeDay
  timesOfDay : List TimeOfDay
  demand : List YearlyDemand
  demandShares : List DemandShare
  discountRates : List (Option Float)
  techDiscountRates : RawTable
  emissionLimits : List EmissionLimit
  reserveMargins : List (Option Float)
  capacityFactors : List CapacityFactorProfile
  minimumCapacities : List MinimumCapacity
  references : RawTable
  deriving Inhabited

namespace SystemTables

/-- The global discount rate: the first row's, if it has one. -/
def discountRate (s : SystemTables) : Option Float := s.discountRates.head?.bind id

/-- The reserve margin: the first row's, if it has one. -/
def reserveMargin (s : SystemTables) : Option Float := s.reserveMargins.head?.bind id

/-- Whether the technologies of a fuel follow a capacity-factor profile. -/
def hasCapacityFactorProfile (s : SystemTables) (fuel : String) : Bool :=
  s.capacityFactors.any (·.fuel == fuel)

end SystemTables

/-! ## Layouts -/

/-- Columns of `representativeDays.csv`. -/
def RepresentativeDay.fields : List Field :=
  [.required "representativeDay" .text, .required "timeFrac" .number, .required "dmdFrac" .number]

/-- The representative day of a row. -/
def RepresentativeDay.ofRow (r : Row) : RepresentativeDay :=
  ⟨r.text "representativeDay", r.number "timeFrac", r.number "dmdFrac"⟩

/-- Columns of `timesOfDay.csv`. -/
def TimeOfDay.fields : List Field := [.required "timeOfDay" .text, .required "timeFrac" .number]

/-- The time of day of a row. -/
def TimeOfDay.ofRow (r : Row) : TimeOfDay := ⟨r.text "timeOfDay", r.number "timeFrac"⟩

/-- Columns of `Demand.csv`. -/
def YearlyDemand.fields : List Field :=
  [.required "Year" .count, .required "Demand" .number, .optionalNumber "RPS"]

/-- The demand of a row. -/
def YearlyDemand.ofRow (r : Row) : YearlyDemand :=
  ⟨r.count "Year", r.number "Demand", r.optionalNumber "RPS"⟩

/-- Columns of `DemandTOD.csv`. -/
def DemandShare.fields : List Field :=
  [.required "representativeDay" .text, .required "timeOfDay" .text, .required "dmdFrac" .number]

/-- The demand share of a row. -/
def DemandShare.ofRow (r : Row) : DemandShare :=
  ⟨r.text "representativeDay", r.text "timeOfDay", r.number "dmdFrac"⟩

/-- Columns of `DiscountRateGlobal.csv`: the rate must have a column, which may be empty. -/
def discountRateFields : List Field := [.required "DiscountRate" .optionalNumber]

/-- Columns of `ReserveMargin.csv`: the margin must have a column, which may be empty. -/
def reserveMarginFields : List Field := [.required "ReserveMargin" .optionalNumber]

/-- Columns of `Emission.csv`. -/
def EmissionLimit.fields : List Field :=
  [.required "periods" .count, .required "emis_comm" .text, .required "emis_limit" .number,
   .textOrEmpty "emis_limit_units", .textOrEmpty "emis_limit_notes"]

/-- The emission limit of a row. -/
def EmissionLimit.ofRow (r : Row) : EmissionLimit :=
  ⟨r.count "periods", r.text "emis_comm", r.number "emis_limit", r.text "emis_limit_units",
   r.text "emis_limit_notes"⟩

/-- Columns of `capacityFactorTOD.csv`. -/
def CapacityFactorProfile.fields : List Field :=
  [.required "fuel" .text, .required "representativeDay" .text, .required "timeOfDay" .text,
   .required "capacityFactor" .number]

/-- The profile entry of a row. -/
def CapacityFactorProfile.ofRow (r : Row) : CapacityFactorProfile :=
  ⟨r.text "fuel", r.text "representativeDay", r.text "timeOfDay", r.number "capacityFactor"⟩

/-- Columns of `MinCapacity.csv`. -/
def MinimumCapacity.fields : List Field :=
  [.required "Technology" .text, .required "Year" .count, .required "MinCapacity" .number]

/-- The minimum capacity of a row. -/
def MinimumCapacity.ofRow (r : Row) : MinimumCapacity :=
  ⟨r.text "Technology", r.count "Year", r.number "MinCapacity"⟩

/-! ## Reading -/

/-- Whether years rise strictly. -/
def strictlyRising : List Nat → Bool
  | a :: b :: rest => a < b && strictlyRising (b :: rest)
  | _ => true

/-- Checks the demand years: strictly rising, and at least two. -/
def checkDemandYears (demand : List YearlyDemand) : Except Problem Unit :=
  let years := demand.map (·.year)
  if !strictlyRising years then .error .demandYearsUnordered
  else if years.length < 2 then .error .tooFewDemandYears
  else .ok ()

/-- Reads the system-wide tables from the inputs directory, demand first. -/
def readSystemTables (files : FileTree Content) (dir : String) : Except Failure SystemTables := do
  let path (name : String) := Path.join dir name
  let demandPath := path "Demand.csv"
  let demand := (← readSomeRows files demandPath YearlyDemand.fields).map YearlyDemand.ofRow
  match checkDemandYears demand with
  | .error p => throw ((Failure.rule p).within (readingContext demandPath))
  | .ok () => pure ()
  let days ← readSomeRows files (path "representativeDays.csv") RepresentativeDay.fields
  let times ← readSomeRows files (path "timesOfDay.csv") TimeOfDay.fields
  let shares ← readSomeRows files (path "DemandTOD.csv") DemandShare.fields
  let rates ← readSomeRows files (path "DiscountRateGlobal.csv") discountRateFields
  let techRates ← readRawTable files (path "DiscountRateTech.csv")
  let emissions ← readRows files (path "Emission.csv") EmissionLimit.fields
  let margins ← readRows files (path "ReserveMargin.csv") reserveMarginFields
  let factors ← readRows files (path "capacityFactorTOD.csv") CapacityFactorProfile.fields
  let minimums ← readRows files (path "MinCapacity.csv") MinimumCapacity.fields
  let references ← readRawTable files (path "ref.csv")
  pure {
    days := days.map RepresentativeDay.ofRow
    timesOfDay := times.map TimeOfDay.ofRow
    demand
    demandShares := shares.map DemandShare.ofRow
    discountRates := rates.map (·.optionalNumber "DiscountRate")
    techDiscountRates := techRates
    emissionLimits := emissions.map EmissionLimit.ofRow
    reserveMargins := margins.map (·.optionalNumber "ReserveMargin")
    capacityFactors := factors.map CapacityFactorProfile.ofRow
    minimumCapacities := minimums.map MinimumCapacity.ofRow
    references }

end EnergyModel.Input
