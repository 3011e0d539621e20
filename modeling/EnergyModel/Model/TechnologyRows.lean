import EnergyModel.Model.SystemRows

/-!
# Rows of a technology

Every row that describes one technology: capacity credit and factors, costs by period and
vintage, efficiency and emissions, existing capacity, lifetimes, its entry in the technology
registry and its groups, limits on capacity and activity, limits on growth, and ramp rates. A
row that would need an absent value (missing, or NaN) is left out.

Costs escalate by a constant yearly percentage from the first period. Capacity of a vintage
operates in a period from its vintage on, for less than its lifetime. A retirement year forces
activity to zero from that year on, whatever the maximum says.
-/

namespace EnergyModel

/-- GW of capacity that give one PJ of activity a year, per GW. -/
def capacityToActivity : Float := 31.54

/-- A cost after some years of a constant yearly increase in percent. -/
def escalate (cost : Float) (yearlyIncrease : Option Float) (years : Nat) : Float :=
  match Input.present yearlyIncrease with
  | some rate => cost * Float.pow (1.0 + rate / 100.0) years.toFloat
  | none => cost

/-- Whether capacity of a vintage operates in a period. -/
def isOperating (period vintage : Nat) (lifetime : Option Float) : Bool :=
  vintage ≤ period &&
    match lifetime with
    | some life => (period - vintage).toFloat < life
    | none => false

/-- The loan lifetime: the lifetime, capped at the longest loan when one is given. -/
def loanLifetime (lifetime : Float) (maxLoanYears : Option Float) : Float :=
  match Input.present maxLoanYears with
  | some cap => Float.minNum cap lifetime
  | none => lifetime

/-- The activity limit of each period: zero once retired, else the maximum if there is one. -/
def maxActivityLimits (maxActivity retirement : Option Float) (periods : List Nat) :
    List (Nat × Float) :=
  periods.filterMap fun p =>
    let retired := retirement.any fun year => p.toFloat ≥ year
    if retired then some (p, 0.0) else maxActivity.map fun limit => (p, limit)

namespace Assembly

/-- The text cell of a technology's name. -/
def techCell (t : Technology) : Cell := .text t.name

/-- A capacity factor kept between 0 and 1, with a warning when it was outside. -/
def clampCapacityFactor (value : Float) (tech day timeOfDay : String) : Assembly Float := do
  if value < 0.0 then
    warn .technologies s!"Capacity factor less than 0.0, set to 0.0: {tech} {day} {timeOfDay}"
    return 0.0
  else if value > 1.0 then
    warn .technologies s!"Capacity factor greater than 1.0, set to 1.0: {tech} {day} {timeOfDay}"
    return 1.0
  else return value

/-- Capacity credit, the capacity-to-activity conversion and capacity factors. -/
def addCapacityRows (t : Technology) : Assembly Unit := do
  if let some credit := Input.present t.capacityCredit then
    push .capacityCredit [techCell t, .real credit]
  if t.capacityToActivity then
    push .capacityToActivity [techCell t, .real capacityToActivity, .text "GW to PJ"]
  match Input.present t.capacityFactor with
  | none => pure ()
  | some factor =>
    if t.sector != .electric then return
    let system := (← get).inputs.system
    let rows ←
      if system.hasCapacityFactorProfile t.input then
        (system.capacityFactors.filter (·.fuel == t.input)).mapM fun p => do
          let v ← clampCapacityFactor (p.factor * factor) t.name p.day p.timeOfDay
          pure [.text p.day, .text p.timeOfDay, techCell t, .real v, .text noteText]
      else
        pure (system.days.flatMap fun d => system.timesOfDay.map fun tod =>
          [.text d.name, .text tod.name, techCell t, .real factor, .text noteText])
    rows.forM (push .capacityFactorTech)

/-- Fixed, investment and variable costs, and the technology's discount rate. -/
def addCostRows (t : Technology) (s : BuildSchedule) : Assembly Unit := do
  let periods := (← get).periods
  let start := periods.startYear
  let lifetime := Input.present t.lifetime
  if let some cost := Input.present t.costFixed then
    periods.activeFuture.forM fun p => s.buildYears.forM fun v =>
      if isOperating p v lifetime then
        push .costFixed [.year p, techCell t, .year v, .real (escalate cost t.costFixedIncr (p - start)),
          .text "M USD/GW", .text noteText]
      else pure ()
  if let some cost := Input.present t.costInvest then
    s.futureBuildYears.forM fun v =>
      push .costInvest [techCell t, .year v, .real (escalate cost t.costInvestIncr (v - start)),
        .text "M USD/GW", .text noteText]
  if let some cost := Input.present t.costVariable then
    periods.activeFuture.forM fun p => s.buildYears.forM fun v =>
      if isOperating p v lifetime then
        push .costVariable [.year p, techCell t, .year v,
          .real (escalate cost t.costVariableIncr (p - start)), .text "M USD/PJ", .text noteText]
      else pure ()
  if let some rate := Input.present t.discountRate then
    let note := t.discountRateSource.getD ""
    s.buildYears.forM fun v => push .discountRate [techCell t, .year v, .real rate, .text note]

/-- Efficiency and emissions of every vintage. -/
def addFlowRows (t : Technology) (s : BuildSchedule) : Assembly Unit := do
  if let some e := Input.present t.efficiency then
    s.buildYears.forM fun v =>
      push .efficiency [.text t.input, techCell t, .year v, .text t.output, .real e, .text noteText]
  if let some e := Input.present t.emissionActivity then
    s.buildYears.forM fun v =>
      push .emissionActivity [.text emissionCommodity, .text t.input, techCell t, .year v,
        .text t.output, .real e, .text "kt/PJout", .text noteText]

/-- Existing capacity still in service when the model starts; gives its total in GW. -/
def addExistingCapacity (t : Technology) : Assembly Float := do
  let start := (← get).periods.startYear
  let lifetime := Input.present t.lifetime
  t.existing.foldlM (fun total unit => do
    if inServiceAt unit.year start lifetime then
      push .existingCapacity [techCell t, .year unit.year, .real unit.capacity, .text "GW", .text noteText]
      pure (total + unit.capacity)
    else pure total) 0.0

/-- Lifetime, loan lifetime and storage duration. -/
def addLifetimeRows (t : Technology) : Assembly Unit := do
  if let some life := Input.present t.lifetime then
    push .lifetimeTech [techCell t, .real life, .text noteText]
    let loan := loanLifetime life (← get).scenario.maxLoanYears
    push .lifetimeLoanTech [techCell t, .real loan, .text noteText]
  if t.storage then
    match Input.present t.storageDuration with
    | some hours => push .storageDuration [techCell t, .real hours, .text "hours"]
    | none =>
      let name := t.name
      warn .technologies s!"Storage technology {name} has no storage duration"

/-- The registry entry and the groups of the technology. -/
def addClassificationRows (t : Technology) : Assembly Unit := do
  let toggles := (← get).scenario.toggles
  let (flag, category) ←
    match t.sector with
    | .supply => pure ("r", "fuels")
    | .transport => pure ("p", "connections")
    | .electric =>
      if toggles.baseload && t.baseload then do
        push .techBaseload [techCell t]
        pure ("pb", "baseload")
      else if t.storage then pure ("ps", "storage")
      else pure ("p", "powerplant")
  push .technologies [techCell t, .text flag, .text t.sector.name, .text category, .text noteText]
  if toggles.reserveMargin && t.reserve then push .techReserve [techCell t]
  if toggles.rps && t.renewable then
    push .minGenGroup [techCell t, .text "RPS", .real 1.0, .text ""]

/-- Maximum and minimum capacity, and maximum activity with retirement. -/
def addConstraintRows (t : Technology) (s : BuildSchedule) : Assembly Unit := do
  let periods := s.constraintPeriods
  if let some cap := Input.present t.maxCapacity then
    periods.forM fun p => push .maxCapacity [.year p, techCell t, .real cap, .text "GW", .text noteText]
  let b ← get
  if b.scenario.toggles.minCapacityLimit then
    (b.inputs.system.minimumCapacities.filter fun l =>
        l.technology == t.name && periods.contains l.year).forM fun l =>
      push .minCapacity [.year l.year, techCell t, .real (l.capacity / 1000.0), .text "GW", .text noteText]
  (maxActivityLimits (Input.present t.maxActivity) (Input.present t.retirement) periods).forM
    fun (p, limit) => push .maxActivity [.year p, techCell t, .real limit, .text "PJ", .text noteText]

/-- Limits on the growth of new capacity, for power plants that can be built. -/
def addGrowthRows (t : Technology) (existing : Float) : Assembly Unit := do
  let scenario := (← get).scenario
  if !(scenario.toggles.growthLimit && t.newBuilds && t.sector == .electric) then return
  if let some rate := Input.present scenario.maxGrowthRate then
    push .growthRateMax [techCell t, .real (rate / 100.0), .text "Global Growth Limit - Fraction"]
  if let some seed := Input.present scenario.minGrowthSeed then
    push .growthRateSeed
      [techCell t, .real (Float.maxNum (seed / 1000.0) existing), .text "GW", .text "Global Growth Limit"]

/-- Ramp rates: one rate limits ramping both up and down. -/
def addRampingRows (t : Technology) : Assembly Unit := do
  if !(← get).scenario.toggles.ramping then return
  if let some rate := Input.present t.rampRate then
    push .techRamping [techCell t]
    push .rampUp [techCell t, .real rate]
    push .rampDown [techCell t, .real rate]

/-- Adds every row of a technology, after registering the vintages of its existing capacity
that are not yet periods. -/
def addTechnology (t : Technology) : Assembly Unit := do
  let b ← get
  let schedule := computeSchedule t.buildPolicy t.existingYears b.periods.activeFuture b.allTimePeriods
  addLegacyPeriods schedule.legacyPeriods
  addCapacityRows t
  addCostRows t schedule
  addFlowRows t schedule
  let existing ← addExistingCapacity t
  addLifetimeRows t
  addClassificationRows t
  addConstraintRows t schedule
  addGrowthRows t existing
  addRampingRows t

end Assembly

end EnergyModel
