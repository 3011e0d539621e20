import EnergyModel.Proofs.Assembly.Run

/-!
# The rows of each assembly step

Each step of an assembly succeeds, and the rows it appends are given here as a list of pushes,
in the order the step makes them. A step that is written as several parts, one after another,
has a list for each part: `creditPushes`, `conversionPushes` and `factorPushes` make up
`capacityPushes`, and so on. A step reads only the inputs, the scenario and the periods of the
builder, its `Setting`; registering a commodity and making the vintages of existing capacity
periods are the steps whose effect depends on what came before (`Builder.register`,
`Builder.addPeriod`).

Every pushed row has as many values as its relation has columns, so no push fails.
-/

namespace EnergyModel

open Assembly

/-- What the rows of a technology are made from: the inputs, the scenario and the periods. -/
structure Setting where
  inputs : Input.InputTables
  scenario : Scenario
  periods : Periods

/-- The setting of a builder. -/
def Builder.setting (b : Builder) : Setting := ⟨b.inputs, b.scenario, b.periods⟩

@[simp] theorem Builder.emit_setting (b : Builder) (L : List (Relation × Tuple)) :
    (b.emit L).setting = b.setting := rfl

/-! ## Capacity -/

/-- A capacity factor kept between 0 and 1. -/
def clampUnit (v : Float) : Float := if v < 0.0 then 0.0 else if v > 1.0 then 1.0 else v

/-- The capacity credit, when present. -/
def creditPushes (t : Technology) : List (Relation × Tuple) :=
  (Input.present t.capacityCredit).toList.map fun credit =>
    (.capacityCredit, [techCell t, .real credit])

/-- The conversion from capacity to activity, when the technology needs one. -/
def conversionPushes (t : Technology) : List (Relation × Tuple) :=
  if t.capacityToActivity then
    [(.capacityToActivity, [techCell t, .real capacityToActivity, .text "GW to PJ"])]
  else []

/-- The capacity-factor rows of an electric technology with capacity factor `factor`: the fuel's
profile, scaled and kept between 0 and 1, or else the factor in every time slice. -/
def capacityFactorRows (system : Input.SystemTables) (t : Technology) (factor : Float) :
    List Tuple :=
  if system.hasCapacityFactorProfile t.input then
    (system.capacityFactors.filter (·.fuel == t.input)).map fun p =>
      [.text p.day, .text p.timeOfDay, techCell t, .real (clampUnit (p.factor * factor)),
       .text noteText]
  else
    system.days.flatMap fun d => system.timesOfDay.map fun tod =>
      [.text d.name, .text tod.name, techCell t, .real factor, .text noteText]

/-- The capacity factors, for an electric technology whose capacity factor is present. -/
def factorPushes (system : Input.SystemTables) (t : Technology) : List (Relation × Tuple) :=
  (Input.present t.capacityFactor).toList.flatMap fun factor =>
    if t.sector != .electric then []
    else (capacityFactorRows system t factor).map fun row => (.capacityFactorTech, row)

/-- Capacity credit, capacity-to-activity conversion and capacity factors. -/
def capacityPushes (system : Input.SystemTables) (t : Technology) : List (Relation × Tuple) :=
  creditPushes t ++ conversionPushes t ++ factorPushes system t

/-- The warning written when a capacity factor is moved to 0 or to 1. -/
def clampNotes (v : Float) (tech day timeOfDay : String) : List Note :=
  if v < 0.0 then
    [⟨.warn, .technologies, s!"Capacity factor less than 0.0, set to 0.0: {tech} {day} {timeOfDay}"⟩]
  else if v > 1.0 then
    [⟨.warn, .technologies,
      s!"Capacity factor greater than 1.0, set to 1.0: {tech} {day} {timeOfDay}"⟩]
  else []

/-- The warnings of the capacity-factor rows of an electric technology with capacity factor
`factor`: those of the rows of its fuel's profile, in order. -/
def capacityFactorNotes (system : Input.SystemTables) (t : Technology) (factor : Float) :
    List Note :=
  if system.hasCapacityFactorProfile t.input then
    (system.capacityFactors.filter (·.fuel == t.input)).flatMap fun p =>
      clampNotes (p.factor * factor) t.name p.day p.timeOfDay
  else []

/-- The warnings of a technology's capacity factors. -/
def capacityNotes (system : Input.SystemTables) (t : Technology) : List Note :=
  (Input.present t.capacityFactor).toList.flatMap fun factor =>
    if t.sector != .electric then [] else capacityFactorNotes system t factor

theorem Logs.clampCapacityFactor (v : Float) (tech day timeOfDay : String) (b : Builder) :
    Logs (clampCapacityFactor v tech day timeOfDay) b (clampUnit v) b
      (clampNotes v tech day timeOfDay) := by
  unfold Assembly.clampCapacityFactor clampUnit clampNotes
  by_cases h₀ : v < 0.0
  · simp only [if_pos h₀]
    exact Logs.bind Logs.warn Logs.pure
  · by_cases h₁ : v > 1.0
    · simp only [if_neg h₀, if_pos h₁]
      exact Logs.bind Logs.warn Logs.pure
    · simp only [if_neg h₀, if_neg h₁]
      exact Logs.pure

theorem Runs.clampCapacityFactor (v : Float) (tech day timeOfDay : String) (b : Builder) :
    Runs (clampCapacityFactor v tech day timeOfDay) b (clampUnit v) b :=
  (Logs.clampCapacityFactor v tech day timeOfDay b).runs

/-- The capacity rows of a technology, with the warnings of the capacity factors that had to be
moved into `[0, 1]`. -/
theorem Logs.addCapacityRows (t : Technology) (b : Builder) :
    Logs (addCapacityRows t) b () (b.emit (capacityPushes b.inputs.system t))
      (capacityNotes b.inputs.system t) := by
  unfold Assembly.addCapacityRows capacityPushes
  extract_lets +lift pushFactors afterConversion afterCredit
  have hfactors : ∀ B : Builder, B.inputs = b.inputs →
      Logs (afterConversion ()) B () (B.emit (factorPushes b.inputs.system t))
        (capacityNotes b.inputs.system t) := by
    intro B hB
    simp only [afterConversion, factorPushes, capacityNotes]
    cases Input.present t.capacityFactor with
    | none => simpa using Logs.pure
    | some factor =>
      simp only [Option.toList_some, List.flatMap_singleton]
      by_cases hs : (t.sector != Sector.electric) = true
      · simpa [hs] using Logs.pure
      · simp only [hs, Bool.false_eq_true, if_false]
        refine Logs.get_bind fun ns => ?_
        simp only [hB, capacityFactorRows, capacityFactorNotes]
        by_cases hp : b.inputs.system.hasCapacityFactorProfile t.input = true
        · simp only [hp, if_true]
          -- each profile row is clamped, with its warning, before the rows are pushed
          rw [← List.append_nil (List.flatMap _ _)]
          refine Logs.bind (Logs.mapM fun p _ =>
            Logs.bind_pure (Logs.clampCapacityFactor _ _ _ _ _)) ?_
          exact Logs.forM_pushEach fun row hrow => by
            obtain ⟨p, -, rfl⟩ := List.mem_map.mp hrow
            rfl
        · simp only [hp, Bool.false_eq_true, if_false]
          refine Logs.bind Logs.pure ?_
          exact Logs.forM_pushEach fun row hrow => by
            obtain ⟨d, -, hd⟩ := List.mem_flatMap.mp hrow
            obtain ⟨tod, -, rfl⟩ := List.mem_map.mp hd
            rfl
  have hconversion : ∀ B : Builder, B.inputs = b.inputs →
      Logs (afterCredit ()) B ()
        (B.emit (conversionPushes t ++ factorPushes b.inputs.system t))
        (capacityNotes b.inputs.system t) := by
    intro B hB
    simp only [afterCredit, conversionPushes]
    cases t.capacityToActivity with
    | false => simpa using hfactors B hB
    | true => simpa using Logs.bind (Logs.push rfl) (hfactors _ hB)
  simp only [creditPushes]
  cases Input.present t.capacityCredit with
  | none => simpa using hconversion b rfl
  | some credit => simpa using Logs.bind (Logs.push rfl) (hconversion _ rfl)

theorem Runs.addCapacityRows (t : Technology) (b : Builder) :
    Runs (addCapacityRows t) b () (b.emit (capacityPushes b.inputs.system t)) :=
  (Logs.addCapacityRows t b).runs

/-! ## Costs -/

/-- Fixed costs: in every period open for investment, for every vintage operating in it,
escalated from the first period. -/
def fixedCostPushes (periods : Periods) (t : Technology) (s : BuildSchedule) :
    List (Relation × Tuple) :=
  (Input.present t.costFixed).toList.flatMap fun cost =>
    periods.activeFuture.flatMap fun p => s.buildYears.flatMap fun v =>
      if isOperating p v (Input.present t.lifetime) then
        [(.costFixed, [.year p, techCell t, .year v,
          .real (escalate cost t.costFixedIncr (p - periods.startYear)), .text "M USD/GW",
          .text noteText])]
      else []

/-- Investment costs: for every vintage of new builds, escalated from the first period. -/
def investCostPushes (periods : Periods) (t : Technology) (s : BuildSchedule) :
    List (Relation × Tuple) :=
  (Input.present t.costInvest).toList.flatMap fun cost =>
    s.futureBuildYears.map fun v =>
      (.costInvest, [techCell t, .year v,
        .real (escalate cost t.costInvestIncr (v - periods.startYear)), .text "M USD/GW",
        .text noteText])

/-- Variable costs, made as the fixed costs are. -/
def variableCostPushes (periods : Periods) (t : Technology) (s : BuildSchedule) :
    List (Relation × Tuple) :=
  (Input.present t.costVariable).toList.flatMap fun cost =>
    periods.activeFuture.flatMap fun p => s.buildYears.flatMap fun v =>
      if isOperating p v (Input.present t.lifetime) then
        [(.costVariable, [.year p, techCell t, .year v,
          .real (escalate cost t.costVariableIncr (p - periods.startYear)), .text "M USD/PJ",
          .text noteText])]
      else []

/-- The technology's discount rate, for every vintage. -/
def discountRatePushes (t : Technology) (s : BuildSchedule) : List (Relation × Tuple) :=
  (Input.present t.discountRate).toList.flatMap fun rate =>
    s.buildYears.map fun v =>
      (.discountRate, [techCell t, .year v, .real rate, .text (t.discountRateSource.getD "")])

/-- Fixed, investment and variable costs, and the technology's discount rate. -/
def costPushes (periods : Periods) (t : Technology) (s : BuildSchedule) :
    List (Relation × Tuple) :=
  fixedCostPushes periods t s ++ investCostPushes periods t s ++ variableCostPushes periods t s ++
    discountRatePushes t s

theorem Runs.addCostRows (t : Technology) (s : BuildSchedule) (b : Builder) :
    Runs (addCostRows t s) b () (b.emit (costPushes b.periods t s)) := by
  unfold Assembly.addCostRows costPushes
  refine Runs.get_bind fun ns => ?_
  extract_lets +lift periods start lifetime note afterVariable afterInvest afterFixed
  have hdiscount : ∀ B : Builder,
      Runs (afterVariable ()) B () (B.emit (discountRatePushes t s)) := by
    intro B
    simp only [afterVariable, discountRatePushes]
    cases Input.present t.discountRate with
    | none => simpa using Runs.pure
    | some rate =>
      simp only [Option.toList_some, List.flatMap_singleton]
      exact Runs.forM_push fun _ _ => rfl
  have hvariable : ∀ B : Builder, Runs (afterInvest ()) B ()
      (B.emit (variableCostPushes b.periods t s ++ discountRatePushes t s)) := by
    intro B
    simp only [afterInvest, variableCostPushes]
    cases Input.present t.costVariable with
    | none => simpa using hdiscount B
    | some cost =>
      simpa using Runs.bind (Runs.forM fun p _ B => Runs.forM fun v _ B => Runs.pushIf rfl)
        (hdiscount _)
  have hinvest : ∀ B : Builder, Runs (afterFixed ()) B ()
      (B.emit (investCostPushes b.periods t s ++ variableCostPushes b.periods t s ++
        discountRatePushes t s)) := by
    intro B
    simp only [afterFixed, investCostPushes]
    cases Input.present t.costInvest with
    | none => simpa using hvariable B
    | some cost => simpa using Runs.bind (Runs.forM_push fun _ _ => rfl) (hvariable _)
  simp only [fixedCostPushes]
  cases Input.present t.costFixed with
  | none => simpa using hinvest b
  | some cost =>
    simpa using Runs.bind (Runs.forM fun p _ B => Runs.forM fun v _ B => Runs.pushIf rfl)
      (hinvest _)

/-! ## Efficiency and emissions -/

/-- The efficiency of every vintage. -/
def efficiencyPushes (t : Technology) (s : BuildSchedule) : List (Relation × Tuple) :=
  (Input.present t.efficiency).toList.flatMap fun e =>
    s.buildYears.map fun v =>
      (.efficiency, [.text t.input, techCell t, .year v, .text t.output, .real e, .text noteText])

/-- The emissions of every vintage. -/
def emissionPushes (t : Technology) (s : BuildSchedule) : List (Relation × Tuple) :=
  (Input.present t.emissionActivity).toList.flatMap fun e =>
    s.buildYears.map fun v =>
      (.emissionActivity, [.text emissionCommodity, .text t.input, techCell t, .year v,
        .text t.output, .real e, .text "kt/PJout", .text noteText])

theorem Runs.addFlowRows (t : Technology) (s : BuildSchedule) (b : Builder) :
    Runs (addFlowRows t s) b () (b.emit (efficiencyPushes t s ++ emissionPushes t s)) := by
  unfold Assembly.addFlowRows
  extract_lets +lift afterEfficiency
  have hemission : ∀ B : Builder,
      Runs (afterEfficiency ()) B () (B.emit (emissionPushes t s)) := by
    intro B
    simp only [afterEfficiency, emissionPushes]
    cases Input.present t.emissionActivity with
    | none => simpa using Runs.pure
    | some e =>
      simp only [Option.toList_some, List.flatMap_singleton]
      exact Runs.forM_push fun _ _ => rfl
  simp only [efficiencyPushes]
  cases Input.present t.efficiency with
  | none => simpa using hemission b
  | some e => simpa using Runs.bind (Runs.forM_push fun _ _ => rfl) (hemission _)

/-! ## Existing capacity -/

/-- Existing capacity still in service when the model starts, one row per unit. -/
def existingPushes (periods : Periods) (t : Technology) : List (Relation × Tuple) :=
  t.existing.flatMap fun unit =>
    if inServiceAt unit.year periods.startYear (Input.present t.lifetime) then
      [(.existingCapacity, [techCell t, .year unit.year, .real unit.capacity, .text "GW",
        .text noteText])]
    else []

/-- The total existing capacity still in service when the model starts, in GW. -/
def existingTotal (periods : Periods) (t : Technology) : Float :=
  t.existing.foldl (fun total unit =>
    if inServiceAt unit.year periods.startYear (Input.present t.lifetime) then
      total + unit.capacity
    else total) 0.0

theorem Runs.addExistingCapacity (t : Technology) (b : Builder) :
    Runs (addExistingCapacity t) b (existingTotal b.periods t)
      (b.emit (existingPushes b.periods t)) := by
  unfold Assembly.addExistingCapacity existingTotal existingPushes
  refine Runs.get_bind fun ns => ?_
  refine Runs.foldlM fun total unit _ B => ?_
  cases inServiceAt unit.year b.periods.startYear (Input.present t.lifetime) with
  | false => simpa using Runs.pure
  | true => exact Runs.bind (Runs.push rfl) Runs.pure

/-! ## Lifetimes -/

/-- The lifetime and the loan lifetime, when the lifetime is present. -/
def lifetimePushes (scenario : Scenario) (t : Technology) : List (Relation × Tuple) :=
  (Input.present t.lifetime).toList.flatMap fun life =>
    [(.lifetimeTech, [techCell t, .real life, .text noteText]),
     (.lifetimeLoanTech, [techCell t, .real (loanLifetime life scenario.maxLoanYears),
       .text noteText])]

/-- The storage duration of a storage technology, when it is present. -/
def storagePushes (t : Technology) : List (Relation × Tuple) :=
  if t.storage then
    (Input.present t.storageDuration).toList.map fun hours =>
      (.storageDuration, [techCell t, .real hours, .text "hours"])
  else []

theorem Runs.addLifetimeRows (t : Technology) (b : Builder) :
    Runs (addLifetimeRows t) b () (b.emit (lifetimePushes b.scenario t ++ storagePushes t)) := by
  unfold Assembly.addLifetimeRows
  extract_lets +lift name afterLifetime
  have hstorage : ∀ B : Builder, Runs (afterLifetime ()) B () (B.emit (storagePushes t)) := by
    intro B
    simp only [afterLifetime, storagePushes]
    cases t.storage with
    | false => simpa using Runs.pure
    | true =>
      cases Input.present t.storageDuration with
      | none => simpa using Runs.warn
      | some hours => simpa using Runs.push (by rfl)
  simp only [lifetimePushes]
  cases Input.present t.lifetime with
  | none => simpa using hstorage b
  | some life =>
    refine Runs.bind (Runs.push (by rfl)) (Runs.get_bind fun ns => ?_)
    refine Runs.bind (Runs.push (by rfl)) ?_
    exact (hstorage _).trans_eq (by simp)

/-! ## Classification -/

/-- The flag and the category of a technology in the registry. -/
def registryEntry (toggles : Toggles) (t : Technology) : String × String :=
  match t.sector with
  | .supply => ("r", "fuels")
  | .transport => ("p", "connections")
  | .electric =>
    if toggles.baseload && t.baseload then ("pb", "baseload")
    else if t.storage then ("ps", "storage")
    else ("p", "powerplant")

/-- Membership of the baseload group, for an electric baseload technology when baseload
constraints are on. -/
def baseloadPushes (toggles : Toggles) (t : Technology) : List (Relation × Tuple) :=
  if t.sector = .electric ∧ (toggles.baseload && t.baseload) = true then
    [(.techBaseload, [techCell t])]
  else []

/-- The reserve and renewable groups, when their constraints are switched on. -/
def groupPushes (toggles : Toggles) (t : Technology) : List (Relation × Tuple) :=
  (if toggles.reserveMargin && t.reserve then [((.techReserve, [techCell t]) : Relation × Tuple)]
    else []) ++
  (if toggles.rps && t.renewable then
    [((.minGenGroup, [techCell t, .text "RPS", .real 1.0, .text ""]) : Relation × Tuple)] else [])

/-- The registry row of a technology with the given flag and category. -/
def registryRow (t : Technology) (entry : String × String) : Relation × Tuple :=
  (.technologies, [techCell t, .text entry.1, .text t.sector.name, .text entry.2, .text noteText])

theorem Runs.addClassificationRows (t : Technology) (b : Builder) :
    Runs (addClassificationRows t) b ()
      (b.emit (baseloadPushes b.scenario.toggles t ++
        registryRow t (registryEntry b.scenario.toggles t) :: groupPushes b.scenario.toggles t)) := by
  unfold Assembly.addClassificationRows
  refine Runs.get_bind fun ns => ?_
  extract_lets +lift toggles afterReserve afterEntry
  have hentry : ∀ (B : Builder) (entry : String × String), Runs (afterEntry entry) B ()
      (B.emit (registryRow t entry :: groupPushes b.scenario.toggles t)) := by
    intro B ⟨flag, category⟩
    simp only [afterEntry, afterReserve, toggles, groupPushes]
    refine Runs.bind (Runs.push (by rfl)) ?_
    cases b.scenario.toggles.reserveMargin && t.reserve with
    | false =>
      simp only [Bool.false_eq_true, ↓reduceIte]
      exact (Runs.pushIf (by rfl)).trans_eq (by simp [registryRow])
    | true =>
      simp only [↓reduceIte]
      exact (Runs.bind (Runs.push (by rfl)) (Runs.pushIf (by rfl))).trans_eq
        (by simp [registryRow])
  simp only [baseloadPushes, toggles]
  cases hsector : t.sector with
  | supply => exact (Runs.bind Runs.pure (hentry b _)).trans_eq (by simp [registryEntry, hsector])
  | transport =>
    exact (Runs.bind Runs.pure (hentry b _)).trans_eq (by simp [registryEntry, hsector])
  | electric =>
    by_cases hbase : (b.scenario.toggles.baseload && t.baseload) = true
    · simp only [hbase, and_self, ↓reduceIte]
      refine Runs.bind (Runs.push (by rfl)) ?_
      exact (Runs.bind Runs.pure (hentry _ ("pb", "baseload"))).trans_eq
        (by simp [registryEntry, hsector, hbase])
    · by_cases hstorage : t.storage = true
      · simp only [hbase, hstorage, and_false, Bool.false_eq_true, ↓reduceIte]
        exact (Runs.bind Runs.pure (hentry b ("ps", "storage"))).trans_eq
          (by simp [registryEntry, hsector, hbase, hstorage])
      · simp only [hbase, hstorage, and_false, Bool.false_eq_true, ↓reduceIte]
        exact (Runs.bind Runs.pure (hentry b ("p", "powerplant"))).trans_eq
          (by simp [registryEntry, hsector, hbase, hstorage])

/-! ## Constraints -/

/-- The maximum capacity, in every period a constraint can name. -/
def maxCapacityPushes (t : Technology) (s : BuildSchedule) : List (Relation × Tuple) :=
  (Input.present t.maxCapacity).toList.flatMap fun cap =>
    s.constraintPeriods.map fun p => (.maxCapacity, [.year p, techCell t, .real cap, .text "GW",
      .text noteText])

/-- The minimum capacities the system names for the technology in periods a constraint can
name, converted from MW to GW, when minimum capacity constraints are on. -/
def minCapacityPushes (system : Input.SystemTables) (toggles : Toggles) (t : Technology)
    (s : BuildSchedule) : List (Relation × Tuple) :=
  if toggles.minCapacityLimit then
    (system.minimumCapacities.filter fun l =>
        l.technology == t.name && s.constraintPeriods.contains l.year).map fun l =>
      (.minCapacity, [.year l.year, techCell t, .real (l.capacity / 1000.0), .text "GW",
        .text noteText])
  else []

/-- The maximum activity of every period, limited by retirement. -/
def maxActivityPushes (t : Technology) (s : BuildSchedule) : List (Relation × Tuple) :=
  (maxActivityLimits (Input.present t.maxActivity) (Input.present t.retirement)
      s.constraintPeriods).map fun lim =>
    (.maxActivity, [.year lim.1, techCell t, .real lim.2, .text "PJ", .text noteText])

theorem Runs.addConstraintRows (t : Technology) (s : BuildSchedule) (b : Builder) :
    Runs (addConstraintRows t s) b ()
      (b.emit (maxCapacityPushes t s ++
        minCapacityPushes b.inputs.system b.scenario.toggles t s ++ maxActivityPushes t s)) := by
  unfold Assembly.addConstraintRows
  extract_lets +lift periods afterMin afterMaxCapacity
  have hactivity : ∀ B : Builder, Runs (afterMin ()) B () (B.emit (maxActivityPushes t s)) := by
    intro B
    simp only [afterMin, maxActivityPushes, List.map_eq_flatMap]
    exact Runs.forM fun ⟨p, limit⟩ _ B' => Runs.push (by rfl)
  -- the minimum capacities are read from the builder as the maximum ones left it
  have hmin : ∀ B : Builder, B.setting = b.setting → Runs (afterMaxCapacity ()) B ()
      (B.emit (minCapacityPushes b.inputs.system b.scenario.toggles t s ++
        maxActivityPushes t s)) := by
    intro B hB
    obtain ⟨hinputs, hscenario, -⟩ := Setting.mk.inj hB
    simp only [afterMaxCapacity]
    refine Runs.get_bind fun ns => ?_
    simp only [minCapacityPushes, ← hinputs, ← hscenario]
    cases B.scenario.toggles.minCapacityLimit with
    | false => simpa using hactivity B
    | true =>
      simp only [↓reduceIte]
      exact (Runs.bind (Runs.forM_push fun _ _ => rfl) (hactivity _)).trans_eq
        (by simp [periods])
  simp only [maxCapacityPushes]
  cases Input.present t.maxCapacity with
  | none => simpa using hmin b rfl
  | some cap =>
    exact (Runs.bind (Runs.forM_push fun _ _ => rfl) (hmin _ (by simp))).trans_eq
      (by simp [periods])

/-! ## Growth and ramping -/

/-- The scenario's maximum growth rate, from a percentage to a fraction. -/
def growthMaxPushes (scenario : Scenario) (t : Technology) : List (Relation × Tuple) :=
  (Input.present scenario.maxGrowthRate).toList.map fun rate =>
    (.growthRateMax, [techCell t, .real (rate / 100.0), .text "Global Growth Limit - Fraction"])

/-- The growth seed: the scenario's seed from MW to GW, or the existing capacity when that is
larger. -/
def growthSeedPushes (scenario : Scenario) (t : Technology) (existing : Float) :
    List (Relation × Tuple) :=
  (Input.present scenario.minGrowthSeed).toList.map fun seed =>
    (.growthRateSeed, [techCell t, .real (Float.maxNum (seed / 1000.0) existing), .text "GW",
      .text "Global Growth Limit"])

/-- Growth limits apply to power plants that can be built, when they are switched on. -/
def growthApplies (toggles : Toggles) (t : Technology) : Bool :=
  toggles.growthLimit && t.newBuilds && t.sector == .electric

/-- The growth limits of a technology with the given existing capacity. -/
def growthPushes (scenario : Scenario) (t : Technology) (existing : Float) :
    List (Relation × Tuple) :=
  if growthApplies scenario.toggles t then
    growthMaxPushes scenario t ++ growthSeedPushes scenario t existing
  else []

theorem Runs.addGrowthRows (t : Technology) (existing : Float) (b : Builder) :
    Runs (addGrowthRows t existing) b () (b.emit (growthPushes b.scenario t existing)) := by
  unfold Assembly.addGrowthRows
  refine Runs.get_bind fun ns => ?_
  extract_lets +lift scenario afterMax
  have hseed : ∀ B : Builder, Runs (afterMax ()) B () (B.emit (growthSeedPushes b.scenario t existing)) := by
    intro B
    simp only [afterMax, scenario, growthSeedPushes]
    cases Input.present b.scenario.minGrowthSeed with
    | none => simpa using Runs.pure
    | some seed => simpa using Runs.push (by rfl)
  simp only [growthPushes, growthApplies, scenario]
  by_cases happlies : (b.scenario.toggles.growthLimit && t.newBuilds && t.sector == .electric) = true
  · simp only [happlies, growthMaxPushes, Bool.not_true, Bool.false_eq_true, ↓reduceIte]
    cases Input.present b.scenario.maxGrowthRate with
    | none => simpa using hseed b
    | some rate => exact (Runs.bind (Runs.push (by rfl)) (hseed _)).trans_eq (by simp)
  · simp only [happlies, Bool.not_false, Bool.false_eq_true, ↓reduceIte]
    simpa using Runs.pure

/-- The ramp rate, limiting ramping up and down, when ramping constraints are on. -/
def rampingPushes (toggles : Toggles) (t : Technology) : List (Relation × Tuple) :=
  if toggles.ramping then
    (Input.present t.rampRate).toList.flatMap fun rate =>
      [(.techRamping, [techCell t]), (.rampUp, [techCell t, .real rate]),
       (.rampDown, [techCell t, .real rate])]
  else []

theorem Runs.addRampingRows (t : Technology) (b : Builder) :
    Runs (addRampingRows t) b () (b.emit (rampingPushes b.scenario.toggles t)) := by
  unfold Assembly.addRampingRows rampingPushes
  refine Runs.get_bind fun ns => ?_
  cases b.scenario.toggles.ramping with
  | false => simpa using Runs.pure
  | true =>
    simp only [Bool.not_true, Bool.false_eq_true, ↓reduceIte]
    cases Input.present t.rampRate with
    | none => simpa using Runs.pure
    | some rate =>
      exact (Runs.bind (Runs.push (by rfl)) (Runs.bind (Runs.push (by rfl))
        (Runs.push (by rfl)))).trans_eq (by simp)

/-! ## Periods and commodities

These two steps read what came before: a vintage becomes a period, and a commodity is
registered, only once.
-/

/-- Makes a vintage a period, flagged `e`, unless the model has it already. -/
def Builder.addPeriod (b : Builder) (y : Nat) : Builder :=
  if b.allTimePeriods.contains y then b
  else { b with allTimePeriods := b.allTimePeriods ++ [y] }.emit [(.timePeriods, [.year y, .text "e"])]

/-- Registers a commodity, with its row, unless it is registered already. -/
def Builder.register (b : Builder) (id flag description : String) : Builder :=
  if b.commodities.contains id then b
  else { b with commodities := b.commodities ++ [id] }.emit
    [(.commodities, [.text id, .text flag, .text description])]

theorem Logs.addLegacyPeriods (years : List Nat) (b : Builder) :
    Logs (addLegacyPeriods years) b () (years.foldl Builder.addPeriod b) [] := by
  unfold Assembly.addLegacyPeriods
  refine Logs.forM_fold fun y _ B => Logs.get_bind fun ns => ?_
  simp only [Builder.addPeriod]
  cases B.allTimePeriods.contains y with
  | true => exact Logs.pure
  | false => exact Logs.bind (Logs.update fun _ => rfl) (Logs.push (by rfl))

theorem Runs.addLegacyPeriods (years : List Nat) (b : Builder) :
    Runs (addLegacyPeriods years) b () (years.foldl Builder.addPeriod b) :=
  (Logs.addLegacyPeriods years b).runs

theorem Runs.registerCommodity (id flag description : String) (b : Builder) :
    Runs (registerCommodity id flag description) b (!b.commodities.contains id)
      (b.register id flag description) := by
  unfold Assembly.registerCommodity Builder.register
  refine Runs.get_bind fun ns => ?_
  simp only
  cases b.commodities.contains id with
  | true => exact Runs.pure
  | false => exact Runs.bind (Runs.update fun _ => rfl) (Runs.bind (Runs.push (by rfl)) Runs.pure)

@[simp] theorem Builder.addPeriod_setting (b : Builder) (y : Nat) :
    (b.addPeriod y).setting = b.setting := by
  unfold Builder.addPeriod
  split <;> rfl

@[simp] theorem Builder.foldl_addPeriod_setting (b : Builder) (years : List Nat) :
    (years.foldl Builder.addPeriod b).setting = b.setting := by
  induction years generalizing b with
  | nil => rfl
  | cons y ys ih => simp [ih]

@[simp] theorem Builder.foldl_addPeriod_inputs (b : Builder) (years : List Nat) :
    (years.foldl Builder.addPeriod b).inputs = b.inputs :=
  congrArg Setting.inputs (Builder.foldl_addPeriod_setting b years)

@[simp] theorem Builder.foldl_addPeriod_scenario (b : Builder) (years : List Nat) :
    (years.foldl Builder.addPeriod b).scenario = b.scenario :=
  congrArg Setting.scenario (Builder.foldl_addPeriod_setting b years)

@[simp] theorem Builder.foldl_addPeriod_periods (b : Builder) (years : List Nat) :
    (years.foldl Builder.addPeriod b).periods = b.periods :=
  congrArg Setting.periods (Builder.foldl_addPeriod_setting b years)

@[simp] theorem Builder.register_setting (b : Builder) (id flag description : String) :
    (b.register id flag description).setting = b.setting := by
  unfold Builder.register
  split <;> rfl

/-! ## A technology -/

/-- The schedule a technology's rows are made from. -/
def techSchedule (c : Setting) (t : Technology) : BuildSchedule :=
  computeSchedule t.buildPolicy t.existingYears c.periods.activeFuture []

/-- The periods a model already has change only the legacy periods of a schedule. -/
theorem computeSchedule_eq_known (policy : BuildPolicy) (existing future known : List Nat) :
    computeSchedule policy existing future known =
      { computeSchedule policy existing future [] with
        legacyPeriods := (computeSchedule policy existing future known).legacyPeriods } := by
  unfold computeSchedule
  split <;> rfl

/-- Every row of a technology but those of the periods its existing capacity adds, in the
order they are made. -/
def techPushes (c : Setting) (t : Technology) : List (Relation × Tuple) :=
  let s := techSchedule c t
  capacityPushes c.inputs.system t ++ costPushes c.periods t s ++
    (efficiencyPushes t s ++ emissionPushes t s) ++ existingPushes c.periods t ++
    (lifetimePushes c.scenario t ++ storagePushes t) ++
    (baseloadPushes c.scenario.toggles t ++
      registryRow t (registryEntry c.scenario.toggles t) :: groupPushes c.scenario.toggles t) ++
    (maxCapacityPushes t s ++ minCapacityPushes c.inputs.system c.scenario.toggles t s ++
      maxActivityPushes t s) ++
    growthPushes c.scenario t (existingTotal c.periods t) ++ rampingPushes c.scenario.toggles t

/-- The builder once a technology is added: first the new periods of its existing capacity,
then its rows. -/
def Builder.withTechnology (b : Builder) (t : Technology) : Builder :=
  ((computeSchedule t.buildPolicy t.existingYears b.periods.activeFuture
      b.allTimePeriods).legacyPeriods.foldl Builder.addPeriod b).emit (techPushes b.setting t)

/-- Adding a technology: the warnings of its capacity factors come first. -/
theorem LogsFirst.addTechnology (t : Technology) (b : Builder) :
    LogsFirst (addTechnology t) b () (b.withTechnology t) (capacityNotes b.inputs.system t) := by
  unfold Assembly.addTechnology
  refine LogsFirst.get_bind fun ns => ?_
  extract_lets schedule
  have hs : schedule = { techSchedule b.setting t with legacyPeriods := schedule.legacyPeriods } :=
    computeSchedule_eq_known _ _ _ _
  refine Logs.bind_logsFirst (Logs.addLegacyPeriods _ _) ?_
  have hcapacity := Logs.addCapacityRows t (schedule.legacyPeriods.foldl Builder.addPeriod b)
  rw [Builder.foldl_addPeriod_inputs] at hcapacity
  refine Logs.bind_runs hcapacity ?_
  refine Runs.bind (Runs.addCostRows _ _ _) ?_
  refine Runs.bind (Runs.addFlowRows _ _ _) ?_
  refine Runs.bind (Runs.addExistingCapacity _ _) ?_
  refine Runs.bind (Runs.addLifetimeRows _ _) ?_
  refine Runs.bind (Runs.addClassificationRows _ _) ?_
  refine Runs.bind (Runs.addConstraintRows _ _ _) ?_
  refine Runs.bind (Runs.addGrowthRows _ _ _) ?_
  refine (Runs.addRampingRows _ _).trans_eq ?_
  simp only [Builder.emit_inputs, Builder.emit_scenario, Builder.emit_periods,
    Builder.foldl_addPeriod_inputs, Builder.foldl_addPeriod_scenario,
    Builder.foldl_addPeriod_periods, Builder.emit_emit, Builder.withTechnology, techPushes]
  rw [hs]
  rfl

theorem Runs.addTechnology (t : Technology) (b : Builder) :
    Runs (addTechnology t) b () (b.withTechnology t) :=
  (LogsFirst.addTechnology t b).runs

/-! ## The system-wide stage -/

/-- The rows of the system-wide stage before its commodities are registered: the periods, the
time slices, the demand and its split over the slices. -/
def calendarPushes (c : Setting) : List (Relation × Tuple) :=
  let system := c.inputs.system
  -- each pair is ascribed: without an expected type, the appended lists make the elaborator
  -- try every constructor name before it postpones them
  c.periods.future.map (fun y => ((.timePeriods, [.year y, .text "f"]) : Relation × Tuple)) ++
    system.days.map (fun d => ((.timeSeason, [.text d.name]) : Relation × Tuple)) ++
    system.timesOfDay.map (fun t => ((.timeOfDay, [.text t.name]) : Relation × Tuple)) ++
    system.days.flatMap (fun d => system.timesOfDay.map fun t =>
      ((.segFrac, [.text d.name, .text t.name, .real (d.timeFraction * t.timeFraction),
        .text noteText]) : Relation × Tuple)) ++
    (c.periods.activeFuture.zip system.demand).map (fun e =>
      ((.demand, [.year e.1, .text demandCommodity, .real e.2.demand, .text "PJ",
        .text noteText]) : Relation × Tuple)) ++
    system.days.flatMap (fun d => (system.demandShares.filter (·.day == d.name)).map fun s =>
      ((.demandSpecificDistribution, [.text d.name, .text s.timeOfDay, .text demandCommodity,
        .real (d.demandFraction * s.fraction), .text noteText]) : Relation × Tuple))

/-- The global discount rate, when the system gives one. -/
def globalRatePushes (system : Input.SystemTables) : List (Relation × Tuple) :=
  system.discountRate.toList.map fun rate => (.globalDiscountRate, [.real rate])

/-- The emission limits, when they are switched on. -/
def emissionLimitPushes (system : Input.SystemTables) (toggles : Toggles) :
    List (Relation × Tuple) :=
  if toggles.emissionLimit then
    system.emissionLimits.map fun l =>
      (.emissionLimit, [.year l.period, .text l.commodity, .real l.limit, .text l.units,
        .text l.notes])
  else []

/-- The reserve margin, when it is switched on and given. -/
def reserveMarginPushes (system : Input.SystemTables) (toggles : Toggles) :
    List (Relation × Tuple) :=
  if toggles.reserveMargin then
    system.reserveMargin.toList.map fun margin =>
      (.reserveMargin, [.text demandCommodity, .real margin])
  else []

/-- The renewable share of every period open for investment that gives one, when the renewable
portfolio standard is switched on. -/
def renewablePushes (c : Setting) : List (Relation × Tuple) :=
  if c.scenario.toggles.rps then
    (c.periods.activeFuture.zip c.inputs.system.demand).flatMap fun e =>
      e.2.renewableShare.toList.map fun share =>
        (.minGenGroupData, [.year e.1, .text "RPS", .real share])
  else []

/-- The rows of the system-wide stage after its commodities are registered. -/
def policyPushes (c : Setting) : List (Relation × Tuple) :=
  globalRatePushes c.inputs.system ++ emissionLimitPushes c.inputs.system c.scenario.toggles ++
    reserveMarginPushes c.inputs.system c.scenario.toggles ++ renewablePushes c

/-- The builder after the system-wide stage. -/
def Builder.withSystem (b : Builder) : Builder :=
  ((((b.emit (calendarPushes b.setting)).register dummyCommodity "p" "dummy variable").register
    demandCommodity "d" "demand variable").register emissionCommodity "e" "emission").emit
    (policyPushes b.setting)

theorem Runs.processSystem (b : Builder) : Runs processSystem b () b.withSystem := by
  unfold Assembly.processSystem
  refine Runs.get_bind fun ns => ?_
  extract_lets +lift system toggles periods rpsPart reservePart limitsPart
  have hrps : ∀ B : Builder, Runs (rpsPart ()) B () (B.emit (renewablePushes b.setting)) := by
    intro B
    simp only [rpsPart, toggles, periods, system, renewablePushes, Builder.setting]
    by_cases hrps : b.scenario.toggles.rps = true
    · simp only [hrps, ↓reduceIte]
      refine Runs.forM fun ⟨p, d⟩ _ B' => ?_
      dsimp only
      cases d.renewableShare with
      | none => exact Runs.pure
      | some share => exact Runs.push (by rfl)
    · simpa [hrps] using Runs.pure
  have hreserve : ∀ B : Builder, Runs (reservePart ()) B ()
      (B.emit (reserveMarginPushes b.inputs.system b.scenario.toggles ++
        renewablePushes b.setting)) := by
    intro B
    simp only [reservePart, toggles, system, reserveMarginPushes]
    cases b.scenario.toggles.reserveMargin with
    | false => simpa using hrps B
    | true =>
      simp only [↓reduceIte]
      cases b.inputs.system.reserveMargin with
      | none => exact (Runs.bind Runs.warn (hrps B)).trans_eq (by simp)
      | some margin => exact (Runs.bind (Runs.push (by rfl)) (hrps _)).trans_eq (by simp)
  have hlimits : ∀ B : Builder, Runs (limitsPart ()) B ()
      (B.emit (emissionLimitPushes b.inputs.system b.scenario.toggles ++
        reserveMarginPushes b.inputs.system b.scenario.toggles ++ renewablePushes b.setting)) := by
    intro B
    simp only [limitsPart, toggles, system, emissionLimitPushes]
    cases b.scenario.toggles.emissionLimit with
    | false => simpa using hreserve B
    | true =>
      simp only [↓reduceIte]
      exact (Runs.bind (Runs.forM_push fun _ _ => rfl) (hreserve _)).trans_eq (by simp)
  simp only [system, periods]
  refine Runs.bind (Runs.forM_push fun _ _ => rfl) ?_
  refine Runs.bind (Runs.forM_push fun _ _ => rfl) ?_
  refine Runs.bind (Runs.forM_push fun _ _ => rfl) ?_
  refine Runs.bind (Runs.forM fun d _ B => Runs.forM_push fun _ _ => rfl) ?_
  refine Runs.bind (Runs.forM_push fun _ _ => rfl) ?_
  refine Runs.bind (Runs.forM fun d _ B => Runs.forM_push fun _ _ => rfl) ?_
  refine Runs.bind (Runs.registerCommodity _ _ _ _) ?_
  refine Runs.bind (Runs.registerCommodity _ _ _ _) ?_
  refine Runs.bind (Runs.registerCommodity _ _ _ _) ?_
  cases hrate : b.inputs.system.discountRate with
  | none =>
    exact (hlimits _).trans_eq (by simp [Builder.withSystem, calendarPushes, policyPushes,
      globalRatePushes, hrate, Builder.setting])
  | some rate =>
    exact (Runs.bind (Runs.push (by rfl)) (hlimits _)).trans_eq (by simp [Builder.withSystem,
      calendarPushes, policyPushes, globalRatePushes, hrate, Builder.setting])

/-! ## Finishing -/

theorem Runs.finish (b : Builder) : Runs finish b b.relations b := by
  unfold Assembly.finish
  refine Runs.get_bind fun ns => ?_
  -- the warnings leave the rows alone
  refine Runs.bind ((Runs.forM fun _ _ B => Runs.warn.trans_eq (Builder.emit_nil B).symm).trans_eq ?_)
    (Runs.get_bind fun _ => Runs.pure)
  rw [List.flatMap_eq_nil_iff.mpr fun _ _ => rfl, Builder.emit_nil]

end EnergyModel
