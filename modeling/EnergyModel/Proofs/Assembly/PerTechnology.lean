import EnergyModel.Proofs.Assembly.Rows

/-!
# What each relation gets from one technology

The rows a technology adds to each relation, as a list made from its record, the setting and
its schedule. Each relation but the capacity factors gets its rows from one part of
`techPushes`; the relations of the system-wide stage get none. The part definitions are simp
lemmas from here on, so that a relation's rows can be read off by `simp`.
-/

namespace EnergyModel

open Assembly

attribute [simp] capacityPushes creditPushes conversionPushes factorPushes costPushes
  fixedCostPushes investCostPushes variableCostPushes discountRatePushes efficiencyPushes
  emissionPushes existingPushes lifetimePushes storagePushes baseloadPushes registryRow
  groupPushes maxCapacityPushes minCapacityPushes maxActivityPushes growthPushes
  growthMaxPushes growthSeedPushes rampingPushes calendarPushes policyPushes globalRatePushes
  emissionLimitPushes reserveMarginPushes renewablePushes

@[simp] theorem flatMap_const_nil {α β : Type} (l : List α) :
    l.flatMap (fun _ => ([] : List β)) = [] := by
  simp [List.flatMap_eq_nil_iff]

/-- The relations the system-wide stage writes: the calendar, the demands and the policies,
and the first periods and commodities. -/
def Relation.systemWide : List Relation :=
  [.timePeriods, .commodities, .timeSeason, .timeOfDay, .segFrac, .demand,
   .demandSpecificDistribution, .globalDiscountRate, .emissionLimit, .reserveMargin,
   .minGenGroupData]

section Technology

variable (c : Setting) (t : Technology)

@[simp] theorem rowsIn_techPushes_capacityCredit :
    rowsIn .capacityCredit (techPushes c t) =
      (Input.present t.capacityCredit).toList.map fun credit => [techCell t, .real credit] := by
  simp [techPushes, apply_ite (rowsIn _), List.map_eq_flatMap]

@[simp] theorem rowsIn_techPushes_capacityToActivity :
    rowsIn .capacityToActivity (techPushes c t) =
      if t.capacityToActivity then [[techCell t, .real capacityToActivity, .text "GW to PJ"]]
      else [] := by
  simp [techPushes, apply_ite (rowsIn _)]

@[simp] theorem rowsIn_techPushes_costFixed :
    rowsIn .costFixed (techPushes c t) =
      (Input.present t.costFixed).toList.flatMap fun cost =>
        c.periods.activeFuture.flatMap fun p => (techSchedule c t).buildYears.flatMap fun v =>
          if isOperating p v (Input.present t.lifetime) then
            [[.year p, techCell t, .year v,
              .real (escalate cost t.costFixedIncr (p - c.periods.startYear)), .text "M USD/GW",
              .text noteText]]
          else [] := by
  simp [techPushes, apply_ite (rowsIn _)]

@[simp] theorem rowsIn_techPushes_costInvest :
    rowsIn .costInvest (techPushes c t) =
      (Input.present t.costInvest).toList.flatMap fun cost =>
        (techSchedule c t).futureBuildYears.map fun v =>
          [techCell t, .year v, .real (escalate cost t.costInvestIncr (v - c.periods.startYear)),
            .text "M USD/GW", .text noteText] := by
  simp [techPushes, apply_ite (rowsIn _)]

@[simp] theorem rowsIn_techPushes_costVariable :
    rowsIn .costVariable (techPushes c t) =
      (Input.present t.costVariable).toList.flatMap fun cost =>
        c.periods.activeFuture.flatMap fun p => (techSchedule c t).buildYears.flatMap fun v =>
          if isOperating p v (Input.present t.lifetime) then
            [[.year p, techCell t, .year v,
              .real (escalate cost t.costVariableIncr (p - c.periods.startYear)), .text "M USD/PJ",
              .text noteText]]
          else [] := by
  simp [techPushes, apply_ite (rowsIn _)]

@[simp] theorem rowsIn_techPushes_discountRate :
    rowsIn .discountRate (techPushes c t) =
      (Input.present t.discountRate).toList.flatMap fun rate =>
        (techSchedule c t).buildYears.map fun v =>
          [techCell t, .year v, .real rate, .text (t.discountRateSource.getD "")] := by
  simp [techPushes, apply_ite (rowsIn _)]

@[simp] theorem rowsIn_techPushes_efficiency :
    rowsIn .efficiency (techPushes c t) =
      (Input.present t.efficiency).toList.flatMap fun e =>
        (techSchedule c t).buildYears.map fun v =>
          [.text t.input, techCell t, .year v, .text t.output, .real e, .text noteText] := by
  simp [techPushes, apply_ite (rowsIn _)]

@[simp] theorem rowsIn_techPushes_emissionActivity :
    rowsIn .emissionActivity (techPushes c t) =
      (Input.present t.emissionActivity).toList.flatMap fun e =>
        (techSchedule c t).buildYears.map fun v =>
          [.text emissionCommodity, .text t.input, techCell t, .year v, .text t.output, .real e,
            .text "kt/PJout", .text noteText] := by
  simp [techPushes, apply_ite (rowsIn _)]

@[simp] theorem rowsIn_techPushes_existingCapacity :
    rowsIn .existingCapacity (techPushes c t) =
      t.existing.flatMap fun unit =>
        if inServiceAt unit.year c.periods.startYear (Input.present t.lifetime) then
          [[techCell t, .year unit.year, .real unit.capacity, .text "GW", .text noteText]]
        else [] := by
  simp [techPushes, apply_ite (rowsIn _)]

@[simp] theorem rowsIn_techPushes_lifetimeTech :
    rowsIn .lifetimeTech (techPushes c t) =
      (Input.present t.lifetime).toList.map fun life => [techCell t, .real life, .text noteText] := by
  simp [techPushes, apply_ite (rowsIn _), List.map_eq_flatMap]

@[simp] theorem rowsIn_techPushes_lifetimeLoanTech :
    rowsIn .lifetimeLoanTech (techPushes c t) =
      (Input.present t.lifetime).toList.map fun life =>
        [techCell t, .real (loanLifetime life c.scenario.maxLoanYears), .text noteText] := by
  simp [techPushes, apply_ite (rowsIn _), List.map_eq_flatMap]

@[simp] theorem rowsIn_techPushes_storageDuration :
    rowsIn .storageDuration (techPushes c t) =
      if t.storage then
        (Input.present t.storageDuration).toList.map fun hours =>
          [techCell t, .real hours, .text "hours"]
      else [] := by
  simp [techPushes, apply_ite (rowsIn _)]

@[simp] theorem rowsIn_techPushes_technologies :
    rowsIn .technologies (techPushes c t) =
      [[techCell t, .text (registryEntry c.scenario.toggles t).1, .text t.sector.name,
        .text (registryEntry c.scenario.toggles t).2, .text noteText]] := by
  simp [techPushes, apply_ite (rowsIn _)]

@[simp] theorem rowsIn_techPushes_techBaseload :
    rowsIn .techBaseload (techPushes c t) =
      if t.sector = .electric ∧ (c.scenario.toggles.baseload && t.baseload) = true then
        [[techCell t]]
      else [] := by
  simp [techPushes, apply_ite (rowsIn _)]

@[simp] theorem rowsIn_techPushes_techReserve :
    rowsIn .techReserve (techPushes c t) =
      if (c.scenario.toggles.reserveMargin && t.reserve) = true then [[techCell t]] else [] := by
  simp [techPushes, apply_ite (rowsIn _)]

@[simp] theorem rowsIn_techPushes_maxCapacity :
    rowsIn .maxCapacity (techPushes c t) =
      (Input.present t.maxCapacity).toList.flatMap fun cap =>
        (techSchedule c t).constraintPeriods.map fun p =>
          [.year p, techCell t, .real cap, .text "GW", .text noteText] := by
  simp [techPushes, apply_ite (rowsIn _)]

@[simp] theorem rowsIn_techPushes_minCapacity :
    rowsIn .minCapacity (techPushes c t) =
      if c.scenario.toggles.minCapacityLimit then
        (c.inputs.system.minimumCapacities.filter fun l =>
            l.technology == t.name && (techSchedule c t).constraintPeriods.contains l.year).map
          fun l => [.year l.year, techCell t, .real (l.capacity / 1000.0), .text "GW", .text noteText]
      else [] := by
  simp [techPushes, apply_ite (rowsIn _)]

@[simp] theorem rowsIn_techPushes_maxActivity :
    rowsIn .maxActivity (techPushes c t) =
      (maxActivityLimits (Input.present t.maxActivity) (Input.present t.retirement)
          (techSchedule c t).constraintPeriods).map fun lim =>
        [.year lim.1, techCell t, .real lim.2, .text "PJ", .text noteText] := by
  simp [techPushes, apply_ite (rowsIn _)]

@[simp] theorem rowsIn_techPushes_growthRateMax :
    rowsIn .growthRateMax (techPushes c t) =
      if growthApplies c.scenario.toggles t then
        (Input.present c.scenario.maxGrowthRate).toList.map fun rate =>
          [techCell t, .real (rate / 100.0), .text "Global Growth Limit - Fraction"]
      else [] := by
  simp [techPushes, apply_ite (rowsIn _), List.map_eq_flatMap]

@[simp] theorem rowsIn_techPushes_growthRateSeed :
    rowsIn .growthRateSeed (techPushes c t) =
      if growthApplies c.scenario.toggles t then
        (Input.present c.scenario.minGrowthSeed).toList.map fun seed =>
          [techCell t, .real (Float.maxNum (seed / 1000.0) (existingTotal c.periods t)), .text "GW",
            .text "Global Growth Limit"]
      else [] := by
  simp [techPushes, apply_ite (rowsIn _), List.map_eq_flatMap]

@[simp] theorem rowsIn_techPushes_techRamping :
    rowsIn .techRamping (techPushes c t) =
      if c.scenario.toggles.ramping then
        (Input.present t.rampRate).toList.map fun _ => [techCell t]
      else [] := by
  simp [techPushes, apply_ite (rowsIn _), List.map_eq_flatMap]

@[simp] theorem rowsIn_techPushes_rampUp :
    rowsIn .rampUp (techPushes c t) =
      if c.scenario.toggles.ramping then
        (Input.present t.rampRate).toList.map fun rate => [techCell t, .real rate]
      else [] := by
  simp [techPushes, apply_ite (rowsIn _), List.map_eq_flatMap]

@[simp] theorem rowsIn_techPushes_rampDown :
    rowsIn .rampDown (techPushes c t) =
      if c.scenario.toggles.ramping then
        (Input.present t.rampRate).toList.map fun rate => [techCell t, .real rate]
      else [] := by
  simp [techPushes, apply_ite (rowsIn _), List.map_eq_flatMap]

@[simp] theorem rowsIn_techPushes_minGenGroup :
    rowsIn .minGenGroup (techPushes c t) =
      if (c.scenario.toggles.rps && t.renewable) = true then
        [[techCell t, .text "RPS", .real 1.0, .text ""]]
      else [] := by
  simp [techPushes, apply_ite (rowsIn _)]

/-- The relations of the system-wide stage get no rows from a technology. -/
theorem rowsIn_techPushes_of_system {r : Relation}
    (hr : r ∈ Relation.systemWide) :
    rowsIn r (techPushes c t) = [] := by
  simp only [Relation.systemWide, List.mem_cons, List.not_mem_nil, or_false] at hr
  rcases hr with rfl | rfl | rfl | rfl | rfl | rfl | rfl | rfl | rfl | rfl | rfl <;>
    simp [techPushes, apply_ite (rowsIn _)]

end Technology

/-! ## The system-wide stage -/

section System

variable (c : Setting)

@[simp] theorem rowsIn_system_timePeriods :
    rowsIn .timePeriods (calendarPushes c ++ policyPushes c) =
      c.periods.future.map fun y => [.year y, .text "f"] := by
  simp [apply_ite (rowsIn _)]

@[simp] theorem rowsIn_system_demand :
    rowsIn .demand (calendarPushes c ++ policyPushes c) =
      (c.periods.activeFuture.zip c.inputs.system.demand).map fun e =>
        [.year e.1, .text demandCommodity, .real e.2.demand, .text "PJ", .text noteText] := by
  simp [apply_ite (rowsIn _)]

@[simp] theorem rowsIn_system_globalDiscountRate :
    rowsIn .globalDiscountRate (calendarPushes c ++ policyPushes c) =
      c.inputs.system.discountRate.toList.map fun rate => [.real rate] := by
  simp [apply_ite (rowsIn _), List.map_eq_flatMap]

@[simp] theorem rowsIn_system_reserveMargin :
    rowsIn .reserveMargin (calendarPushes c ++ policyPushes c) =
      if c.scenario.toggles.reserveMargin then
        c.inputs.system.reserveMargin.toList.map fun margin =>
          [.text demandCommodity, .real margin]
      else [] := by
  simp [apply_ite (rowsIn _), List.map_eq_flatMap]

@[simp] theorem rowsIn_system_minGenGroupData :
    rowsIn .minGenGroupData (calendarPushes c ++ policyPushes c) =
      if c.scenario.toggles.rps then
        (c.periods.activeFuture.zip c.inputs.system.demand).flatMap fun e =>
          e.2.renewableShare.toList.map fun share => [.year e.1, .text "RPS", .real share]
      else [] := by
  simp [apply_ite (rowsIn _)]

/-- The relations of the technologies get no rows from the system-wide stage. -/
theorem rowsIn_system_of_technology {r : Relation}
    (hr : r ∉ Relation.systemWide) :
    rowsIn r (calendarPushes c ++ policyPushes c) = [] := by
  simp only [Relation.systemWide, List.mem_cons, List.not_mem_nil, or_false, not_or] at hr
  obtain ⟨h₁, h₂, h₃, h₄, h₅, h₆, h₇, h₈, h₉, h₁₀, h₁₁⟩ := hr
  simp [apply_ite (rowsIn _), Ne.symm h₁, Ne.symm h₃, Ne.symm h₄, Ne.symm h₅, Ne.symm h₆,
    Ne.symm h₇, Ne.symm h₈, Ne.symm h₉, Ne.symm h₁₀, Ne.symm h₁₁]

end System

end EnergyModel
