import EnergyModel.Proofs.Assembly.Consistency

/-!
# Optional values and the rows they gate

A value of a technology's record or of the scenario may be missing, and a missing value, or
one that is not a number, writes no row: each technology's rows go through `Input.present`,
which keeps a value only when it is given and is a number. A row of such a relation therefore
belongs to a technology whose value is present, and a value cell copied from it is a number.

The system-wide stage is different. It writes the global discount rate, the reserve margin and
the renewable shares when they are given, whatever they are: a value that is not a number,
which a perturbation can leave in the inputs, reaches its row.
-/

namespace EnergyModel

open Assembly

/-- The optional value that a technology's rows in a relation are made from: a field of its
record, or a growth setting of the scenario. -/
def Relation.gatedValue (scenario : Scenario) (t : Technology) : Relation → Option Float
  | .capacityCredit => t.capacityCredit
  | .storageDuration => t.storageDuration
  | .lifetimeTech | .lifetimeLoanTech => t.lifetime
  | .discountRate => t.discountRate
  | .efficiency => t.efficiency
  | .emissionActivity => t.emissionActivity
  | .costInvest => t.costInvest
  | .costFixed => t.costFixed
  | .costVariable => t.costVariable
  | .maxCapacity => t.maxCapacity
  | .growthRateMax => scenario.maxGrowthRate
  | .growthRateSeed => scenario.minGrowthSeed
  | .rampUp | .rampDown => t.rampRate
  | _ => none

/-- The relations whose rows of a technology are gated by an optional value. -/
def Relation.gated : List Relation :=
  [.capacityCredit, .storageDuration, .lifetimeTech, .lifetimeLoanTech, .discountRate,
   .efficiency, .emissionActivity, .costInvest, .costFixed, .costVariable, .maxCapacity,
   .growthRateMax, .growthRateSeed, .rampUp, .rampDown]

/-- The column that holds the gating value itself, in the relations that copy it unchanged. -/
def Relation.valueColumn : Relation → Option String
  | .capacityCredit => some "cf_tech"
  | .storageDuration => some "duration"
  | .lifetimeTech => some "life"
  | .discountRate => some "tech_rate"
  | .efficiency => some "efficiency"
  | .emissionActivity => some "emis_act"
  | .maxCapacity => some "maxcap"
  | .rampUp => some "ramp_up"
  | .rampDown => some "ramp_down"
  | _ => none

/-- The gated relations are written by the technologies only. -/
theorem Relation.not_mem_systemWide_of_gated : ∀ r ∈ Relation.gated, r ∉ Relation.systemWide := by
  decide

/-- A present value is a number. -/
theorem Input.isNaN_of_present {o : Option Float} {v : Float} (h : Input.present o = some v) :
    v.isNaN = false := by
  cases o with
  | none => cases h
  | some x =>
    simp only [Input.present] at h
    split at h
    · cases h
    · rename_i hx
      cases h
      simpa using hx

/-! ## The rows of one technology -/

section Technology

variable {c : Setting} {t : Technology} {r : Relation} {row : Tuple}

/-- Every row of a technology in a gated relation comes from a present value, which its value
column, where it has one, holds. -/
theorem techPushes_gated (hr : r ∈ Relation.gated) (hrow : row ∈ rowsIn r (techPushes c t)) :
    ∃ v, Input.present (r.gatedValue c.scenario t) = some v ∧
      ∀ column, r.valueColumn = some column → r.cell column row = some (.real v) := by
  simp only [Relation.gated, List.mem_cons, List.not_mem_nil, or_false] at hr
  rcases hr with rfl | rfl | rfl | rfl | rfl | rfl | rfl | rfl | rfl | rfl | rfl | rfl | rfl |
    rfl | rfl
  · simp only [rowsIn_techPushes_capacityCredit, List.mem_map, Option.mem_toList] at hrow
    obtain ⟨v, hv, rfl⟩ := hrow
    exact ⟨v, hv, fun _ hc => by cases hc; rfl⟩
  · simp only [rowsIn_techPushes_storageDuration, apply_ite (row ∈ ·), List.mem_map,
      Option.mem_toList, List.not_mem_nil] at hrow
    split at hrow
    · obtain ⟨v, hv, rfl⟩ := hrow
      exact ⟨v, hv, fun _ hc => by cases hc; rfl⟩
    · exact hrow.elim
  · simp only [rowsIn_techPushes_lifetimeTech, List.mem_map, Option.mem_toList] at hrow
    obtain ⟨v, hv, rfl⟩ := hrow
    exact ⟨v, hv, fun _ hc => by cases hc; rfl⟩
  · simp only [rowsIn_techPushes_lifetimeLoanTech, List.mem_map, Option.mem_toList] at hrow
    obtain ⟨v, hv, rfl⟩ := hrow
    exact ⟨v, hv, fun _ hc => by cases hc⟩
  · simp only [rowsIn_techPushes_discountRate, List.mem_flatMap, List.mem_map,
      Option.mem_toList] at hrow
    obtain ⟨v, hv, -, -, rfl⟩ := hrow
    exact ⟨v, hv, fun _ hc => by cases hc; rfl⟩
  · simp only [rowsIn_techPushes_efficiency, List.mem_flatMap, List.mem_map,
      Option.mem_toList] at hrow
    obtain ⟨v, hv, -, -, rfl⟩ := hrow
    exact ⟨v, hv, fun _ hc => by cases hc; rfl⟩
  · simp only [rowsIn_techPushes_emissionActivity, List.mem_flatMap, List.mem_map,
      Option.mem_toList] at hrow
    obtain ⟨v, hv, -, -, rfl⟩ := hrow
    exact ⟨v, hv, fun _ hc => by cases hc; rfl⟩
  · simp only [rowsIn_techPushes_costInvest, List.mem_flatMap, List.mem_map,
      Option.mem_toList] at hrow
    obtain ⟨v, hv, -, -, rfl⟩ := hrow
    exact ⟨v, hv, fun _ hc => by cases hc⟩
  · simp only [rowsIn_techPushes_costFixed, List.mem_flatMap, Option.mem_toList] at hrow
    obtain ⟨v, hv, -⟩ := hrow
    exact ⟨v, hv, fun _ hc => by cases hc⟩
  · simp only [rowsIn_techPushes_costVariable, List.mem_flatMap, Option.mem_toList] at hrow
    obtain ⟨v, hv, -⟩ := hrow
    exact ⟨v, hv, fun _ hc => by cases hc⟩
  · simp only [rowsIn_techPushes_maxCapacity, List.mem_flatMap, List.mem_map,
      Option.mem_toList] at hrow
    obtain ⟨v, hv, -, -, rfl⟩ := hrow
    exact ⟨v, hv, fun _ hc => by cases hc; rfl⟩
  · simp only [rowsIn_techPushes_growthRateMax, apply_ite (row ∈ ·), List.mem_map,
      Option.mem_toList, List.not_mem_nil] at hrow
    split at hrow
    · obtain ⟨v, hv, -⟩ := hrow
      exact ⟨v, hv, fun _ hc => by cases hc⟩
    · exact hrow.elim
  · simp only [rowsIn_techPushes_growthRateSeed, apply_ite (row ∈ ·), List.mem_map,
      Option.mem_toList, List.not_mem_nil] at hrow
    split at hrow
    · obtain ⟨v, hv, -⟩ := hrow
      exact ⟨v, hv, fun _ hc => by cases hc⟩
    · exact hrow.elim
  · simp only [rowsIn_techPushes_rampUp, apply_ite (row ∈ ·), List.mem_map,
      Option.mem_toList, List.not_mem_nil] at hrow
    split at hrow
    · obtain ⟨v, hv, rfl⟩ := hrow
      exact ⟨v, hv, fun _ hc => by cases hc; rfl⟩
    · exact hrow.elim
  · simp only [rowsIn_techPushes_rampDown, apply_ite (row ∈ ·), List.mem_map,
      Option.mem_toList, List.not_mem_nil] at hrow
    split at hrow
    · obtain ⟨v, hv, rfl⟩ := hrow
      exact ⟨v, hv, fun _ hc => by cases hc; rfl⟩
    · exact hrow.elim

end Technology

/-- An assembled model writes a row of a technology's optional value only when the value is
present, and a value cell that copies it holds a number. The global discount rate, the reserve
margin and the renewable shares are written whenever they are given, as they are, a value that
is not a number included. -/
theorem assembleModel_gates {inputs : Input.InputTables} {scenario : Scenario} {rel : RelationSet}
    (h : (assembleModel inputs scenario).1 = .ok rel) :
    (∀ plants fuels connections,
      scenarioTechnologies inputs scenario = .ok (plants, fuels, connections) →
      ∀ r ∈ Relation.gated, ∀ row ∈ (rel.rows r).toList,
        ∃ t ∈ plants ++ fuels ++ connections, ∃ v,
          Input.present (r.gatedValue scenario t) = some v ∧ v.isNaN = false ∧
          ∀ column, r.valueColumn = some column → r.cell column row = some (.real v)) ∧
    (rel.rows .globalDiscountRate).toList =
      inputs.system.discountRate.toList.map (fun rate => [.real rate]) ∧
    (rel.rows .reserveMargin).toList =
      (if scenario.toggles.reserveMargin then
        inputs.system.reserveMargin.toList.map fun margin => [.text demandCommodity, .real margin]
      else []) ∧
    (rel.rows .minGenGroupData).toList =
      (if scenario.toggles.rps then
        ((inputs.system.demand.map (·.year)).dropLast.zip inputs.system.demand).flatMap fun e =>
          e.2.renewableShare.toList.map fun share => [.year e.1, .text "RPS", .real share]
      else []) := by
  obtain ⟨b, plants, fuels, connections, hstart, hts, rfl⟩ := assembleModel_eq_ok_iff.mp h
  obtain ⟨hb, hfuture⟩ := Builder.start_fresh hstart
  obtain ⟨hinputs, hscenario⟩ := Builder.start_setting hstart
  refine ⟨fun plants' fuels' connections' hts' r hr row hrow => ?_, ?_, ?_, ?_⟩
  · obtain ⟨rfl, rfl, rfl⟩ : plants = plants' ∧ fuels = fuels' ∧ connections = connections' := by
      simpa using hts.symm.trans hts'
    rw [hb.rows_assembled_of_technology (Relation.not_mem_systemWide_of_gated r hr),
      List.mem_flatMap] at hrow
    obtain ⟨t, ht, hrow⟩ := hrow
    obtain ⟨v, hv, hcell⟩ := techPushes_gated hr hrow
    rw [show b.setting.scenario = scenario from hscenario] at hv
    exact ⟨t, ht, v, hv, Input.isNaN_of_present hv, hcell⟩
  · rw [hb.rows_assembled_of_system (by decide) (by decide) (by decide),
      rowsIn_system_globalDiscountRate, ← hinputs]
  · rw [hb.rows_assembled_of_system (by decide) (by decide) (by decide),
      rowsIn_system_reserveMargin, ← hinputs, ← hscenario]
  · -- the renewable shares are paired with the active periods, the demand years but the last
    rw [hb.rows_assembled_of_system (by decide) (by decide) (by decide),
      rowsIn_system_minGenGroupData, ← hinputs, ← hscenario]
    simp only [Builder.setting, hb.activeFuture_eq, hb.future_eq]
    rfl

theorem sampleModel_gates :
    (assembleModel sampleInputs sampleScenario).1 = .ok sampleModel ∧
    (∀ plants fuels connections,
      scenarioTechnologies sampleInputs sampleScenario = .ok (plants, fuels, connections) →
      ∀ r ∈ Relation.gated, ∀ row ∈ (sampleModel.rows r).toList,
        ∃ t ∈ plants ++ fuels ++ connections, ∃ v,
          Input.present (r.gatedValue sampleScenario t) = some v ∧ v.isNaN = false ∧
          ∀ column, r.valueColumn = some column → r.cell column row = some (.real v)) ∧
    (sampleModel.rows .globalDiscountRate).toList =
      sampleInputs.system.discountRate.toList.map (fun rate => [.real rate]) ∧
    (sampleModel.rows .reserveMargin).toList =
      (if sampleScenario.toggles.reserveMargin then
        sampleInputs.system.reserveMargin.toList.map fun margin =>
          [.text demandCommodity, .real margin]
      else []) ∧
    (sampleModel.rows .minGenGroupData).toList =
      (if sampleScenario.toggles.rps then
        ((sampleInputs.system.demand.map (·.year)).dropLast.zip sampleInputs.system.demand).flatMap
          fun e => e.2.renewableShare.toList.map fun share => [.year e.1, .text "RPS", .real share]
      else []) :=
  ⟨assembleModel_sample, assembleModel_gates assembleModel_sample⟩

end EnergyModel
