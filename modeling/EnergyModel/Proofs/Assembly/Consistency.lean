import EnergyModel.Proofs.Assembly.Shared

/-!
# Referential consistency of an assembled model

The rows of a model refer to one another through their cells: a vintage names a period of the
model, a period in which costs, limits or demand apply is one open for investment, and the
costs, discount rate, emissions and existing capacity of a technology's vintage go with an
efficiency of the same technology and vintage. Cells are read by column name
(`Relation.cell`). Each technology's rows keep the references on their own
(`techPushes_vintage`, `techPushes_period`); the periods the vintages need are met along the
way, so the references of a whole model follow from what the assembly adds to its list of
periods (`Builder.mem_allTimePeriods_assembled`).
-/

namespace EnergyModel

open Assembly

/-- The value in the named column of a relation's row. -/
def Relation.cell (r : Relation) (column : String) (row : Tuple) : Option Cell :=
  (r.columns.idxOf? column).bind fun i => row[i]?

/-- The relations other than the efficiencies whose rows belong to a technology's vintage. -/
def Relation.vintageData : List Relation :=
  [.costInvest, .costFixed, .costVariable, .discountRate, .emissionActivity, .existingCapacity]

/-- The relations whose rows name a vintage. -/
def Relation.withVintage : List Relation := .efficiency :: Relation.vintageData

/-- The relations whose rows name a period. -/
def Relation.withPeriod : List Relation :=
  [.costFixed, .costVariable, .maxCapacity, .maxActivity, .minCapacity, .demand, .minGenGroupData]

/-- Every technology-and-vintage key of the costs, discount rates, emissions and existing
capacity among some rows is the key of one of their efficiency rows. -/
def EfficiencyCovers (pushes : List (Relation × Tuple)) : Prop :=
  ∀ r ∈ Relation.vintageData, ∀ row ∈ rowsIn r pushes, ∃ row' ∈ rowsIn .efficiency pushes,
    r.cell "tech" row = Relation.efficiency.cell "tech" row' ∧
      r.cell "vintage" row = Relation.efficiency.cell "vintage" row'

/-- The years a technology's maximum activity is limited in are among those it is asked for,
each once and in their order. -/
theorem map_fst_maxActivityLimits (maxActivity retirement : Option Float) (periods : List Nat) :
    ((maxActivityLimits maxActivity retirement periods).map Prod.fst).Sublist periods := by
  induction periods with
  | nil => exact List.Sublist.slnil
  | cons p ps ih =>
    unfold maxActivityLimits at ih ⊢
    rw [List.filterMap_cons]
    split
    · exact ih.cons p
    · rename_i lim hlim
      -- a limit is made for the year it is asked for
      have hp : lim.1 = p := by
        dsimp only at hlim
        split at hlim
        · cases hlim
          rfl
        · obtain ⟨limit, -, rfl⟩ := Option.map_eq_some_iff.mp hlim
          rfl
      rw [List.map_cons, hp]
      exact ih.cons_cons p

theorem mem_of_mem_maxActivityLimits {maxActivity retirement : Option Float} {periods : List Nat}
    {lim : Nat × Float} (h : lim ∈ maxActivityLimits maxActivity retirement periods) :
    lim.1 ∈ periods :=
  (map_fst_maxActivityLimits maxActivity retirement periods).subset (List.mem_map_of_mem h)

/-! ## The rows of one technology -/

section Technology

variable {c : Setting} {t : Technology} {r : Relation} {row : Tuple}

/-- Existing capacity still in service when the model starts is one of the technology's
vintages, once there is a period open for investment. -/
theorem mem_buildYears_of_inService (hf : c.periods.activeFuture ≠ []) {unit : ExistingUnit}
    (hunit : unit ∈ t.existing)
    (hin : inServiceAt unit.year c.periods.startYear (Input.present t.lifetime) = true) :
    unit.year ∈ (techSchedule c t).buildYears :=
  mem_buildYears_of_serving hf (List.mem_map_of_mem hunit) hin

/-- Every row of a technology that names a vintage names the technology and one of the
vintages of its schedule. -/
theorem techPushes_vintage (hf : c.periods.activeFuture ≠ []) (hr : r ∈ Relation.withVintage)
    (hrow : row ∈ rowsIn r (techPushes c t)) :
    r.cell "tech" row = some (techCell t) ∧
      ∃ v ∈ (techSchedule c t).buildYears, r.cell "vintage" row = some (.year v) := by
  simp only [Relation.withVintage, Relation.vintageData, List.mem_cons, List.not_mem_nil,
    or_false] at hr
  rcases hr with rfl | rfl | rfl | rfl | rfl | rfl | rfl
  · simp only [rowsIn_techPushes_efficiency, List.mem_flatMap, List.mem_map] at hrow
    obtain ⟨-, -, v, hv, rfl⟩ := hrow
    exact ⟨rfl, v, hv, rfl⟩
  · simp only [rowsIn_techPushes_costInvest, List.mem_flatMap, List.mem_map] at hrow
    obtain ⟨-, -, v, hv, rfl⟩ := hrow
    exact ⟨rfl, v, (mem_futureBuildYears hv).2, rfl⟩
  · simp only [rowsIn_techPushes_costFixed, List.mem_flatMap, List.mem_ite_nil_right,
      List.mem_singleton] at hrow
    obtain ⟨-, -, p, -, v, hv, -, rfl⟩ := hrow
    exact ⟨rfl, v, hv, rfl⟩
  · simp only [rowsIn_techPushes_costVariable, List.mem_flatMap, List.mem_ite_nil_right,
      List.mem_singleton] at hrow
    obtain ⟨-, -, p, -, v, hv, -, rfl⟩ := hrow
    exact ⟨rfl, v, hv, rfl⟩
  · simp only [rowsIn_techPushes_discountRate, List.mem_flatMap, List.mem_map] at hrow
    obtain ⟨-, -, v, hv, rfl⟩ := hrow
    exact ⟨rfl, v, hv, rfl⟩
  · simp only [rowsIn_techPushes_emissionActivity, List.mem_flatMap, List.mem_map] at hrow
    obtain ⟨-, -, v, hv, rfl⟩ := hrow
    exact ⟨rfl, v, hv, rfl⟩
  · simp only [rowsIn_techPushes_existingCapacity, List.mem_flatMap, List.mem_ite_nil_right,
      List.mem_singleton] at hrow
    obtain ⟨unit, hunit, hin, rfl⟩ := hrow
    exact ⟨rfl, unit.year, mem_buildYears_of_inService hf hunit hin, rfl⟩

/-- Every row of a technology that names a period names one open for investment. -/
theorem techPushes_period (hr : r ∈ Relation.withPeriod) (hrow : row ∈ rowsIn r (techPushes c t)) :
    ∃ p ∈ c.periods.activeFuture, r.cell "periods" row = some (.year p) := by
  simp only [Relation.withPeriod, List.mem_cons, List.not_mem_nil, or_false] at hr
  rcases hr with rfl | rfl | rfl | rfl | rfl | rfl | rfl
  · simp only [rowsIn_techPushes_costFixed, List.mem_flatMap, List.mem_ite_nil_right,
      List.mem_singleton] at hrow
    obtain ⟨-, -, p, hp, -, -, -, rfl⟩ := hrow
    exact ⟨p, hp, rfl⟩
  · simp only [rowsIn_techPushes_costVariable, List.mem_flatMap, List.mem_ite_nil_right,
      List.mem_singleton] at hrow
    obtain ⟨-, -, p, hp, -, -, -, rfl⟩ := hrow
    exact ⟨p, hp, rfl⟩
  · simp only [rowsIn_techPushes_maxCapacity, List.mem_flatMap, List.mem_map] at hrow
    obtain ⟨-, -, p, hp, rfl⟩ := hrow
    exact ⟨p, mem_constraintPeriods hp, rfl⟩
  · simp only [rowsIn_techPushes_maxActivity, List.mem_map] at hrow
    obtain ⟨lim, hlim, rfl⟩ := hrow
    exact ⟨lim.1, mem_constraintPeriods (mem_of_mem_maxActivityLimits hlim), rfl⟩
  · simp only [rowsIn_techPushes_minCapacity, apply_ite (row ∈ ·), List.mem_map, List.mem_filter,
      Bool.and_eq_true, List.contains_iff_mem, List.not_mem_nil] at hrow
    split at hrow
    · obtain ⟨l, ⟨-, -, hl⟩, rfl⟩ := hrow
      exact ⟨l.year, mem_constraintPeriods hl, rfl⟩
    · exact hrow.elim
  · rw [rowsIn_techPushes_of_system c t (by decide)] at hrow
    exact absurd hrow List.not_mem_nil
  · rw [rowsIn_techPushes_of_system c t (by decide)] at hrow
    exact absurd hrow List.not_mem_nil

/-- A technology with an efficiency has an efficiency row for every key of its costs,
discount rate, emissions and existing capacity, once there is a period open for
investment. -/
theorem efficiencyCovers_techPushes (hf : c.periods.activeFuture ≠ [])
    (he : (Input.present t.efficiency).isSome) : EfficiencyCovers (techPushes c t) := by
  intro r hr row hrow
  obtain ⟨htech, v, hv, hvintage⟩ := techPushes_vintage hf (List.mem_cons_of_mem _ hr) hrow
  obtain ⟨e, he⟩ := Option.isSome_iff_exists.mp he
  refine ⟨[.text t.input, techCell t, .year v, .text t.output, .real e, .text noteText], ?_,
    by rw [htech]; rfl, by rw [hvintage]; rfl⟩
  simp only [rowsIn_techPushes_efficiency, he, Option.toList_some, List.flatMap_singleton,
    List.mem_map]
  exact ⟨v, hv, rfl⟩

end Technology

/-! ## The rows of the system-wide stage -/

/-- Every row of the system-wide stage that names a period names one open for investment. -/
theorem systemPushes_period {c : Setting} {r : Relation} {row : Tuple}
    (hr : r ∈ Relation.withPeriod) (hrow : row ∈ rowsIn r (calendarPushes c ++ policyPushes c)) :
    ∃ p ∈ c.periods.activeFuture, r.cell "periods" row = some (.year p) := by
  simp only [Relation.withPeriod, List.mem_cons, List.not_mem_nil, or_false] at hr
  -- the limits and costs are rows of technologies only
  rcases hr with rfl | rfl | rfl | rfl | rfl | rfl | rfl
  rotate_left 5
  · simp only [rowsIn_system_demand, List.mem_map] at hrow
    obtain ⟨e, he, rfl⟩ := hrow
    exact ⟨e.1, (List.of_mem_zip he).1, rfl⟩
  · simp only [rowsIn_system_minGenGroupData, apply_ite (row ∈ ·), List.mem_flatMap, List.mem_map,
      List.not_mem_nil] at hrow
    split at hrow
    · obtain ⟨e, he, -, -, rfl⟩ := hrow
      exact ⟨e.1, (List.of_mem_zip he).1, rfl⟩
    · exact hrow.elim
  all_goals
    rw [rowsIn_system_of_technology c (by decide)] at hrow
    exact absurd hrow List.not_mem_nil

/-! ## The whole model -/

section Model

variable {b : Builder} {plants fuels connections : List Technology}

/-- Every vintage of a technology of an assembled model is one of its periods: a period open
for investment, or existing capacity in service that the assembly made a period. -/
theorem Builder.Fresh.mem_allTimePeriods_of_buildYears (hb : b.Fresh)
    {t : Technology} (ht : t ∈ plants ++ fuels ++ connections) {v : Nat}
    (hv : v ∈ (techSchedule b.setting t).buildYears) :
    v ∈ (b.assembled plants fuels connections).allTimePeriods := by
  rw [Builder.mem_allTimePeriods_assembled]
  rcases mem_buildYears hv with hv | ⟨he, hs⟩
  · exact Or.inl ((hb.mem_allTimePeriods v).mpr (hb.mem_future_of_mem_activeFuture hv))
  · exact Or.inr ⟨t, ht, hb.activeFuture_ne_nil, he, hs⟩

/-- Every vintage a row of an assembled model names has a row among the periods. -/
theorem Builder.Fresh.vintage_has_period (hb : b.Fresh) {r : Relation} (hr : r ∈ Relation.withVintage)
    {row : Tuple} (hrow : row ∈ ((b.assembled plants fuels connections).relations.rows r).toList) :
    ∃ v, r.cell "vintage" row = some (.year v) ∧
      ∃ row' ∈ ((b.assembled plants fuels connections).relations.rows .timePeriods).toList,
        Relation.timePeriods.cell "t_periods" row' = some (.year v) := by
  have hsys : r ∉ Relation.systemWide := by
    simp only [Relation.withVintage, Relation.vintageData, List.mem_cons, List.not_mem_nil,
      or_false] at hr
    rcases hr with rfl | rfl | rfl | rfl | rfl | rfl | rfl <;> decide
  have htp : r ≠ .timePeriods := fun h => hsys (h ▸ List.mem_cons_self)
  have hcm : r ≠ .commodities := fun h => hsys (h ▸ List.mem_cons_of_mem _ List.mem_cons_self)
  rcases hb.mem_rows_assembled htp hcm hrow with hrow | ⟨t, ht, hrow⟩
  · rw [rowsIn_system_of_technology _ hsys] at hrow
    exact absurd hrow List.not_mem_nil
  · obtain ⟨-, v, hv, hvintage⟩ := techPushes_vintage hb.activeFuture_ne_nil hr hrow
    obtain ⟨flag, hflag⟩ := hb.timePeriods_row (hb.mem_allTimePeriods_of_buildYears ht hv)
    exact ⟨v, hvintage, _, hflag, rfl⟩

/-- Every period a row of an assembled model names is open for investment. -/
theorem Builder.Fresh.period_is_active (hb : b.Fresh) {r : Relation} (hr : r ∈ Relation.withPeriod)
    {row : Tuple} (hrow : row ∈ ((b.assembled plants fuels connections).relations.rows r).toList) :
    ∃ p ∈ b.periods.activeFuture, r.cell "periods" row = some (.year p) := by
  have htp : r ≠ .timePeriods := by
    simp only [Relation.withPeriod, List.mem_cons, List.not_mem_nil, or_false] at hr
    rcases hr with rfl | rfl | rfl | rfl | rfl | rfl | rfl <;> simp
  have hcm : r ≠ .commodities := by
    simp only [Relation.withPeriod, List.mem_cons, List.not_mem_nil, or_false] at hr
    rcases hr with rfl | rfl | rfl | rfl | rfl | rfl | rfl <;> simp
  rcases hb.mem_rows_assembled htp hcm hrow with hrow | ⟨t, -, hrow⟩
  · exact systemPushes_period hr hrow
  · exact techPushes_period hr hrow

end Model

/-- A model that an assembly gives is referentially consistent: every vintage a row names is a
period of the model, every period a row names is a demand year other than the last, and the
costs, discount rate, emissions and existing capacity of each technology with an efficiency
belong to vintages it has an efficiency for. -/
theorem assembleModel_consistent {inputs : Input.InputTables} {scenario : Scenario}
    {rel : RelationSet} (h : (assembleModel inputs scenario).1 = .ok rel) :
    (∀ r ∈ Relation.withVintage, ∀ row ∈ (rel.rows r).toList,
      ∃ v, r.cell "vintage" row = some (.year v) ∧
        ∃ row' ∈ (rel.rows .timePeriods).toList,
          Relation.timePeriods.cell "t_periods" row' = some (.year v)) ∧
    (∀ r ∈ Relation.withPeriod, ∀ row ∈ (rel.rows r).toList,
      ∃ p ∈ (inputs.system.demand.map (·.year)).dropLast, r.cell "periods" row = some (.year p)) ∧
    (∀ b plants fuels connections, Builder.start inputs scenario = .ok b →
      scenarioTechnologies inputs scenario = .ok (plants, fuels, connections) →
      ∀ t ∈ plants ++ fuels ++ connections, (Input.present t.efficiency).isSome →
        EfficiencyCovers (techPushes b.setting t)) := by
  obtain ⟨b, plants, fuels, connections, hstart, -, rfl⟩ := assembleModel_eq_ok_iff.mp h
  obtain ⟨hb, hfuture⟩ := Builder.start_fresh hstart
  refine ⟨fun r hr row hrow => hb.vintage_has_period hr hrow, fun r hr row hrow => ?_, ?_⟩
  · obtain ⟨p, hp, hcell⟩ := hb.period_is_active hr hrow
    rw [hb.activeFuture_eq, hfuture] at hp
    exact ⟨p, hp, hcell⟩
  · intro b' _ _ _ hstart' _ t _ he
    obtain ⟨hb', -⟩ := Builder.start_fresh hstart'
    exact efficiencyCovers_techPushes hb'.activeFuture_ne_nil he

/-- Three demand years and one imported fuel, part of whose capacity was built before the
model starts. -/
def sampleInputs : Input.InputTables :=
  { (default : Input.InputTables) with
    system := { (default : Input.SystemTables) with
      demand := [⟨2020, 100.0, none⟩, ⟨2030, 115.0, none⟩, ⟨2040, 130.0, none⟩] }
    fuels := ⟨[("GAS", { (default : Input.Fuel) with
      name := "GAS", lifetime := some 40.0, emissionActivity := some 50.3,
      costVariable := some 4.0 })]⟩
    fuelsExisting := [⟨"GAS", 2000, 500.0⟩, ⟨"GAS", 1970, 200.0⟩] }

/-- The scenario that imports the sample fuel. -/
def sampleScenario : Scenario := { (default : Scenario) with fuels := ["GAS"] }

/-- The model assembled from the sample inputs. -/
def sampleModel : RelationSet :=
  match (assembleModel sampleInputs sampleScenario).1 with
  | .ok rel => rel
  | .error _ => {}

theorem assembleModel_sample : (assembleModel sampleInputs sampleScenario).1 = .ok sampleModel := by
  obtain ⟨b, hb⟩ : ∃ b, Builder.start sampleInputs sampleScenario = .ok b := ⟨_, rfl⟩
  obtain ⟨⟨plants, fuels, connections⟩, hts⟩ :
      ∃ ts, scenarioTechnologies sampleInputs sampleScenario = .ok ts := ⟨_, rfl⟩
  unfold sampleModel
  rw [assembleModel_ok hb hts]

theorem sampleModel_consistent :
    (assembleModel sampleInputs sampleScenario).1 = .ok sampleModel ∧
    (∀ r ∈ Relation.withVintage, ∀ row ∈ (sampleModel.rows r).toList,
      ∃ v, r.cell "vintage" row = some (.year v) ∧
        ∃ row' ∈ (sampleModel.rows .timePeriods).toList,
          Relation.timePeriods.cell "t_periods" row' = some (.year v)) ∧
    (∀ r ∈ Relation.withPeriod, ∀ row ∈ (sampleModel.rows r).toList,
      ∃ p ∈ (sampleInputs.system.demand.map (·.year)).dropLast,
        r.cell "periods" row = some (.year p)) ∧
    (∀ b plants fuels connections, Builder.start sampleInputs sampleScenario = .ok b →
      scenarioTechnologies sampleInputs sampleScenario = .ok (plants, fuels, connections) →
      ∀ t ∈ plants ++ fuels ++ connections, (Input.present t.efficiency).isSome →
        EfficiencyCovers (techPushes b.setting t)) :=
  ⟨assembleModel_sample, assembleModel_consistent assembleModel_sample⟩

end EnergyModel
