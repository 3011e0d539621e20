import EnergyModel.Proofs.Assembly.Registries
import EnergyModel.Proofs.Assembly.Outcome

/-!
# An assembly stays inside the domain of its partial steps

Some steps of an assembly are partial. The start year is the first period open for investment,
so there must be one. Costs escalate over the years from the start year to a period, or to the
vintage of a new build, a whole-number difference that must not go below zero. The age of a
vintage in a period is such a difference too, and `isOperating` takes it only once the vintage is
at most the period. Finishing reads the first and the fourth value of every efficiency row.

When the demand years are strictly ascending, and there are two of them at least, each of
these steps stays inside its domain in every state that a caller reaches by any calls, failed
calls included (`Builder.InDomain`). A builder keeps the periods it started with, and every row
it holds has one value per column (`Builder.Settled`): the start has both, and every call keeps
them. The periods open for investment are then the demand years but the last, ascending from
the start year; a new build's vintage is one of them, whatever the technology.
-/

namespace EnergyModel

open Assembly

/-- A row of a relation set whose rows have one value per column has one per column of its
relation. -/
theorem RelationSet.WellShaped.length_of_mem_rows {s : RelationSet} (hs : s.WellShaped)
    {r : Relation} {row : Tuple} (hrow : row ∈ (s.rows r).toList) : row.length = r.arity := by
  unfold RelationSet.rows at hrow
  cases hfind : s.tables.find? (·.1 == r) with
  | none => simp [hfind] at hrow
  | some e =>
    simp only [hfind, Option.map_some, Option.getD_some, Array.mem_toList_iff] at hrow
    have hr : e.1 = r := by simpa using List.find?_some hfind
    rw [← hr]
    exact hs e (List.mem_of_find?_eq_some hfind) row hrow

/-- The start year of strictly ascending periods open for investment comes before each. -/
theorem Periods.startYear_le {p : Periods} (h : p.activeFuture.Pairwise (· < ·)) :
    ∀ y ∈ p.activeFuture, p.startYear ≤ y := by
  unfold Periods.startYear
  intro y hy
  cases hact : p.activeFuture with
  | nil => simp [hact] at hy
  | cons x xs =>
    rw [hact] at h hy
    rcases List.mem_cons.mp hy with rfl | hy
    · exact Nat.le_refl y
    · exact Nat.le_of_lt (List.rel_of_pairwise_cons h hy)

/-- An operating vintage is at most the period: its age there is a true difference. -/
theorem le_of_isOperating {p v : Nat} {lifetime : Option Float}
    (h : isOperating p v lifetime = true) : v ≤ p := by
  simp only [isOperating, Bool.and_eq_true, decide_eq_true_eq] at h
  exact h.1

/-! ## What every call keeps -/

/-- A builder that has the periods it started with and whose rows have one value per column. -/
structure Builder.Settled (periods : Periods) (b : Builder) : Prop where
  periods_eq : b.periods = periods
  wellShaped : b.relations.WellShaped

theorem Builder.Settled.keptByCalls (periods : Periods) :
    Builder.KeptByCalls (Builder.Settled periods) where
  notes _ _ hb := ⟨hb.periods_eq, hb.wellShaped⟩
  withTechnology b t hb := ⟨(congrArg Setting.periods (Builder.withTechnology_setting b t)).trans
    hb.periods_eq, Builder.wellShaped_withTechnology hb.wellShaped t⟩
  register b id flag description hb :=
    ⟨(congrArg Setting.periods (Builder.register_setting b id flag description)).trans
      hb.periods_eq, Builder.wellShaped_register hb.wellShaped id flag description⟩
  withSystem b hb := ⟨(Builder.withSystem_periods b).trans hb.periods_eq,
    Builder.wellShaped_withSystem hb.wellShaped⟩

section Reachable

variable {inputs : Input.InputTables} {scenario : Scenario} {b : Builder}

/-- A caller reaches a builder only after a start. -/
theorem Builder.Reachable.exists_start (h : Builder.Reachable inputs scenario b) :
    ∃ b₀, Builder.start inputs scenario = .ok b₀ := by
  induction h with
  | start hs => exact ⟨_, hs⟩
  | call _ _ ih => exact ih

/-- Every state a caller reaches has the periods of the start and well-shaped rows. -/
theorem Builder.Reachable.settled {b₀ : Builder} (h₀ : Builder.start inputs scenario = .ok b₀)
    (h : Builder.Reachable inputs scenario b) : b.Settled b₀.periods :=
  h.of_kept (Builder.Settled.keptByCalls _) fun b hs => by
    obtain rfl : b = b₀ := Except.ok.inj (hs.symm.trans h₀)
    obtain ⟨periods, -, rfl⟩ := Builder.start_eq_ok.mp hs
    exact ⟨rfl, RelationSet.wellShaped_empty⟩

end Reachable

/-! ## The partial steps -/

/-- At a builder, every partial step of an assembly stays inside its domain: there is a start
year, no period open for investment and no vintage any technology could newly build there comes
before it, and every efficiency row has a fourth value. -/
structure Builder.InDomain (b : Builder) : Prop where
  activeFuture_ne_nil : b.periods.activeFuture ≠ []
  startYear_le_period : ∀ p ∈ b.periods.activeFuture, b.periods.startYear ≤ p
  startYear_le_newBuild : ∀ (t : Technology),
    ∀ v ∈ (computeSchedule t.buildPolicy t.existingYears b.periods.activeFuture
      b.allTimePeriods).futureBuildYears, b.periods.startYear ≤ v
  efficiency_values : ∀ row ∈ (b.relations.rows .efficiency).toList, 3 < row.length

/-- With strictly ascending demand years, every state a caller reaches is inside the domain of
the partial steps. -/
theorem Builder.Reachable.inDomain {inputs : Input.InputTables} {scenario : Scenario}
    {b : Builder} (hasc : (inputs.system.demand.map (·.year)).Pairwise (· < ·))
    (h : Builder.Reachable inputs scenario b) : b.InDomain := by
  obtain ⟨b₀, h₀⟩ := h.exists_start
  obtain ⟨hperiods, hshaped⟩ := h.settled h₀
  obtain ⟨hfresh, hfuture⟩ := Builder.start_fresh h₀
  -- the periods open for investment are the demand years but the last
  have hactive : b.periods.activeFuture.Pairwise (· < ·) := by
    rw [hperiods, hfresh.activeFuture_eq, hfuture]
    exact hasc.sublist (List.dropLast_sublist _)
  have hstart := Periods.startYear_le hactive
  refine ⟨hperiods ▸ hfresh.activeFuture_ne_nil, hstart, fun t v hv => ?_, fun row hrow => ?_⟩
  · exact hstart v (mem_futureBuildYears hv).1
  · rw [hshaped.length_of_mem_rows hrow]
    decide

/-- With strictly ascending demand years, two of them at least, an assembly starts, and in every
state a caller reaches by any calls, failed ones included, each partial step stays inside its
domain: the start year exists, the years from it to every period open for investment and to
every new build's vintage are whole, and finishing finds the input and the output of every
efficiency row. A vintage operates in a period only from its vintage on, so its age there is
whole too. -/
theorem assembly_stays_in_domain {inputs : Input.InputTables} (scenario : Scenario)
    (hasc : (inputs.system.demand.map (·.year)).Pairwise (· < ·))
    (htwo : 2 ≤ inputs.system.demand.length) :
    (∃ b, Builder.start inputs scenario = .ok b) ∧
      (∀ b, Builder.Reachable inputs scenario b → b.InDomain) ∧
      ∀ p v lifetime, isOperating p v lifetime = true → v ≤ p := by
  refine ⟨?_, fun b h => h.inDomain hasc, fun _ _ _ h => le_of_isOperating h⟩
  have hperiods : Periods.ofDemandYears (inputs.system.demand.map (·.year)) =
      .ok ⟨inputs.system.demand.map (·.year), (inputs.system.demand.map (·.year)).dropLast⟩ := by
    unfold Periods.ofDemandYears
    rw [if_neg (by simpa using Nat.not_lt.mpr htwo)]
  exact ⟨_, Builder.start_eq_ok.mpr ⟨_, hperiods, rfl⟩⟩

theorem sampleInputs_stays_in_domain :
    (sampleInputs.system.demand.map (·.year)).Pairwise (· < ·) ∧
      2 ≤ sampleInputs.system.demand.length ∧
      (∃ b, Builder.start sampleInputs sampleScenario = .ok b) ∧
      (∀ b, Builder.Reachable sampleInputs sampleScenario b → b.InDomain) ∧
      ∀ p v lifetime, isOperating p v lifetime = true → v ≤ p :=
  ⟨by decide, by decide, assembly_stays_in_domain sampleScenario (by decide) (by decide)⟩

end EnergyModel
