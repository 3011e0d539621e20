import EnergyModel.Proofs.Assembly.PerTechnology
import EnergyModel.Proofs.Assembly.Registries
import EnergyModel.Proofs.Schedule.Spec
import EnergyModel.Proofs.Binary64.Monotone

/-!
# Constraint rows, with retirement first

A technology's limits on capacity and activity are written for the periods of its schedule in
which a limit can apply (its constraint periods): the maximum capacity in each of them when it
is given, the minimum capacities the system names for the technology in those periods when
minimum capacity constraints are on, and a maximum activity in each of them. A retirement year
forces the activity to zero from that year on, whatever maximum is configured.

The constraint periods ascend, and a period at or after the retirement year is followed only by
such periods, so the rows that retirement forces to zero come last
(`maxActivityLimits_eq_retired_last`). `addTechnology_constraint_rows` says what adding a
technology appends to the three relations.
-/

namespace EnergyModel

open Assembly

/-- Whether a period comes at or after a retirement year, when there is one. -/
def retiredBy (retirement : Option Float) (p : Nat) : Bool :=
  retirement.any fun year => p.toFloat ≥ year

/-- A period after one at or after the retirement year is retired too. -/
theorem retiredBy_mono {retirement : Option Float} {p q : Nat} (hpq : p ≤ q)
    (hp : retiredBy retirement p = true) : retiredBy retirement q = true := by
  cases retirement with
  | none => simp [retiredBy] at hp
  | some year =>
    simp only [retiredBy, Option.any_some, decide_eq_true_eq] at hp ⊢
    exact Float.le_trans hp (Float.natCast_le_natCast_of_le hpq)

/-- An ascending list splits, for a test that stays passed once passed, into the elements that
fail it, then those that pass it. -/
theorem eq_filter_append_filter_of_monotone {l : List Nat} (hl : l.Pairwise (· ≤ ·))
    {q : Nat → Bool} (hq : ∀ a b, a ≤ b → q a = true → q b = true) :
    l = l.filter (fun x => !q x) ++ l.filter q := by
  induction l with
  | nil => rfl
  | cons a rest ih =>
    obtain ⟨hle, hrest⟩ := List.pairwise_cons.mp hl
    by_cases ha : q a = true
    · -- every later element passes too, so all of them go to the second part
      have hall : ∀ x ∈ rest, q x = true := fun x hx => hq a x (hle x hx) ha
      have hfail : rest.filter (fun x => !q x) = [] :=
        List.filter_eq_nil_iff.mpr fun x hx => by simp [hall x hx]
      rw [List.filter_cons_of_neg (by simp [ha]), List.filter_cons_of_pos ha, hfail,
        List.filter_eq_self.mpr hall, List.nil_append]
    · simp only [List.filter_cons, ha, Bool.not_false, ↓reduceIte, List.cons_append,
        Bool.false_eq_true]
      exact congrArg (a :: ·) (ih hrest)

/-- Over ascending periods, the activity limits are the configured maximum in every period
before retirement, then zero in every period from retirement on. -/
theorem maxActivityLimits_eq_retired_last (maxActivity retirement : Option Float)
    {periods : List Nat} (hperiods : periods.Pairwise (· ≤ ·)) :
    maxActivityLimits maxActivity retirement periods =
      (periods.filter fun p => !retiredBy retirement p).filterMap
          (fun p => maxActivity.map fun limit => (p, limit)) ++
        (periods.filter (retiredBy retirement)).map fun p => (p, 0.0) := by
  have hsplit := eq_filter_append_filter_of_monotone hperiods (q := retiredBy retirement)
    fun _ _ => retiredBy_mono
  unfold maxActivityLimits
  conv => lhs; rw [hsplit]
  rw [List.filterMap_append]
  congr 1
  · -- before retirement the configured maximum applies
    refine List.filterMap_congr fun p hp => ?_
    have hp' : retiredBy retirement p = false := by simpa using (List.mem_filter.mp hp).2
    simp only [retiredBy] at hp'
    simp [hp']
  · -- from retirement on the limit is zero
    rw [← List.filterMap_eq_map]
    refine List.filterMap_congr fun p hp => ?_
    have hp' : retiredBy retirement p = true := (List.mem_filter.mp hp).2
    simp only [retiredBy] at hp'
    simp [hp']

/-- Adding a technology appends its constraint rows, for the constraint periods `P` of its
schedule: the maximum capacity in every period of `P` when it is present, else nothing; when
minimum capacity constraints are on, every minimum capacity the system names for it in a period
of `P`, in file order, from MW to GW; and the activity limits of `P`. Those are the configured
maximum in every period of `P` before retirement, when it is present, then zero in every period
of `P` from the retirement year on: retirement overrides the maximum, and its zero rows come
last. -/
theorem addTechnology_constraint_rows {b : Builder} (h : b.relations.Catalogued)
    (t : Technology) :
    let P := (computeSchedule t.buildPolicy t.existingYears b.periods.activeFuture
      b.allTimePeriods).constraintPeriods
    let limits := maxActivityLimits (Input.present t.maxActivity) (Input.present t.retirement) P
    ∃ b' : Builder, Runs (addTechnology t) b () b' ∧
      (b'.relations.rows .maxCapacity).toList = (b.relations.rows .maxCapacity).toList ++
        ((Input.present t.maxCapacity).toList.flatMap (fun cap =>
          P.map fun p => [.year p, .text t.name, .real cap, .text "GW", .text " "]) : List Tuple) ∧
      (b'.relations.rows .minCapacity).toList = (b.relations.rows .minCapacity).toList ++
        (if b.scenario.toggles.minCapacityLimit then
          (b.inputs.system.minimumCapacities.filter fun l =>
              l.technology == t.name && P.contains l.year).map fun l =>
            [.year l.year, .text t.name, .real (l.capacity / 1000.0), .text "GW", .text " "]
        else [] : List Tuple) ∧
      (b'.relations.rows .maxActivity).toList = (b.relations.rows .maxActivity).toList ++
        (limits.map fun lim => [.year lim.1, .text t.name, .real lim.2, .text "PJ", .text " "] :
          List Tuple) ∧
      limits =
        (P.filter fun p => !retiredBy (Input.present t.retirement) p).filterMap
            (fun p => (Input.present t.maxActivity).map fun limit => (p, limit)) ++
          (P.filter (retiredBy (Input.present t.retirement))).map fun p => (p, 0.0) := by
  intro P limits
  -- the constraint periods of a schedule do not depend on the periods the model already has
  have hP : P = (techSchedule b.setting t).constraintPeriods := by
    have hknown := congrArg BuildSchedule.constraintPeriods (computeSchedule_eq_known
      t.buildPolicy t.existingYears b.periods.activeFuture b.allTimePeriods)
    exact hknown
  have hasc : P.Pairwise (· ≤ ·) := constraintPeriods_ascending.imp Nat.le_of_lt
  refine ⟨b.withTechnology t, Runs.addTechnology t b, ?_, ?_, ?_,
    maxActivityLimits_eq_retired_last _ _ hasc⟩
  · rw [Builder.rows_withTechnology h (by decide), rowsIn_techPushes_maxCapacity, ← hP]
    rfl
  · rw [Builder.rows_withTechnology h (by decide), rowsIn_techPushes_minCapacity, ← hP]
    rfl
  · rw [Builder.rows_withTechnology h (by decide), rowsIn_techPushes_maxActivity, ← hP]
    rfl

/-- A coal plant that can be built, capped in capacity and activity, and retired in 2030. -/
def retiringCoalPlant : Technology :=
  { name := "COAL_PP", input := "COAL", output := "ELC", sector := .electric, newBuilds := true,
    lifetime := some 40.0, maxCapacity := some 5.0, maxActivity := some 100.0,
    retirement := some 2030.0 }

theorem sampleStart_constraint_rows :
    let t := retiringCoalPlant
    let P := (computeSchedule t.buildPolicy t.existingYears sampleStart.periods.activeFuture
      sampleStart.allTimePeriods).constraintPeriods
    let limits := maxActivityLimits (Input.present t.maxActivity) (Input.present t.retirement) P
    sampleStart.relations.Catalogued ∧
    ∃ b' : Builder, Runs (addTechnology t) sampleStart () b' ∧
      (b'.relations.rows .maxCapacity).toList = (sampleStart.relations.rows .maxCapacity).toList ++
        ((Input.present t.maxCapacity).toList.flatMap (fun cap =>
          P.map fun p => [.year p, .text t.name, .real cap, .text "GW", .text " "]) : List Tuple) ∧
      (b'.relations.rows .minCapacity).toList = (sampleStart.relations.rows .minCapacity).toList ++
        (if sampleStart.scenario.toggles.minCapacityLimit then
          (sampleStart.inputs.system.minimumCapacities.filter fun l =>
              l.technology == t.name && P.contains l.year).map fun l =>
            [.year l.year, .text t.name, .real (l.capacity / 1000.0), .text "GW", .text " "]
        else [] : List Tuple) ∧
      (b'.relations.rows .maxActivity).toList = (sampleStart.relations.rows .maxActivity).toList ++
        (limits.map fun lim => [.year lim.1, .text t.name, .real lim.2, .text "PJ", .text " "] :
          List Tuple) ∧
      limits =
        (P.filter fun p => !retiredBy (Input.present t.retirement) p).filterMap
            (fun p => (Input.present t.maxActivity).map fun limit => (p, limit)) ++
          (P.filter (retiredBy (Input.present t.retirement))).map fun p => (p, 0.0) :=
  ⟨RelationSet.catalogued_empty,
    addTechnology_constraint_rows RelationSet.catalogued_empty retiringCoalPlant⟩

end EnergyModel
