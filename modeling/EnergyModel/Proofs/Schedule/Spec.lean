import EnergyModel.Proofs.Schedule

/-!
# What a schedule holds, as sets

The lists of a schedule described by what they hold rather than by the folds that collect
them, for future periods in strictly ascending order.

A year opens to new builds when new builds are allowed and the year lies in the build window,
whose ends default to the first and the last future period (`BuildPolicy.opensIn`). Limits
apply in a year when some capacity can still be alive in it: capacity built in the window, from
the window's start to a lifetime after its end, or existing capacity up to a lifetime after its
latest vintage (`BuildPolicy.LimitsIn`). A comparison with an absent lifetime is false.

The new builds are then the future periods that open, in their order; the vintages are these
together with the existing vintages still in service at the first future period, and the
constraint periods are the future periods with limits, each listed once in ascending order; the
legacy periods are the vintages in service that the model does not have yet, once each, in the
order first met (`BuildSchedule.Meets`). The new builds are ascending because the future periods
are; the vintages and the constraint periods are sorted at the end, and are strictly ascending
because they were collected once each.
-/

namespace EnergyModel

namespace BuildPolicy

variable (policy : BuildPolicy) (existing future : List Nat)

/-- The first year of the build window: the first build year, else the first future period. -/
def windowStart : Float := policy.firstBuild.getD (future.headD 0).toFloat

/-- The last year of the build window: the last build year, else the last future period. -/
def windowEnd : Float := policy.lastBuild.getD (future.getLast?.getD 0).toFloat

/-- A year opens to new builds: they are allowed and the year lies in the build window. -/
def opensIn (y : Nat) : Bool :=
  policy.newBuilds &&
    (decide (policy.windowStart future ≤ y.toFloat) && decide (y.toFloat ≤ policy.windowEnd future))

/-- Limits apply in a year: new capacity built in the window can be alive in it, or existing
capacity of the latest vintage can. -/
def LimitsIn (y : Nat) : Prop :=
  (policy.newBuilds = true ∧ policy.windowStart future ≤ y.toFloat ∧
      withinLifetimeOf y (policy.windowEnd future) policy.lifetime = true) ∨
    ∃ latest, existing.max? = some latest ∧
      withinLifetimeOf y latest.toFloat policy.lifetime = true

end BuildPolicy

/-- What the four lists of a schedule hold, for a policy, the vintages of existing capacity,
the future periods and the periods the model already has. -/
structure BuildSchedule.Meets (policy : BuildPolicy) (existing future known : List Nat)
    (s : BuildSchedule) : Prop where
  futureBuildYears_eq : s.futureBuildYears = future.filter (policy.opensIn future)
  mem_buildYears : ∀ y, y ∈ s.buildYears ↔
    y ∈ s.futureBuildYears ∨ (y ∈ existing ∧ Serving policy future y)
  buildYears_ascending : s.buildYears.Pairwise (· < ·)
  mem_constraintPeriods : ∀ y, y ∈ s.constraintPeriods ↔
    y ∈ future ∧ policy.LimitsIn existing future y
  constraintPeriods_ascending : s.constraintPeriods.Pairwise (· < ·)
  legacyPeriods_eq : s.legacyPeriods =
    (existing.filter fun v => inServiceAt v (future.headD 0) policy.lifetime && !known.contains v).eraseDups

namespace BuildSchedule.Meets

variable {policy : BuildPolicy} {existing future known : List Nat} {s : BuildSchedule}

theorem futureBuildYears_subset (h : s.Meets policy existing future known) :
    ∀ y ∈ s.futureBuildYears, y ∈ s.buildYears :=
  fun y hy => (h.mem_buildYears y).mpr (Or.inl hy)

theorem futureBuildYears_ascending (h : s.Meets policy existing future known)
    (hasc : future.Pairwise (· < ·)) : s.futureBuildYears.Pairwise (· < ·) :=
  h.futureBuildYears_eq ▸ hasc.filter _

theorem constraintPeriods_subset (h : s.Meets policy existing future known) :
    ∀ y ∈ s.constraintPeriods, y ∈ future :=
  fun y hy => ((h.mem_constraintPeriods y).mp hy).1

theorem legacyPeriods_nodup (h : s.Meets policy existing future known) : s.legacyPeriods.Nodup :=
  h.legacyPeriods_eq ▸ nodup_eraseDups _

end BuildSchedule.Meets

/-! ## The schedule of non-empty future periods -/

section Cons

variable {policy : BuildPolicy} {existing known : List Nat} {x : Nat} {xs : List Nat}

theorem windowStart_cons : policy.windowStart (x :: xs) = policy.firstBuild.getD x.toFloat := rfl

theorem windowEnd_cons :
    policy.windowEnd (x :: xs) = policy.lastBuild.getD (xs.getLast?.getD x).toFloat := by
  simp only [BuildPolicy.windowEnd, List.getLast?_cons, Option.getD_some]

/-- The periods that open are none when new builds are refused, else those in the window. -/
theorem filter_opensIn_cons :
    (x :: xs).filter (policy.opensIn (x :: xs)) =
      if policy.newBuilds = true then
        (x :: xs).filter fun y => decide (policy.firstBuild.getD x.toFloat ≤ y.toFloat) &&
          decide (y.toFloat ≤ policy.lastBuild.getD (xs.getLast?.getD x).toFloat)
      else [] := by
  unfold BuildPolicy.opensIn
  rw [windowStart_cons, windowEnd_cons]
  cases policy.newBuilds <;> simp

/-- The new builds are the future periods that open, sorted. -/
theorem futureBuildYears_cons :
    (computeSchedule policy existing (x :: xs) known).futureBuildYears =
      ascending ((x :: xs).filter (policy.opensIn (x :: xs))) := by
  simp only [computeSchedule, List.head?_cons, List.getLast?_cons, foldl_window,
    apply_ite Prod.fst, apply_ite Prod.snd, List.nil_append, filter_opensIn_cons]

theorem mem_buildYears_cons_iff {y : Nat} :
    y ∈ (computeSchedule policy existing (x :: xs) known).buildYears ↔
      y ∈ (x :: xs).filter (policy.opensIn (x :: xs)) ∨
        (y ∈ existing ∧ Serving policy (x :: xs) y) := by
  simp only [computeSchedule, List.head?_cons, List.getLast?_cons, foldl_window,
    apply_ite Prod.fst, mem_ascending, mem_foldl_addNew, List.mem_filter, Serving,
    List.headD_cons, filter_opensIn_cons]
  split <;> simp

theorem mem_constraintPeriods_cons {y : Nat} :
    y ∈ (computeSchedule policy existing (x :: xs) known).constraintPeriods ↔
      y ∈ x :: xs ∧ policy.LimitsIn existing (x :: xs) y := by
  simp only [computeSchedule, List.head?_cons, List.getLast?_cons, foldl_window,
    apply_ite Prod.snd, mem_ascending, BuildPolicy.LimitsIn, windowStart_cons, windowEnd_cons]
  -- the periods new capacity can be alive in, then those of the latest existing vintage
  have hnew : y ∈ (if policy.newBuilds = true then
        ((x :: xs).filter fun y => decide (policy.firstBuild.getD x.toFloat ≤ y.toFloat) &&
          withinLifetimeOf y (policy.lastBuild.getD (xs.getLast?.getD x).toFloat)
            policy.lifetime).foldl addNew []
        else []) ↔
      y ∈ x :: xs ∧ policy.newBuilds = true ∧ policy.firstBuild.getD x.toFloat ≤ y.toFloat ∧
        withinLifetimeOf y (policy.lastBuild.getD (xs.getLast?.getD x).toFloat)
          policy.lifetime = true := by
    cases policy.newBuilds <;> simp
  cases hmax : existing.max? with
  | none => simp only [hnew]; simp
  | some latest =>
    simp only [mem_foldl_addNew, hnew, List.mem_filter, Option.some.injEq, exists_eq_left']
    tauto

theorem legacyPeriods_cons :
    (computeSchedule policy existing (x :: xs) known).legacyPeriods =
      (existing.filter fun v => inServiceAt v x policy.lifetime && !known.contains v).eraseDups := by
  simp only [computeSchedule, List.head?_cons, List.getLast?_cons, foldl_addNew_nil,
    List.filter_filter]
  exact congrArg List.eraseDups (List.filter_congr fun v _ => Bool.and_comm _ _)

end Cons

theorem buildYears_ascending {policy : BuildPolicy} {existing future known : List Nat} :
    (computeSchedule policy existing future known).buildYears.Pairwise (· < ·) := by
  have hnodup : (computeSchedule policy existing future known).buildYears.Nodup :=
    nodup_buildYears
  cases future with
  | nil => simp [computeSchedule]
  | cons x xs => exact pairwise_lt_ascending (nodup_ascending.mp hnodup)

theorem constraintPeriods_ascending {policy : BuildPolicy} {existing future known : List Nat} :
    (computeSchedule policy existing future known).constraintPeriods.Pairwise (· < ·) := by
  have hnodup : (computeSchedule policy existing future known).constraintPeriods.Nodup :=
    nodup_constraintPeriods
  cases future with
  | nil => simp [computeSchedule]
  | cons x xs => exact pairwise_lt_ascending (nodup_ascending.mp hnodup)

/-- For non-empty strictly ascending future periods a schedule holds what `Meets` says. -/
theorem computeSchedule_meets (policy : BuildPolicy) (existing known : List Nat)
    {future : List Nat} (hasc : future.Pairwise (· < ·)) (hne : future ≠ []) :
    (computeSchedule policy existing future known).Meets policy existing future known := by
  obtain ⟨x, xs, rfl⟩ := List.exists_cons_of_ne_nil hne
  have hnew : (computeSchedule policy existing (x :: xs) known).futureBuildYears =
      (x :: xs).filter (policy.opensIn (x :: xs)) := by
    rw [futureBuildYears_cons, ascending_of_pairwise_lt (hasc.filter _)]
  exact
    { futureBuildYears_eq := hnew
      mem_buildYears := fun y => by rw [hnew, mem_buildYears_cons_iff]
      buildYears_ascending := buildYears_ascending
      mem_constraintPeriods := fun y => mem_constraintPeriods_cons
      constraintPeriods_ascending := constraintPeriods_ascending
      legacyPeriods_eq := legacyPeriods_cons }

/-- The schedule of strictly ascending future periods: empty when there are none; otherwise its
new builds are the future periods that open, its vintages those together with the existing
vintages in service, and its constraint periods the future periods with limits, both strictly
ascending, and its legacy periods the vintages in service that the model does not have, once
each, in the order first met. Hence the new builds are vintages, all three lists of years are
strictly ascending, the constraint periods are future periods and no legacy period is listed
twice. -/
theorem computeSchedule_set_spec (policy : BuildPolicy) (existing known : List Nat)
    {future : List Nat} (hasc : future.Pairwise (· < ·)) :
    let s := computeSchedule policy existing future known
    (future = [] → s = {}) ∧ (future ≠ [] → s.Meets policy existing future known) ∧
      (∀ y ∈ s.futureBuildYears, y ∈ s.buildYears) ∧ s.buildYears.Pairwise (· < ·) ∧
      s.futureBuildYears.Pairwise (· < ·) ∧ s.constraintPeriods.Pairwise (· < ·) ∧
      (∀ y ∈ s.constraintPeriods, y ∈ future) ∧ s.legacyPeriods.Nodup := by
  intro s
  cases future with
  | nil =>
    -- no future period: the schedule is empty
    have hempty : s = {} := rfl
    refine ⟨fun _ => hempty, fun h => absurd rfl h, ?_⟩
    simp [hempty]
  | cons x xs =>
    have hmeets := computeSchedule_meets policy existing known hasc (List.cons_ne_nil x xs)
    exact ⟨fun h => absurd h (List.cons_ne_nil x xs), fun _ => hmeets,
      hmeets.futureBuildYears_subset, hmeets.buildYears_ascending,
      hmeets.futureBuildYears_ascending hasc, hmeets.constraintPeriods_ascending,
      hmeets.constraintPeriods_subset, hmeets.legacyPeriods_nodup⟩

/-- New builds in 2025 only, with a lifetime of twenty years. -/
def windowedPolicy : BuildPolicy :=
  { newBuilds := true, lifetime := some 20.0, firstBuild := some 2025.0, lastBuild := some 2025.0 }

/-- The vintage 2010 twice, 1990 retired before 2020 and 2015 already a period: one legacy
period. -/
example : (computeSchedule windowedPolicy [2010, 1990, 2010, 2015] [2020, 2025, 2030, 2035]
    [2020, 2025, 2030, 2035, 2015]).legacyPeriods = [2010] := by decide

theorem windowedPolicy_set_spec :
    [2020, 2025, 2030, 2035].Pairwise (· < ·) ∧
      let s := computeSchedule windowedPolicy [2010, 1990, 2010, 2015] [2020, 2025, 2030, 2035]
        [2020, 2025, 2030, 2035, 2015]
      ([2020, 2025, 2030, 2035] = [] → s = {}) ∧
        ([2020, 2025, 2030, 2035] ≠ [] →
          s.Meets windowedPolicy [2010, 1990, 2010, 2015] [2020, 2025, 2030, 2035]
            [2020, 2025, 2030, 2035, 2015]) ∧
        (∀ y ∈ s.futureBuildYears, y ∈ s.buildYears) ∧ s.buildYears.Pairwise (· < ·) ∧
        s.futureBuildYears.Pairwise (· < ·) ∧ s.constraintPeriods.Pairwise (· < ·) ∧
        (∀ y ∈ s.constraintPeriods, y ∈ [2020, 2025, 2030, 2035]) ∧ s.legacyPeriods.Nodup :=
  ⟨by decide, computeSchedule_set_spec _ _ _ (by decide)⟩

end EnergyModel
