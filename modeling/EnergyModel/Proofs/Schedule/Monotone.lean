import EnergyModel.Proofs.Schedule.Spec
import EnergyModel.Proofs.Binary64.Monotone

/-!
# Widening a policy widens its schedule

A policy is widened over some future periods (`BuildPolicy.Widens`) when it allows new builds
whenever the narrower one does, its build window contains the narrower one's, and its lifetime
is at least the narrower one's, an absent lifetime being the least. Every test the schedule
makes then passes for the wider policy and more existing capacity whenever it passes for the
narrower policy: a year still opens to new builds, a vintage is still in service, a year is
still within a lifetime of the window's end or of the latest vintage. So none of the four lists
of a schedule loses a year (`computeSchedule_mono`).

The tests compare floats, and the last adds a lifetime to a year, so they hold with no
assumption on NaN: a comparison that holds has none on either side, and a year's value is a
number at least zero, which keeps the larger sum a number (`Float.le_add_of_le_add`).
-/

namespace EnergyModel

/-- One lifetime is at most another; an absent lifetime is the least, since every comparison
with it is false. -/
def LifetimeLe : Option Float → Option Float → Prop
  | none, _ => True
  | some _, none => False
  | some l, some l' => l ≤ l'

instance (l l' : Option Float) : Decidable (LifetimeLe l l') := by
  cases l <;> cases l' <;> unfold LifetimeLe <;> infer_instance

section Lifetimes

variable {l l' : Option Float}

theorem inServiceAt_mono (hl : LifetimeLe l l') {v start : Nat}
    (h : inServiceAt v start l = true) : inServiceAt v start l' = true := by
  cases l with
  | none => cases h
  | some life =>
    cases l' with
    | none => cases hl
    | some life' =>
      simp only [inServiceAt, decide_eq_true_eq] at h ⊢
      exact Float.lt_of_lt_of_le h hl

theorem withinLifetimeOf_mono (hl : LifetimeLe l l') {y : Nat} {last last' : Float}
    (hlast : last ≤ last') (h : withinLifetimeOf y last l = true) :
    withinLifetimeOf y last' l' = true := by
  cases l with
  | none => cases h
  | some life =>
    cases l' with
    | none => cases hl
    | some life' =>
      simp only [withinLifetimeOf, decide_eq_true_eq] at h ⊢
      exact Float.le_add_of_le_add (Float.natCast_nonneg y) h hlast hl

end Lifetimes

/-- More vintages have a latest vintage, and it is no earlier. -/
theorem exists_max?_ge_of_subset {xs ys : List Nat} (hsub : xs ⊆ ys) {a : Nat}
    (ha : xs.max? = some a) : ∃ b, ys.max? = some b ∧ a ≤ b := by
  have hmem : a ∈ ys := hsub (List.max?_mem ha)
  obtain ⟨b, hb⟩ := Option.isSome_iff_exists.mp (List.isSome_max?_of_mem hmem)
  exact ⟨b, hb, (List.max?_eq_some_iff.mp hb).2 a hmem⟩

/-- A policy wider than another over the future periods: it allows new builds whenever the
other does, its build window contains the other's, and its lifetime is at least as long. -/
structure BuildPolicy.Widens (policy policy' : BuildPolicy) (future : List Nat) : Prop where
  newBuilds : policy.newBuilds = true → policy'.newBuilds = true
  windowStart_le : policy'.windowStart future ≤ policy.windowStart future
  windowEnd_le : policy.windowEnd future ≤ policy'.windowEnd future
  lifetime_le : LifetimeLe policy.lifetime policy'.lifetime

namespace BuildPolicy.Widens

variable {policy policy' : BuildPolicy} {future existing existing' : List Nat}

theorem opensIn (h : policy.Widens policy' future) {y : Nat}
    (hy : policy.opensIn future y = true) : policy'.opensIn future y = true := by
  simp only [BuildPolicy.opensIn, Bool.and_eq_true, decide_eq_true_eq] at hy ⊢
  obtain ⟨hnew, hstart, hend⟩ := hy
  exact ⟨h.newBuilds hnew, Float.le_trans h.windowStart_le hstart,
    Float.le_trans hend h.windowEnd_le⟩

theorem filter_opensIn_subset (h : policy.Widens policy' future) :
    future.filter (policy.opensIn future) ⊆ future.filter (policy'.opensIn future) :=
  (List.monotone_filter_right future fun _ => h.opensIn).subset

theorem serving (h : policy.Widens policy' future) {v : Nat} (hv : Serving policy future v) :
    Serving policy' future v :=
  inServiceAt_mono h.lifetime_le hv

theorem limitsIn (h : policy.Widens policy' future) (hex : existing ⊆ existing') {y : Nat}
    (hy : policy.LimitsIn existing future y) : policy'.LimitsIn existing' future y := by
  rcases hy with ⟨hnew, hstart, hlife⟩ | ⟨latest, hmax, hlife⟩
  · -- new capacity built in the window
    exact Or.inl ⟨h.newBuilds hnew, Float.le_trans h.windowStart_le hstart,
      withinLifetimeOf_mono h.lifetime_le h.windowEnd_le hlife⟩
  · -- existing capacity of the latest vintage, which only moves later
    obtain ⟨latest', hmax', hle⟩ := exists_max?_ge_of_subset hex hmax
    exact Or.inr ⟨latest', hmax',
      withinLifetimeOf_mono h.lifetime_le (Float.natCast_le_natCast_of_le hle) hlife⟩

end BuildPolicy.Widens

/-- A wider policy and more existing vintages give a schedule whose four lists hold every year of
the narrower schedule's lists. -/
theorem computeSchedule_mono {policy policy' : BuildPolicy} {existing existing' future : List Nat}
    (known : List Nat) (h : policy.Widens policy' future) (hex : existing ⊆ existing') :
    let s := computeSchedule policy existing future known
    let s' := computeSchedule policy' existing' future known
    s.buildYears ⊆ s'.buildYears ∧ s.futureBuildYears ⊆ s'.futureBuildYears ∧
      s.constraintPeriods ⊆ s'.constraintPeriods ∧ s.legacyPeriods ⊆ s'.legacyPeriods := by
  intro s s'
  cases future with
  | nil =>
    -- no future period: both schedules are empty
    exact ⟨List.nil_subset _, List.nil_subset _, List.nil_subset _, List.nil_subset _⟩
  | cons x xs =>
    refine ⟨fun y hy => ?_, fun y hy => ?_, fun y hy => ?_, fun y hy => ?_⟩
    · rw [mem_buildYears_cons_iff] at hy ⊢
      rcases hy with hopens | ⟨hy, hserving⟩
      · exact Or.inl (h.filter_opensIn_subset hopens)
      · exact Or.inr ⟨hex hy, h.serving hserving⟩
    · rw [futureBuildYears_cons, mem_ascending] at hy ⊢
      exact h.filter_opensIn_subset hy
    · rw [mem_constraintPeriods_cons] at hy ⊢
      exact ⟨hy.1, h.limitsIn hex hy.2⟩
    · rw [legacyPeriods_cons, List.mem_eraseDups, List.mem_filter, Bool.and_eq_true] at hy ⊢
      exact ⟨hex hy.1, inServiceAt_mono h.lifetime_le hy.2.1, hy.2.2⟩

/-- New builds from 2020 to the last future period, with a lifetime of thirty years. -/
def openPolicy : BuildPolicy :=
  { newBuilds := true, lifetime := some 30.0, firstBuild := some 2020.0 }

theorem windowedPolicy_widened_schedule :
    windowedPolicy.Widens openPolicy [2020, 2025, 2030, 2035] ∧ [2010] ⊆ [2010, 1995] ∧
      let s := computeSchedule windowedPolicy [2010] [2020, 2025, 2030, 2035] [2020, 2025]
      let s' := computeSchedule openPolicy [2010, 1995] [2020, 2025, 2030, 2035] [2020, 2025]
      s.buildYears ⊆ s'.buildYears ∧ s.futureBuildYears ⊆ s'.futureBuildYears ∧
        s.constraintPeriods ⊆ s'.constraintPeriods ∧ s.legacyPeriods ⊆ s'.legacyPeriods := by
  have h : windowedPolicy.Widens openPolicy [2020, 2025, 2030, 2035] :=
    ⟨fun _ => rfl, by decide, by decide, by decide⟩
  have hex : [2010] ⊆ [2010, 1995] := by simp
  exact ⟨h, hex, computeSchedule_mono _ h hex⟩

end EnergyModel
