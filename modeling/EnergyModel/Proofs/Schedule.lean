import EnergyModel.Schedule
import Mathlib.Data.List.Induction

/-!
# Build schedules

What the lists of a schedule hold. A vintage is a future period open to new builds or the
installation year of existing capacity still in service when the model starts, and each
vintage is listed once; the periods a limit applies in are future periods; the legacy periods
are the vintages of existing capacity in service that the model does not have yet. Which
periods the model already has changes nothing but the legacy periods.
-/

namespace EnergyModel

/-! ## Appending unseen years -/

@[simp] theorem mem_addNew {y x : Nat} {acc : List Nat} : y ∈ addNew acc x ↔ y ∈ acc ∨ y = x := by
  unfold addNew
  split
  · rename_i hx
    constructor
    · exact Or.inl
    · rintro (h | rfl)
      · exact h
      · simpa using hx
  · simp

theorem nodup_addNew {acc : List Nat} (h : acc.Nodup) (x : Nat) : (addNew acc x).Nodup := by
  unfold addNew
  split
  · exact h
  · rename_i hx
    exact List.nodup_append.mpr ⟨h, by simp, fun a ha b hb => by
      rw [List.mem_singleton.mp hb]
      rintro rfl
      exact hx (by simpa using ha)⟩

@[simp] theorem mem_foldl_addNew {y : Nat} {acc l : List Nat} :
    y ∈ l.foldl addNew acc ↔ y ∈ acc ∨ y ∈ l := by
  induction l generalizing acc with
  | nil => simp
  | cons x xs ih =>
    rw [List.foldl_cons, ih, mem_addNew, List.mem_cons]
    exact or_assoc

theorem nodup_foldl_addNew {acc : List Nat} (h : acc.Nodup) (l : List Nat) :
    (l.foldl addNew acc).Nodup := by
  induction l generalizing acc with
  | nil => exact h
  | cons x xs ih => exact ih (nodup_addNew h x)

/-- Adding unseen years one by one lists each year once, in the order first met. -/
theorem foldl_addNew_nil (years : List Nat) : years.foldl addNew [] = years.eraseDups := by
  induction years using List.reverseRecOn with
  | nil => rfl
  | append_singleton ys y ih =>
    rw [List.foldl_append, ih, List.eraseDups_append]
    -- a year met before adds nothing; a new one is added at the end
    by_cases hy : y ∈ ys
    · simp [addNew, hy, List.removeAll]
    · simp [addNew, hy, List.removeAll, List.eraseDups_cons]

theorem nodup_eraseDups (years : List Nat) : years.eraseDups.Nodup :=
  foldl_addNew_nil years ▸ nodup_foldl_addNew List.nodup_nil years

@[simp] theorem mem_ascending {y : Nat} {l : List Nat} : y ∈ ascending l ↔ y ∈ l :=
  (List.mergeSort_perm l _).mem_iff

theorem nodup_ascending {l : List Nat} : (ascending l).Nodup ↔ l.Nodup :=
  (List.mergeSort_perm l _).nodup_iff

/-- Years listed once come out of sorting strictly ascending. -/
theorem pairwise_lt_ascending {l : List Nat} (h : l.Nodup) : (ascending l).Pairwise (· < ·) := by
  have hle : (ascending l).Pairwise (fun a b => decide (a ≤ b) = true) :=
    List.pairwise_mergeSort (fun a b c hab hbc => by simp only [decide_eq_true_eq] at *; omega)
      (fun a b => by simp only [Bool.or_eq_true, decide_eq_true_eq]; omega) l
  exact (hle.and (nodup_ascending.mpr h)).imp fun ⟨hab, hne⟩ =>
    Nat.lt_of_le_of_ne (of_decide_eq_true hab) hne

/-- Sorting leaves strictly ascending years as they are. -/
theorem ascending_of_pairwise_lt {l : List Nat} (h : l.Pairwise (· < ·)) : ascending l = l :=
  List.mergeSort_of_pairwise (h.imp fun hab => by simpa using Nat.le_of_lt hab)

/-- The fold that opens the build window, one list at a time: the years in the window are
collected twice, once without and once with repeats, and the years some capacity can be alive
in once. -/
theorem foldl_window (inWindow alive : Nat → Bool) (xs B N L : List Nat) :
    xs.foldl (fun x y =>
      (if inWindow y = true then addNew x.1 y else x.1,
       if inWindow y = true then x.2.1 ++ [y] else x.2.1,
       if alive y = true then addNew x.2.2 y else x.2.2)) (B, N, L) =
      ((xs.filter inWindow).foldl addNew B, N ++ xs.filter inWindow,
        (xs.filter alive).foldl addNew L) := by
  induction xs generalizing B N L with
  | nil => simp
  | cons y ys ih =>
    rw [List.foldl_cons, ih]
    cases hw : inWindow y <;> cases ha : alive y <;> simp [hw, ha]

/-! ## The lists of a schedule -/

section Fields

variable {policy : BuildPolicy} {existing future known : List Nat} {v : Nat}

/-- Existing capacity of a vintage serves the model when it is still in service in the first
future period. -/
def Serving (policy : BuildPolicy) (future : List Nat) (v : Nat) : Prop :=
  inServiceAt v (future.headD 0) policy.lifetime = true

/-- The years opened to new builds, or in which new capacity can be alive, are future periods. -/
theorem mem_of_mem_opened {opens : Bool} {inWindow : Nat → Bool} {xs : List Nat}
    (h : v ∈ if opens = true then (xs.filter inWindow).foldl addNew [] else []) : v ∈ xs := by
  split at h
  · simp only [mem_foldl_addNew, List.not_mem_nil, false_or, List.mem_filter] at h
    exact h.1
  · simp at h

theorem mem_buildYears (h : v ∈ (computeSchedule policy existing future known).buildYears) :
    v ∈ future ∨ (v ∈ existing ∧ Serving policy future v) := by
  cases future with
  | nil => simp [computeSchedule] at h
  | cons x xs =>
    simp only [computeSchedule, List.head?_cons, List.getLast?_cons, foldl_window,
      apply_ite Prod.fst, mem_ascending, mem_foldl_addNew, List.mem_filter] at h
    rcases h with h | h
    · exact Or.inl (mem_of_mem_opened h)
    · exact Or.inr h

theorem mem_buildYears_of_serving (hf : future ≠ []) (he : v ∈ existing)
    (hs : Serving policy future v) :
    v ∈ (computeSchedule policy existing future known).buildYears := by
  cases future with
  | nil => exact absurd rfl hf
  | cons x xs =>
    simp only [computeSchedule, List.head?_cons, List.getLast?_cons, foldl_window,
      apply_ite Prod.fst, mem_ascending, mem_foldl_addNew, List.mem_filter]
    exact Or.inr ⟨he, hs⟩

/-- New builds are vintages, and future periods. -/
theorem mem_futureBuildYears
    (h : v ∈ (computeSchedule policy existing future known).futureBuildYears) :
    v ∈ future ∧ v ∈ (computeSchedule policy existing future known).buildYears := by
  cases future with
  | nil => simp [computeSchedule] at h
  | cons x xs =>
    simp only [computeSchedule, List.head?_cons, List.getLast?_cons, foldl_window,
      apply_ite Prod.fst, apply_ite Prod.snd, mem_ascending, mem_foldl_addNew,
      List.mem_filter] at h ⊢
    split at h
    · rename_i hnew
      simp only [List.nil_append, List.mem_filter] at h
      simp [hnew, h]
    · simp at h

theorem mem_constraintPeriods
    (h : v ∈ (computeSchedule policy existing future known).constraintPeriods) :
    v ∈ future := by
  cases future with
  | nil => simp [computeSchedule] at h
  | cons x xs =>
    simp only [computeSchedule, List.head?_cons, List.getLast?_cons, foldl_window,
      apply_ite Prod.snd, mem_ascending] at h
    split at h
    · rcases mem_foldl_addNew.mp h with h | h
      · exact mem_of_mem_opened h
      · exact (List.mem_filter.mp h).1
    · exact mem_of_mem_opened h

theorem mem_legacyPeriods :
    v ∈ (computeSchedule policy existing future known).legacyPeriods ↔
      future ≠ [] ∧ v ∈ existing ∧ Serving policy future v ∧ v ∉ known := by
  cases future with
  | nil => simp [computeSchedule]
  | cons x xs =>
    simp only [computeSchedule, List.head?_cons, List.getLast?_cons, mem_foldl_addNew,
      List.not_mem_nil, false_or, List.mem_filter, Serving, List.headD_cons]
    simp [and_assoc]

theorem nodup_buildYears : (computeSchedule policy existing future known).buildYears.Nodup := by
  cases future with
  | nil => simp [computeSchedule]
  | cons x xs =>
    simp only [computeSchedule, List.head?_cons, List.getLast?_cons, foldl_window,
      apply_ite Prod.fst, nodup_ascending]
    refine nodup_foldl_addNew ?_ _
    split
    · exact nodup_foldl_addNew List.nodup_nil _
    · exact List.nodup_nil

theorem nodup_constraintPeriods :
    (computeSchedule policy existing future known).constraintPeriods.Nodup := by
  cases future with
  | nil => simp [computeSchedule]
  | cons x xs =>
    have hopened : ∀ (opens : Bool) (alive : Nat → Bool),
        (if opens = true then ((x :: xs).filter alive).foldl addNew [] else []).Nodup := by
      intro opens alive
      split
      · exact nodup_foldl_addNew List.nodup_nil _
      · exact List.nodup_nil
    simp only [computeSchedule, List.head?_cons, List.getLast?_cons, foldl_window,
      apply_ite Prod.snd, nodup_ascending]
    split
    · exact nodup_foldl_addNew (hopened _ _) _
    · exact hopened _ _

theorem nodup_legacyPeriods : (computeSchedule policy existing future known).legacyPeriods.Nodup := by
  cases future with
  | nil => simp [computeSchedule]
  | cons x xs => exact nodup_foldl_addNew List.nodup_nil _

/-- New builds are listed once when the future periods are. -/
theorem nodup_futureBuildYears (hf : future.Nodup) :
    (computeSchedule policy existing future known).futureBuildYears.Nodup := by
  cases future with
  | nil => simp [computeSchedule]
  | cons x xs =>
    simp only [computeSchedule, List.head?_cons, List.getLast?_cons, foldl_window,
      apply_ite Prod.fst, apply_ite Prod.snd, nodup_ascending]
    split
    · exact List.nil_append _ ▸ hf.filter _
    · exact List.nodup_nil

end Fields

end EnergyModel
