import Mathlib
import EnergyModel.Quantity

/-!
# The order of quantities

Floats are modelled bit for bit, and their IEEE comparison is read off an unpacked form
(`Float.Model.UnpackedFloat.compare`), which gives no ordering at all when either side is NaN.
The model comes with no lemmas. The few here are what bounds on quantities need: swapping the
sides of a comparison swaps its ordering, so on the numbers that are not NaN `<` and `≤` are the
strict and the weak form of one total order (`Float.le_of_not_lt`); and `minNum` and `maxNum`
stay below and above a bound that is a number.
-/

namespace EnergyModel

open Float.Model (UnpackedFloat)

/-- Swapping the sides of a comparison swaps its ordering. -/
theorem UnpackedFloat.compare_swap (a b : UnpackedFloat) :
    b.compare a = (a.compare b).map Ordering.swap := by
  -- every pair of shapes and signs; finite numbers of one sign compare exponents, then mantissas
  rcases a with ⟨s⟩ | _ | ⟨s⟩ | ⟨s, m, e, hm⟩ <;>
    rcases b with ⟨t⟩ | _ | ⟨t⟩ | ⟨t, n, f, hn⟩ <;>
    (try cases s) <;> (try cases t) <;> try rfl
  all_goals
    simp only [UnpackedFloat.compare, Option.map_some, Ordering.swap_then, Int.compare_swap,
      Nat.compare_swap]

theorem UnpackedFloat.compare_notANumber (a : UnpackedFloat) : a.compare .notANumber = none := by
  cases a <;> rfl

/-- Two numbers that are not NaN always compare. -/
theorem UnpackedFloat.isSome_compare {a b : UnpackedFloat} (ha : a ≠ .notANumber)
    (hb : b ≠ .notANumber) : (a.compare b).isSome := by
  rcases a with ⟨s⟩ | _ | ⟨s⟩ | ⟨s, m, e, hm⟩ <;>
    rcases b with ⟨t⟩ | _ | ⟨t⟩ | ⟨t, n, f, hn⟩ <;>
    (try cases s) <;> (try cases t) <;> first | rfl | contradiction

namespace Float

variable {a b : Float}

theorem lt_iff_compare : a < b ↔ a.toModel.unpack.compare b.toModel.unpack = some .lt := by
  show Float.lt a b = true ↔ _
  simp [Float.lt, LT.lt, Float.Model.lt, UnpackedFloat.lt]

theorem le_iff_compare : a ≤ b ↔ (a.toModel.unpack.compare b.toModel.unpack).any (·.isLE) := by
  show Float.le a b = true ↔ _
  unfold Float.le
  rw [decide_eq_true_iff]
  rfl

theorem isNaN_iff : a.isNaN = true ↔ a.toModel.unpack = .notANumber := by
  show a.toModel.unpack.isNaN = true ↔ _
  cases a.toModel.unpack <;> simp [UnpackedFloat.isNaN]

theorem unpack_ne_of_isNaN (ha : a.isNaN = false) : a.toModel.unpack ≠ .notANumber := by
  intro hn
  rw [← isNaN_iff, ha] at hn
  cases hn

theorem le_of_lt (h : a < b) : a ≤ b := by
  rw [lt_iff_compare] at h
  rw [le_iff_compare, h]
  rfl

/-- A comparison that holds has no NaN on either side. -/
theorem isNaN_of_lt (h : a < b) : a.isNaN = false ∧ b.isNaN = false := by
  rw [lt_iff_compare] at h
  constructor <;> rw [Bool.eq_false_iff] <;> intro hn <;> rw [isNaN_iff] at hn
  · rw [hn] at h
    cases h
  · rw [hn, UnpackedFloat.compare_notANumber] at h
    cases h

theorem lt_irrefl (a : Float) : ¬ a < a := by
  rw [lt_iff_compare]
  intro h
  -- a number compared with itself gives an ordering equal to its own swap
  have hswap := UnpackedFloat.compare_swap a.toModel.unpack a.toModel.unpack
  rw [h] at hswap
  cases hswap

/-- Numbers that are not NaN are totally ordered. -/
theorem le_of_not_lt (ha : a.isNaN = false) (hb : b.isNaN = false) (h : ¬ b < a) : a ≤ b := by
  rw [lt_iff_compare, UnpackedFloat.compare_swap] at h
  rw [le_iff_compare]
  obtain ⟨o, ho⟩ := Option.isSome_iff_exists.mp
    (UnpackedFloat.isSome_compare (unpack_ne_of_isNaN ha) (unpack_ne_of_isNaN hb))
  rw [ho] at h ⊢
  cases o <;> simp_all [Ordering.swap]

theorem le_refl (ha : a.isNaN = false) : a ≤ a := le_of_not_lt ha ha (lt_irrefl a)

theorem not_lt_of_le (h : a ≤ b) : ¬ b < a := by
  rw [le_iff_compare] at h
  rw [lt_iff_compare, UnpackedFloat.compare_swap]
  intro hlt
  cases ho : a.toModel.unpack.compare b.toModel.unpack with
  | none => rw [ho] at h; cases h
  | some o =>
    rw [ho] at h hlt
    cases o <;> simp_all [Ordering.swap]

/-- The smaller of a number and a bound stays below the bound. -/
theorem minNum_le_right (hb : b.isNaN = false) : minNum a b ≤ b := by
  unfold minNum
  by_cases ha : a.isNaN = true
  · rw [if_pos ha]
    exact le_refl hb
  rw [if_neg ha, hb, if_neg Bool.false_ne_true]
  by_cases hlt : b < a
  · rw [if_pos hlt]
    exact le_refl hb
  · rw [if_neg hlt]
    exact le_of_not_lt (Bool.eq_false_iff.mpr ha) hb hlt

/-- The larger of a number and a bound stays above the bound. -/
theorem le_maxNum_right (hb : b.isNaN = false) : b ≤ maxNum a b := by
  unfold maxNum
  by_cases ha : a.isNaN = true
  · rw [if_pos ha]
    exact le_refl hb
  rw [if_neg ha, hb, if_neg Bool.false_ne_true]
  by_cases hlt : a < b
  · rw [if_pos hlt]
    exact le_refl hb
  · rw [if_neg hlt]
    exact le_of_not_lt hb (Bool.eq_false_iff.mpr ha) hlt

end Float

end EnergyModel
