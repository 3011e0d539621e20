import Mathlib
import EnergyModel.Proofs.Quantity

/-!
# The values of doubles

A double is stored in 64 bits and compared through its unpacked form
(`Float.Model.UnpackedFloat`): a sign, a mantissa and an exponent, compared exponent first and
mantissa second. That comparison is the order of values only because binary64 keeps every finite
number in one canonical form (`Binary64.IsCanonical`): a mantissa of at most 53 bits, an
exponent of at least -1074, and all 53 bits unless the exponent is the least. Every number read
from 64 bits is in that form (`UnpackedFloat.canonical_unpack`), and a canonical number is
stored exactly when its exponent fits (`Binary64.unpack_pack_finite`).

On canonical numbers the comparison is the order of their values, with the infinities at both
ends (`UnpackedFloat.compare_eq_compare_toExt`). So on the doubles that are not NaN, `≤` and `<`
are the order of `toExt` (`Float.le_iff_toExt`), and `≤` is transitive (`Float.le_trans`).
-/

namespace EnergyModel

open Float.Model (UnpackedFloat Format)
open Float.Model.UnpackedFloat

namespace Binary64

/-- The mantissa and exponent of a finite binary64 number: at most 53 bits, an exponent of at
least -1074, and a full 53 bits unless the exponent is the least. -/
def IsCanonical (m : Nat) (e : Int) : Prop :=
  m < 2 ^ 53 ∧ -1074 ≤ e ∧ (2 ^ 52 ≤ m ∨ e = -1074)

section Order

variable {m₁ m₂ : Nat} {e₁ e₂ : Int}

/-- A number of at most 53 bits is below any full 53-bit number at a larger exponent. -/
theorem value_lt_of_exponent_lt (h₁ : m₁ < 2 ^ 53) (h₂ : 2 ^ 52 ≤ m₂) (he : e₁ < e₂) :
    (m₁ : ℚ) * 2 ^ e₁ < m₂ * 2 ^ e₂ := by
  calc (m₁ : ℚ) * 2 ^ e₁ < 2 ^ 53 * 2 ^ e₁ := by gcongr; exact_mod_cast h₁
    _ = 2 ^ 52 * 2 ^ (e₁ + 1) := by rw [zpow_add_one₀ two_ne_zero]; ring
    _ ≤ 2 ^ 52 * 2 ^ e₂ := by gcongr; norm_num; omega
    _ ≤ m₂ * 2 ^ e₂ := by gcongr; exact_mod_cast h₂

/-- On canonical numbers, comparing exponents first and mantissas second is comparing values. -/
theorem lex_eq_compare (h₁ : IsCanonical m₁ e₁) (h₂ : IsCanonical m₂ e₂) :
    (compare e₁ e₂).then (compare m₁ m₂) =
      compare ((m₁ : ℚ) * 2 ^ e₁) (m₂ * 2 ^ e₂) := by
  rcases lt_trichotomy e₁ e₂ with he | rfl | he
  · -- the larger exponent is above the least one, so its mantissa has all 53 bits
    have hn : 2 ^ 52 ≤ m₂ := h₂.2.2.resolve_right (by have := h₁.2.1; omega)
    rw [Int.compare_eq_lt.mpr he, compare_lt_iff_lt.mpr (value_lt_of_exponent_lt h₁.1 hn he)]
    rfl
  · rw [Std.compare_self, Ordering.eq_then]
    rcases lt_trichotomy m₁ m₂ with hm | rfl | hm
    · rw [Nat.compare_eq_lt.mpr hm, compare_lt_iff_lt.mpr (by gcongr)]
    · rw [Std.compare_self, Std.compare_self]
    · rw [Nat.compare_eq_gt.mpr hm, compare_gt_iff_gt.mpr (by gcongr)]
  · have hn : 2 ^ 52 ≤ m₁ := h₁.2.2.resolve_right (by have := h₂.2.1; omega)
    rw [Int.compare_eq_gt.mpr he, compare_gt_iff_gt.mpr (value_lt_of_exponent_lt h₂.1 hn he)]
    rfl

end Order

/-! ## Storing in 64 bits -/

section Bits

theorem exponentBias_binary64 : Format.binary64.exponentBias = 1023 := rfl

theorem unpackSign_packComponents (s : Sign) (e : BitVec 11) (m : BitVec 52) :
    unpackSign (packComponents Format.binary64 s e m) = s.toBitVec := by
  simp only [unpackSign, packComponents, BitVec.extractLsb]
  rw [BitVec.extractLsb'_append_eq_of_le (by omega), BitVec.extractLsb'_append_eq_of_le (by omega)]
  cases s <;> rfl

theorem ofBitVec_toBitVec (s : Sign) : Sign.ofBitVec s.toBitVec = s := by
  cases s <;> rfl

/-- A normal number's mantissa field carries all but its leading bit. -/
theorem toNat_one_append (m : BitVec 52) : (1#1 ++ m).toNat = 2 ^ 52 + m.toNat := by
  rw [BitVec.toNat_append, ← Nat.shiftLeft_add_eq_or_of_lt m.isLt]
  simp [Nat.shiftLeft_eq]

/-- Every finite number read from 64 bits is canonical, with an exponent of at most 971. -/
theorem isCanonical_of_unpack {b : BitVec 64} {s : Sign} {m : Nat} {e : Int} {hm : 0 < m}
    (hb : unpack Format.binary64 b = .finite s m e hm) : IsCanonical m e ∧ e ≤ 971 := by
  have hexp : (@unpackExponent Format.binary64 b).toNat < 2048 := BitVec.isLt _
  have hmant : (@unpackMantissa Format.binary64 b).toNat < 2 ^ 52 := BitVec.isLt _
  unfold Float.Model.UnpackedFloat.unpack at hb
  simp only [exponentBias_binary64] at hb
  by_cases hinf : @unpackExponent Format.binary64 b = -1#11
  · rw [if_pos hinf] at hb
    split at hb <;> cases hb
  rw [if_neg hinf] at hb
  by_cases hzero : @unpackExponent Format.binary64 b = 0#11
  · -- a subnormal number, at the least exponent
    rw [if_pos hzero] at hb
    split at hb
    · cases hb
    simp only [UnpackedFloat.finite.injEq] at hb
    obtain ⟨-, rfl, rfl⟩ := hb
    have : (@unpackExponent Format.binary64 b).toNat = 0 := by rw [hzero]; rfl
    exact ⟨⟨by omega, by omega, Or.inr (by omega)⟩, by omega⟩
  · -- a normal number, with its implicit leading bit
    rw [if_neg hzero] at hb
    simp only [UnpackedFloat.finite.injEq] at hb
    obtain ⟨-, rfl, rfl⟩ := hb
    have h1 : (@unpackExponent Format.binary64 b).toNat ≠ 2047 := fun h => hinf (by bv_omega)
    have h2 : (@unpackExponent Format.binary64 b).toNat ≠ 0 := fun h => hzero (by bv_omega)
    rw [toNat_one_append]
    exact ⟨⟨by omega, by omega, Or.inl (by omega)⟩, by omega⟩

theorem unpack_packedInfinity (s : Sign) :
    unpack Format.binary64 (packedInfinity Format.binary64 s) = .infinity s := by
  cases s <;> rfl

theorem unpack_pack_zero (s : Sign) :
    unpack Format.binary64 (pack Format.binary64 (.zero s)) = .zero s := by
  cases s <;> rfl

theorem unpack_pack_infinity (s : Sign) :
    unpack Format.binary64 (pack Format.binary64 (.infinity s)) = .infinity s := by
  cases s <;> rfl

theorem unpack_packComponents_normal (s : Sign) {ev : BitVec 11} (mv : BitVec 52)
    (h0 : ev ≠ 0#11) (h1 : ev ≠ -1#11) :
    unpack Format.binary64 (packComponents Format.binary64 s ev mv) =
      .finite s (2 ^ 52 + mv.toNat) (ev.toNat - 1075) (by positivity) := by
  simp only [unpack, unpackMantissa_packComponents, unpackExponent_packComponents,
    unpackSign_packComponents, ofBitVec_toBitVec]
  rw [if_neg h1, if_neg h0]
  simp only [UnpackedFloat.finite.injEq, toNat_one_append, exponentBias_binary64]
  exact ⟨trivial, trivial, by omega⟩

theorem unpack_packComponents_subnormal (s : Sign) {mv : BitVec 52} (h : mv ≠ 0#52) :
    unpack Format.binary64 (packComponents Format.binary64 s 0#11 mv) =
      .finite s mv.toNat (-1074)
        (by rw [Nat.pos_iff_ne_zero]; exact fun h' => h (by bv_omega)) := by
  simp only [unpack, unpackMantissa_packComponents, unpackExponent_packComponents,
    unpackSign_packComponents, ofBitVec_toBitVec]
  rw [if_neg (by decide), if_pos trivial, dif_neg h]
  simp only [UnpackedFloat.finite.injEq, exponentBias_binary64]
  exact ⟨trivial, trivial, by simp⟩

/-- A canonical finite number is stored exactly when its exponent fits, and as the infinity of
its sign when it does not. -/
theorem unpack_pack_finite (s : Sign) {m : Nat} {e : Int} (hm : 0 < m) (hc : IsCanonical m e) :
    unpack Format.binary64 (pack Format.binary64 (.finite s m e hm)) =
      if e ≤ 971 then .finite s m e hm else .infinity s := by
  obtain ⟨hlt, hge, hn⟩ := hc
  have hlog : m.log2 < 53 := (Nat.log2_lt hm.ne').mpr hlt
  unfold Float.Model.UnpackedFloat.pack
  by_cases hover : 2 ^ Format.binary64.exponentBits ≤ (e + Format.binary64.exponentBias +
      Format.binary64.mantissaBitsWithoutImplicit).toNat + 1
  · -- the exponent is too large for 11 bits
    have : 2048 ≤ (e + 1023 + 52).toNat + 1 := hover
    rw [if_pos hover, if_neg (show ¬ e ≤ 971 by omega), unpack_packedInfinity]
  have hfits : ¬ 2048 ≤ (e + 1023 + 52).toNat + 1 := hover
  rw [if_neg hover, if_pos (show e ≤ 971 by omega)]
  by_cases hnormal : m.log2 + 1 = Format.binary64.mantissaBits
  · -- a normal number: the exponent field holds the biased exponent
    set ev := BitVec.ofNat Format.binary64.exponentBits (e + Format.binary64.exponentBias +
      Format.binary64.mantissaBitsWithoutImplicit).toNat with hev_def
    have hev : ev.toNat = (e + 1075).toNat := by
      rw [hev_def, BitVec.toNat_ofNat]
      change (e + 1023 + 52).toNat % 2048 = _
      omega
    -- the biased exponent is neither the subnormal nor the infinite field
    have h0 : ev ≠ 0#11 := by bv_omega
    have h1 : ev ≠ -1#11 := by bv_omega
    have hm52 : 2 ^ 52 ≤ m := (Nat.le_log2 hm.ne').mp (by change _ + 1 = 1 + 52 at hnormal; omega)
    rw [if_pos hnormal, unpack_packComponents_normal s _ h0 h1]
    simp only [UnpackedFloat.finite.injEq, hev]
    exact ⟨trivial, by rw [BitVec.toNat_ofNat]; omega, by omega⟩
  · -- a subnormal number: the exponent field is zero
    have hm52 : m < 2 ^ 52 :=
      (Nat.log2_lt hm.ne').mp (by change ¬ _ + 1 = 1 + 52 at hnormal; omega)
    have h0 : BitVec.ofNat Format.binary64.mantissaBitsWithoutImplicit m ≠ 0#52 := by
      intro h
      have := congrArg BitVec.toNat h
      rw [BitVec.toNat_zero, BitVec.toNat_ofNat] at this
      change m % 2 ^ 52 = 0 at this
      omega
    rw [if_neg hnormal, unpack_packComponents_subnormal s h0]
    simp only [UnpackedFloat.finite.injEq]
    exact ⟨trivial, by rw [BitVec.toNat_ofNat]; omega, (hn.resolve_left (by omega)).symm⟩

end Bits

end Binary64

open Binary64

namespace UnpackedFloat

/-- The value of a zero or finite number; NaN and the infinities are given 0. -/
def toRat : UnpackedFloat → ℚ
  | .finite s m e _ => (s.apply m : ℚ) * 2 ^ e
  | _ => 0

/-- The value of a number that is not NaN, on the rationals with both infinities. -/
def toExt : UnpackedFloat → WithBot (WithTop ℚ)
  | .infinity .negative => ⊥
  | .infinity .positive => ⊤
  | x => ((toRat x : WithTop ℚ) : WithBot (WithTop ℚ))

/-- A number in the form binary64 keeps it in: a finite one is canonical. -/
def Canonical : UnpackedFloat → Prop
  | .finite _ m e _ => IsCanonical m e
  | _ => True

@[simp] theorem toRat_zero (s : Sign) : toRat (.zero s) = 0 := rfl

@[simp] theorem toRat_finite_positive (m : Nat) (e : Int) (h : 0 < m) :
    toRat (.finite .positive m e h) = m * 2 ^ e := by
  simp [toRat, Sign.apply]

@[simp] theorem toRat_finite_negative (m : Nat) (e : Int) (h : 0 < m) :
    toRat (.finite .negative m e h) = -(m * 2 ^ e) := by
  simp [toRat, Sign.apply]

theorem toExt_of_isFinite {a : UnpackedFloat} (h : a.isFinite = true) :
    toExt a = ((toRat a : WithTop ℚ) : WithBot (WithTop ℚ)) := by
  rcases a with ⟨_ | _⟩ | _ | _ | _ <;> first | rfl | cases h

theorem canonical_unpack (b : BitVec 64) : Canonical (unpack Format.binary64 b) := by
  cases hb : unpack Format.binary64 b with
  | finite s m e hm => exact (isCanonical_of_unpack hb).1
  | _ => trivial

theorem compare_neg_neg (x y : ℚ) : compare (-x) (-y) = compare y x := by
  simpa only [cmp_eq_compare] using
    (show StrictAnti (fun q : ℚ => -q) from fun _ _ h => neg_lt_neg h).cmp_map_eq x y

theorem compare_coe_coe (x y : ℚ) :
    compare ((x : WithTop ℚ) : WithBot (WithTop ℚ))
      ((y : WithTop ℚ) : WithBot (WithTop ℚ)) = compare x y := by
  simpa only [cmp_eq_compare, Function.comp_apply] using
    (WithBot.coe_strictMono.comp WithTop.coe_strictMono).cmp_map_eq x y

/-- Canonical zero and finite numbers compare as their values do. -/
theorem compare_eq_compare_toRat {a b : UnpackedFloat} (ha : Canonical a) (hb : Canonical b)
    (hfa : a.isFinite = true) (hfb : b.isFinite = true) :
    a.compare b = some (compare (toRat a) (toRat b)) := by
  have hpos : ∀ (m : Nat) (e : Int), 0 < m → (0 : ℚ) < m * 2 ^ e := fun m e h => by positivity
  rcases a with _ | _ | s | ⟨_ | _, m₁, e₁, h₁⟩ <;> try cases hfa
  all_goals rcases b with _ | _ | t | ⟨_ | _, m₂, e₂, h₂⟩ <;> try cases hfb
  all_goals simp only [UnpackedFloat.compare, toRat_zero, toRat_finite_positive,
    toRat_finite_negative, Option.some.injEq]
  · -- two zeros
    rw [Std.compare_self]
  · exact (compare_gt_iff_gt.mpr (neg_neg_of_pos (hpos m₂ e₂ h₂))).symm
  · exact (compare_lt_iff_lt.mpr (hpos m₂ e₂ h₂)).symm
  · exact (compare_lt_iff_lt.mpr (neg_neg_of_pos (hpos m₁ e₁ h₁))).symm
  · -- two negative numbers: the larger magnitude is the smaller value
    rw [compare_neg_neg, lex_eq_compare ha hb]
    exact Std.OrientedOrd.eq_swap.symm
  · have := hpos m₁ e₁ h₁
    have := hpos m₂ e₂ h₂
    exact (compare_lt_iff_lt.mpr (by linarith)).symm
  · exact (compare_gt_iff_gt.mpr (hpos m₁ e₁ h₁)).symm
  · have := hpos m₁ e₁ h₁
    have := hpos m₂ e₂ h₂
    exact (compare_gt_iff_gt.mpr (by linarith)).symm
  · exact lex_eq_compare ha hb

/-- Canonical numbers that are not NaN compare as their values do, the infinities at the ends. -/
theorem compare_eq_compare_toExt {a b : UnpackedFloat} (ha : Canonical a) (hb : Canonical b)
    (han : a.isNaN = false) (hbn : b.isNaN = false) :
    a.compare b = some (compare (toExt a) (toExt b)) := by
  -- an infinity compares with anything by its sign alone, so those cases compute
  rcases a with ⟨_ | _⟩ | _ | s | ⟨s, m₁, e₁, h₁⟩ <;> try cases han
  all_goals rcases b with ⟨_ | _⟩ | _ | t | ⟨t, m₂, e₂, h₂⟩ <;> try cases hbn
  all_goals first
    | rfl
    | rw [toExt_of_isFinite rfl, toExt_of_isFinite rfl, compare_coe_coe]
      exact compare_eq_compare_toRat ha hb rfl rfl

end UnpackedFloat

open UnpackedFloat

namespace Float

variable {x y z : Float}

theorem canonical_toModel (x : Float) : Canonical x.toModel.unpack :=
  canonical_unpack x.toModel.toBits.toBitVec

theorem isNaN_of_le (h : x ≤ y) : x.isNaN = false ∧ y.isNaN = false := by
  rw [le_iff_compare] at h
  constructor <;> rw [Bool.eq_false_iff] <;> intro hn <;> rw [isNaN_iff] at hn
  · rw [hn] at h
    cases h
  · rw [hn, UnpackedFloat.compare_notANumber] at h
    cases h

/-- On doubles that are not NaN, `≤` is the order of values. -/
theorem le_iff_toExt (hx : x.isNaN = false) (hy : y.isNaN = false) :
    x ≤ y ↔ toExt x.toModel.unpack ≤ toExt y.toModel.unpack := by
  rw [le_iff_compare, compare_eq_compare_toExt (canonical_toModel x) (canonical_toModel y) hx hy,
    Option.any_some, Ordering.isLE_iff_ne_gt]
  exact compare_le_iff_le

/-- On doubles that are not NaN, `<` is the strict order of values. -/
theorem lt_iff_toExt (hx : x.isNaN = false) (hy : y.isNaN = false) :
    x < y ↔ toExt x.toModel.unpack < toExt y.toModel.unpack := by
  rw [lt_iff_compare, compare_eq_compare_toExt (canonical_toModel x) (canonical_toModel y) hx hy,
    Option.some.injEq, compare_lt_iff_lt]

theorem le_trans (hxy : x ≤ y) (hyz : y ≤ z) : x ≤ z := by
  obtain ⟨hx, hy⟩ := isNaN_of_le hxy
  obtain ⟨-, hz⟩ := isNaN_of_le hyz
  rw [le_iff_toExt hx hy] at hxy
  rw [le_iff_toExt hy hz] at hyz
  exact (le_iff_toExt hx hz).mpr (hxy.trans hyz)

theorem lt_of_lt_of_le (hxy : x < y) (hyz : y ≤ z) : x < z := by
  obtain ⟨hx, hy⟩ := isNaN_of_lt hxy
  obtain ⟨-, hz⟩ := isNaN_of_le hyz
  rw [lt_iff_toExt hx hy] at hxy
  rw [le_iff_toExt hy hz] at hyz
  exact (lt_iff_toExt hx hz).mpr (hxy.trans_le hyz)

end Float

end EnergyModel
