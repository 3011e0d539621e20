import EnergyModel.Proofs.Binary64.Order

/-!
# Rounding of doubles

An operation on doubles computes its exact result as a mantissa and an exponent and rounds it
(`Float.Model.UnpackedFloat.round`): the mantissa is first moved to the exponent that leaves it
53 bits, or to the least exponent -1074 when that is larger (`Binary64.target`); the bits shifted
out decide whether to round up; a carry to `2 ^ 53` moves up one exponent.

Rounding to nearest goes up at most one unit, and it never goes below a number binary64 holds
that lies below the exact result (`Binary64.le_toRat_round`): the bits kept at the target
exponent reach every such number. It leaves a canonical number as it is
(`Binary64.roundWithAccuracy_mul_pow`), so a whole number below `2 ^ 53` becomes a double
exactly (`Float.toExt_natCast`). Hence adding two doubles at least two whole numbers gives at least
their sum (`Float.natCast_add_le`), even when the sum overflows to infinity.
-/

namespace EnergyModel

open Float.Model (UnpackedFloat Format totalExponent)
open Float.Model.UnpackedFloat
open UnpackedFloat

namespace Binary64

/-! ## Shifting a mantissa right -/

section Shifts

theorem shiftRight_succ (em : ExtendedMantissa) (k : Nat) :
    em >>> (k + 1) = (em >>> k).shiftRightOne := rfl

theorem shiftRight_zero (em : ExtendedMantissa) : em >>> 0 = em := rfl

theorem mantissa_shiftRight (em : ExtendedMantissa) (k : Nat) :
    (em >>> k).mantissa = em.mantissa / 2 ^ k := by
  induction k with
  | zero => simp [shiftRight_zero]
  | succ k ih =>
    rw [shiftRight_succ]
    show (em >>> k).mantissa / 2 = _
    rw [ih, Nat.div_div_eq_div_mul, pow_succ]

/-- Shifting out only zero bits is exact. -/
theorem shiftRight_mul_pow (m k : Nat) :
    ExtendedMantissa.ofMantissaAndAccuracy (m * 2 ^ k) .exact >>> k = ⟨m, false, false⟩ := by
  induction k generalizing m with
  | zero => simp [ExtendedMantissa.ofMantissaAndAccuracy, shiftRight_zero]
  | succ k ih =>
    rw [shiftRight_succ, show m * 2 ^ (k + 1) = (m * 2) * 2 ^ k by ring, ih]
    simp [ExtendedMantissa.shiftRightOne]

theorem mantissa_le_roundedMantissa (em : ExtendedMantissa) :
    em.mantissa ≤ em.roundedMantissa := by
  rcases em with ⟨m, _ | _, _ | _⟩ <;>
    simp [ExtendedMantissa.roundedMantissa, ExtendedMantissa.accuracy,
      Accuracy.roundToNearestEven]

theorem roundedMantissa_le (em : ExtendedMantissa) : em.roundedMantissa ≤ em.mantissa + 1 := by
  rcases em with ⟨m, _ | _, _ | _⟩ <;>
    simp [ExtendedMantissa.roundedMantissa, ExtendedMantissa.accuracy,
      Accuracy.roundToNearestEven]
  omega

/-- Shifted right by `k` bits and rounded, a mantissa `m` is `m / 2 ^ k` or one more. -/
theorem roundedMantissa_bounds (m k : Nat) :
    let r := (ExtendedMantissa.ofMantissaAndAccuracy m .exact >>> k).roundedMantissa
    m / 2 ^ k ≤ r ∧ r ≤ m / 2 ^ k + 1 := by
  have hmant : (ExtendedMantissa.ofMantissaAndAccuracy m .exact >>> k).mantissa = m / 2 ^ k :=
    mantissa_shiftRight _ k
  exact ⟨hmant ▸ mantissa_le_roundedMantissa _, hmant ▸ roundedMantissa_le _⟩

end Shifts

/-! ## The target exponent -/

section Target

variable {m : Nat} {e : Int}

theorem log2_mul_pow (hm : 0 < m) (k : Nat) : (m * 2 ^ k).log2 = m.log2 + k := by
  have hmk : m * 2 ^ k ≠ 0 := by positivity
  apply le_antisymm
  · have : m * 2 ^ k < 2 ^ (m.log2 + k + 1) := by
      calc m * 2 ^ k < 2 ^ (m.log2 + 1) * 2 ^ k :=
          Nat.mul_lt_mul_of_pos_right Nat.lt_log2_self (by positivity)
        _ = 2 ^ (m.log2 + k + 1) := by rw [← pow_add]; ring_nf
    exact Nat.lt_succ_iff.mp ((Nat.log2_lt hmk).mpr this)
  · apply (Nat.le_log2 hmk).mpr
    rw [pow_add]
    exact Nat.mul_le_mul_right _ (Nat.log2_self_le hm.ne')

/-- The exponent binary64 rounds a positive number `m * 2 ^ e` to: the one that leaves it 53
bits, or the least exponent, -1074, when that is larger. -/
def target (m : Nat) (e : Int) : Int := max ((m.log2 : Int) + e - 52) (-1074)

theorem targetExponent_binary64 (m : Nat) (e : Int) :
    Format.binary64.targetExponent (totalExponent m e) = target m e := by
  simp only [Format.targetExponent, totalExponent, Format.mantissaBits, Format.minExponent, target]
  norm_num
  omega

theorem target_ge (m : Nat) (e : Int) : -1074 ≤ target m e := le_max_right _ _

/-- Moving a mantissa's bits up does not move its target. -/
theorem target_mul_pow (hm : 0 < m) (k : Nat) : target (m * 2 ^ k) (e - k) = target m e := by
  unfold target
  rw [log2_mul_pow hm]
  omega

theorem target_of_isCanonical (hm : 0 < m) (h : IsCanonical m e) : target m e = e := by
  obtain ⟨hu, hl, hn⟩ := h
  have hlog : m.log2 < 53 := (Nat.log2_lt hm.ne').mpr hu
  unfold target
  rcases hn with hn | rfl
  · have : 52 ≤ m.log2 := (Nat.le_log2 hm.ne').mpr hn
    omega
  · omega

theorem shiftToTargetExponent_eq (m : Nat) (e : Int) :
    shiftToTargetExponent Format.binary64 m e .exact =
      (ExtendedMantissa.ofMantissaAndAccuracy m .exact >>> (target m e - e).toNat,
        e + (target m e - e).toNat) := by
  simp only [shiftToTargetExponent, shiftToExponent, targetExponent_binary64]

theorem firstShift_eq (he : e ≤ target m e) :
    shiftToTargetExponent Format.binary64 m e .exact =
      (ExtendedMantissa.ofMantissaAndAccuracy m .exact >>> (target m e - e).toNat,
        target m e) := by
  rw [shiftToTargetExponent_eq]
  congr 1
  omega

/-- Shifted to its target exponent a mantissa keeps at most 53 bits. -/
theorem firstShift_lt (he : e ≤ target m e) :
    m / 2 ^ (target m e - e).toNat < 2 ^ 53 := by
  have hbits : m.log2 + 1 ≤ 53 + (target m e - e).toNat := by unfold target at he ⊢; omega
  rw [Nat.div_lt_iff_lt_mul (by positivity), ← pow_add]
  exact lt_of_lt_of_le Nat.lt_log2_self (Nat.pow_le_pow_right (by norm_num) hbits)

/-- Above the least exponent, a mantissa shifted to its target exponent keeps all 53 bits. -/
theorem firstShift_ge (hm : 0 < m) (he : e ≤ target m e) (ht : target m e ≠ -1074) :
    2 ^ 52 ≤ m / 2 ^ (target m e - e).toNat := by
  have hbits : 52 + (target m e - e).toNat = m.log2 := by unfold target at he ht ⊢; omega
  rw [Nat.le_div_iff_mul_le (by positivity), ← pow_add, hbits]
  exact Nat.log2_self_le hm.ne'

/-- The second shift of rounding: a mantissa of at most 53 bits stays where it is, and a carry
to `2 ^ 53` moves up one exponent. -/
theorem shiftToTargetExponent_carry {r : Nat} {t : Int} (hr : r ≤ 2 ^ 53) (ht : -1074 ≤ t) :
    let last := shiftToTargetExponent Format.binary64 r t .exact
    (r < 2 ^ 53 ∧ last.1.mantissa = r ∧ last.2 = t) ∨
      (r = 2 ^ 53 ∧ last.1.mantissa = 2 ^ 52 ∧ last.2 = t + 1) := by
  intro last
  rcases hr.lt_or_eq with hlt | rfl
  · left
    have hlog : r.log2 < 53 := by
      rcases Nat.eq_zero_or_pos r with rfl | hpos
      · simp
      · exact (Nat.log2_lt hpos.ne').mpr hlt
    have hz : (target r t - t).toNat = 0 := by unfold target; omega
    simp only [last, shiftToTargetExponent_eq, hz, shiftRight_zero]
    exact ⟨hlt, rfl, by simp⟩
  · right
    have hone : (target (2 ^ 53) t - t).toNat = 1 := by
      unfold target
      rw [Nat.log2_two_pow]
      omega
    simp only [last, shiftToTargetExponent_eq, hone, mantissa_shiftRight]
    exact ⟨trivial, rfl, by simp⟩

end Target

/-! ## Rounding a positive number -/

section Rounding

variable {m : Nat} {e : Int}

theorem roundWithAccuracy_eq (s : Sign) (m : Nat) (e : Int) :
    roundWithAccuracy Format.binary64 s m e .exact =
      let first := shiftToTargetExponent Format.binary64 m e .exact
      let last := shiftToTargetExponent Format.binary64 first.1.roundedMantissa first.2 .exact
      if h : last.1.mantissa = 0 then .zero s
      else .finite s last.1.mantissa last.2 (Nat.pos_of_ne_zero h) := rfl

theorem isFinite_roundWithAccuracy (s : Sign) (m : Nat) (e : Int) :
    (roundWithAccuracy Format.binary64 s m e .exact).isFinite = true := by
  rw [roundWithAccuracy_eq]
  dsimp only
  split <;> rfl

/-- The mantissa a positive number `m * 2 ^ e` keeps at its target exponent, rounded to
nearest. -/
def rounded (m : Nat) (e : Int) : Nat :=
  (ExtendedMantissa.ofMantissaAndAccuracy m .exact >>> (target m e - e).toNat).roundedMantissa

/-- Rounding keeps the rounded mantissa at the target exponent, or, on a carry to `2 ^ 53`,
gives `2 ^ 52` one exponent up. -/
theorem roundWithAccuracy_of_target (s : Sign) (he : e ≤ target m e) :
    (rounded m e < 2 ^ 53 ∧ roundWithAccuracy Format.binary64 s m e .exact =
        if h : rounded m e = 0 then .zero s
        else .finite s (rounded m e) (target m e) (Nat.pos_of_ne_zero h)) ∨
      (rounded m e = 2 ^ 53 ∧ roundWithAccuracy Format.binary64 s m e .exact =
        .finite s (2 ^ 52) (target m e + 1) (by positivity)) := by
  obtain ⟨-, hhi⟩ := roundedMantissa_bounds m (target m e - e).toNat
  have hq := firstShift_lt he
  rw [roundWithAccuracy_eq, firstShift_eq he]
  dsimp only
  rw [← rounded] at hhi ⊢
  rcases shiftToTargetExponent_carry (show rounded m e ≤ 2 ^ 53 by omega) (target_ge m e) with
    ⟨hlt, hmant, hexp⟩ | ⟨hr, hmant, hexp⟩
  · exact Or.inl ⟨hlt, by rw [hmant, hexp]⟩
  · refine Or.inr ⟨hr, ?_⟩
    rw [hmant, hexp, dif_neg (by norm_num)]

theorem canonical_roundWithAccuracy (s : Sign) (hm : 0 < m) (he : e ≤ target m e) :
    Canonical (roundWithAccuracy Format.binary64 s m e .exact) := by
  have hlo : m / 2 ^ (target m e - e).toNat ≤ rounded m e :=
    (roundedMantissa_bounds m (target m e - e).toNat).1
  rcases roundWithAccuracy_of_target s he with ⟨hlt, heq⟩ | ⟨-, heq⟩
  · rw [heq]
    split
    · trivial
    · refine ⟨hlt, target_ge m e, ?_⟩
      -- above the least exponent the first shift already kept all 53 bits
      by_cases ht : target m e = -1074
      · exact Or.inr ht
      · exact Or.inl ((firstShift_ge hm he ht).trans hlo)
  · rw [heq]
    exact ⟨by norm_num, by have := target_ge m e; omega, Or.inl le_rfl⟩

theorem toRat_roundWithAccuracy (he : e ≤ target m e) :
    toRat (roundWithAccuracy Format.binary64 .positive m e .exact) =
      rounded m e * 2 ^ target m e := by
  rcases roundWithAccuracy_of_target .positive he with ⟨-, heq⟩ | ⟨hr, heq⟩
  · rw [heq]
    split
    · rename_i hz
      simp [hz]
    · simp
  · -- the carry: `2 ^ 52` one exponent up is `2 ^ 53` at the target
    rw [heq, hr, toRat_finite_positive, zpow_add_one₀ two_ne_zero]
    push_cast
    ring

/-- A canonical number shifted left by `k` bits is rounded back to itself. -/
theorem roundWithAccuracy_mul_pow (s : Sign) {q : Nat} {f : Int} (hq : 0 < q)
    (hc : IsCanonical q f) (k : Nat) :
    roundWithAccuracy Format.binary64 s (q * 2 ^ k) (f - k) .exact = .finite s q f hq := by
  have ht : target (q * 2 ^ k) (f - k) = f := by
    rw [target_mul_pow hq, target_of_isCanonical hq hc]
  -- the bits shifted out are the zeros shifted in
  have hr : rounded (q * 2 ^ k) (f - k) = q := by
    rw [rounded, show (target (q * 2 ^ k) (f - k) - (f - k)).toNat = k by omega,
      shiftRight_mul_pow]
    rfl
  rcases roundWithAccuracy_of_target s (show f - k ≤ target (q * 2 ^ k) (f - k) by omega) with
    ⟨-, heq⟩ | ⟨hcarry, -⟩
  · simp only [heq, hr, ht, dif_neg hq.ne']
  · exact absurd (hr ▸ hcarry) (ne_of_lt hc.1)

theorem two_zpow_add_nat (a : Int) (k : Nat) : (2 : ℚ) ^ (a + k) = 2 ^ k * 2 ^ a := by
  rw [zpow_add₀ two_ne_zero, zpow_natCast, mul_comm]

theorem value_mul_pow (m k : Nat) (e : Int) :
    ((m * 2 ^ k : Nat) : ℚ) * 2 ^ (e - k) = m * 2 ^ e := by
  conv_rhs => rw [show e = e - k + k by ring, two_zpow_add_nat]
  push_cast
  ring

/-- At its target exponent, the bits a positive number keeps reach every number binary64 holds
below it. -/
theorem le_firstShift {n : Nat} {f : Int} (hm : 0 < m) (he : e ≤ target m e) (hn : n < 2 ^ 53)
    (hf : -1074 ≤ f) (h : (n : ℚ) * 2 ^ f ≤ m * 2 ^ e) :
    (n : ℚ) * 2 ^ f ≤ ((m / 2 ^ (target m e - e).toNat : Nat) : ℚ) * 2 ^ target m e := by
  set t := target m e
  set u := (t - e).toNat
  by_cases hft : t ≤ f
  · -- the lower number is a whole multiple of the unit at the target exponent
    set g := (f - t).toNat
    have hval : ((n * 2 ^ g * 2 ^ u : Nat) : ℚ) * 2 ^ e = n * 2 ^ f := by
      rw [show f = e + (u + g : Nat) by push_cast; omega, two_zpow_add_nat]
      push_cast
      ring
    have hnat : n * 2 ^ g * 2 ^ u ≤ m := by
      rw [← hval] at h
      exact_mod_cast le_of_mul_le_mul_right h (zpow_pos two_pos e)
    have hQ : n * 2 ^ g ≤ m / 2 ^ u := (Nat.le_div_iff_mul_le (by positivity)).mpr hnat
    calc (n : ℚ) * 2 ^ f = ((n * 2 ^ g : Nat) : ℚ) * 2 ^ (f - g) := (value_mul_pow n g f).symm
      _ = ((n * 2 ^ g : Nat) : ℚ) * 2 ^ t := by rw [show f - (g : Int) = t by omega]
      _ ≤ ((m / 2 ^ u : Nat) : ℚ) * 2 ^ t := by gcongr
  · -- the target is above the least exponent, so all 53 bits are kept
    have hQ := firstShift_ge hm he (by omega : t ≠ -1074)
    calc (n : ℚ) * 2 ^ f ≤ 2 ^ 53 * 2 ^ f := by gcongr; exact_mod_cast hn.le
      _ = 2 ^ 52 * 2 ^ (f + 1) := by rw [zpow_add_one₀ two_ne_zero]; ring
      _ ≤ 2 ^ 52 * 2 ^ t := by gcongr; norm_num; omega
      _ ≤ ((m / 2 ^ u : Nat) : ℚ) * 2 ^ t := by gcongr; exact_mod_cast hQ

/-- `round` first moves the number down to its target exponent, then rounds it there. -/
theorem round_eq (s : Sign) (m : Nat) (e : Int) :
    round Format.binary64 s m e =
      roundWithAccuracy Format.binary64 s (m * 2 ^ (e - target m e).toNat)
        (e - (e - target m e).toNat) .exact := by
  unfold Float.Model.UnpackedFloat.round decreaseExponent
  simp only [targetExponent_binary64, Nat.shiftLeft_eq]

theorem isFinite_round (s : Sign) (m : Nat) (e : Int) :
    (round Format.binary64 s m e).isFinite = true := by
  rw [round_eq]
  exact isFinite_roundWithAccuracy s _ _

theorem canonical_round (s : Sign) (hm : 0 < m) : Canonical (round Format.binary64 s m e) := by
  rw [round_eq]
  apply canonical_roundWithAccuracy s (by positivity)
  rw [target_mul_pow hm]
  omega

/-- Rounding a positive number never goes below a number binary64 holds that is below it. -/
theorem le_toRat_round {n : Nat} {f : Int} (hm : 0 < m) (hn : n < 2 ^ 53) (hf : -1074 ≤ f)
    (h : (n : ℚ) * 2 ^ f ≤ m * 2 ^ e) :
    (n : ℚ) * 2 ^ f ≤ toRat (round Format.binary64 .positive m e) := by
  set k := (e - target m e).toNat
  have hmk : 0 < m * 2 ^ k := by positivity
  have hek : e - k ≤ target (m * 2 ^ k) (e - k) := by rw [target_mul_pow hm]; omega
  rw [round_eq, toRat_roundWithAccuracy hek]
  have hlo : (m * 2 ^ k) / 2 ^ (target (m * 2 ^ k) (e - k) - (e - k)).toNat ≤
      rounded (m * 2 ^ k) (e - k) :=
    (roundedMantissa_bounds (m * 2 ^ k) (target (m * 2 ^ k) (e - k) - (e - k)).toNat).1
  calc (n : ℚ) * 2 ^ f
      ≤ (((m * 2 ^ k) / 2 ^ (target (m * 2 ^ k) (e - k) - (e - k)).toNat : Nat) : ℚ) *
          2 ^ target (m * 2 ^ k) (e - k) :=
        le_firstShift hmk hek hn hf (by rw [value_mul_pow]; exact h)
    _ ≤ _ := by gcongr

end Rounding

/-! ## Addition -/

section Addition

theorem normalize_of_pos {M : Int} (hM : 0 < M) (E : Int) (s : Sign) :
    normalize Format.binary64 M E s = round Format.binary64 .positive M.toNat E := by
  unfold Float.Model.UnpackedFloat.normalize
  rw [Int.compare_eq_gt.mpr hM]

/-- Two positive numbers are added exactly at the smaller exponent, then rounded. -/
theorem add_finite_positive {m₁ m₂ : Nat} {e₁ e₂ : Int} (h₁ : 0 < m₁) (h₂ : 0 < m₂) :
    add Format.binary64 (.finite .positive m₁ e₁ h₁) (.finite .positive m₂ e₂ h₂) =
      round Format.binary64 .positive
        (m₁ * 2 ^ (e₁ - min e₁ e₂).toNat + m₂ * 2 ^ (e₂ - min e₁ e₂).toNat)
        (min e₁ e₂) := by
  have hpos :
      0 < m₁ * 2 ^ (e₁ - min e₁ e₂).toNat + m₂ * 2 ^ (e₂ - min e₁ e₂).toNat := by
    positivity
  simp only [add, decreaseExponent, Nat.shiftLeft_eq, Sign.apply]
  rw [normalize_of_pos (by omega), ← Nat.cast_add, Int.toNat_natCast]

theorem value_sum_at_min (m₁ m₂ : Nat) (e₁ e₂ : Int) :
    ((m₁ * 2 ^ (e₁ - min e₁ e₂).toNat + m₂ * 2 ^ (e₂ - min e₁ e₂).toNat : Nat) : ℚ)
      * 2 ^ min e₁ e₂ = m₁ * 2 ^ e₁ + m₂ * 2 ^ e₂ := by
  have hmin : ∀ (m : Nat) (e : Int), min e₁ e₂ ≤ e →
      ((m * 2 ^ (e - min e₁ e₂).toNat : Nat) : ℚ) * 2 ^ min e₁ e₂ = m * 2 ^ e := by
    intro m e he
    set k := (e - min e₁ e₂).toNat
    rw [show min e₁ e₂ = e - k by omega, value_mul_pow]
  rw [Nat.cast_add, add_mul, hmin m₁ e₁ (by omega), hmin m₂ e₂ (by omega)]

end Addition

/-! ## Whole numbers -/

section Whole

variable {n : Nat}

theorem log2_le_of_lt_pow (hn : 0 < n) (h : n < 2 ^ 53) : n.log2 ≤ 52 :=
  Nat.lt_succ_iff.mp ((Nat.log2_lt hn.ne').mpr h)

/-- A positive whole number below `2 ^ 53` with its bits moved up to 53 is canonical. -/
theorem isCanonical_natCast (hn : 0 < n) (h : n < 2 ^ 53) :
    IsCanonical (n * 2 ^ (52 - n.log2)) (n.log2 - 52) := by
  have hlog := log2_le_of_lt_pow hn h
  refine ⟨?_, by omega, Or.inl ?_⟩
  · calc n * 2 ^ (52 - n.log2) < 2 ^ (n.log2 + 1) * 2 ^ (52 - n.log2) :=
          Nat.mul_lt_mul_of_pos_right Nat.lt_log2_self (by positivity)
      _ = 2 ^ 53 := by rw [← pow_add]; congr 1; omega
  · calc 2 ^ 52 = 2 ^ n.log2 * 2 ^ (52 - n.log2) := by rw [← pow_add]; congr 1; omega
      _ ≤ n * 2 ^ (52 - n.log2) := Nat.mul_le_mul_right _ (Nat.log2_self_le hn.ne')

/-- A positive whole number below `2 ^ 53` converts exactly, to its canonical form. -/
theorem ofNat_binary64 (hn : 0 < n) (h : n < 2 ^ 53) :
    ofNat Format.binary64 n =
      .finite .positive (n * 2 ^ (52 - n.log2)) (n.log2 - 52) (by positivity) := by
  have hlog := log2_le_of_lt_pow hn h
  have ht : target n 0 = n.log2 - 52 := by unfold target; omega
  have hexact := roundWithAccuracy_mul_pow .positive (by positivity) (isCanonical_natCast hn h) 0
  simp only [pow_zero, mul_one, Nat.cast_zero, sub_zero] at hexact
  unfold ofNat ofInt
  rw [normalize_of_pos (by omega), Int.toNat_natCast, round_eq, ht,
    show (0 - ((n.log2 : Int) - 52)).toNat = 52 - n.log2 by omega,
    show (0 : Int) - ((52 - n.log2 : Nat) : Int) = n.log2 - 52 by omega, hexact]

end Whole

end Binary64

open Binary64

namespace UnpackedFloat

theorem sign_eq_positive_of_toRat_nonneg {s : Sign} {m : Nat} {e : Int} {h : 0 < m}
    (h0 : 0 ≤ toRat (.finite s m e h)) : s = .positive := by
  cases s with
  | negative =>
    have hpos : (0 : ℚ) < m * 2 ^ e := by positivity
    rw [toRat_finite_negative] at h0
    linarith
  | positive => rfl

/-- The sum of two numbers at least 0 is a canonical number, and rounding keeps it above every
number binary64 holds below the exact sum. -/
theorem add_nonneg {X Y : UnpackedFloat} (hX : X.isFinite = true) (hY : Y.isFinite = true)
    (hcX : Canonical X) (hcY : Canonical Y) (hX0 : 0 ≤ toRat X) (hY0 : 0 ≤ toRat Y) :
    (add Format.binary64 X Y).isFinite = true ∧ Canonical (add Format.binary64 X Y) ∧
      ∀ {n : Nat} {f : Int}, n < 2 ^ 53 → -1074 ≤ f →
        (n : ℚ) * 2 ^ f ≤ toRat X + toRat Y →
        (n : ℚ) * 2 ^ f ≤ toRat (add Format.binary64 X Y) := by
  rcases X with _ | _ | ⟨s⟩ | ⟨s, m₁, e₁, h₁⟩ <;> try cases hX
  · -- a zero leaves the other side as it is
    rcases Y with _ | _ | ⟨t⟩ | ⟨t, m₂, e₂, h₂⟩ <;> try cases hY
    · have hz : add Format.binary64 (.zero s) (.zero t) =
          if s == t then .zero s else .zero .positive := rfl
      rw [hz]
      split <;> exact ⟨rfl, trivial, fun _ _ h => by simpa using h⟩
    · refine ⟨rfl, hcY, fun _ _ h => ?_⟩
      rw [toRat_zero, zero_add] at h
      exact h
  · rcases Y with _ | _ | ⟨t⟩ | ⟨t, m₂, e₂, h₂⟩ <;> try cases hY
    · refine ⟨rfl, hcX, fun _ _ h => ?_⟩
      rw [toRat_zero, add_zero] at h
      exact h
    · -- two numbers at least 0 and not zero are positive
      obtain rfl := sign_eq_positive_of_toRat_nonneg hX0
      obtain rfl := sign_eq_positive_of_toRat_nonneg hY0
      rw [add_finite_positive]
      refine ⟨isFinite_round _ _ _, canonical_round _ (by positivity), fun hn hf h => ?_⟩
      apply le_toRat_round (by positivity) hn hf
      rw [value_sum_at_min]
      simpa using h

/-- Storing a canonical number at least 0 never lowers it: it is kept, or it overflows to the
positive infinity. -/
theorem le_toExt_unpack_pack {r : UnpackedFloat} (hc : Canonical r) (hfin : r.isFinite = true)
    (h0 : 0 ≤ toRat r) :
    (((toRat r : ℚ) : WithTop ℚ) : WithBot (WithTop ℚ)) ≤
        toExt (unpack Format.binary64 (pack Format.binary64 r)) ∧
      (unpack Format.binary64 (pack Format.binary64 r)).isNaN = false := by
  rcases r with _ | _ | s | ⟨s, m, e, hm⟩ <;> try cases hfin
  · rw [unpack_pack_zero]
    exact ⟨le_rfl, rfl⟩
  · obtain rfl := sign_eq_positive_of_toRat_nonneg h0
    rw [unpack_pack_finite _ hm hc]
    split
    · exact ⟨le_rfl, rfl⟩
    · exact ⟨le_top, rfl⟩

theorem add_infinity_positive_left {Y : UnpackedFloat} (hn : Y.isNaN = false)
    (hY : Y ≠ .infinity .negative) :
    add Format.binary64 (.infinity .positive) Y = .infinity .positive := by
  rcases Y with ⟨_ | _⟩ | _ | _ | _ <;> first | rfl | exact absurd rfl hY | cases hn

theorem add_infinity_positive_right {X : UnpackedFloat} (hn : X.isNaN = false)
    (hX : X ≠ .infinity .negative) :
    add Format.binary64 X (.infinity .positive) = .infinity .positive := by
  rcases X with ⟨_ | _⟩ | _ | _ | _ <;> first | rfl | exact absurd rfl hX | cases hn

theorem ne_infinity_negative_of_le {X : UnpackedFloat} {q : ℚ}
    (h : (((q : ℚ) : WithTop ℚ) : WithBot (WithTop ℚ)) ≤ toExt X) :
    X ≠ .infinity .negative := by
  rintro rfl
  exact absurd h (not_le.mpr (WithBot.bot_lt_coe _))

theorem le_toRat_of_le_toExt {X : UnpackedFloat} {q : ℚ} (hfin : X.isFinite = true)
    (h : (((q : ℚ) : WithTop ℚ) : WithBot (WithTop ℚ)) ≤ toExt X) : q ≤ toRat X := by
  rw [toExt_of_isFinite hfin] at h
  exact_mod_cast h

/-- Adding two canonical numbers at least two whole numbers `a` and `b`, and storing the sum,
gives at least `a + b`. -/
theorem le_toExt_add {X Y : UnpackedFloat} (hcX : Canonical X) (hcY : Canonical Y)
    (hXn : X.isNaN = false) (hYn : Y.isNaN = false) {a b : Nat} (hab : a + b < 2 ^ 53)
    (ha : (((a : ℚ) : WithTop ℚ) : WithBot (WithTop ℚ)) ≤ toExt X)
    (hb : (((b : ℚ) : WithTop ℚ) : WithBot (WithTop ℚ)) ≤ toExt Y) :
    ((((a + b : Nat) : ℚ) : WithTop ℚ) : WithBot (WithTop ℚ)) ≤
        toExt (unpack Format.binary64 (pack Format.binary64 (add Format.binary64 X Y))) ∧
      (unpack Format.binary64 (pack Format.binary64 (add Format.binary64 X Y))).isNaN = false := by
  have hX := ne_infinity_negative_of_le ha
  have hY := ne_infinity_negative_of_le hb
  by_cases hXinf : X = .infinity .positive
  · -- an infinite side makes the sum infinite
    rw [hXinf, add_infinity_positive_left hYn hY, unpack_pack_infinity]
    exact ⟨le_top, rfl⟩
  by_cases hYinf : Y = .infinity .positive
  · rw [hYinf, add_infinity_positive_right hXn hX, unpack_pack_infinity]
    exact ⟨le_top, rfl⟩
  have hfin : ∀ Z : UnpackedFloat, Z.isNaN = false → Z ≠ .infinity .negative →
      Z ≠ .infinity .positive → Z.isFinite = true := by
    intro Z hn h1 h2
    rcases Z with ⟨_ | _⟩ | _ | _ | _ <;>
      first | rfl | exact absurd rfl h1 | exact absurd rfl h2 | cases hn
  have hXf := hfin X hXn hX hXinf
  have hYf := hfin Y hYn hY hYinf
  have ha' := le_toRat_of_le_toExt hXf ha
  have hb' := le_toRat_of_le_toExt hYf hb
  obtain ⟨hsf, hsc, hlow⟩ :=
    add_nonneg hXf hYf hcX hcY ((Nat.cast_nonneg a).trans ha') ((Nat.cast_nonneg b).trans hb')
  have hsum : ((a + b : Nat) : ℚ) ≤ toRat (add Format.binary64 X Y) := by
    simpa using hlow (f := 0) hab (by norm_num) (by push_cast; linarith)
  have h0 : 0 ≤ toRat (add Format.binary64 X Y) := le_trans (by positivity) hsum
  obtain ⟨hstore, hnan⟩ := le_toExt_unpack_pack hsc hsf h0
  exact ⟨le_trans (by exact_mod_cast hsum) hstore, hnan⟩

end UnpackedFloat

namespace Float

variable {a b n : Nat} {x y : Float}

/-- A positive whole number below `2 ^ 53` becomes a double exactly: `Nat.toFloat` goes through a
64-bit word and a multiplication by `1.0`, and neither rounds. -/
theorem unpack_natCast (hn : 0 < n) (h : n < 2 ^ 53) :
    n.toFloat.toModel.unpack =
      .finite .positive (n * 2 ^ (52 - n.log2)) (n.log2 - 52) (by positivity) := by
  have hc := isCanonical_natCast hn h
  have hlog := log2_le_of_lt_pow hn h
  have hfits : (n.log2 : Int) - 52 ≤ 971 := by omega
  have hconv : n.toFloat = n.toUInt64.toFloat * Float.ofBits 0x3FF0000000000000 := by
    show Float.ofScientific n false 0 = _
    unfold Float.ofScientific
    rw [dif_pos ⟨h, by decide⟩]
    rfl
  have hword : n.toUInt64.toFloat.toModel.unpack =
      .finite .positive (n * 2 ^ (52 - n.log2)) (n.log2 - 52) (by positivity) := by
    show unpack Format.binary64 (pack Format.binary64 (ofNat Format.binary64 n.toUInt64.toNat)) = _
    rw [UInt64.toNat_ofNat_of_lt' (Nat.lt_of_lt_of_le h (by decide)), ofNat_binary64 hn h,
      unpack_pack_finite _ _ hc, if_pos hfits]
  have hone : (Float.ofBits 0x3FF0000000000000).toModel.unpack =
      .finite .positive (2 ^ 52) (-52) (by positivity) := rfl
  rw [hconv]
  show unpack Format.binary64 (pack Format.binary64 (mul Format.binary64
    n.toUInt64.toFloat.toModel.unpack (Float.ofBits 0x3FF0000000000000).toModel.unpack)) = _
  rw [hword, hone]
  show unpack Format.binary64 (pack Format.binary64 (roundWithAccuracy Format.binary64 .positive
    (n * 2 ^ (52 - n.log2) * 2 ^ 52) (n.log2 - 52 + -52) .exact)) = _
  rw [show (n.log2 : Int) - 52 + -52 = (n.log2 - 52) - (52 : Nat) by push_cast; ring,
    roundWithAccuracy_mul_pow .positive _ hc 52, unpack_pack_finite _ _ hc, if_pos hfits]

theorem toExt_natCast (h : n < 2 ^ 53) :
    toExt n.toFloat.toModel.unpack = (((n : ℚ) : WithTop ℚ) : WithBot (WithTop ℚ)) := by
  rcases Nat.eq_zero_or_pos n with rfl | hn
  · rfl
  rw [unpack_natCast hn h, toExt_of_isFinite rfl, toRat_finite_positive]
  have hlog := log2_le_of_lt_pow hn h
  rw [show (n.log2 : Int) - 52 = 0 - ((52 - n.log2 : Nat) : Int) by omega, value_mul_pow]
  simp

theorem isNaN_natCast (h : n < 2 ^ 53) : n.toFloat.isNaN = false := by
  rcases Nat.eq_zero_or_pos n with rfl | hn
  · rfl
  show n.toFloat.toModel.unpack.isNaN = false
  rw [unpack_natCast hn h]
  rfl

/-- The sum of two doubles is the rounded sum of their unpacked forms, stored. -/
theorem unpack_add (x y : Float) :
    (x + y).toModel.unpack = unpack Format.binary64
      (pack Format.binary64 (add Format.binary64 x.toModel.unpack y.toModel.unpack)) := rfl

/-- Whole numbers below `2 ^ 53` keep their order as doubles. -/
theorem natCast_le_natCast (hab : a ≤ b) (hb : b < 2 ^ 53) : a.toFloat ≤ b.toFloat := by
  rw [le_iff_toExt (isNaN_natCast (by omega)) (isNaN_natCast hb), toExt_natCast (by omega),
    toExt_natCast hb]
  exact_mod_cast hab

/-- Two doubles at least two whole numbers add to at least their sum, when the sum is below
`2 ^ 53`: rounding never goes below a number that binary64 holds. -/
theorem natCast_add_le (hab : a + b < 2 ^ 53) (hx : a.toFloat ≤ x) (hy : b.toFloat ≤ y) :
    (a + b).toFloat ≤ x + y := by
  obtain ⟨-, hxn⟩ := isNaN_of_le hx
  obtain ⟨-, hyn⟩ := isNaN_of_le hy
  rw [le_iff_toExt (isNaN_natCast (by omega)) hxn, toExt_natCast (by omega)] at hx
  rw [le_iff_toExt (isNaN_natCast (by omega)) hyn, toExt_natCast (by omega)] at hy
  obtain ⟨hle, hnan⟩ :=
    le_toExt_add (canonical_toModel x) (canonical_toModel y) hxn hyn hab hx hy
  rw [← unpack_add] at hle hnan
  rw [le_iff_toExt (isNaN_natCast hab) hnan, toExt_natCast hab]
  exact hle

end Float

end EnergyModel
