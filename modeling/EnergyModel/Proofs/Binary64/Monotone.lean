import EnergyModel.Proofs.Binary64.Rounding

/-!
# Rounding keeps order

Rounding to nearest, ties to even, never reverses the order of two exact results, so the sum of
doubles grows with each side (`Float.add_le_add`) and whole numbers keep their order as doubles
at any size (`Float.natCast_le_natCast_of_le`).

The mantissa rounding keeps at its target exponent is the quotient of the mantissa by the bits
shifted out, rounded to nearest with ties to even (`Binary64.rne`): the round bit is the first
bit shifted out and the sticky bit is set when any later one is. Two positive numbers with one
target exponent therefore round in order, and a number with a higher target holds `2 ^ 52` units
of it, more than the other can round to. Signs mirror this, storing in 64 bits saturates at the
infinities (`Binary64.saturate`), and a sum is its exact value rounded, so order passes from the
summands to the sum.
-/

namespace EnergyModel

open Float.Model (UnpackedFloat Format totalExponent)
open Float.Model.UnpackedFloat
open UnpackedFloat

namespace Binary64

/-! ## The quotient rounded to nearest -/

section Nearest

/-- The quotient `a / d` rounded to nearest, ties to even. -/
def rne (a d : Nat) : Nat :=
  if 2 * (a % d) < d then a / d
  else if d < 2 * (a % d) then a / d + 1
  else a / d + a / d % 2

theorem rne_le_succ (a d : Nat) : rne a d ≤ a / d + 1 := by
  unfold rne
  split
  · omega
  · split <;> omega

theorem le_rne (a d : Nat) : a / d ≤ rne a d := by
  unfold rne
  split
  · omega
  · split <;> omega

theorem rne_mono {a a' d : Nat} (h : a ≤ a') : rne a d ≤ rne a' d := by
  have hq : a / d ≤ a' / d := Nat.div_le_div_right h
  rcases hq.lt_or_eq with hlt | heq
  · exact (rne_le_succ a d).trans ((Nat.succ_le_of_lt hlt).trans (le_rne a' d))
  · -- one quotient: the remainders keep the order of the numbers
    have hr : a % d ≤ a' % d := by
      have h₁ := Nat.div_add_mod a d
      have h₂ := Nat.div_add_mod a' d
      rw [heq] at h₁
      omega
    unfold rne
    rw [heq]
    split_ifs <;> omega

theorem rne_mul_right {c : Nat} (hc : 0 < c) (a d : Nat) : rne (a * c) (d * c) = rne a d := by
  unfold rne
  rw [Nat.mul_div_mul_right _ _ hc, Nat.mul_mod_mul_right]
  have hlt : 2 * (a % d * c) < d * c ↔ 2 * (a % d) < d := by
    rw [← Nat.mul_assoc]
    exact Nat.mul_lt_mul_right hc
  have hgt : d * c < 2 * (a % d * c) ↔ d < 2 * (a % d) := by
    rw [← Nat.mul_assoc]
    exact Nat.mul_lt_mul_right hc
  simp only [hlt, hgt]

theorem roundedMantissa_mk (q : Nat) (rb sb : Bool) :
    (⟨q, rb, sb⟩ : ExtendedMantissa).roundedMantissa =
      if rb then (if sb then q + 1 else q + q % 2) else q := by
  cases rb <;> cases sb <;> rfl

/-- Shifted right by `k + 1` bits, a mantissa keeps its quotient, the bit at `k` as its round
bit, and whether any lower bit is set as its sticky bit. -/
theorem shiftRight_exact_succ (M k : Nat) :
    ExtendedMantissa.ofMantissaAndAccuracy M .exact >>> (k + 1) =
      ⟨M / 2 ^ (k + 1), M / 2 ^ k % 2 != 0, M % 2 ^ k != 0⟩ := by
  induction k with
  | zero =>
    simp [shiftRight_succ, shiftRight_zero, ExtendedMantissa.ofMantissaAndAccuracy,
      ExtendedMantissa.shiftRightOne, Nat.mod_one]
  | succ k ih =>
    rw [shiftRight_succ, ih]
    simp only [ExtendedMantissa.shiftRightOne, ExtendedMantissa.mk.injEq]
    refine ⟨by rw [Nat.div_div_eq_div_mul, ← pow_succ], trivial, ?_⟩
    -- the old round bit joins the sticky bits
    rw [Nat.mod_pow_succ]
    rcases Nat.mod_two_eq_zero_or_one (M / 2 ^ k) with hb | hb <;> simp [hb]

theorem roundedMantissa_shiftRight (M k : Nat) :
    (ExtendedMantissa.ofMantissaAndAccuracy M .exact >>> k).roundedMantissa = rne M (2 ^ k) := by
  cases k with
  | zero =>
    simp [shiftRight_zero, ExtendedMantissa.ofMantissaAndAccuracy,
      ExtendedMantissa.roundedMantissa, ExtendedMantissa.accuracy, Accuracy.roundToNearestEven,
      rne, Nat.mod_one]
  | succ k =>
    -- the remainder is the round bit's place and the bits below it
    have hsplit : M % 2 ^ (k + 1) = M % 2 ^ k + 2 ^ k * (M / 2 ^ k % 2) := Nat.mod_pow_succ
    have hlow : M % 2 ^ k < 2 ^ k := Nat.mod_lt _ (by positivity)
    have hpow : 2 ^ (k + 1) = 2 * 2 ^ k := by rw [pow_succ, mul_comm]
    rw [shiftRight_exact_succ, roundedMantissa_mk]
    unfold rne
    rw [hsplit, hpow]
    simp only [bne_iff_ne, ne_eq]
    clear hsplit hpow
    rcases Nat.mod_two_eq_zero_or_one (M / 2 ^ k) with hb | hb <;>
      simp only [hb, mul_zero, mul_one, add_zero, not_true_eq_false, if_false, Nat.one_ne_zero,
        not_false_eq_true, if_true] <;> split_ifs <;> omega

end Nearest

/-! ## Positive numbers -/

section Positive

variable {m m' : Nat} {e e' : Int}

theorem mul_two_pow_sub (q : ℚ) (a : Nat) (z : Int) : q * 2 ^ a * 2 ^ (z - a) = q * 2 ^ z := by
  rw [mul_assoc, ← zpow_natCast, ← zpow_add₀ two_ne_zero]
  ring_nf

/-- A positive number is rounded to the nearest multiple of the unit at its target exponent: its
mantissa, moved to `j` bits below the target, is divided by `2 ^ j` and rounded. -/
theorem toRat_round_positive (hm : 0 < m) :
    ∃ M j : Nat, (M : ℚ) * 2 ^ (target m e - j) = m * 2 ^ e ∧ M / 2 ^ j < 2 ^ 53 ∧
      toRat (round Format.binary64 .positive m e) = rne M (2 ^ j) * 2 ^ target m e := by
  set k := (e - target m e).toNat
  have ht : target (m * 2 ^ k) (e - k) = target m e := target_mul_pow hm k
  have hek : e - k ≤ target (m * 2 ^ k) (e - k) := by rw [ht]; omega
  refine ⟨m * 2 ^ k, (target m e - (e - k)).toNat, ?_, ?_, ?_⟩
  · rw [show target m e - ((target m e - (e - k)).toNat : Int) = e - k by omega, value_mul_pow]
  · have := firstShift_lt hek
    rwa [ht] at this
  · rw [round_eq, toRat_roundWithAccuracy hek, rounded, roundedMantissa_shiftRight, ht]

theorem toRat_round_nonneg (hm : 0 < m) : 0 ≤ toRat (round Format.binary64 .positive m e) := by
  obtain ⟨M, j, -, -, hr⟩ := toRat_round_positive (e := e) hm
  rw [hr]
  positivity

theorem log2_add_le (hm : 0 < m) (h : (m : ℚ) * 2 ^ e ≤ m' * 2 ^ e') :
    (m.log2 : Int) + e ≤ m'.log2 + e' := by
  by_contra hlt
  have hlow : (2 : ℚ) ^ ((m.log2 : Int) + e) ≤ m * 2 ^ e := by
    rw [zpow_add₀ two_ne_zero, zpow_natCast]
    gcongr
    exact_mod_cast Nat.log2_self_le hm.ne'
  have hhigh : (m' : ℚ) * 2 ^ e' < 2 ^ ((m'.log2 + 1 : Nat) + e') := by
    rw [zpow_add₀ two_ne_zero, zpow_natCast]
    gcongr
    exact_mod_cast Nat.lt_log2_self
  have hpow : (2 : ℚ) ^ ((m'.log2 + 1 : Nat) + e') ≤ 2 ^ ((m.log2 : Int) + e) :=
    zpow_le_zpow_right₀ (by norm_num) (by push_cast; omega)
  linarith

theorem target_mono (hm : 0 < m) (h : (m : ℚ) * 2 ^ e ≤ m' * 2 ^ e') :
    target m e ≤ target m' e' := by
  have := log2_add_le hm h
  unfold target
  omega

/-- Above the least exponent, a number holds at least `2 ^ 52` units of its target exponent. -/
theorem pow_target_le (hm : 0 < m) (ht : target m e ≠ -1074) :
    ((2 ^ 52 : Nat) : ℚ) * 2 ^ target m e ≤ m * 2 ^ e := by
  have htarget : target m e = (m.log2 : Int) + e - 52 := by
    unfold target at ht ⊢
    omega
  calc ((2 ^ 52 : Nat) : ℚ) * 2 ^ target m e = 2 ^ ((m.log2 : Int) + e) := by
        rw [htarget, Nat.cast_pow, Nat.cast_ofNat, ← zpow_natCast, ← zpow_add₀ two_ne_zero]
        ring_nf
    _ ≤ m * 2 ^ e := by
        rw [zpow_add₀ two_ne_zero, zpow_natCast]
        gcongr
        exact_mod_cast Nat.log2_self_le hm.ne'

theorem mul_two_pow_le {M M' j j' : Nat} {t : Int}
    (h : (M : ℚ) * 2 ^ (t - j) ≤ M' * 2 ^ (t - j')) : M * 2 ^ j' ≤ M' * 2 ^ j := by
  have hscaled : ((M * 2 ^ j' : Nat) : ℚ) * 2 ^ (t - j - j') ≤
      ((M' * 2 ^ j : Nat) : ℚ) * 2 ^ (t - j - j') := by
    push_cast
    rw [mul_two_pow_sub, show t - j - j' = t - j' - j by ring, mul_two_pow_sub]
    exact h
  exact_mod_cast le_of_mul_le_mul_right hscaled (zpow_pos two_pos _)

/-- Rounding keeps the order of positive numbers. -/
theorem toRat_round_le (hm : 0 < m) (hm' : 0 < m') (h : (m : ℚ) * 2 ^ e ≤ m' * 2 ^ e') :
    toRat (round Format.binary64 .positive m e) ≤
      toRat (round Format.binary64 .positive m' e') := by
  obtain ⟨M, j, hv, hlt, hr⟩ := toRat_round_positive (e := e) hm
  obtain ⟨M', j', hv', -, hr'⟩ := toRat_round_positive (e := e') hm'
  rcases (target_mono hm h).lt_or_eq with hlt' | heq
  · -- the larger number keeps `2 ^ 52` units of a higher exponent; the smaller rounds to at
    -- most `2 ^ 53` units of its own
    have hup : rne M (2 ^ j) ≤ 2 ^ 53 := (rne_le_succ _ _).trans hlt
    have ht' : target m' e' ≠ -1074 := by have := target_ge m e; omega
    calc toRat (round Format.binary64 .positive m e) = rne M (2 ^ j) * 2 ^ target m e := hr
      _ ≤ ((2 ^ 53 : Nat) : ℚ) * 2 ^ target m e := by gcongr
      _ = ((2 ^ 52 : Nat) : ℚ) * 2 ^ (target m e + 1) := by
          push_cast
          rw [zpow_add_one₀ two_ne_zero]
          ring
      _ ≤ ((2 ^ 52 : Nat) : ℚ) * 2 ^ target m' e' := by gcongr; norm_num; omega
      _ ≤ _ := le_toRat_round hm' (by norm_num) (target_ge _ _) (pow_target_le hm' ht')
  · -- one target exponent: the units there compare as the scaled mantissas do
    rw [heq] at hv
    have hcross := mul_two_pow_le (hv.trans_le (h.trans_eq hv'.symm))
    have hrne : rne M (2 ^ j) ≤ rne M' (2 ^ j') :=
      calc rne M (2 ^ j) = rne (M * 2 ^ j') (2 ^ j * 2 ^ j') :=
            (rne_mul_right (by positivity) _ _).symm
        _ ≤ rne (M' * 2 ^ j) (2 ^ j * 2 ^ j') := rne_mono hcross
        _ = rne M' (2 ^ j') := by rw [mul_comm (2 ^ j), rne_mul_right (by positivity)]
    rw [hr, hr', heq]
    exact mul_le_mul_of_nonneg_right (by exact_mod_cast hrne) (by positivity)

end Positive

/-! ## Signs -/

section Signs

theorem toRat_round_negative (m : Nat) (e : Int) :
    toRat (round Format.binary64 .negative m e) = -toRat (round Format.binary64 .positive m e) := by
  rw [round_eq, round_eq, roundWithAccuracy_eq, roundWithAccuracy_eq]
  dsimp only
  -- both signs take the same branch: zero, or one mantissa at one exponent
  split
  · rw [toRat_zero, toRat_zero, neg_zero]
  · rw [toRat_finite_negative, toRat_finite_positive]

theorem natCast_toNat {M : Int} (h : 0 ≤ M) : ((M.toNat : Nat) : ℚ) = M := by
  exact_mod_cast Int.toNat_of_nonneg h

/-- A signed mantissa rounds as its magnitude does, with its sign. -/
theorem toRat_normalize (M E : Int) (s : Sign) :
    toRat (normalize Format.binary64 M E s) =
      if M < 0 then -toRat (round Format.binary64 .positive (-M).toNat E)
      else if M = 0 then 0 else toRat (round Format.binary64 .positive M.toNat E) := by
  unfold Float.Model.UnpackedFloat.normalize
  rcases lt_trichotomy M 0 with hM | rfl | hM
  · rw [Int.compare_eq_lt.mpr hM, if_pos hM, toRat_round_negative]
  · rfl
  · rw [Int.compare_eq_gt.mpr hM, if_neg (by omega), if_neg (by omega)]

theorem toRat_normalize_nonpos {M E : Int} (s : Sign) (hM : M ≤ 0) :
    toRat (normalize Format.binary64 M E s) ≤ 0 := by
  rw [toRat_normalize]
  rcases hM.lt_or_eq with hM | rfl
  · rw [if_pos hM]
    exact neg_nonpos.mpr (toRat_round_nonneg (by omega))
  · rfl

theorem toRat_normalize_nonneg {M E : Int} (s : Sign) (hM : 0 ≤ M) :
    0 ≤ toRat (normalize Format.binary64 M E s) := by
  rw [toRat_normalize]
  rcases hM.lt_or_eq with hM | rfl
  · rw [if_neg (by omega), if_neg (by omega)]
    exact toRat_round_nonneg (by omega)
  · rfl

/-- Rounding a signed mantissa keeps the order of the exact values. -/
theorem toRat_normalize_le {M M' E E' : Int} (s s' : Sign) (h : (M : ℚ) * 2 ^ E ≤ M' * 2 ^ E') :
    toRat (normalize Format.binary64 M E s) ≤ toRat (normalize Format.binary64 M' E' s') := by
  have hpow : ∀ z : Int, (0 : ℚ) ≤ 2 ^ z := fun z => (zpow_pos two_pos z).le
  rcases le_or_gt M 0 with hM | hM
  · rcases lt_or_ge M' 0 with hM' | hM'
    · -- two negative values: the larger magnitude is the smaller value
      have hneg : (M : ℚ) * 2 ^ E < 0 :=
        h.trans_lt (mul_neg_of_neg_of_pos (by exact_mod_cast hM') (zpow_pos two_pos E'))
      have hM : M < 0 := by exact_mod_cast neg_of_mul_neg_left hneg (hpow E)
      rw [toRat_normalize, toRat_normalize, if_pos hM, if_pos hM']
      refine neg_le_neg (toRat_round_le (by omega) (by omega) ?_)
      rw [natCast_toNat (by omega), natCast_toNat (by omega)]
      push_cast
      linarith
    · -- a value at most zero and one at least zero
      exact (toRat_normalize_nonpos s hM).trans (toRat_normalize_nonneg s' hM')
  · -- two positive values
    have hpos : (0 : ℚ) < M' * 2 ^ E' :=
      (mul_pos (by exact_mod_cast hM) (zpow_pos two_pos E)).trans_le h
    have hM' : 0 < M' := by exact_mod_cast pos_of_mul_pos_left hpos (hpow E')
    rw [toRat_normalize, toRat_normalize, if_neg (by omega), if_neg (by omega), if_neg (by omega),
      if_neg (by omega)]
    refine toRat_round_le (by omega) (by omega) ?_
    rw [natCast_toNat (by omega), natCast_toNat (by omega)]
    exact h

theorem canonical_normalize (M E : Int) (s : Sign) :
    Canonical (normalize Format.binary64 M E s) ∧
      (normalize Format.binary64 M E s).isFinite = true := by
  unfold Float.Model.UnpackedFloat.normalize
  rcases lt_trichotomy M 0 with hM | rfl | hM
  · rw [Int.compare_eq_lt.mpr hM]
    exact ⟨canonical_round _ (by omega), isFinite_round _ _ _⟩
  · exact ⟨trivial, rfl⟩
  · rw [Int.compare_eq_gt.mpr hM]
    exact ⟨canonical_round _ (by omega), isFinite_round _ _ _⟩

end Signs

/-! ## Storing in 64 bits -/

section Storing

/-- The least magnitude binary64 cannot hold: `2 ^ 53` units of the largest exponent. -/
def overflowBound : ℚ := 2 ^ 53 * 2 ^ (971 : Int)

theorem overflowBound_pos : 0 < overflowBound := by
  unfold overflowBound
  positivity

/-- What binary64 holds for a rounded value: the value itself below `overflowBound` in magnitude,
the infinity of its sign from there. -/
def saturate (q : ℚ) : WithBot (WithTop ℚ) :=
  if q ≤ -overflowBound then ⊥
  else if overflowBound ≤ q then ⊤
  else ((q : WithTop ℚ) : WithBot (WithTop ℚ))

theorem saturate_mono {q q' : ℚ} (h : q ≤ q') : saturate q ≤ saturate q' := by
  have hB := overflowBound_pos
  unfold saturate
  split_ifs
  all_goals first | exact bot_le | exact le_top | (exfalso; linarith) | skip
  exact WithBot.coe_le_coe.mpr (WithTop.coe_le_coe.mpr h)

theorem saturate_of_lt {q : ℚ} (hlo : -overflowBound < q) (hhi : q < overflowBound) :
    saturate q = ((q : WithTop ℚ) : WithBot (WithTop ℚ)) := by
  rw [saturate, if_neg (not_le.mpr hlo), if_neg (not_le.mpr hhi)]

/-- A canonical number with an exponent binary64 stores is below `overflowBound`; one with a
larger exponent is at least `overflowBound`. -/
theorem value_lt_or_ge {m : Nat} {e : Int} (hc : IsCanonical m e) :
    (e ≤ 971 → (m : ℚ) * 2 ^ e < overflowBound) ∧ (971 < e → overflowBound ≤ (m : ℚ) * 2 ^ e) := by
  obtain ⟨hlt, hge, hn⟩ := hc
  unfold overflowBound
  constructor
  · intro he
    calc (m : ℚ) * 2 ^ e < 2 ^ 53 * 2 ^ e := by gcongr; exact_mod_cast hlt
      _ ≤ 2 ^ 53 * 2 ^ (971 : Int) := by gcongr; norm_num
  · intro he
    have hm : ((2 ^ 52 : Nat) : ℚ) ≤ m := by exact_mod_cast hn.resolve_right (by omega)
    have hexp : (2 : ℚ) ^ (972 : Int) ≤ 2 ^ e := zpow_le_zpow_right₀ (by norm_num) (by omega)
    calc (2 : ℚ) ^ 53 * 2 ^ (971 : Int) = ((2 ^ 52 : Nat) : ℚ) * 2 ^ (972 : Int) := by
          rw [show (972 : Int) = 971 + 1 by norm_num, zpow_add_one₀ two_ne_zero]
          generalize (2 : ℚ) ^ (971 : Int) = z
          push_cast
          ring
      _ ≤ m * 2 ^ e := by gcongr

/-- Storing a canonical zero or finite number saturates its value. -/
theorem toExt_store {X : UnpackedFloat} (hc : Canonical X) (hX : X.isFinite = true) :
    toExt (unpack Format.binary64 (pack Format.binary64 X)) = saturate (toRat X) := by
  have hB := overflowBound_pos
  rcases X with _ | _ | s | ⟨s, m, e, hm⟩ <;> try cases hX
  · rw [unpack_pack_zero, toRat_zero, saturate_of_lt (by linarith) hB]
    rfl
  · obtain ⟨hin, hout⟩ := value_lt_or_ge hc
    have hv : (0 : ℚ) < m * 2 ^ e := by positivity
    rw [unpack_pack_finite _ hm hc]
    split
    · -- a stored exponent: the value is kept
      have := hin (by assumption)
      have hlo : -overflowBound < toRat (.finite s m e hm) := by
        cases s <;> simp only [toRat_finite_positive, toRat_finite_negative] <;> linarith
      have hhi : toRat (.finite s m e hm) < overflowBound := by
        cases s <;> simp only [toRat_finite_positive, toRat_finite_negative] <;> linarith
      rw [saturate_of_lt hlo hhi]
      rfl
    · -- a larger exponent overflows to the infinity of the sign
      have := hout (by omega)
      cases s
      · rw [toRat_finite_negative, saturate, if_pos (by linarith)]
        rfl
      · rw [toRat_finite_positive, saturate, if_neg (by linarith), if_pos this]
        rfl

end Storing

/-! ## Addition -/

section Addition

variable {m n : Nat} {e f : Int}

/-- A canonical number is its own rounding. -/
theorem round_of_isCanonical (s : Sign) (hm : 0 < m) (hc : IsCanonical m e) :
    round Format.binary64 s m e = .finite s m e hm := by
  have hexact := roundWithAccuracy_mul_pow s hm hc 0
  simp only [pow_zero, mul_one, Nat.cast_zero, sub_zero] at hexact
  rw [round_eq, target_of_isCanonical hm hc, sub_self, Int.toNat_zero, pow_zero, mul_one,
    Nat.cast_zero, sub_zero, hexact]

theorem normalize_apply (t : Sign) (hn : 0 < n) (f : Int) (s : Sign) :
    normalize Format.binary64 (t.apply n) f s = round Format.binary64 t n f := by
  unfold Float.Model.UnpackedFloat.normalize
  cases t
  · rw [show Sign.apply .negative (n : Int) = -n from rfl, Int.compare_eq_lt.mpr (by omega)]
    simp only [neg_neg, Int.toNat_natCast]
  · rw [show Sign.apply .positive (n : Int) = n from rfl, Int.compare_eq_gt.mpr (by omega)]
    rfl

/-- A signed mantissa moved down to a smaller exponent keeps its value. -/
theorem toRat_apply_at (s : Sign) (hm : 0 < m) {z : Int} (hz : z ≤ e) :
    ((s.apply (m * 2 ^ (e - z).toNat : Nat) : Int) : ℚ) * 2 ^ z = toRat (.finite s m e hm) := by
  have hv := value_mul_pow m (e - z).toNat e
  rw [show e - ((e - z).toNat : Nat) = z by omega] at hv
  cases s
  · rw [toRat_finite_negative, ← hv]
    simp [Sign.apply]
  · rw [toRat_finite_positive, ← hv]
    simp [Sign.apply]

/-- Two finite numbers are added exactly, with their signs, at the smaller exponent, then
rounded. -/
theorem add_finite (s t : Sign) (hm : 0 < m) (hn : 0 < n) :
    add Format.binary64 (.finite s m e hm) (.finite t n f hn) =
      normalize Format.binary64
        (s.apply (m * 2 ^ (e - min e f).toNat : Nat) + t.apply (n * 2 ^ (f - min e f).toNat : Nat))
        (min e f) .positive := by
  simp only [add, decreaseExponent, Nat.shiftLeft_eq]

/-- The sum of two canonical zero or finite numbers is a canonical zero or finite number, its
exact value rounded. -/
theorem add_of_isFinite {X Y : UnpackedFloat} (hcX : Canonical X) (hcY : Canonical Y)
    (hX : X.isFinite = true) (hY : Y.isFinite = true) :
    Canonical (add Format.binary64 X Y) ∧ (add Format.binary64 X Y).isFinite = true ∧
      ∃ M E : Int, (M : ℚ) * 2 ^ E = toRat X + toRat Y ∧
        toRat (add Format.binary64 X Y) = toRat (normalize Format.binary64 M E .positive) := by
  rcases X with _ | _ | s | ⟨s, m, e, hm⟩ <;> try cases hX
  all_goals rcases Y with _ | _ | t | ⟨t, n, f, hn⟩ <;> try cases hY
  · -- two zeros
    have hz : add Format.binary64 (.zero s) (.zero t) =
        if s == t then .zero s else .zero .positive := rfl
    refine ⟨by rw [hz]; split <;> trivial, by rw [hz]; split <;> rfl, 0, 0, by simp, ?_⟩
    rw [hz]
    split <;> rfl
  · -- a zero leaves the other side as it is
    refine ⟨hcY, rfl, t.apply n, f, ?_, ?_⟩
    · rw [toRat_zero, zero_add, ← toRat_apply_at t hn (le_refl f), sub_self, Int.toNat_zero,
        pow_zero, mul_one]
    · rw [normalize_apply t hn, round_of_isCanonical t hn hcY]
      rfl
  · refine ⟨hcX, rfl, s.apply m, e, ?_, ?_⟩
    · rw [toRat_zero, add_zero, ← toRat_apply_at s hm (le_refl e), sub_self, Int.toNat_zero,
        pow_zero, mul_one]
    · rw [normalize_apply s hm, round_of_isCanonical s hm hcX]
      rfl
  · rw [add_finite]
    obtain ⟨hc, hf⟩ := canonical_normalize
      (s.apply (m * 2 ^ (e - min e f).toNat : Nat) + t.apply (n * 2 ^ (f - min e f).toNat : Nat))
      (min e f) .positive
    refine ⟨hc, hf, _, _, ?_, rfl⟩
    rw [Int.cast_add, add_mul, toRat_apply_at s hm (min_le_left e f),
      toRat_apply_at t hn (min_le_right e f)]

/-- Sums of canonical zero or finite numbers, stored, keep the order of the exact sums. -/
theorem toExt_store_add_le_of_isFinite {X Y X' Y' : UnpackedFloat} (hcX : Canonical X)
    (hcY : Canonical Y) (hcX' : Canonical X') (hcY' : Canonical Y') (hX : X.isFinite = true)
    (hY : Y.isFinite = true) (hX' : X'.isFinite = true) (hY' : Y'.isFinite = true)
    (h : toRat X + toRat Y ≤ toRat X' + toRat Y') :
    toExt (unpack Format.binary64 (pack Format.binary64 (add Format.binary64 X Y))) ≤
      toExt (unpack Format.binary64 (pack Format.binary64 (add Format.binary64 X' Y'))) := by
  obtain ⟨hc, hf, M, E, hv, hr⟩ := add_of_isFinite hcX hcY hX hY
  obtain ⟨hc', hf', M', E', hv', hr'⟩ := add_of_isFinite hcX' hcY' hX' hY'
  rw [toExt_store hc hf, toExt_store hc' hf', hr, hr']
  exact saturate_mono (toRat_normalize_le _ _ (by rw [hv, hv']; exact h))

end Addition

/-! ## Sums with infinities -/

section Infinities

theorem toExt_eq_top_iff {X : UnpackedFloat} : toExt X = ⊤ ↔ X = .infinity .positive := by
  rcases X with ⟨_ | _⟩ | _ | _ | _ <;> simp [toExt]
  -- a zero is a number, not the top
  exact fun h => by cases h

theorem toExt_eq_bot_iff {X : UnpackedFloat} : toExt X = ⊥ ↔ X = .infinity .negative := by
  rcases X with ⟨_ | _⟩ | _ | _ | _ <;> simp [toExt]

/-- A number that is neither NaN nor an infinity is zero or finite. -/
theorem isFinite_of_ne {X : UnpackedFloat} (hn : X.isNaN = false)
    (hpos : X ≠ .infinity .positive) (hneg : X ≠ .infinity .negative) : X.isFinite = true := by
  rcases X with ⟨_ | _⟩ | _ | _ | _ <;>
    first | rfl | exact absurd rfl hpos | exact absurd rfl hneg | cases hn

/-- A sum with an infinity on either side is that infinity, unless it is NaN. -/
theorem add_eq_infinity {X Y : UnpackedFloat} {s : Sign}
    (h : X = .infinity s ∨ Y = .infinity s) (hn : (add Format.binary64 X Y).isNaN = false) :
    add Format.binary64 X Y = .infinity s := by
  rcases h with rfl | rfl
  · rcases Y with ⟨t⟩ | _ | t | ⟨t, n, f, hn'⟩ <;> cases s <;> (try cases t) <;>
      first | rfl | cases hn
  · rcases X with ⟨t⟩ | _ | t | ⟨t, n, f, hn'⟩ <;> cases s <;> (try cases t) <;>
      first | rfl | cases hn

theorem eq_infinity_positive_of_le {X X' : UnpackedFloat} (h : toExt X ≤ toExt X')
    (hX : X = .infinity .positive) : X' = .infinity .positive :=
  toExt_eq_top_iff.mp (top_le_iff.mp (toExt_eq_top_iff.mpr hX ▸ h))

theorem eq_infinity_negative_of_le {X X' : UnpackedFloat} (h : toExt X ≤ toExt X')
    (hX' : X' = .infinity .negative) : X = .infinity .negative :=
  toExt_eq_bot_iff.mp (le_bot_iff.mp (toExt_eq_bot_iff.mpr hX' ▸ h))

theorem isNaN_store_eq_false {X : UnpackedFloat} (hc : Canonical X) (hX : X.isFinite = true) :
    (unpack Format.binary64 (pack Format.binary64 X)).isNaN = false := by
  rcases X with _ | _ | s | ⟨s, m, e, hm⟩ <;> try cases hX
  · rw [unpack_pack_zero]
    rfl
  · rw [unpack_pack_finite _ hm hc]
    split <;> rfl

/-- Storing NaN gives NaN. -/
theorem isNaN_of_store {X : UnpackedFloat}
    (h : (unpack Format.binary64 (pack Format.binary64 X)).isNaN = false) : X.isNaN = false := by
  cases X with
  | notANumber => exact absurd h (by decide)
  | _ => rfl

/-- Sums of canonical numbers that are not NaN, stored, keep the order of their sides. -/
theorem toExt_store_add_le {X Y X' Y' : UnpackedFloat} (hcX : Canonical X) (hcY : Canonical Y)
    (hcX' : Canonical X') (hcY' : Canonical Y') (hnX : X.isNaN = false) (hnY : Y.isNaN = false)
    (hnX' : X'.isNaN = false) (hnY' : Y'.isNaN = false)
    (hXX : toExt X ≤ toExt X') (hYY : toExt Y ≤ toExt Y')
    (hs : (add Format.binary64 X Y).isNaN = false)
    (hs' : (add Format.binary64 X' Y').isNaN = false) :
    toExt (unpack Format.binary64 (pack Format.binary64 (add Format.binary64 X Y))) ≤
      toExt (unpack Format.binary64 (pack Format.binary64 (add Format.binary64 X' Y'))) := by
  -- an infinity on either side decides a sum
  by_cases hpos : X = .infinity .positive ∨ Y = .infinity .positive
  · have hpos' : X' = .infinity .positive ∨ Y' = .infinity .positive :=
      hpos.imp (eq_infinity_positive_of_le hXX) (eq_infinity_positive_of_le hYY)
    rw [add_eq_infinity hpos hs, add_eq_infinity hpos' hs']
  by_cases hneg' : X' = .infinity .negative ∨ Y' = .infinity .negative
  · have hneg : X = .infinity .negative ∨ Y = .infinity .negative :=
      hneg'.imp (eq_infinity_negative_of_le hXX) (eq_infinity_negative_of_le hYY)
    rw [add_eq_infinity hneg hs, add_eq_infinity hneg' hs']
  by_cases hneg : X = .infinity .negative ∨ Y = .infinity .negative
  · rw [add_eq_infinity hneg hs, unpack_pack_infinity]
    exact bot_le
  by_cases hpos' : X' = .infinity .positive ∨ Y' = .infinity .positive
  · rw [add_eq_infinity hpos' hs', unpack_pack_infinity]
    exact le_top
  -- no infinity: the exact sums are in order
  simp only [not_or] at hpos hneg hpos' hneg'
  have hX := isFinite_of_ne hnX hpos.1 hneg.1
  have hY := isFinite_of_ne hnY hpos.2 hneg.2
  have hX' := isFinite_of_ne hnX' hpos'.1 hneg'.1
  have hY' := isFinite_of_ne hnY' hpos'.2 hneg'.2
  rw [toExt_of_isFinite hX, toExt_of_isFinite hX'] at hXX
  rw [toExt_of_isFinite hY, toExt_of_isFinite hY'] at hYY
  have hle : toRat X ≤ toRat X' := by exact_mod_cast hXX
  have hle' : toRat Y ≤ toRat Y' := by exact_mod_cast hYY
  exact toExt_store_add_le_of_isFinite hcX hcY hcX' hcY' hX hY hX' hY' (add_le_add hle hle')

/-- Larger sides than those of a sum above negative infinity do not add to NaN. -/
theorem isNaN_store_add_eq_false {X Y X' Y' : UnpackedFloat} (hcX' : Canonical X')
    (hcY' : Canonical Y') (hnX' : X'.isNaN = false) (hnY' : Y'.isNaN = false)
    (hXX : toExt X ≤ toExt X') (hYY : toExt Y ≤ toExt Y')
    (hs : (add Format.binary64 X Y).isNaN = false)
    (hlow : add Format.binary64 X Y ≠ .infinity .negative) :
    (unpack Format.binary64 (pack Format.binary64 (add Format.binary64 X' Y'))).isNaN = false := by
  by_cases hneg' : X' = .infinity .negative ∨ Y' = .infinity .negative
  · -- a side of the first sum would be negative infinity, and so would that sum
    exact absurd (add_eq_infinity (hneg'.imp (eq_infinity_negative_of_le hXX)
      (eq_infinity_negative_of_le hYY)) hs) hlow
  simp only [not_or] at hneg'
  by_cases hpos' : X' = .infinity .positive ∨ Y' = .infinity .positive
  · -- a positive infinity and no negative one: the sum is positive infinity
    rcases hpos' with rfl | rfl
    · rw [add_infinity_positive_left hnY' hneg'.2, unpack_pack_infinity]
      rfl
    · rw [add_infinity_positive_right hnX' hneg'.1, unpack_pack_infinity]
      rfl
  simp only [not_or] at hpos'
  obtain ⟨hc, hf, -⟩ := add_of_isFinite hcX' hcY' (isFinite_of_ne hnX' hpos'.1 hneg'.1)
    (isFinite_of_ne hnY' hpos'.2 hneg'.2)
  exact isNaN_store_eq_false hc hf

end Infinities

end Binary64

open Binary64

namespace Float

variable {a a' b b' c : Float}

/-- The sum of doubles grows with each side, when neither sum is NaN. -/
theorem add_le_add (ha : a ≤ a') (hb : b ≤ b') (hn : (a + b).isNaN = false)
    (hn' : (a' + b').isNaN = false) : a + b ≤ a' + b' := by
  obtain ⟨hna, hna'⟩ := isNaN_of_le ha
  obtain ⟨hnb, hnb'⟩ := isNaN_of_le hb
  rw [le_iff_toExt hna hna'] at ha
  rw [le_iff_toExt hnb hnb'] at hb
  have hs : (add Format.binary64 a.toModel.unpack b.toModel.unpack).isNaN = false :=
    isNaN_of_store hn
  have hs' : (add Format.binary64 a'.toModel.unpack b'.toModel.unpack).isNaN = false :=
    isNaN_of_store hn'
  rw [le_iff_toExt hn hn', unpack_add, unpack_add]
  exact toExt_store_add_le (canonical_toModel a) (canonical_toModel b) (canonical_toModel a')
    (canonical_toModel b') hna hnb hna' hnb' ha hb hs hs'

/-- A number at least 0 and at most a sum is at most the sum of larger sides. -/
theorem le_add_of_le_add (hc : 0.0 ≤ c) (h : c ≤ a + b) (ha : a ≤ a') (hb : b ≤ b') :
    c ≤ a' + b' := by
  obtain ⟨hna, hna'⟩ := isNaN_of_le ha
  obtain ⟨hnb, hnb'⟩ := isNaN_of_le hb
  obtain ⟨-, hn⟩ := isNaN_of_le h
  have hs : (add Format.binary64 a.toModel.unpack b.toModel.unpack).isNaN = false :=
    isNaN_of_store hn
  -- the sum is at least 0, so it is not negative infinity
  have hlow : add Format.binary64 a.toModel.unpack b.toModel.unpack ≠ .infinity .negative := by
    intro hneg
    have h0 := le_trans hc h
    rw [le_iff_toExt (by decide) hn, unpack_add, hneg, unpack_pack_infinity] at h0
    exact absurd h0 (not_le.mpr (WithBot.bot_lt_coe _))
  have hn' : (a' + b').isNaN = false :=
    isNaN_store_add_eq_false (canonical_toModel a') (canonical_toModel b') hna' hnb'
      ((le_iff_toExt hna hna').mp ha) ((le_iff_toExt hnb hnb').mp hb) hs hlow
  exact le_trans h (add_le_add ha hb hn hn')

/-! ## Whole numbers of any size -/

variable {n : Nat}

/-- From `2 ^ 53` on, a whole number goes through the model's conversion: the number over 53
bits, multiplied by one, rounded and stored. -/
theorem unpack_natCast_of_le (h : 2 ^ 53 ≤ n) :
    n.toFloat.toModel.unpack = unpack Format.binary64 (pack Format.binary64
      (round Format.binary64 .positive (n * 2 ^ 53) (-53))) := by
  have hconv : n.toFloat = Float.ofModel (Float.Model.ofScientific n 0) := by
    show Float.ofScientific n false 0 = _
    unfold Float.ofScientific
    rw [dif_neg (by omega)]
    rfl
  -- rounding starts at the exponent of the mantissa, which lies below the target
  have ht : target (n * 2 ^ 53) ((0 : Int) - (53 : Nat)) = target n 0 :=
    target_mul_pow (by omega) 53
  have hlog : 53 ≤ n.log2 := (Nat.le_log2 (by omega)).mpr h
  have hshift : (-53 - target (n * 2 ^ 53) (-53)).toNat = 0 := by
    rw [show (-53 : Int) = 0 - (53 : Nat) by norm_num, ht]
    unfold target
    omega
  have hexp : (0 : Int) ≤ 2 ^ Format.binary64.exponentBits := by positivity
  have hbits : Format.binary64.mantissaBits = 53 := rfl
  rw [hconv, round_eq, hshift, pow_zero, mul_one, Nat.cast_zero, sub_zero]
  show unpack Format.binary64 (pack Format.binary64
    (UnpackedFloat.ofScientific Format.binary64 n 0)) = _
  unfold UnpackedFloat.ofScientific
  rw [dif_neg (by omega), if_neg (by decide), if_neg (by omega), if_pos le_rfl]
  simp only [mul, Nat.shiftLeft_eq, hbits, Int.toNat_zero, pow_zero, mul_one, add_zero]
  rfl

theorem toExt_natCast_of_le (h : 2 ^ 53 ≤ n) :
    toExt n.toFloat.toModel.unpack =
      saturate (toRat (round Format.binary64 .positive (n * 2 ^ 53) (-53))) := by
  rw [unpack_natCast_of_le h, toExt_store (canonical_round _ (by positivity)) (isFinite_round _ _ _)]

theorem isNaN_natCast_of_le (h : 2 ^ 53 ≤ n) : n.toFloat.isNaN = false := by
  show n.toFloat.toModel.unpack.isNaN = false
  rw [unpack_natCast_of_le h]
  exact isNaN_store_eq_false (canonical_round _ (by positivity)) (isFinite_round _ _ _)

/-- Whole numbers keep their order as doubles, at any size. -/
theorem natCast_le_natCast_of_le {a b : Nat} (hab : a ≤ b) : a.toFloat ≤ b.toFloat := by
  rcases Nat.lt_or_ge b (2 ^ 53) with hb | hb
  · exact natCast_le_natCast hab hb
  have hbn := isNaN_natCast_of_le hb
  have hpos : 0 < b * 2 ^ 53 := by positivity
  rcases Nat.lt_or_ge a (2 ^ 53) with ha | ha
  · -- a smaller number is exact, and rounding the larger never goes below it
    have hbound : (a : ℚ) < overflowBound := by
      unfold overflowBound
      calc (a : ℚ) < 2 ^ 53 := by exact_mod_cast ha
        _ = 2 ^ 53 * 2 ^ (0 : Int) := by norm_num
        _ ≤ 2 ^ 53 * 2 ^ (971 : Int) := by gcongr <;> norm_num
    have hle : (a : ℚ) * 2 ^ (0 : Int) ≤ ((b * 2 ^ 53 : Nat) : ℚ) * 2 ^ (-53 : Int) := by
      rw [show (-53 : Int) = 0 - (53 : Nat) by norm_num, value_mul_pow]
      gcongr
    rw [le_iff_toExt (isNaN_natCast ha) hbn, toExt_natCast ha, toExt_natCast_of_le hb,
      ← saturate_of_lt (by linarith [overflowBound_pos, (Nat.cast_nonneg a : (0 : ℚ) ≤ a)])
        hbound]
    refine saturate_mono ?_
    simpa using le_toRat_round hpos ha (by norm_num) hle
  · rw [le_iff_toExt (isNaN_natCast_of_le ha) hbn, toExt_natCast_of_le ha, toExt_natCast_of_le hb]
    refine saturate_mono (toRat_round_le (by positivity) hpos ?_)
    gcongr

theorem natCast_nonneg (n : Nat) : 0.0 ≤ n.toFloat :=
  (show (0 : Nat).toFloat = 0.0 by decide) ▸ natCast_le_natCast_of_le (Nat.zero_le n)

end Float

end EnergyModel
