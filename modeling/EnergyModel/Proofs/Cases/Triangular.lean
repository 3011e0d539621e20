import Mathlib
import EnergyModel.Proofs.Cases.Targets

/-!
# Triangular draws invert the distribution function

Monte Carlo cases draw every value from the triangular distribution over [low, high] peaking at
`mode` with `sampleTriangular`: a uniform draw `u` in [0, 1) goes through the inverse of the
distribution function, and an empty or reversed range gives the mode without drawing.

The sampler's steps are written once for any arithmetic with a square root, so they can be read
in exact arithmetic (`exactTriangular`, the same steps on reals). Read so, for a range with
`low < high` and the mode in it, a draw lies in the range and the distribution function
`triangularCdf` takes it back to `u` (`exactTriangular_spec`). A uniform draw below the
mode's share `(mode - low) / (high - low)` of [0, 1) lands on the rising piece, any other on
the falling one, and the two pieces meet at the mode, so the draw grows with `u`
(`exactTriangular_monotoneOn`). A mode at the low end leaves the rising piece empty, and a mode
at the high end the falling one.

A Monte Carlo draw is the sampler over [-m, m] peaking at zero, fed the generator's uniform
draw, a multiple of 2^-52 below 1 (`monteCarloCases_draws_sampled`); in exact arithmetic such a
draw stays in [-m, m] for every multiplier m ≥ 0 (`exactTriangular_symmetric_mem`,
`monteCarloCases_draws_within`).
-/

namespace EnergyModel

open EnergyModel.Random

/-! ## The sampler fed a given uniform draw -/

/-- The sampler fed a fixed uniform draw gives the mode for an empty or reversed range, and the
inverse of the distribution function at that draw otherwise. -/
theorem sampleTriangular_pure {α : Type} [Add α] [Sub α] [Mul α] [Div α] [OfNat α 0]
    [OfNat α 1] [LE α] [LT α] [DecidableLE α] [DecidableLT α] (sqrt : α → α)
    (u low mode high : α) :
    Id.run (sampleTriangular sqrt (pure u) low mode high) =
      if high - low ≤ 0 then mode else triangularInverse sqrt low mode high u := by
  unfold sampleTriangular
  split <;> rfl

/-- A generator's triangular draw is the sampler fed the generator's next uniform draw. -/
theorem Random.Generator.triangular_fst (g : Generator) (low mode high : Float) :
    (g.triangular low mode high).1 =
      Id.run (sampleTriangular Float.sqrt (pure g.uniform.1) low mode high) := by
  rw [sampleTriangular_pure]
  unfold Generator.triangular sampleTriangular
  split <;> rfl

/-- A uniform draw is a 52-bit number over 2^52. -/
theorem Random.Generator.uniform_fst (g : Generator) :
    ∃ k : UInt64, k.toNat < 4503599627370496 ∧
      g.uniform.1 = k.toFloat / 4503599627370496.0 := by
  refine ⟨g.nextU64.1 >>> 12, ?_, rfl⟩
  have hword := g.nextU64.1.toNat_lt
  rw [UInt64.toNat_shiftRight, Nat.shiftRight_eq_div_pow]
  simp only [UInt64.reduceToNat, Nat.reduceMod, Nat.reducePow] at hword ⊢
  omega

/-! ## Monte Carlo draws -/

section Draws

variable {α β : Type}

/-- Items that each have a property, whatever element they stand for, all have it. -/
theorem forall_mem_of_forall₂ {P : α → Prop} {l : List β} {l' : List α}
    (h : List.Forall₂ (fun _ a => P a) l l') : ∀ a ∈ l', P a := by
  induction h with
  | nil => simp
  | cons ha _ ih =>
    simp only [List.mem_cons, forall_eq_or_imp]
    exact ⟨ha, ih⟩

/-- A fold from no items whose every step appends one item with a property gives items that
all have it. -/
theorem forall_mem_foldl_appends {γ : Type} (step : List α × γ → β → List α × γ) (P : α → Prop)
    (hstep : ∀ acc g b, ∃ a g', step (acc, g) b = (acc ++ [a], g') ∧ P a) (l : List β) (g : γ) :
    ∀ a ∈ (l.foldl step ([], g)).1, P a := by
  obtain ⟨new, hnew, hall⟩ := foldl_appends step (fun _ a => P a) hstep l [] g
  rw [hnew, List.nil_append]
  exact forall_mem_of_forall₂ hall

end Draws

/-- Every Monte Carlo draw is a triangular draw over [-m, m] peaking at zero, from the state the
generator has reached. -/
theorem monteCarloCases_draws (s : Scenario) (sel : VariableSelection) (m : Float) (n : Nat)
    (seed : UInt64) :
    ∀ r ∈ monteCarloCases s sel m n seed, ∀ d ∈ r.draws,
      ∃ g : Generator, d = (g.triangular (-m) 0.0 m).1 := by
  -- each target appends a row whose draws are appended one per case, each by the generator
  -- as the previous draw left it
  unfold monteCarloCases monteCarloDraws
  refine forall_mem_foldl_appends _ _ (fun rows g t => ⟨_, _, rfl, ?_⟩) _ _
  refine forall_mem_foldl_appends _ (fun d => ∃ g : Generator, d = (g.triangular (-m) 0.0 m).1)
    ?_ _ _
  exact fun ds g _ => ⟨_, _, rfl, g, rfl⟩

/-- Every Monte Carlo draw is the sampler over [-m, m] peaking at zero, fed a uniform draw that
is a multiple of 2^-52 below 1. -/
theorem monteCarloCases_draws_sampled (s : Scenario) (sel : VariableSelection) (m : Float)
    (n : Nat) (seed : UInt64) :
    ∀ r ∈ monteCarloCases s sel m n seed, ∀ d ∈ r.draws,
      ∃ k : UInt64, k.toNat < 4503599627370496 ∧
        d = Id.run (sampleTriangular Float.sqrt (pure (k.toFloat / 4503599627370496.0)) (-m) 0.0 m) := by
  intro r hr d hd
  obtain ⟨g, rfl⟩ := monteCarloCases_draws s sel m n seed r hr d hd
  obtain ⟨k, hk, hu⟩ := g.uniform_fst
  exact ⟨k, hk, by rw [g.triangular_fst, hu]⟩

/-! ## Exact arithmetic -/

/-- A triangular draw read in exact arithmetic: the sampler's steps on reals, fed `u` as its
uniform draw. -/
noncomputable def exactTriangular (low mode high u : ℝ) : ℝ :=
  Id.run (sampleTriangular Real.sqrt (pure u) low mode high)

/-- The distribution function of the triangular distribution over [low, high] with its peak at
`mode`, on [low, high]: the rising piece up to the mode, unless the mode is the low end, and the
falling piece elsewhere, so that each piece is used only where its denominator is not zero. -/
noncomputable def triangularCdf (low mode high x : ℝ) : ℝ :=
  if x ≤ mode ∧ low < mode then (x - low) ^ 2 / ((high - low) * (mode - low))
  else 1 - (high - x) ^ 2 / ((high - low) * (high - mode))

section Exact

variable {low mode high u : ℝ}

theorem exactTriangular_of_le (h : high ≤ low) : exactTriangular low mode high u = mode := by
  rw [exactTriangular, sampleTriangular_pure, if_pos (sub_nonpos.mpr h)]

theorem exactTriangular_of_lt (h : low < high) :
    exactTriangular low mode high u = triangularInverse Real.sqrt low mode high u := by
  rw [exactTriangular, sampleTriangular_pure, if_neg (not_le.mpr (sub_pos.mpr h))]

theorem triangularInverse_rising (hu : u < (mode - low) / (high - low)) :
    triangularInverse Real.sqrt low mode high u = low + √(u * (high - low) * (mode - low)) :=
  if_pos hu

theorem triangularInverse_falling (hu : ¬ u < (mode - low) / (high - low)) :
    triangularInverse Real.sqrt low mode high u =
      high - √((1 - u) * (high - low) * (high - mode)) :=
  if_neg hu

/-- At or above the mode, the distribution function is its falling piece: the two pieces meet
at the mode. -/
theorem triangularCdf_of_mode_le {x : ℝ} (hx : mode ≤ x) (hw : 0 < high - low)
    (hm : 0 < high - mode) :
    triangularCdf low mode high x = 1 - (high - x) ^ 2 / ((high - low) * (high - mode)) := by
  unfold triangularCdf
  split_ifs with h
  · obtain ⟨hle, hlm⟩ := h
    have hxm : x = mode := le_antisymm hle hx
    have hml : 0 < mode - low := sub_pos.mpr hlm
    subst hxm
    field_simp
    ring
  · rfl

/-- Below the mode's share of [0, 1), the draw is on the rising piece: in [low, mode), where
the distribution function takes it back to `u`. -/
theorem triangularInverse_rising_spec (hw : 0 < high - low) (hu0 : 0 ≤ u)
    (hu : u < (mode - low) / (high - low)) :
    low ≤ triangularInverse Real.sqrt low mode high u ∧
      triangularInverse Real.sqrt low mode high u < mode ∧
      triangularCdf low mode high (triangularInverse Real.sqrt low mode high u) = u := by
  have hsplit : u * (high - low) < mode - low := (lt_div_iff₀ hw).mp hu
  have hml : 0 < mode - low := lt_of_le_of_lt (mul_nonneg hu0 hw.le) hsplit
  have harea : 0 ≤ u * (high - low) * (mode - low) := by positivity
  have hroot : √(u * (high - low) * (mode - low)) < mode - low :=
    (Real.sqrt_lt' hml).mpr (by rw [sq]; exact mul_lt_mul_of_pos_right hsplit hml)
  rw [triangularInverse_rising hu]
  refine ⟨le_add_of_nonneg_right (Real.sqrt_nonneg _), by linarith, ?_⟩
  rw [triangularCdf, if_pos ⟨by linarith, by linarith⟩, add_sub_cancel_left, Real.sq_sqrt harea]
  field_simp

/-- From the mode's share of [0, 1) on, the draw is on the falling piece: in [mode, high], where
the distribution function takes it back to `u`. -/
theorem triangularInverse_falling_spec (hw : 0 < high - low) (hu1 : u < 1)
    (hu : ¬ u < (mode - low) / (high - low)) :
    mode ≤ triangularInverse Real.sqrt low mode high u ∧
      triangularInverse Real.sqrt low mode high u ≤ high ∧
      triangularCdf low mode high (triangularInverse Real.sqrt low mode high u) = u := by
  have hsplit : mode - low ≤ u * (high - low) := (div_le_iff₀ hw).mp (not_lt.mp hu)
  -- a draw below 1 leaves room above the mode
  have hbelow : u * (high - low) < high - low := mul_lt_of_lt_one_left hw hu1
  have hhm : 0 < high - mode := by linarith
  have hrest : (1 - u) * (high - low) ≤ high - mode := by linarith
  have harea : 0 ≤ (1 - u) * (high - low) * (high - mode) :=
    mul_nonneg (mul_nonneg (by linarith) hw.le) hhm.le
  have hroot : √((1 - u) * (high - low) * (high - mode)) ≤ high - mode :=
    (Real.sqrt_le_left hhm.le).mpr (by rw [sq]; exact mul_le_mul_of_nonneg_right hrest hhm.le)
  rw [triangularInverse_falling hu]
  refine ⟨by linarith, by linarith [Real.sqrt_nonneg ((1 - u) * (high - low) * (high - mode))], ?_⟩
  rw [triangularCdf_of_mode_le (by linarith) hw hhm, sub_sub_cancel, Real.sq_sqrt harea]
  field_simp
  ring

/-- In exact arithmetic a draw lies in the range, and the distribution function takes it back
to the uniform draw. -/
theorem exactTriangular_spec (hlh : low < high) (hlm : low ≤ mode) (hmh : mode ≤ high)
    (hu0 : 0 ≤ u) (hu1 : u < 1) :
    low ≤ exactTriangular low mode high u ∧ exactTriangular low mode high u ≤ high ∧
      triangularCdf low mode high (exactTriangular low mode high u) = u := by
  have hw : 0 < high - low := sub_pos.mpr hlh
  rw [exactTriangular_of_lt hlh]
  by_cases hu : u < (mode - low) / (high - low)
  · obtain ⟨hlow, hmode, hcdf⟩ := triangularInverse_rising_spec hw hu0 hu
    exact ⟨hlow, hmode.le.trans hmh, hcdf⟩
  · obtain ⟨hmode, hhigh, hcdf⟩ := triangularInverse_falling_spec hw hu1 hu
    exact ⟨hlm.trans hmode, hhigh, hcdf⟩

/-- In exact arithmetic a draw grows with the uniform draw: along each piece through the square
root, and from one piece to the other through the mode. -/
theorem exactTriangular_monotoneOn (hlh : low < high) (hlm : low ≤ mode) (hmh : mode ≤ high) :
    MonotoneOn (exactTriangular low mode high) (Set.Ico 0 1) := by
  intro u hu v hv huv
  have hw : 0 < high - low := sub_pos.mpr hlh
  have hml : 0 ≤ mode - low := sub_nonneg.mpr hlm
  have hhm : 0 ≤ high - mode := sub_nonneg.mpr hmh
  rw [exactTriangular_of_lt hlh, exactTriangular_of_lt hlh]
  by_cases hv' : v < (mode - low) / (high - low)
  · have hu' : u < (mode - low) / (high - low) := lt_of_le_of_lt huv hv'
    rw [triangularInverse_rising hu', triangularInverse_rising hv']
    gcongr
  · by_cases hu' : u < (mode - low) / (high - low)
    · exact (triangularInverse_rising_spec hw hu.1 hu').2.1.le.trans
        (triangularInverse_falling_spec hw hv.2 hv').1
    · rw [triangularInverse_falling hu', triangularInverse_falling hv']
      gcongr

/-- In exact arithmetic a draw over [-m, m] peaking at zero stays in [-m, m]: for m = 0 the
range is empty and the draw is the mode. -/
theorem exactTriangular_symmetric_mem {m : ℝ} (hm : 0 ≤ m) (hu0 : 0 ≤ u) (hu1 : u < 1) :
    -m ≤ exactTriangular (-m) 0 m u ∧ exactTriangular (-m) 0 m u ≤ m := by
  rcases hm.eq_or_lt with rfl | hpos
  · rw [exactTriangular_of_le (by simp)]
    simp
  · obtain ⟨hlow, hhigh, -⟩ :=
      exactTriangular_spec (show -m < m by linarith) (show -m ≤ 0 by linarith) hpos.le hu0 hu1
    exact ⟨hlow, hhigh⟩

end Exact

/-- Every Monte Carlo draw is the sampler over [-m, m] peaking at zero at a uniform draw `k / 2^52`
below 1, and read in exact arithmetic, with the multiplier any real m' ≥ 0, it lies in
[-m', m']. -/
theorem monteCarloCases_draws_within (s : Scenario) (sel : VariableSelection) (m : Float)
    (n : Nat) (seed : UInt64) :
    ∀ r ∈ monteCarloCases s sel m n seed, ∀ d ∈ r.draws,
      ∃ k : UInt64, k.toNat < 4503599627370496 ∧
        d = Id.run (sampleTriangular Float.sqrt (pure (k.toFloat / 4503599627370496.0)) (-m) 0.0 m) ∧
        ∀ m' : ℝ, 0 ≤ m' →
          -m' ≤ exactTriangular (-m') 0 m' (k.toNat / 4503599627370496) ∧
            exactTriangular (-m') 0 m' (k.toNat / 4503599627370496) ≤ m' := by
  intro r hr d hd
  obtain ⟨k, hk, hdraw⟩ := monteCarloCases_draws_sampled s sel m n seed r hr d hd
  refine ⟨k, hk, hdraw, fun m' hm' => exactTriangular_symmetric_mem hm' (by positivity) ?_⟩
  rw [div_lt_one (by norm_num)]
  exact_mod_cast hk

/-- Triangular sampling inverts the distribution function. Read in exact arithmetic, for a
range `low < high` holding the mode and every uniform draw `u` in [0, 1), the draw lies in the
range and the distribution function takes it back to `u`, and it grows with `u`; a range with
`high ≤ low` gives the mode. Every Monte Carlo draw is the sampler over [-m, m] peaking at zero,
fed a uniform draw in [0, 1), and in exact arithmetic such a draw lies in [-m, m] for m ≥ 0. -/
theorem sampleTriangular_inverts_cdf :
    (∀ low mode high u : ℝ, low < high → low ≤ mode → mode ≤ high → 0 ≤ u → u < 1 →
      low ≤ exactTriangular low mode high u ∧ exactTriangular low mode high u ≤ high ∧
        triangularCdf low mode high (exactTriangular low mode high u) = u) ∧
    (∀ low mode high : ℝ, low < high → low ≤ mode → mode ≤ high →
      MonotoneOn (exactTriangular low mode high) (Set.Ico 0 1)) ∧
    (∀ low mode high u : ℝ, high ≤ low → exactTriangular low mode high u = mode) ∧
    (∀ m u : ℝ, 0 ≤ m → 0 ≤ u → u < 1 →
      -m ≤ exactTriangular (-m) 0 m u ∧ exactTriangular (-m) 0 m u ≤ m) ∧
    ∀ s sel (m : Float) n seed, ∀ r ∈ monteCarloCases s sel m n seed, ∀ d ∈ r.draws,
      ∃ k : UInt64, k.toNat < 4503599627370496 ∧
        d = Id.run (sampleTriangular Float.sqrt (pure (k.toFloat / 4503599627370496.0)) (-m) 0.0 m) ∧
        ∀ m' : ℝ, 0 ≤ m' →
          -m' ≤ exactTriangular (-m') 0 m' (k.toNat / 4503599627370496) ∧
            exactTriangular (-m') 0 m' (k.toNat / 4503599627370496) ≤ m' :=
  ⟨fun _ _ _ _ hlh hlm hmh hu0 hu1 => exactTriangular_spec hlh hlm hmh hu0 hu1,
    fun _ _ _ hlh hlm hmh => exactTriangular_monotoneOn hlh hlm hmh,
    fun _ _ _ _ h => exactTriangular_of_le h,
    fun _ _ hm hu0 hu1 => exactTriangular_symmetric_mem hm hu0 hu1,
    monteCarloCases_draws_within⟩

/-- The draw at `u = 1/8` over [-5, 5] peaking at zero, the range of the sampler's own test. -/
theorem sampleTriangular_inverts_cdf_eighth :
    (-5 : ℝ) < 5 ∧ (-5 : ℝ) ≤ 0 ∧ (0 : ℝ) ≤ 5 ∧ (0 : ℝ) ≤ 1 / 8 ∧ (1 / 8 : ℝ) < 1 ∧
      -5 ≤ exactTriangular (-5) 0 5 (1 / 8) ∧ exactTriangular (-5) 0 5 (1 / 8) ≤ 5 ∧
        triangularCdf (-5) 0 5 (exactTriangular (-5) 0 5 (1 / 8)) = 1 / 8 := by
  have hrange : (-5 : ℝ) < 5 ∧ (-5 : ℝ) ≤ 0 ∧ (0 : ℝ) ≤ 5 ∧ (0 : ℝ) ≤ 1 / 8 ∧ (1 / 8 : ℝ) < 1 := by
    norm_num
  obtain ⟨hlh, hlm, hmh, hu0, hu1⟩ := hrange
  exact ⟨hlh, hlm, hmh, hu0, hu1,
    sampleTriangular_inverts_cdf.1 (-5) 0 5 (1 / 8) hlh hlm hmh hu0 hu1⟩

end EnergyModel
