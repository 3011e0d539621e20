import EnergyModel.Proofs.Assembly.TimeSlices
import EnergyModel.Proofs.Assembly.Registries
import EnergyModel.Proofs.Binary64.Order

/-!
# Capacity factors

An electric technology whose capacity factor is present gets capacity-factor rows. When some
row of the profile table names its fuel, it gets one row per such profile row, in table order,
with the profile's value scaled by the capacity factor; a scaled value below 0 or above 1 is
written as 0 or as 1, with a warning. Otherwise it gets the capacity factor itself for every
pair of a season and a time of day, in that order.

The two comparisons that decide the clamping are both false for NaN. A NaN product, from a NaN
cell of the profile or from a zero share times an infinite capacity factor, is written as it is,
with no warning (`ClampedWithWarning.of_isNaN`). Every other product is written inside `[0, 1]`
(`ClampedWithWarning.mem_unit`), and is warned about exactly when it was outside
(`ClampedWithWarning.out_ne_nil_iff`).
-/

namespace EnergyModel

open Assembly

/-! ## One value -/

/-- How a value `x` is written as `v`, with the notes `out` written for it: a number in `[0, 1]`
as it is and with no note, a number below or above it as the nearer end with one warning, and
NaN as it is with no note. -/
structure ClampedWithWarning (x v : Float) (out : List Note) : Prop where
  of_mem_unit : 0.0 ≤ x → x ≤ 1.0 → v = x ∧ out = []
  of_lt_zero : x < 0.0 → v = 0.0 ∧ ∃ text, out = [⟨.warn, .technologies, text⟩]
  of_gt_one : 1.0 < x → v = 1.0 ∧ ∃ text, out = [⟨.warn, .technologies, text⟩]
  of_isNaN : x.isNaN = true → v = x ∧ out = []

namespace ClampedWithWarning

variable {x v : Float} {out : List Note}

/-- A number is written inside `[0, 1]`. -/
theorem mem_unit (h : ClampedWithWarning x v out) (hx : x.isNaN = false) :
    0.0 ≤ v ∧ v ≤ 1.0 := by
  by_cases h₀ : x < 0.0
  · rw [(h.of_lt_zero h₀).1]
    decide
  by_cases h₁ : 1.0 < x
  · rw [(h.of_gt_one h₁).1]
    decide
  -- neither comparison holds, so the number lies in `[0, 1]` and is written as it is
  have hlo : 0.0 ≤ x := Float.le_of_not_lt (by decide) hx h₀
  have hhi : x ≤ 1.0 := Float.le_of_not_lt hx (by decide) h₁
  rw [(h.of_mem_unit hlo hhi).1]
  exact ⟨hlo, hhi⟩

/-- A number is warned about exactly when it lies outside `[0, 1]`. -/
theorem out_ne_nil_iff (h : ClampedWithWarning x v out) (hx : x.isNaN = false) :
    out ≠ [] ↔ ¬ (0.0 ≤ x ∧ x ≤ 1.0) := by
  constructor
  · rintro hout ⟨hlo, hhi⟩
    exact hout (h.of_mem_unit hlo hhi).2
  · intro hout
    by_cases h₀ : x < 0.0
    · obtain ⟨-, text, rfl⟩ := h.of_lt_zero h₀
      simp
    by_cases h₁ : 1.0 < x
    · obtain ⟨-, text, rfl⟩ := h.of_gt_one h₁
      simp
    exact absurd ⟨Float.le_of_not_lt (by decide) hx h₀, Float.le_of_not_lt hx (by decide) h₁⟩ hout

end ClampedWithWarning

/-- A value above 1 is not below 0. -/
theorem not_lt_zero_of_gt_one {x : Float} (h : 1.0 < x) : ¬ x < 0.0 := fun h₀ =>
  absurd (Float.le_trans (Float.le_of_lt h) (Float.le_of_lt h₀)) (by decide)

theorem clampUnit_clamped (x : Float) (tech day timeOfDay : String) :
    ClampedWithWarning x (clampUnit x) (clampNotes x tech day timeOfDay) where
  of_mem_unit h₀ h₁ := by
    have hlt : ¬ x < 0.0 := Float.not_lt_of_le h₀
    have hgt : ¬ 1.0 < x := Float.not_lt_of_le h₁
    simp [clampUnit, clampNotes, hlt, GT.gt, hgt]
  of_lt_zero h := by simp [clampUnit, clampNotes, h]
  of_gt_one h := by simp [clampUnit, clampNotes, not_lt_zero_of_gt_one h, GT.gt, h]
  of_isNaN h := by
    -- a comparison that holds has no NaN on either side
    have hlt : ¬ x < 0.0 := fun h₀ => Bool.false_ne_true ((Float.isNaN_of_lt h₀).1.symm.trans h)
    have hgt : ¬ 1.0 < x := fun h₁ => Bool.false_ne_true ((Float.isNaN_of_lt h₁).2.symm.trans h)
    simp [clampUnit, clampNotes, hlt, GT.gt, hgt]

/-- A zero share of an infinite capacity factor is NaN: written as it is, with no warning. -/
example : (clampUnit (0.0 * (1.0 / 0.0))).isNaN = true ∧
    clampNotes (0.0 * (1.0 / 0.0)) "SOLAR_PP" "summer" "day" = [] := by
  decide

/-! ## The rows of a technology -/

/-- The membership test that chooses the profile agrees with the filter that reads it. -/
theorem Input.SystemTables.hasCapacityFactorProfile_iff {s : Input.SystemTables} {fuel : String} :
    s.hasCapacityFactorProfile fuel = true ↔ ∃ p ∈ s.capacityFactors, p.fuel = fuel := by
  simp [Input.SystemTables.hasCapacityFactorProfile]

/-- Each row of a profile gives one row, with its value clamped. -/
theorem forall₂_profileRows (t : Technology) (factor : Float) (profile : List Input.CapacityFactorProfile) :
    List.Forall₂ (fun p row => ∃ v,
        row = [.text p.day, .text p.timeOfDay, techCell t, .real v, .text noteText] ∧
        ClampedWithWarning (p.factor * factor) v
          (clampNotes (p.factor * factor) t.name p.day p.timeOfDay))
      profile (profile.map fun p =>
        [.text p.day, .text p.timeOfDay, techCell t, .real (clampUnit (p.factor * factor)),
          .text noteText]) := by
  rw [List.forall₂_map_right_iff, List.forall₂_same]
  intro p _
  exact ⟨_, rfl, clampUnit_clamped _ _ _ _⟩

theorem Builder.capacityFactorTech_withTechnology {b : Builder} (h : b.relations.Catalogued)
    (t : Technology) :
    ((b.withTechnology t).relations.rows .capacityFactorTech).toList =
      (b.relations.rows .capacityFactorTech).toList ++
        (Input.present t.capacityFactor).toList.flatMap fun factor =>
          if t.sector != .electric then [] else capacityFactorRows b.inputs.system t factor := by
  rw [Builder.rows_withTechnology h (by decide), rowsIn_techPushes_capacityFactorTech]
  rfl

/-- Adding a technology to a builder: a technology that is not electric, or whose capacity
factor is absent, gets no capacity-factor row. An electric one whose fuel has a profile gets one
row per row of the profile, in table order, each written as `ClampedWithWarning` says, and the
warnings of the profile's rows are the first notes written. One whose fuel has none gets its
capacity factor for every season and time of day. -/
theorem addTechnology_capacity_factor_rows {b : Builder} (h : b.relations.Catalogued)
    (t : Technology) :
    let system := b.inputs.system
    let profile := system.capacityFactors.filter (·.fuel == t.input)
    ∃ b' out, LogsFirst (addTechnology t) b () b' out ∧ ∃ added,
      (b'.relations.rows .capacityFactorTech).toList =
        (b.relations.rows .capacityFactorTech).toList ++ added ∧
      (t.sector ≠ .electric ∨ Input.present t.capacityFactor = none → added = []) ∧
      ∀ cf, Input.present t.capacityFactor = some cf → t.sector = .electric →
        ((∃ p ∈ system.capacityFactors, p.fuel = t.input) →
          List.Forall₂ (fun p row => ∃ v,
              row = [.text p.day, .text p.timeOfDay, techCell t, .real v, .text noteText] ∧
              ClampedWithWarning (p.factor * cf) v
                (clampNotes (p.factor * cf) t.name p.day p.timeOfDay))
            profile added ∧
          out = profile.flatMap fun p => clampNotes (p.factor * cf) t.name p.day p.timeOfDay) ∧
        ((¬ ∃ p ∈ system.capacityFactors, p.fuel = t.input) →
          added = system.days.flatMap fun d => system.timesOfDay.map fun tod =>
            [.text d.name, .text tod.name, techCell t, .real cf, .text noteText]) := by
  intro system profile
  refine ⟨_, _, LogsFirst.addTechnology t b, _, Builder.capacityFactorTech_withTechnology h t,
    ?_, fun cf hcf hs => ?_⟩
  · rintro (hs | hcf)
    · -- only an electric technology has capacity factors
      have hne : (t.sector != .electric) = true := by
        cases hsector : t.sector with
        | electric => exact absurd hsector hs
        | supply => rfl
        | transport => rfl
      simp [hne]
    · simp [hcf]
  have hne : (t.sector != .electric) = false := by rw [hs]; rfl
  simp only [hcf, hne, capacityNotes, capacityFactorNotes, capacityFactorRows,
    Option.toList_some, List.flatMap_singleton, Bool.false_eq_true, if_false]
  constructor
  · intro hp
    rw [if_pos (Input.SystemTables.hasCapacityFactorProfile_iff.mpr hp),
      if_pos (Input.SystemTables.hasCapacityFactorProfile_iff.mpr hp)]
    exact ⟨forall₂_profileRows t cf profile, rfl⟩
  · intro hp
    rw [if_neg (mt Input.SystemTables.hasCapacityFactorProfile_iff.mp hp)]

/-- A solar plant with a capacity factor of a quarter. -/
def solarPlant : Technology :=
  { name := "SOLAR_PP", input := "SOLAR", output := "ELC", sector := .electric,
    capacityFactor := some 0.25 }

theorem sampleStart_capacity_factor_rows :
    let system := sampleStart.inputs.system
    let profile := system.capacityFactors.filter (·.fuel == solarPlant.input)
    sampleStart.relations.Catalogued ∧
    ∃ b' out, LogsFirst (addTechnology solarPlant) sampleStart () b' out ∧ ∃ added,
      (b'.relations.rows .capacityFactorTech).toList =
        (sampleStart.relations.rows .capacityFactorTech).toList ++ added ∧
      (solarPlant.sector ≠ .electric ∨ Input.present solarPlant.capacityFactor = none →
        added = []) ∧
      ∀ cf, Input.present solarPlant.capacityFactor = some cf → solarPlant.sector = .electric →
        ((∃ p ∈ system.capacityFactors, p.fuel = solarPlant.input) →
          List.Forall₂ (fun p row => ∃ v,
              row = [.text p.day, .text p.timeOfDay, techCell solarPlant, .real v,
                .text noteText] ∧
              ClampedWithWarning (p.factor * cf) v
                (clampNotes (p.factor * cf) solarPlant.name p.day p.timeOfDay))
            profile added ∧
          out = profile.flatMap fun p =>
            clampNotes (p.factor * cf) solarPlant.name p.day p.timeOfDay) ∧
        ((¬ ∃ p ∈ system.capacityFactors, p.fuel = solarPlant.input) →
          added = system.days.flatMap fun d => system.timesOfDay.map fun tod =>
            [.text d.name, .text tod.name, techCell solarPlant, .real cf, .text noteText]) :=
  ⟨RelationSet.catalogued_empty,
    addTechnology_capacity_factor_rows RelationSet.catalogued_empty solarPlant⟩

end EnergyModel
