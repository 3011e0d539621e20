import EnergyModel.Proofs.Perturbation.Cell
import EnergyModel.Proofs.Quantity

/-!
# Efficiency and heat rate

A plant's efficiency, in percent, and its heat rate, in BTU/kWh, describe one thing: at full
efficiency the heat rate is `heatRateAtFullEfficiency`, and the two are inversely proportional.
A directive on either recomputes the other when both are present and the new value is positive
(`Performance.couple`). A new efficiency is kept at most 100 by `clampValue`, and the heat rate
recomputed from it is at least `heatRateAtFullEfficiency`, by the bound in
`heatRateOfEfficiency`. A new heat rate gives an efficiency of at most 100, by the bound in
`efficiencyOfHeatRate`; but `clampValue` has no case for a heat rate, so nothing keeps the heat
rate itself at or above `heatRateAtFullEfficiency`. Below it the efficiency is 100 and the pair
no longer describes one plant.

`applyDirective_couples_efficiency_heatRate` states what holds after either directive.
-/

namespace EnergyModel

open Input Perturbing

theorem clampValue_efficiency_le {x : Float} {tech : String}
    (h : 0.0 < (clampValue "Efficiency" x tech).1) :
    (clampValue "Efficiency" x tech).1 ≤ 100.0 := by
  unfold clampValue at h ⊢
  by_cases hx : x > 100.0
  · rw [if_pos (by simp [hx])]
    show (100.0 : Float) ≤ 100.0
    decide
  · simp [hx] at h ⊢
    -- a positive value is a number, so it is at most 100 once it is not above
    exact Float.le_of_not_lt (Float.isNaN_of_lt h).2 (by decide) hx

theorem clampValue_heatRate (x : Float) (tech : String) : (clampValue "HeatRate" x tech).1 = x := by
  unfold clampValue
  simp

theorem Magnitude.changed_eq_some {m : Magnitude} {quantity tech : String}
    {current : Option Float} {v : Float} (h : m.changed quantity tech current = some v) :
    ∃ now, present current = some now ∧ v = (clampValue quantity (m.apply now) tech).1 := by
  unfold Magnitude.changed at h
  obtain ⟨now, hnow, rfl⟩ := Option.map_eq_some_iff.mp h
  exact ⟨now, hnow, rfl⟩

theorem Magnitude.efficiency_le {m : Magnitude} {tech : String} {current : Option Float}
    {v : Float} (h : m.changed "Efficiency" tech current = some v) (hpos : 0.0 < v) :
    v ≤ 100.0 := by
  obtain ⟨now, -, rfl⟩ := Magnitude.changed_eq_some h
  exact clampValue_efficiency_le hpos

theorem heatRateAtFullEfficiency_le (e : Float) :
    heatRateAtFullEfficiency ≤ heatRateOfEfficiency e :=
  Float.le_maxNum_right (by decide)

theorem efficiencyOfHeatRate_le (h : Float) : efficiencyOfHeatRate h ≤ 100.0 :=
  Float.minNum_le_right (by decide)

namespace Directive

variable {d : Directive} {inputs : InputTables} {r : Performance} {v : Float}

/-- A directive on the performance table leaves the plant's row with the changed value written
and passed to `Performance.couple`. -/
theorem performance_get?_inputsAfter {col : NumericColumn Performance}
    (hf : d.family = .powerPlants) (ht : PlantTable.ofQuantity d.quantity = some .performance)
    (hr : inputs.plants.performance.get? d.tech = some r)
    (hcol : NumericColumn.find? Performance.columns d.quantity = some col)
    (hv : d.magnitude.changed d.quantity d.tech (col.get r) = some v) :
    (d.inputsAfter inputs).plants.performance.get? d.tech =
      some (Performance.couple d.quantity v (col.set r (some v))) := by
  simp only [inputsAfter, hf, plantsAfter, ht]
  rw [tableAfter_of_get? hr hcol, hv, Option.map_some, Option.getD_some, Catalog.get?_set_self,
    hr]
  rfl

/-- A plant with a performance row breaks no rule of a directive on that table. -/
theorem problem_of_performance (hf : d.family = .powerPlants)
    (ht : PlantTable.ofQuantity d.quantity = some .performance)
    (hr : inputs.plants.performance.get? d.tech = some r) : d.problem inputs = none := by
  rw [problem_eq_none_iff]
  simp [Misses, hf, ht, PlantTables.hasRow, Catalog.contains_eq_isSome_get?, hr]

/-- A new efficiency, when positive, recomputes a present heat rate. -/
theorem efficiency_row_inputsAfter (hf : d.family = .powerPlants)
    (hq : d.quantity = "Efficiency") (hr : inputs.plants.performance.get? d.tech = some r)
    (hheat : (present r.heatRate).isSome)
    (hv : d.magnitude.changed d.quantity d.tech r.efficiency = some v) :
    (d.inputsAfter inputs).plants.performance.get? d.tech =
      some (if 0.0 < v then
          { r with efficiency := some v, heatRate := some (heatRateOfEfficiency v) }
        else { r with efficiency := some v }) := by
  have ht : PlantTable.ofQuantity d.quantity = some .performance := by rw [hq]; rfl
  have hcol : NumericColumn.find? Performance.columns d.quantity =
      some Performance.columns[0] := by rw [hq]; rfl
  rw [performance_get?_inputsAfter hf ht hr hcol hv, hq]
  by_cases hpos : 0.0 < v <;> simp [Performance.couple, Performance.columns, hheat, hpos]

/-- A new heat rate, when positive, recomputes a present efficiency. -/
theorem heatRate_row_inputsAfter (hf : d.family = .powerPlants)
    (hq : d.quantity = "HeatRate") (hr : inputs.plants.performance.get? d.tech = some r)
    (heff : (present r.efficiency).isSome)
    (hv : d.magnitude.changed d.quantity d.tech r.heatRate = some v) :
    (d.inputsAfter inputs).plants.performance.get? d.tech =
      some (if 0.0 < v then
          { r with heatRate := some v, efficiency := some (efficiencyOfHeatRate v) }
        else { r with heatRate := some v }) := by
  have ht : PlantTable.ofQuantity d.quantity = some .performance := by rw [hq]; rfl
  have hcol : NumericColumn.find? Performance.columns d.quantity =
      some Performance.columns[1] := by rw [hq]; rfl
  rw [performance_get?_inputsAfter hf ht hr hcol hv, hq]
  by_cases hpos : 0.0 < v <;> simp [Performance.couple, Performance.columns, heff, hpos]

end Directive

/-- A directive on the efficiency or the heat rate of a plant whose performance row has both
succeeds, and leaves the two coupled when its new value is positive: a new efficiency is at most
100 and the heat rate is the one computed from it, at least `heatRateAtFullEfficiency`; a new
heat rate gives the efficiency computed from it, at most 100. -/
theorem applyDirective_couples_efficiency_heatRate {d : Directive} {st : Perturbed}
    {r : Performance} (hf : d.family = .powerPlants)
    (hq : d.quantity = "Efficiency" ∨ d.quantity = "HeatRate")
    (hr : st.inputs.plants.performance.get? d.tech = some r)
    (heff : (present r.efficiency).isSome) (hheat : (present r.heatRate).isSome) :
    let run := (applyDirective d).run.run st
    run.1 = .ok () ∧ ∃ r' e h, run.2.inputs.plants.performance.get? d.tech = some r' ∧
      r'.efficiency = some e ∧ r'.heatRate = some h ∧
      (d.quantity = "Efficiency" → 0.0 < e →
        e ≤ 100.0 ∧ heatRateAtFullEfficiency ≤ h ∧ h = heatRateOfEfficiency e) ∧
      (d.quantity = "HeatRate" → 0.0 < h → e ≤ 100.0 ∧ e = efficiencyOfHeatRate h) := by
  intro run
  obtain ⟨ns, hrun⟩ := applyDirective_ends d st
  have ht : PlantTable.ofQuantity d.quantity = some .performance := by
    rcases hq with hq | hq <;> rw [hq] <;> rfl
  have hresult : run.1 = .ok () := by
    simp only [run, hrun, Directive.problem_of_performance hf ht hr]
    rfl
  have hinputs : run.2.inputs = d.inputsAfter st.inputs := by simp only [run, hrun]
  refine ⟨hresult, ?_⟩
  rw [hinputs]
  obtain ⟨e₀, he₀⟩ := Option.isSome_iff_exists.mp (isSome_of_present heff)
  obtain ⟨h₀, hh₀⟩ := Option.isSome_iff_exists.mp (isSome_of_present hheat)
  rcases hq with hq | hq
  · -- the efficiency changes, and a positive one recomputes the heat rate
    obtain ⟨v, hv⟩ := Option.isSome_iff_exists.mp
      ((Magnitude.isSome_changed d.magnitude d.quantity d.tech r.efficiency).trans heff)
    have hrow := Directive.efficiency_row_inputsAfter hf hq hr hheat hv
    have hother : d.quantity ≠ "HeatRate" := by rw [hq]; decide
    by_cases hpos : 0.0 < v
    · rw [if_pos hpos] at hrow
      have hle : v ≤ 100.0 := by
        rw [hq] at hv
        exact Magnitude.efficiency_le hv hpos
      exact ⟨_, v, heatRateOfEfficiency v, hrow, rfl, rfl,
        fun _ _ => ⟨hle, heatRateAtFullEfficiency_le v, rfl⟩, fun h => absurd h hother⟩
    · rw [if_neg hpos] at hrow
      exact ⟨_, v, h₀, hrow, rfl, hh₀, fun _ h => absurd h hpos, fun h => absurd h hother⟩
  · -- the heat rate changes, and a positive one recomputes the efficiency
    obtain ⟨v, hv⟩ := Option.isSome_iff_exists.mp
      ((Magnitude.isSome_changed d.magnitude d.quantity d.tech r.heatRate).trans hheat)
    have hrow := Directive.heatRate_row_inputsAfter hf hq hr heff hv
    have hother : d.quantity ≠ "Efficiency" := by rw [hq]; decide
    by_cases hpos : 0.0 < v
    · rw [if_pos hpos] at hrow
      exact ⟨_, efficiencyOfHeatRate v, v, hrow, rfl, rfl, fun h => absurd h hother,
        fun _ _ => ⟨efficiencyOfHeatRate_le v, rfl⟩⟩
    · rw [if_neg hpos] at hrow
      exact ⟨_, e₀, v, hrow, he₀, rfl, fun h => absurd h hother, fun _ h => absurd h hpos⟩

/-- The sample gas plant with its heat rate set far below the one at full efficiency: the
directive succeeds and the efficiency is recomputed, to at most 100. -/
theorem gasPlant_lowHeatRate_coupled :
    let d : Directive := ⟨.powerPlants, "HeatRate", "GAS_PP", .value 1000.0⟩
    let run := (applyDirective d).run.run gasPlant
    run.1 = .ok () ∧ ∃ r' e h, run.2.inputs.plants.performance.get? d.tech = some r' ∧
      r'.efficiency = some e ∧ r'.heatRate = some h ∧
      (d.quantity = "Efficiency" → 0.0 < e →
        e ≤ 100.0 ∧ heatRateAtFullEfficiency ≤ h ∧ h = heatRateOfEfficiency e) ∧
      (d.quantity = "HeatRate" → 0.0 < h → e ≤ 100.0 ∧ e = efficiencyOfHeatRate h) :=
  applyDirective_couples_efficiency_heatRate rfl (.inr rfl) rfl rfl rfl

end EnergyModel
