import EnergyModel.Proofs.Perturbation.Failure

/-!
# The cells a directive writes

A directive reaches one cell (`InputCell`): a global parameter, which is the first discount
rate, the first reserve margin or one of the scenario's growth settings, or the value in one
column of one entity's row, in the table that the directive's family and, for a power plant, its
variable choose (`Directive.cell?`). A directive that succeeds writes into its cell the magnitude's
change of the cell's value, kept in range; a positive new efficiency or heat rate of a plant then
rewrites the other of the two when that one is present (`Directive.writes`). A cell without a
value (missing, NaN, or no first row) gets nothing, and then nothing is written at all.

`applyDirective_writes_cells` says it in full: a directive that succeeds leaves the inputs and
the scenario it found with the written cells set, the written cells hold their new values, every
other cell keeps its value, and every table of named rows keeps its names in their order.
-/

namespace EnergyModel

open Input Perturbing

deriving instance DecidableEq for PlantTable

/-- A value a directive can change. -/
inductive InputCell where
  | discountRate
  | reserveMargin
  | maxGrowthRate
  | minGrowthSeed
  | plant (table : PlantTable) (tech column : String)
  | fuel (tech column : String)
  | connection (tech column : String)
  deriving DecidableEq

/-- The names of the rows of every table of named rows, each table's in order. -/
def Input.InputTables.names (inputs : InputTables) : List (List String) :=
  [inputs.plants.plants.names, inputs.plants.performance.names, inputs.plants.costs.names,
    inputs.plants.constraints.names, inputs.fuels.names, inputs.connections.names]

/-- A list of values with its first one set, when it has one. -/
def setHead (v : Float) : List (Option Float) → List (Option Float)
  | [] => []
  | _ :: rest => some v :: rest

namespace InputCell

/-- The value of a cell. -/
def value (inputs : InputTables) (scenario : Scenario) : InputCell → Option Float
  | discountRate => inputs.system.discountRates.head?.join
  | reserveMargin => inputs.system.reserveMargins.head?.join
  | maxGrowthRate => scenario.maxGrowthRate
  | minGrowthSeed => scenario.minGrowthSeed
  | plant t tech column => inputs.plants.value t tech column
  | fuel tech column => inputs.fuels.value Fuel.columns tech column
  | connection tech column => inputs.connections.value Connection.columns tech column

/-- The inputs with a cell set, where the cell has a row to set it in. -/
def setInputs (v : Float) (inputs : InputTables) : InputCell → InputTables
  | discountRate =>
    { inputs with system.discountRates := setHead v inputs.system.discountRates }
  | reserveMargin =>
    { inputs with system.reserveMargins := setHead v inputs.system.reserveMargins }
  | maxGrowthRate | minGrowthSeed => inputs
  | plant t tech column => { inputs with plants := inputs.plants.setValue t tech column v }
  | fuel tech column => { inputs with fuels := inputs.fuels.setValue Fuel.columns tech column v }
  | connection tech column =>
    { inputs with connections := inputs.connections.setValue Connection.columns tech column v }

/-- The scenario with a cell set: only the growth settings are cells of the scenario. -/
def setScenario (v : Float) (scenario : Scenario) : InputCell → Scenario
  | maxGrowthRate => { scenario with maxGrowthRate := some v }
  | minGrowthSeed => { scenario with minGrowthSeed := some v }
  | _ => scenario

/-- The inputs after writes, in order. -/
def writeInputs (writes : List (InputCell × Float)) (inputs : InputTables) : InputTables :=
  writes.foldl (fun i w => w.1.setInputs w.2 i) inputs

/-- The scenario after writes, in order. -/
def writeScenario (writes : List (InputCell × Float)) (scenario : Scenario) : Scenario :=
  writes.foldl (fun s w => w.1.setScenario w.2 s) scenario

end InputCell

/-! ## Setting one value of a table -/

namespace Input

variable {α : Type}

/-- A column reads back what is written to it. -/
def NumericColumn.ReadsBack (col : NumericColumn α) : Prop := ∀ r v, col.get (col.set r v) = v

namespace Catalog

@[simp] theorem names_set (c : Catalog α) (key : String) (row : α) :
    (c.set key row).names = c.names := by
  obtain ⟨entries⟩ := c
  simp only [names, set, List.map_map]
  apply List.map_congr_left
  intro e _
  by_cases he : e.1 = key <;> simp [he]

@[simp] theorem names_modify (c : Catalog α) (key : String) (u : α → Option α) :
    (c.modify key u).names = c.names := by
  unfold modify
  split
  · rfl
  · split
    · rfl
    · exact names_set c _ _

@[simp] theorem names_setValue (c : Catalog α) (columns : List (NumericColumn α))
    (key header : String) (v : Float) : (c.setValue columns key header v).names = c.names := by
  unfold setValue
  split
  · exact names_modify c _ _
  · rfl

variable {c : Catalog α} {columns : List (NumericColumn α)} {key header : String}

theorem setValue_of_get? {r : α} {col : NumericColumn α} (hr : c.get? key = some r)
    (hcol : NumericColumn.find? columns header = some col) (v : Float) :
    c.setValue columns key header v = c.set key (col.set r (some v)) := by
  simp only [setValue, hcol, modify_of_get? hr, Option.map_some, Option.getD_some]

/-- Setting a value of a row just set sets it in the new row. -/
theorem setValue_set_self {row : α} {col : NumericColumn α} (hr : (c.get? key).isSome)
    (hcol : NumericColumn.find? columns header = some col) (v : Float) :
    (c.set key row).setValue columns key header v = c.set key (col.set row (some v)) := by
  obtain ⟨r, hr⟩ := Option.isSome_iff_exists.mp hr
  have hrow : (c.set key row).get? key = some row := by rw [get?_set_self, hr]; rfl
  rw [setValue_of_get? hrow hcol, set_set]

theorem value_setValue_self (hcols : ∀ col ∈ columns, col.ReadsBack)
    (h : (c.value columns key header).isSome) (v : Float) :
    (c.setValue columns key header v).value columns key header = some v := by
  unfold value at h
  split at h
  · rename_i r col hr hcol
    obtain ⟨hmem, -⟩ := NumericColumn.find?_eq_some hcol
    rw [setValue_of_get? hr hcol, value_of_find? hcol, get?_set_self, hr]
    exact hcols col hmem r (some v)
  · cases h

/-- Setting a value leaves every other value of the table as it was: another row's, and another
column's of the same row. -/
theorem value_setValue_of_ne (hcols : columns.Pairwise NumericColumn.Apart) {key' header' : String}
    (hne : (key', header') ≠ (key, header)) (v : Float) :
    (c.setValue columns key header v).value columns key' header' =
      c.value columns key' header' := by
  cases hcol : NumericColumn.find? columns header with
  | none => simp [setValue, hcol]
  | some col =>
    cases hr : c.get? key with
    | none => simp [setValue, hcol, modify_of_get?_none hr]
    | some r =>
      rw [setValue_of_get? hr hcol]
      by_cases hkey : key' = key
      · subst hkey
        have hheader : header' ≠ header := fun h => hne (by rw [h])
        cases hcol' : NumericColumn.find? columns header' with
        | none => simp [value, hcol']
        | some col' =>
          obtain ⟨hmem, rfl⟩ := NumericColumn.find?_eq_some hcol
          obtain ⟨hmem', rfl⟩ := NumericColumn.find?_eq_some hcol'
          -- two columns of one table are apart, so writing one leaves the other's value
          have happart := NumericColumn.apart_of_mem hcols hmem hmem' (Ne.symm hheader)
          rw [value_of_find? hcol', value_of_find? hcol', get?_set_self, hr]
          exact happart.get_set r (some v)
      · unfold value
        rw [get?_set_of_ne c _ hkey]

end Catalog

theorem Plant.columns_readsBack : ∀ col ∈ Plant.columns, col.ReadsBack := by
  simp [Plant.columns, NumericColumn.ReadsBack]

theorem Performance.columns_readsBack : ∀ col ∈ Performance.columns, col.ReadsBack := by
  simp [Performance.columns, NumericColumn.ReadsBack]

theorem Costs.columns_readsBack : ∀ col ∈ Costs.columns, col.ReadsBack := by
  simp [Costs.columns, NumericColumn.ReadsBack]

theorem Constraints.columns_readsBack : ∀ col ∈ Constraints.columns, col.ReadsBack := by
  simp [Constraints.columns, NumericColumn.ReadsBack]

theorem Fuel.columns_readsBack : ∀ col ∈ Fuel.columns, col.ReadsBack := by
  simp [Fuel.columns, NumericColumn.ReadsBack]

theorem Connection.columns_readsBack : ∀ col ∈ Connection.columns, col.ReadsBack := by
  simp [Connection.columns, NumericColumn.ReadsBack]

end Input

namespace Input.PlantTables

variable {tables : PlantTables} {t : PlantTable} {tech column : String}

theorem value_setValue_self (h : (tables.value t tech column).isSome) (v : Float) :
    (tables.setValue t tech column v).value t tech column = some v := by
  cases t with
  | identity => exact Catalog.value_setValue_self Plant.columns_readsBack h v
  | performance => exact Catalog.value_setValue_self Performance.columns_readsBack h v
  | costs => exact Catalog.value_setValue_self Costs.columns_readsBack h v
  | constraints => exact Catalog.value_setValue_self Constraints.columns_readsBack h v

theorem value_setValue_of_ne {t' : PlantTable} {tech' column' : String}
    (hne : (t', tech', column') ≠ (t, tech, column)) (v : Float) :
    (tables.setValue t tech column v).value t' tech' column' = tables.value t' tech' column' := by
  -- a value of another plant table is not written at all
  cases t <;> cases t'
  case identity.identity =>
    exact Catalog.value_setValue_of_ne Plant.columns_apart (by simpa using hne) v
  case performance.performance =>
    exact Catalog.value_setValue_of_ne Performance.columns_apart (by simpa using hne) v
  case costs.costs => exact Catalog.value_setValue_of_ne Costs.columns_apart (by simpa using hne) v
  case constraints.constraints =>
    exact Catalog.value_setValue_of_ne Constraints.columns_apart (by simpa using hne) v
  all_goals rfl

end Input.PlantTables

/-! ## Writing cells -/

namespace InputCell

variable {inputs : InputTables} {scenario : Scenario} {c c' : InputCell}

theorem value_set_self (h : (c.value inputs scenario).isSome) (v : Float) :
    c.value (c.setInputs v inputs) (c.setScenario v scenario) = some v := by
  cases c with
  | discountRate =>
    -- a cell of the first row has a value only when there is a first row
    cases hrates : inputs.system.discountRates with
    | nil => simp [value, hrates] at h
    | cons x rest => simp [value, setInputs, setHead, hrates]
  | reserveMargin =>
    cases hmargins : inputs.system.reserveMargins with
    | nil => simp [value, hmargins] at h
    | cons x rest => simp [value, setInputs, setHead, hmargins]
  | maxGrowthRate => rfl
  | minGrowthSeed => rfl
  | plant t tech column => exact PlantTables.value_setValue_self h v
  | fuel tech column => exact Catalog.value_setValue_self Fuel.columns_readsBack h v
  | connection tech column => exact Catalog.value_setValue_self Connection.columns_readsBack h v

/-- Writing a cell leaves the value of every other cell as it was. -/
theorem value_set_of_ne (h : c' ≠ c) (v : Float) :
    c'.value (c.setInputs v inputs) (c.setScenario v scenario) = c'.value inputs scenario := by
  -- cells of different kinds lie in different fields, so only cells of one kind need a lemma
  cases c <;> cases c'
  case discountRate.discountRate => exact absurd rfl h
  case reserveMargin.reserveMargin => exact absurd rfl h
  case maxGrowthRate.maxGrowthRate => exact absurd rfl h
  case minGrowthSeed.minGrowthSeed => exact absurd rfl h
  case plant.plant => exact PlantTables.value_setValue_of_ne (by simpa using h) v
  case fuel.fuel => exact Catalog.value_setValue_of_ne Fuel.columns_apart (by simpa using h) v
  case connection.connection =>
    exact Catalog.value_setValue_of_ne Connection.columns_apart (by simpa using h) v
  all_goals rfl

@[simp] theorem names_setInputs (c : InputCell) (v : Float) (inputs : InputTables) :
    (c.setInputs v inputs).names = inputs.names := by
  cases c with
  | plant t tech column =>
    cases t <;> simp [setInputs, PlantTables.setValue, InputTables.names]
  | _ => simp [setInputs, InputTables.names]

@[simp] theorem writeInputs_nil (inputs : InputTables) : writeInputs [] inputs = inputs := rfl

@[simp] theorem writeInputs_cons (w : InputCell × Float) (ws : List (InputCell × Float))
    (inputs : InputTables) :
    writeInputs (w :: ws) inputs = writeInputs ws (w.1.setInputs w.2 inputs) :=
  rfl

@[simp] theorem writeScenario_nil (scenario : Scenario) : writeScenario [] scenario = scenario :=
  rfl

@[simp] theorem writeScenario_cons (w : InputCell × Float) (ws : List (InputCell × Float))
    (scenario : Scenario) :
    writeScenario (w :: ws) scenario = writeScenario ws (w.1.setScenario w.2 scenario) :=
  rfl

theorem value_write_of_not_mem {ws : List (InputCell × Float)} (h : c ∉ ws.map Prod.fst) :
    c.value (writeInputs ws inputs) (writeScenario ws scenario) = c.value inputs scenario := by
  induction ws generalizing inputs scenario with
  | nil => rfl
  | cons w ws ih =>
    simp only [List.map_cons, List.mem_cons, not_or] at h
    rw [writeInputs_cons, writeScenario_cons, ih h.2, value_set_of_ne h.1]

/-- Writes to distinct cells that have values leave each of them with its written value. -/
theorem value_write_of_mem {ws : List (InputCell × Float)} (hnd : (ws.map Prod.fst).Nodup)
    (hv : ∀ w ∈ ws, (w.1.value inputs scenario).isSome) {w : InputCell × Float}
    (hw : w ∈ ws) :
    w.1.value (writeInputs ws inputs) (writeScenario ws scenario) = some w.2 := by
  induction ws generalizing inputs scenario with
  | nil => cases hw
  | cons w₀ ws ih =>
    rw [List.map_cons, List.nodup_cons] at hnd
    obtain ⟨hfresh, hnd⟩ := hnd
    rw [writeInputs_cons, writeScenario_cons]
    rcases List.mem_cons.mp hw with rfl | hw
    · -- the later writes are to other cells
      rw [value_write_of_not_mem hfresh, value_set_self (hv w List.mem_cons_self)]
    · -- the first write is to another cell, which leaves the others' values
      have hother : ∀ w' ∈ ws, w'.1 ≠ w₀.1 := fun w' hw' heq =>
        hfresh (heq ▸ List.mem_map_of_mem hw')
      refine ih hnd (fun w' hw' => ?_) hw
      rw [value_set_of_ne (hother w' hw')]
      exact hv w' (List.mem_cons_of_mem _ hw')

@[simp] theorem names_writeInputs (ws : List (InputCell × Float)) (inputs : InputTables) :
    (writeInputs ws inputs).names = inputs.names := by
  induction ws generalizing inputs with
  | nil => rfl
  | cons w ws ih => rw [writeInputs_cons, ih, names_setInputs]

/-- Writes to cells of the tables leave the scenario as it was. -/
theorem writeScenario_of_forall {ws : List (InputCell × Float)}
    (h : ∀ w ∈ ws, ∀ s, w.1.setScenario w.2 s = s) (scenario : Scenario) :
    writeScenario ws scenario = scenario := by
  induction ws generalizing scenario with
  | nil => rfl
  | cons w ws ih =>
    rw [writeScenario_cons, h w List.mem_cons_self,
      ih fun w' hw' => h w' (List.mem_cons_of_mem _ hw')]

end InputCell

namespace Directive

/-- The cell a directive changes. A baseline, a global variable that is no parameter and a power
plant variable of no plant table have none. -/
def cell? (d : Directive) : Option InputCell :=
  match d.family with
  | .baseline => none
  | .globals =>
    if d.quantity = "DiscountRate" then some .discountRate
    else if d.quantity = "ReserveMargin" then some .reserveMargin
    else if d.quantity = "MaxGrowthRate" then some .maxGrowthRate
    else if d.quantity = "MinGrowthSeed" then some .minGrowthSeed
    else none
  | .powerPlants => (PlantTable.ofQuantity d.quantity).map fun t => .plant t d.tech d.quantity
  | .fuels => some (.fuel d.tech d.quantity)
  | .connections => some (.connection d.tech d.quantity)

/-- What a plant's efficiency or heat rate becoming `new` writes besides: a positive new
efficiency recomputes a present heat rate, and a positive new heat rate a present efficiency. -/
def coupledWrites (d : Directive) (inputs : InputTables) (new : Float) :
    List (InputCell × Float) :=
  if d.family = .powerPlants ∧ 0.0 < new then
    if d.quantity = "Efficiency" ∧
        (present (inputs.plants.value .performance d.tech "HeatRate")).isSome then
      [(.plant .performance d.tech "HeatRate", heatRateOfEfficiency new)]
    else if d.quantity = "HeatRate" ∧
        (present (inputs.plants.value .performance d.tech "Efficiency")).isSome then
      [(.plant .performance d.tech "Efficiency", efficiencyOfHeatRate new)]
    else []
  else []

/-- The cells a directive writes, with their new values: its cell, when that has a value, gets
the magnitude's change of the value kept in range, and a plant's efficiency or heat rate then
recomputes the other. -/
def writes (d : Directive) (inputs : InputTables) (scenario : Scenario) :
    List (InputCell × Float) :=
  match d.cell? with
  | none => []
  | some c =>
    match d.magnitude.changed d.quantity d.tech (c.value inputs scenario) with
    | none => []
    | some new => (c, new) :: d.coupledWrites inputs new

end Directive

/-! ## What a directive writes -/

/-- The value kept in range does not depend on the entity a warning would name. -/
theorem Magnitude.changed_tech (m : Magnitude) (quantity tech tech' : String)
    (current : Option Float) :
    m.changed quantity tech current = m.changed quantity tech' current := by
  unfold Magnitude.changed clampValue
  cases present current with
  | none => rfl
  | some now =>
    simp only [Option.map_some]
    split_ifs <;> rfl

theorem Magnitude.isSome_of_changed {m : Magnitude} {quantity tech : String}
    {current : Option Float} {v : Float} (h : m.changed quantity tech current = some v) :
    current.isSome := by
  cases current with
  | none => simp [Magnitude.changed, present] at h
  | some x => rfl

/-- The first value of a list changes as its cell does. -/
theorem Magnitude.changeFirst_eq (m : Magnitude) (quantity : String)
    (values : List (Option Float)) :
    m.changeFirst quantity values =
      ((m.changed quantity "global" values.head?.join).map fun v => setHead v values).getD
        values := by
  cases values with
  | nil => rfl
  | cons x rest =>
    cases h : m.changed quantity "global" x <;> simp [Magnitude.changeFirst, setHead, h]

theorem Input.isSome_of_present {x : Option Float} (h : (present x).isSome) : x.isSome := by
  cases x with
  | none => simp [present] at h
  | some v => rfl

namespace Directive

variable {d : Directive} {inputs : InputTables} {scenario : Scenario}

theorem writes_of_cell {c : InputCell} (hc : d.cell? = some c) :
    d.writes inputs scenario =
      ((d.magnitude.changed d.quantity d.tech (c.value inputs scenario)).map fun new =>
        (c, new) :: d.coupledWrites inputs new).getD [] := by
  simp only [writes, hc]
  cases d.magnitude.changed d.quantity d.tech (c.value inputs scenario) <;> rfl

theorem coupledWrites_of_not_coupled
    (h : d.quantity ≠ "Efficiency" ∧ d.quantity ≠ "HeatRate" ∨ d.family ≠ .powerPlants)
    (new : Float) : d.coupledWrites inputs new = [] := by
  unfold coupledWrites
  rcases h with ⟨heff, hheat⟩ | hf
  · simp [heff, hheat]
  · simp [hf]

/-- A table directive writes the changed value into the entity's row, when the row has a value
in the variable's column. -/
theorem tableAfter_eq {α : Type} {columns : List (NumericColumn α)} (c : Catalog α) :
    d.tableAfter columns (fun _ r => r) c =
      ((d.magnitude.changed d.quantity d.tech (c.value columns d.tech d.quantity)).map
        fun v => c.setValue columns d.tech d.quantity v).getD c := by
  cases hv : d.magnitude.changed d.quantity d.tech (c.value columns d.tech d.quantity) with
  | none => exact tableAfter_of_changed_none _ hv
  | some v => exact tableAfter_of_changed hv

/-! ### Global parameters -/

section Globals

variable (hf : d.family = .globals)
include hf

theorem coupledWrites_globals (new : Float) : d.coupledWrites inputs new = [] :=
  coupledWrites_of_not_coupled (.inr (by rw [hf]; decide)) new

theorem inputsAfter_globals (scenario : Scenario) :
    d.inputsAfter inputs = InputCell.writeInputs (d.writes inputs scenario) inputs := by
  simp only [inputsAfter, hf]
  by_cases h₁ : d.quantity = "DiscountRate"
  · have hc : d.cell? = some .discountRate := by simp [cell?, hf, h₁]
    simp only [writes_of_cell hc, coupledWrites_globals hf, InputCell.value, systemAfter, h₁,
      Magnitude.changeFirst_eq, Magnitude.changed_tech _ _ d.tech "global"]
    cases d.magnitude.changed "DiscountRate" "global" inputs.system.discountRates.head?.join <;>
      rfl
  by_cases h₂ : d.quantity = "ReserveMargin"
  · have hc : d.cell? = some .reserveMargin := by simp [cell?, hf, h₂]
    simp only [writes_of_cell hc, coupledWrites_globals hf, InputCell.value, systemAfter, h₂,
      Magnitude.changeFirst_eq, Magnitude.changed_tech _ _ d.tech "global"]
    cases d.magnitude.changed "ReserveMargin" "global" inputs.system.reserveMargins.head?.join <;>
      rfl
  -- the growth settings are cells of the scenario, and another variable is no cell at all
  have hsystem : d.systemAfter inputs.system = inputs.system := by
    unfold systemAfter
    split <;> simp_all
  rw [hsystem]
  by_cases h₃ : d.quantity = "MaxGrowthRate"
  · have hc : d.cell? = some .maxGrowthRate := by simp [cell?, hf, h₃]
    simp only [writes_of_cell hc, coupledWrites_globals hf]
    cases d.magnitude.changed d.quantity d.tech (InputCell.maxGrowthRate.value inputs scenario) <;>
      rfl
  by_cases h₄ : d.quantity = "MinGrowthSeed"
  · have hc : d.cell? = some .minGrowthSeed := by simp [cell?, hf, h₄]
    simp only [writes_of_cell hc, coupledWrites_globals hf]
    cases d.magnitude.changed d.quantity d.tech (InputCell.minGrowthSeed.value inputs scenario) <;>
      rfl
  have hc : d.cell? = none := by simp [cell?, hf, h₁, h₂, h₃, h₄]
  simp only [writes, hc]
  rfl

theorem scenarioAfter_globals (inputs : InputTables) :
    d.scenarioAfter scenario = InputCell.writeScenario (d.writes inputs scenario) scenario := by
  simp only [scenarioAfter, hf]
  by_cases h₃ : d.quantity = "MaxGrowthRate"
  · have hc : d.cell? = some .maxGrowthRate := by simp [cell?, hf, h₃]
    simp only [writes_of_cell hc, coupledWrites_globals hf, InputCell.value, growthAfter, h₃,
      Magnitude.changed_tech _ _ d.tech "global"]
    cases d.magnitude.changed "MaxGrowthRate" "global" scenario.maxGrowthRate <;> rfl
  by_cases h₄ : d.quantity = "MinGrowthSeed"
  · have hc : d.cell? = some .minGrowthSeed := by simp [cell?, hf, h₄]
    simp only [writes_of_cell hc, coupledWrites_globals hf, InputCell.value, growthAfter, h₄,
      Magnitude.changed_tech _ _ d.tech "global"]
    cases d.magnitude.changed "MinGrowthSeed" "global" scenario.minGrowthSeed <;> rfl
  -- the first discount rate and reserve margin are cells of the inputs
  have hgrowth : d.growthAfter scenario = scenario := by
    unfold growthAfter
    split <;> simp_all
  rw [hgrowth]
  by_cases h₁ : d.quantity = "DiscountRate"
  · have hc : d.cell? = some .discountRate := by simp [cell?, hf, h₁]
    simp only [writes_of_cell hc, coupledWrites_globals hf]
    cases d.magnitude.changed d.quantity d.tech (InputCell.discountRate.value inputs scenario) <;>
      rfl
  by_cases h₂ : d.quantity = "ReserveMargin"
  · have hc : d.cell? = some .reserveMargin := by simp [cell?, hf, h₂]
    simp only [writes_of_cell hc, coupledWrites_globals hf]
    cases d.magnitude.changed d.quantity d.tech (InputCell.reserveMargin.value inputs scenario) <;>
      rfl
  have hc : d.cell? = none := by simp [cell?, hf, h₁, h₂, h₃, h₄]
  simp only [writes, hc]
  rfl

end Globals

/-! ### Power plants -/

/-- A table directive on a row of the table writes the changed value there and passes the row
to `after`. -/
theorem tableAfter_of_get? {α : Type} {columns : List (NumericColumn α)}
    {after : Float → α → α}
    {c : Catalog α} {r : α} {col : NumericColumn α} (hr : c.get? d.tech = some r)
    (hcol : NumericColumn.find? columns d.quantity = some col) :
    d.tableAfter columns after c =
      ((d.magnitude.changed d.quantity d.tech (col.get r)).map fun v =>
        c.set d.tech (after v (col.set r (some v)))).getD c := by
  rw [tableAfter_of_find hcol, Catalog.modify_of_get? hr]
  unfold NumericColumn.changeWith
  cases d.magnitude.changed d.quantity d.tech (col.get r) <;> rfl

/-- Only variables of the performance table are coupled. -/
theorem not_coupled_of_table {t : PlantTable} (ht : PlantTable.ofQuantity d.quantity = some t)
    (hne : t ≠ .performance) : d.quantity ≠ "Efficiency" ∧ d.quantity ≠ "HeatRate" := by
  constructor
  · intro hq
    rw [hq, PlantTable.ofQuantity_efficiency] at ht
    exact hne (Option.some.inj ht).symm
  · intro hq
    rw [hq, PlantTable.ofQuantity_heatRate] at ht
    exact hne (Option.some.inj ht).symm

section Plants

variable (hf : d.family = .powerPlants)
include hf

theorem inputsAfter_plants_of_ne {t : PlantTable} (ht : PlantTable.ofQuantity d.quantity = some t)
    (hne : t ≠ .performance) (scenario : Scenario) :
    d.inputsAfter inputs = InputCell.writeInputs (d.writes inputs scenario) inputs := by
  have hc : d.cell? = some (.plant t d.tech d.quantity) := by simp [cell?, hf, ht]
  have hcoupled : ∀ new, d.coupledWrites inputs new = [] :=
    coupledWrites_of_not_coupled (.inl (not_coupled_of_table ht hne))
  simp only [inputsAfter, hf, plantsAfter, ht, writes_of_cell hc, hcoupled]
  cases t with
  | performance => exact absurd rfl hne
  | identity =>
    simp only [tableAfter_eq, InputCell.value, PlantTables.value]
    cases d.magnitude.changed d.quantity d.tech (inputs.plants.plants.value Plant.columns d.tech
      d.quantity) <;> rfl
  | costs =>
    simp only [tableAfter_eq, InputCell.value, PlantTables.value]
    cases d.magnitude.changed d.quantity d.tech (inputs.plants.costs.value Costs.columns d.tech
      d.quantity) <;> rfl
  | constraints =>
    simp only [tableAfter_eq, InputCell.value, PlantTables.value]
    cases d.magnitude.changed d.quantity d.tech (inputs.plants.constraints.value
      Constraints.columns d.tech d.quantity) <;> rfl

theorem inputsAfter_performance (ht : PlantTable.ofQuantity d.quantity = some .performance)
    (scenario : Scenario) :
    d.inputsAfter inputs = InputCell.writeInputs (d.writes inputs scenario) inputs := by
  have hc : d.cell? = some (.plant .performance d.tech d.quantity) := by simp [cell?, hf, ht]
  simp only [inputsAfter, hf, plantsAfter, ht, writes_of_cell hc]
  obtain ⟨col, hcol⟩ : ∃ col, NumericColumn.find? Performance.columns d.quantity = some col :=
    Option.isSome_iff_exists.mp
      (NumericColumn.find?_isSome_iff.mpr (PlantTable.ofQuantity_eq_some_iff.mp ht))
  cases hr : inputs.plants.performance.get? d.tech with
  | none =>
    have hval : InputCell.value inputs scenario (.plant .performance d.tech d.quantity) = none := by
      simp [InputCell.value, PlantTables.value, Catalog.value, hr]
    rw [hval, tableAfter_of_find hcol, Catalog.modify_of_get?_none hr]
    rfl
  | some r =>
    have hval :
        InputCell.value inputs scenario (.plant .performance d.tech d.quantity) = col.get r := by
      simp only [InputCell.value, PlantTables.value, Catalog.value_of_find? hcol, hr,
        Option.bind_some]
    rw [hval, tableAfter_of_get? hr hcol]
    cases hv : d.magnitude.changed d.quantity d.tech (col.get r) with
    | none => rfl
    | some v =>
      simp only [Option.map_some, Option.getD_some, InputCell.writeInputs_cons, InputCell.setInputs,
        PlantTables.setValue, Catalog.setValue_of_get? hr hcol]
      obtain ⟨hmem, hheader⟩ := NumericColumn.find?_eq_some hcol
      simp only [Performance.columns, List.mem_cons, List.not_mem_nil, or_false] at hmem
      rcases hmem with rfl | rfl | rfl | rfl
      · -- the efficiency: a positive one recomputes a present heat rate
        have hq : d.quantity = "Efficiency" := hheader.symm
        have hheat : inputs.plants.value .performance d.tech "HeatRate" = r.heatRate := by
          simp [PlantTables.value, Catalog.value, hr, NumericColumn.find?, Performance.columns]
        simp only [coupledWrites, hf, hq, hheat, Performance.couple]
        have hcol' : NumericColumn.find? Performance.columns "HeatRate" =
            some Performance.columns[1] := rfl
        by_cases hpos : 0.0 < v <;> by_cases hhr : (present r.heatRate).isSome <;>
          simp [hpos, hhr, InputCell.setInputs, PlantTables.setValue,
            Catalog.setValue_set_self (by rw [hr]; rfl) hcol']
        rfl
      · -- the heat rate: a positive one recomputes a present efficiency
        have hq : d.quantity = "HeatRate" := hheader.symm
        have heff : inputs.plants.value .performance d.tech "Efficiency" = r.efficiency := by
          simp [PlantTables.value, Catalog.value, hr, NumericColumn.find?, Performance.columns]
        simp only [coupledWrites, hf, hq, heff, Performance.couple]
        have hcol' : NumericColumn.find? Performance.columns "Efficiency" =
            some Performance.columns[0] := rfl
        by_cases hpos : 0.0 < v <;> by_cases heff : (present r.efficiency).isSome <;>
          simp [hpos, heff, InputCell.setInputs, PlantTables.setValue,
            Catalog.setValue_set_self (by rw [hr]; rfl) hcol']
        rfl
      all_goals
        -- the lifetime and the capacity factor recompute nothing
        have hq : d.quantity ≠ "Efficiency" ∧ d.quantity ≠ "HeatRate" := by
          rw [← hheader]
          decide
        rw [coupledWrites_of_not_coupled (.inl hq), Performance.couple_of_ne hq.1 hq.2]
        rfl

end Plants

/-! ### Every directive -/

/-- A coupled write is to the other of a plant's efficiency and heat rate, which has a value. -/
theorem mem_coupledWrites {new : Float} {w : InputCell × Float}
    (hw : w ∈ d.coupledWrites inputs new) :
    ∃ column, column ≠ d.quantity ∧ w.1 = .plant .performance d.tech column ∧
      (inputs.plants.value .performance d.tech column).isSome := by
  unfold coupledWrites at hw
  split_ifs at hw with h₁ h₂ h₃
  · rw [List.mem_singleton] at hw
    subst hw
    exact ⟨"HeatRate", by rw [h₂.1]; decide, rfl, isSome_of_present h₂.2⟩
  · rw [List.mem_singleton] at hw
    subst hw
    exact ⟨"Efficiency", by rw [h₃.1]; decide, rfl, isSome_of_present h₃.2⟩
  all_goals cases hw

/-- The cell of a power plant directive is in the column of its variable. -/
theorem column_of_cell? {t : PlantTable} {tech column : String}
    (h : d.cell? = some (.plant t tech column)) : column = d.quantity := by
  unfold cell? at h
  split at h
  · cases h
  · split_ifs at h <;> cases h
  · obtain ⟨t', -, ht'⟩ := Option.map_eq_some_iff.mp h
    cases ht'
    rfl
  all_goals cases h

/-- A directive writes its own cell, with the change of its value, and perhaps the coupled cell
of its plant. -/
theorem mem_writes {w : InputCell × Float} (hw : w ∈ d.writes inputs scenario) :
    d.cell? = some w.1 ∧
        d.magnitude.changed d.quantity d.tech (w.1.value inputs scenario) = some w.2 ∨
      ∃ column, column ≠ d.quantity ∧ w.1 = .plant .performance d.tech column ∧
        (w.1.value inputs scenario).isSome := by
  cases hc : d.cell? with
  | none => simp [writes, hc] at hw
  | some c =>
    rw [writes_of_cell hc] at hw
    cases hv : d.magnitude.changed d.quantity d.tech (c.value inputs scenario) with
    | none => simp [hv] at hw
    | some new =>
      rw [hv, Option.map_some, Option.getD_some, List.mem_cons] at hw
      rcases hw with rfl | hw
      · exact .inl ⟨rfl, hv⟩
      · obtain ⟨column, hne, hcell, hsome⟩ := mem_coupledWrites hw
        exact .inr ⟨column, hne, hcell, by rw [hcell]; exact hsome⟩

theorem isSome_value_of_mem_writes {w : InputCell × Float} (hw : w ∈ d.writes inputs scenario) :
    (w.1.value inputs scenario).isSome := by
  rcases mem_writes hw with ⟨-, hv⟩ | ⟨-, -, -, hsome⟩
  · exact Magnitude.isSome_of_changed hv
  · exact hsome

/-- A directive writes no cell twice: the coupled cell is in another column than its own. -/
theorem nodup_writes : ((d.writes inputs scenario).map Prod.fst).Nodup := by
  cases hc : d.cell? with
  | none => simp [writes, hc]
  | some c =>
    rw [writes_of_cell hc]
    cases d.magnitude.changed d.quantity d.tech (c.value inputs scenario) with
    | none => exact List.nodup_nil
    | some new =>
      rw [Option.map_some, Option.getD_some, List.map_cons, List.nodup_cons]
      constructor
      · intro hmem
        obtain ⟨w, hw, hwc⟩ := List.mem_map.mp hmem
        obtain ⟨column, hne, hcell, -⟩ := mem_coupledWrites hw
        simp only at hwc
        rw [← hwc, hcell] at hc
        exact hne (column_of_cell? hc)
      · -- at most one cell is coupled
        unfold coupledWrites
        split_ifs <;> simp

/-- Only a global directive has a cell of the scenario. -/
theorem setScenario_of_cell? {c : InputCell} (hc : d.cell? = some c) (hf : d.family ≠ .globals)
    (v : Float) (s : Scenario) : c.setScenario v s = s := by
  unfold cell? at hc
  split at hc
  · cases hc
  · contradiction
  · obtain ⟨t, -, rfl⟩ := Option.map_eq_some_iff.mp hc
    rfl
  · cases hc
    rfl
  · cases hc
    rfl

/-- A directive leaves the scenario with the cells it writes set. -/
theorem scenarioAfter_eq_writeScenario (d : Directive) (inputs : InputTables)
    (scenario : Scenario) :
    d.scenarioAfter scenario = InputCell.writeScenario (d.writes inputs scenario) scenario := by
  by_cases hf : d.family = .globals
  · exact scenarioAfter_globals hf inputs
  have hscenario : d.scenarioAfter scenario = scenario := by
    unfold scenarioAfter
    split
    · contradiction
    · rfl
  -- the cells of the other families are cells of the tables
  rw [hscenario, InputCell.writeScenario_of_forall]
  intro w hw
  rcases mem_writes hw with ⟨hc, -⟩ | ⟨column, -, hcell, -⟩
  · exact setScenario_of_cell? hc hf w.2
  · rw [hcell]
    intro s
    rfl

/-- A directive leaves the inputs with the cells it writes set. -/
theorem inputsAfter_eq_writeInputs (d : Directive) (inputs : InputTables) (scenario : Scenario) :
    d.inputsAfter inputs = InputCell.writeInputs (d.writes inputs scenario) inputs := by
  cases hf : d.family with
  | baseline => simp [inputsAfter, writes, cell?, hf]
  | globals => exact inputsAfter_globals hf scenario
  | powerPlants =>
    cases ht : PlantTable.ofQuantity d.quantity with
    | none =>
      have hc : d.cell? = none := by simp [cell?, hf, ht]
      simp [inputsAfter, hf, plantsAfter, ht, writes, hc]
    | some t =>
      by_cases hp : t = .performance
      · subst hp
        exact inputsAfter_performance hf ht scenario
      · exact inputsAfter_plants_of_ne hf ht hp scenario
  | fuels =>
    have hc : d.cell? = some (.fuel d.tech d.quantity) := by simp [cell?, hf]
    simp only [inputsAfter, hf, writes_of_cell hc, tableAfter_eq, InputCell.value,
      coupledWrites_of_not_coupled (.inr (by rw [hf]; decide))]
    cases d.magnitude.changed d.quantity d.tech (inputs.fuels.value Fuel.columns d.tech
      d.quantity) <;> rfl
  | connections =>
    have hc : d.cell? = some (.connection d.tech d.quantity) := by simp [cell?, hf]
    simp only [inputsAfter, hf, writes_of_cell hc, tableAfter_eq, InputCell.value,
      coupledWrites_of_not_coupled (.inr (by rw [hf]; decide))]
    cases d.magnitude.changed d.quantity d.tech (inputs.connections.value Connection.columns d.tech
      d.quantity) <;> rfl

end Directive

/-- A directive, whether it succeeds or fails, leaves the inputs and the scenario it found with
the cells it writes set and nothing else changed: the written cells hold their new values, every
other cell keeps its value, and every table keeps the names of its rows in their order. -/
theorem applyDirective_writes_cells (d : Directive) (st : Perturbed) :
    let st' := ((applyDirective d).run.run st).2
    let ws := d.writes st.inputs st.scenario
    st'.inputs = InputCell.writeInputs ws st.inputs ∧
      st'.scenario = InputCell.writeScenario ws st.scenario ∧
      (∀ w ∈ ws, w.1.value st'.inputs st'.scenario = some w.2) ∧
      (∀ c, c ∉ ws.map Prod.fst →
        c.value st'.inputs st'.scenario = c.value st.inputs st.scenario) ∧
      st'.inputs.names = st.inputs.names := by
  intro st' ws
  obtain ⟨ns, hrun⟩ := applyDirective_ends d st
  have hinputs : st'.inputs = InputCell.writeInputs ws st.inputs := by
    simp only [st', hrun]
    exact d.inputsAfter_eq_writeInputs st.inputs st.scenario
  have hscenario : st'.scenario = InputCell.writeScenario ws st.scenario := by
    simp only [st', hrun]
    exact d.scenarioAfter_eq_writeScenario st.inputs st.scenario
  refine ⟨hinputs, hscenario, fun w hw => ?_, fun c hc => ?_, ?_⟩
  · rw [hinputs, hscenario]
    exact InputCell.value_write_of_mem Directive.nodup_writes
      (fun w hw => Directive.isSome_value_of_mem_writes hw) hw
  · rw [hinputs, hscenario]
    exact InputCell.value_write_of_not_mem hc
  · rw [hinputs, InputCell.names_writeInputs]

/-- A gas plant running at 35 percent, with the heat rate that goes with it. -/
def gasPlant : Perturbed where
  inputs := { (default : InputTables) with
    plants := { (default : PlantTables) with
      performance :=
        ⟨[("GAS_PP", ⟨"GAS_PP", some 35.0, some 9750.0, some 30.0, some 60.0⟩)]⟩ } }
  scenario := default

/-- A raised efficiency recomputes the heat rate of the same row. -/
example : ((Directive.mk .powerPlants "Efficiency" "GAS_PP" (.multiplier 10.0)).writes
    gasPlant.inputs gasPlant.scenario).map Prod.fst =
      [.plant .performance "GAS_PP" "Efficiency", .plant .performance "GAS_PP" "HeatRate"] := by
  decide

end EnergyModel
