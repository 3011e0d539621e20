import EnergyModel.Perturbation
import Mathlib.Tactic.SplitIfs

/-!
# What a directive does

`applyDirective` is a step of the perturbation monad: it reads and writes the input tables and
the scenario, writes notes, and may fail. This module describes it without the monad:
`Directive.inputsAfter` and `Directive.scenarioAfter` are the inputs and the scenario it leaves,
and `Directive.problem` is the rule it breaks, if any. A failing directive keeps what it wrote
before it failed, so the tables it leaves do not depend on whether it fails: a power plant
directive writes its table before it looks for the plant's performance row.

A directive changes one row of a table of named rows, through `Catalog.modify`, and one value of
that row, through `NumericColumn.changeWith`; a new efficiency or heat rate then recomputes the
other in the same row (`Performance.couple`).

`Perturbing.Ends m st r inputs scenario` says that `m`, run from `st`, ends with `r` in those
inputs and that scenario, whatever notes it writes. Each function of the perturbation monad gets
one such lemma, and `applyDirective_ends` says that a directive meets the description from every
state. `Perturbing.plantCoupling` is the end of `Perturbing.plant` as a function of the new value;
`Ends.plant` checks it against `plant` itself.
-/

namespace EnergyModel

open Input

/-! ## Tables of named rows -/

namespace Input.Catalog

variable {α : Type}

theorem get?_set_of_ne (c : Catalog α) {key key' : String} (row : α) (h : key' ≠ key) :
    (c.set key row).get? key' = c.get? key' := by
  obtain ⟨entries⟩ := c
  simp only [get?, set]
  induction entries with
  | nil => rfl
  | cons e es ih =>
    by_cases he : e.1 = key
    · have : e.1 ≠ key' := fun h' => h (h' ▸ he)
      simp_all
    · by_cases he' : e.1 = key' <;> simp_all

theorem get?_set_self (c : Catalog α) (key : String) (row : α) :
    (c.set key row).get? key = (c.get? key).map fun _ => row := by
  obtain ⟨entries⟩ := c
  simp only [get?, set]
  induction entries with
  | nil => rfl
  | cons e es ih => by_cases he : e.1 = key <;> simp_all

@[simp] theorem contains_set (c : Catalog α) (key key' : String) (row : α) :
    (c.set key row).contains key' = c.contains key' := by
  obtain ⟨entries⟩ := c
  simp only [contains, set]
  induction entries with
  | nil => rfl
  | cons e es ih => by_cases he : e.1 = key <;> simp_all

theorem set_set (c : Catalog α) (key : String) (row row' : α) :
    (c.set key row).set key row' = c.set key row' := by
  obtain ⟨entries⟩ := c
  simp only [set, List.map_map, mk.injEq]
  apply List.map_congr_left
  intro e _
  by_cases he : e.1 = key <;> simp [he]

theorem set_comm (c : Catalog α) {key key' : String} (row row' : α) (h : key ≠ key') :
    (c.set key row).set key' row' = (c.set key' row').set key row := by
  obtain ⟨entries⟩ := c
  simp only [set, List.map_map, mk.injEq]
  apply List.map_congr_left
  intro e _
  by_cases he : e.1 = key <;> by_cases he' : e.1 = key' <;> simp_all

theorem contains_eq_isSome_get? (c : Catalog α) (key : String) :
    c.contains key = (c.get? key).isSome := by
  simp only [contains, get?, Option.isSome_map, List.isSome_find?]

/-- Changes the row of a name by `u`, when the catalog has a row of that name and `u` changes
it; every row of the name becomes the changed row. -/
def modify (c : Catalog α) (key : String) (u : α → Option α) : Catalog α :=
  match c.get? key with
  | none => c
  | some r =>
    match u r with
    | none => c
    | some r' => c.set key r'

theorem modify_of_get? {c : Catalog α} {key : String} {r : α} (h : c.get? key = some r)
    (u : α → Option α) : c.modify key u = ((u r).map (c.set key)).getD c := by
  simp only [modify, h]
  cases u r <;> rfl

theorem modify_of_get?_none {c : Catalog α} {key : String} (h : c.get? key = none)
    (u : α → Option α) : c.modify key u = c := by
  simp only [modify, h]

theorem get?_modify_of_ne (c : Catalog α) {key key' : String} (u : α → Option α)
    (h : key' ≠ key) : (c.modify key u).get? key' = c.get? key' := by
  unfold modify
  split
  · rfl
  · split
    · rfl
    · exact get?_set_of_ne c _ h

theorem get?_modify_self (c : Catalog α) (key : String) (u : α → Option α) :
    (c.modify key u).get? key = (c.get? key).map fun r => (u r).getD r := by
  cases hr : c.get? key with
  | none => rw [modify_of_get?_none hr, hr]; rfl
  | some r =>
    rw [modify_of_get? hr]
    cases hu : u r with
    | none => simp [hr, hu]
    | some r' => simp [get?_set_self, hr, hu]

@[simp] theorem contains_modify (c : Catalog α) (key key' : String) (u : α → Option α) :
    (c.modify key u).contains key' = c.contains key' := by
  unfold modify
  split
  · rfl
  · split
    · rfl
    · exact contains_set c _ _ _

end Input.Catalog


namespace Perturbing

variable {α β : Type}

/-- Run from `st`, the step `m` ends with `r` in the given inputs and scenario, having appended
some notes to the ones it found. -/
def Ends (m : Perturbing α) (st : Perturbed) (r : Except Failure α) (inputs : InputTables)
    (scenario : Scenario) : Prop :=
  ∃ ns, m.run.run st = (r, ⟨inputs, scenario, st.notes ++ ns⟩)

theorem Ends.pure (a : α) (st : Perturbed) :
    Ends (Pure.pure a) st (.ok a) st.inputs st.scenario :=
  ⟨#[], by simp; rfl⟩

/-- The inputs a run ends in may be given in any equal form. -/
theorem Ends.trans_eq {m : Perturbing α} {st : Perturbed} {r : Except Failure α}
    {inputs inputs' : InputTables} {scenario : Scenario} (h : Ends m st r inputs scenario)
    (e : inputs = inputs') : Ends m st r inputs' scenario :=
  e ▸ h

theorem Ends.bind {m : Perturbing α} {k : α → Perturbing β} {st : Perturbed} {a : α}
    {inputs inputs' : InputTables} {scenario scenario' : Scenario} {r : Except Failure β}
    (hm : Ends m st (.ok a) inputs scenario)
    (hk : ∀ ns, Ends (k a) ⟨inputs, scenario, ns⟩ r inputs' scenario') :
    Ends (m >>= k) st r inputs' scenario' := by
  obtain ⟨ns₁, h₁⟩ := hm
  obtain ⟨ns₂, h₂⟩ := hk (st.notes ++ ns₁)
  refine ⟨ns₁ ++ ns₂, ?_⟩
  rw [← Array.append_assoc]
  simp only [ExceptT.run_bind, StateT.run_bind, h₁]
  exact h₂

theorem Ends.bind_error {m : Perturbing α} {k : α → Perturbing β} {st : Perturbed}
    {e : Failure} {inputs : InputTables} {scenario : Scenario}
    (hm : Ends m st (.error e) inputs scenario) :
    Ends (m >>= k) st (.error e) inputs scenario := by
  obtain ⟨ns, h⟩ := hm
  exact ⟨ns, by simp only [ExceptT.run_bind, StateT.run_bind, h]; rfl⟩

theorem Ends.get_bind {k : Perturbed → Perturbing α} {st : Perturbed} {r : Except Failure α}
    {inputs : InputTables} {scenario : Scenario} (hk : Ends (k st) st r inputs scenario) :
    Ends (get >>= k) st r inputs scenario :=
  hk

theorem Ends.record (notes : Array Note) (st : Perturbed) :
    Ends (Perturbing.record notes) st (.ok ()) st.inputs st.scenario :=
  ⟨notes, rfl⟩

theorem Ends.fail (p : Problem) (st : Perturbed) :
    Ends (Perturbing.fail p : Perturbing α) st (.error (Failure.rule p)) st.inputs st.scenario :=
  ⟨#[], by simp; rfl⟩

/-- A step that changes the inputs or the scenario and leaves the notes alone. -/
theorem Ends.update {f : Perturbed → Perturbed} {st : Perturbed} (hf : (f st).notes = st.notes) :
    Ends (modify f) st (.ok ()) (f st).inputs (f st).scenario :=
  ⟨#[], by rw [Array.append_empty, ← hf]; rfl⟩

end Perturbing

/-! ## Changing a value -/

/-- The value a magnitude gives a present value, kept in range; an absent value gives none. -/
def Magnitude.changed (m : Magnitude) (quantity tech : String) (current : Option Float) :
    Option Float :=
  (present current).map fun now => (clampValue quantity (m.apply now) tech).1

/-- The row with a directive's value of a column changed and then passed to `after` with the
new value, when the row has a value there to change. -/
def Input.NumericColumn.changeWith {α : Type} (col : NumericColumn α) (d : Directive)
    (after : Float → α → α) (r : α) : Option α :=
  (d.magnitude.changed d.quantity d.tech (col.get r)).map fun v => after v (col.set r (some v))

namespace Perturbing

variable {α : Type}

theorem Ends.cell (current : Option Float) (quantity tech : String) (m : Magnitude)
    (st : Perturbed) :
    Ends (Perturbing.cell current quantity tech m) st (.ok (m.changed quantity tech current))
      st.inputs st.scenario := by
  unfold Perturbing.cell Magnitude.changed
  cases present current with
  | none => exact Ends.pure none st
  | some now =>
    exact Ends.bind (Ends.record _ st) fun ns =>
      Ends.bind (Ends.record _ _) fun ns' => Ends.pure _ _

theorem Ends.row_ok {catalog : Catalog α} {columns : List (NumericColumn α)} {table : String}
    {d : Directive} {r : α} {col : NumericColumn α} (hr : catalog.get? d.tech = some r)
    (hcol : NumericColumn.find? columns d.quantity = some col) (st : Perturbed) :
    Ends (Perturbing.row catalog columns table d) st
      (.ok (catalog.modify d.tech (col.changeWith d fun _ r => r),
        d.magnitude.changed d.quantity d.tech (col.get r))) st.inputs st.scenario := by
  unfold Perturbing.row
  simp only [Catalog.find, hr, hcol]
  refine Ends.bind (Ends.pure r st) fun ns => Ends.bind (Ends.cell _ _ _ _ _) fun ns' => ?_
  have hmodify := Catalog.modify_of_get? hr (col.changeWith d fun _ r => r)
  simp only [NumericColumn.changeWith] at hmodify
  cases hv : d.magnitude.changed d.quantity d.tech (col.get r) with
  | none =>
    rw [hmodify, hv]
    exact Ends.pure _ _
  | some v =>
    rw [hmodify, hv]
    exact Ends.pure _ _

theorem Ends.row_missingEntry {catalog : Catalog α} {columns : List (NumericColumn α)}
    {table : String} {d : Directive} (hr : catalog.get? d.tech = none) (st : Perturbed) :
    Ends (Perturbing.row catalog columns table d) st
      (.error (Failure.rule (.missingEntry table d.tech))) st.inputs st.scenario := by
  unfold Perturbing.row
  simp only [Catalog.find, hr]
  exact Ends.bind_error (Ends.fail _ st)

theorem Ends.row_missingColumn {catalog : Catalog α} {columns : List (NumericColumn α)}
    {table : String} {d : Directive} {r : α} (hr : catalog.get? d.tech = some r)
    (hcol : NumericColumn.find? columns d.quantity = none) (st : Perturbed) :
    Ends (Perturbing.row catalog columns table d) st
      (.error (Failure.rule (.missingColumn table d.quantity))) st.inputs st.scenario := by
  unfold Perturbing.row
  simp only [Catalog.find, hr, hcol]
  exact Ends.bind (Ends.pure r st) fun ns => Ends.fail _ _

end Perturbing

/-! ## What a directive leaves -/

/-- A plant's efficiency and heat rate describe one thing: once one of them is `new`, a positive
`new` recomputes the other when the other is present. -/
def Input.Performance.couple (quantity : String) (new : Float) (p : Performance) : Performance :=
  if quantity == "Efficiency" && (present p.heatRate).isSome then
    if new > 0.0 then { p with heatRate := some (heatRateOfEfficiency new) } else p
  else if quantity == "HeatRate" && (present p.efficiency).isSome then
    if new > 0.0 then { p with efficiency := some (efficiencyOfHeatRate new) } else p
  else p

/-- A list of values with its first changed, when it has one and the value is present. -/
def Magnitude.changeFirst (m : Magnitude) (quantity : String) :
    List (Option Float) → List (Option Float)
  | [] => []
  | v :: rest => (m.changed quantity "global" v).or v :: rest

namespace Directive

variable {α : Type}

/-- The table a directive leaves: the entity's row with the variable's value changed, when the
table has that row and that column and the row has a value there. -/
def tableAfter (d : Directive) (columns : List (NumericColumn α)) (after : Float → α → α)
    (c : Catalog α) : Catalog α :=
  match NumericColumn.find? columns d.quantity with
  | none => c
  | some col => c.modify d.tech (col.changeWith d after)

/-- The rule a directive on a table breaks: the table has no row of the entity, or no column of
the variable. -/
def tableProblem (d : Directive) (columns : List (NumericColumn α)) (c : Catalog α)
    (table : String) : Option Problem :=
  match c.get? d.tech, NumericColumn.find? columns d.quantity with
  | none, _ => some (.missingEntry table d.tech)
  | some _, none => some (.missingColumn table d.quantity)
  | some _, some _ => none

/-- Whether a directive changes a value of a table: the entity's row has one in the variable's
column. -/
def changesValue (d : Directive) (columns : List (NumericColumn α)) (c : Catalog α) : Bool :=
  match c.get? d.tech, NumericColumn.find? columns d.quantity with
  | some r, some col => (present (col.get r)).isSome
  | _, _ => false

/-- The system tables a global directive leaves: the first discount rate or reserve margin
changed, when there is one and it is present. -/
def systemAfter (d : Directive) (system : SystemTables) : SystemTables :=
  match d.quantity with
  | "DiscountRate" =>
    { system with discountRates := d.magnitude.changeFirst d.quantity system.discountRates }
  | "ReserveMargin" =>
    { system with reserveMargins := d.magnitude.changeFirst d.quantity system.reserveMargins }
  | _ => system

/-- The scenario a global directive leaves: its growth limit or growth seed changed, when it is
present. -/
def growthAfter (d : Directive) (scenario : Scenario) : Scenario :=
  match d.quantity with
  | "MaxGrowthRate" => { scenario with
      maxGrowthRate :=
        (d.magnitude.changed d.quantity "global" scenario.maxGrowthRate).or scenario.maxGrowthRate }
  | "MinGrowthSeed" => { scenario with
      minGrowthSeed :=
        (d.magnitude.changed d.quantity "global" scenario.minGrowthSeed).or scenario.minGrowthSeed }
  | _ => scenario

/-- The rule a global directive breaks: its variable is no global parameter. -/
def globalProblem (d : Directive) : Option Problem :=
  match d.quantity with
  | "DiscountRate" | "ReserveMargin" | "MaxGrowthRate" | "MinGrowthSeed" => none
  | other => some (.unknownGlobalVariable other)

/-- The rule a directive on a plant table breaks: a directive that changes a value also needs the
plant's performance row. -/
def plantTableProblem (d : Directive) (columns : List (NumericColumn α)) (c : Catalog α)
    (table : String) (performance : Catalog Performance) : Option Problem :=
  (d.tableProblem columns c table).or
    (if d.changesValue columns c && !performance.contains d.tech then
      some (.missingEntry "PowerPlantsPerformance" d.tech)
    else none)

/-- The plant tables a power plant directive leaves. -/
def plantsAfter (d : Directive) (tables : PlantTables) : PlantTables :=
  match Perturbing.PlantTable.ofQuantity d.quantity with
  | none => tables
  | some .identity =>
    { tables with plants := d.tableAfter Plant.columns (fun _ r => r) tables.plants }
  | some .performance =>
    { tables with
      performance := d.tableAfter Performance.columns (Performance.couple d.quantity)
        tables.performance }
  | some .costs => { tables with costs := d.tableAfter Costs.columns (fun _ r => r) tables.costs }
  | some .constraints =>
    { tables with
      constraints := d.tableAfter Constraints.columns (fun _ r => r) tables.constraints }

/-- The rule a power plant directive breaks. -/
def plantProblem (d : Directive) (tables : PlantTables) : Option Problem :=
  match Perturbing.PlantTable.ofQuantity d.quantity with
  | none => some (.unknownPlantVariable d.quantity)
  | some .identity =>
    d.plantTableProblem Plant.columns tables.plants "PowerPlants" tables.performance
  | some .performance =>
    d.plantTableProblem Performance.columns tables.performance "PowerPlantsPerformance"
      tables.performance
  | some .costs =>
    d.plantTableProblem Costs.columns tables.costs "PowerPlantsCosts" tables.performance
  | some .constraints =>
    d.plantTableProblem Constraints.columns tables.constraints "PowerPlantsConstraints"
      tables.performance

/-- The input tables a directive leaves, whether it succeeds or fails. -/
def inputsAfter (d : Directive) (inputs : InputTables) : InputTables :=
  match d.family with
  | .baseline => inputs
  | .globals => { inputs with system := d.systemAfter inputs.system }
  | .powerPlants => { inputs with plants := d.plantsAfter inputs.plants }
  | .fuels => { inputs with fuels := d.tableAfter Fuel.columns (fun _ r => r) inputs.fuels }
  | .connections =>
    { inputs with
      connections := d.tableAfter Connection.columns (fun _ r => r) inputs.connections }

/-- The scenario a directive leaves: only a global directive changes it. -/
def scenarioAfter (d : Directive) (scenario : Scenario) : Scenario :=
  match d.family with
  | .globals => d.growthAfter scenario
  | _ => scenario

/-- The rule a directive breaks, if it fails. -/
def problem (d : Directive) (inputs : InputTables) : Option Problem :=
  match d.family with
  | .baseline => none
  | .globals => d.globalProblem
  | .powerPlants => d.plantProblem inputs.plants
  | .fuels => d.tableProblem Fuel.columns inputs.fuels "Fuels"
  | .connections => d.tableProblem Connection.columns inputs.connections "Connections"

/-- The result of a directive that broke the given rule, if any. -/
def resultOf : Option Problem → Except Failure Unit
  | none => .ok ()
  | some p => .error (Failure.rule p)

/-! ### Which rows a table directive reaches -/

theorem tableAfter_of_find {d : Directive} {columns : List (NumericColumn α)}
    {col : NumericColumn α} (hcol : NumericColumn.find? columns d.quantity = some col)
    (after : Float → α → α) (c : Catalog α) :
    d.tableAfter columns after c = c.modify d.tech (col.changeWith d after) := by
  unfold tableAfter
  rw [hcol]

/-- A directive on a table that lacks the entity's row or the variable's column leaves the
table as it is. -/
theorem tableAfter_of_problem {d : Directive} {columns : List (NumericColumn α)} {c : Catalog α}
    {table : String} {p : Problem} (after : Float → α → α)
    (h : d.tableProblem columns c table = some p) : d.tableAfter columns after c = c := by
  unfold tableProblem at h
  unfold tableAfter
  split
  · rfl
  · rename_i col hcol
    cases hr : c.get? d.tech with
    | none => exact Catalog.modify_of_get?_none hr _
    | some r => simp [hr, hcol] at h

/-- A table directive breaks no rule exactly when the table has the entity's row and the
variable's column. -/
theorem tableProblem_eq_none {d : Directive} {columns : List (NumericColumn α)} {c : Catalog α}
    {table : String} :
    d.tableProblem columns c table = none ↔
      ∃ r col, c.get? d.tech = some r ∧ NumericColumn.find? columns d.quantity = some col := by
  unfold tableProblem
  cases c.get? d.tech <;> cases NumericColumn.find? columns d.quantity <;> simp

end Directive

/-! ## Each step meets its description -/

namespace Perturbing

variable {α : Type}

theorem Ends.row_problem {catalog : Catalog α} {columns : List (NumericColumn α)}
    {table : String} {d : Directive} {p : Problem}
    (hp : d.tableProblem columns catalog table = some p) (st : Perturbed) :
    Ends (Perturbing.row catalog columns table d) st (.error (Failure.rule p)) st.inputs
      st.scenario := by
  unfold Directive.tableProblem at hp
  cases hr : catalog.get? d.tech with
  | none =>
    simp only [hr, Option.some.injEq] at hp
    rw [← hp]
    exact Ends.row_missingEntry hr st
  | some r =>
    cases hcol : NumericColumn.find? columns d.quantity with
    | none =>
      simp only [hr, hcol, Option.some.injEq] at hp
      rw [← hp]
      exact Ends.row_missingColumn hr hcol st
    | some col => simp [hr, hcol] at hp

/-- A directive on a table of named rows, which writes the table back into the inputs. -/
theorem Ends.rowThen {catalog : Catalog α} {columns : List (NumericColumn α)} {table : String}
    {d : Directive} (put : InputTables → Catalog α → InputTables) {st : Perturbed}
    (hkeep : put st.inputs catalog = st.inputs) :
    Ends (do
        let (c, _) ← Perturbing.row catalog columns table d
        modify fun s : Perturbed => { s with inputs := put s.inputs c }) st
      (Directive.resultOf (d.tableProblem columns catalog table))
      (put st.inputs (d.tableAfter columns (fun _ r => r) catalog)) st.scenario := by
  cases hp : d.tableProblem columns catalog table with
  | some p =>
    rw [Directive.tableAfter_of_problem _ hp, hkeep]
    exact Ends.bind_error (Ends.row_problem hp st)
  | none =>
    obtain ⟨r, col, hr, hcol⟩ := Directive.tableProblem_eq_none.mp hp
    rw [Directive.tableAfter_of_find hcol]
    exact Ends.bind (Ends.row_ok hr hcol st) fun ns => Ends.update rfl

theorem Ends.first (values : List (Option Float)) (quantity : String) (m : Magnitude)
    (st : Perturbed) :
    Ends (Perturbing.first values quantity m) st (.ok (m.changeFirst quantity values)) st.inputs
      st.scenario := by
  cases values with
  | nil => exact Ends.pure [] st
  | cons v rest =>
    refine Ends.bind (Ends.cell _ _ _ _ st) fun ns => ?_
    cases hc : m.changed quantity "global" v with
    | none =>
      simp only [Magnitude.changeFirst, hc, Option.none_or]
      exact Ends.pure _ _
    | some new =>
      simp only [Magnitude.changeFirst, hc, Option.some_or]
      exact Ends.pure _ _

theorem Ends.global (d : Directive) (st : Perturbed) :
    Ends (Perturbing.global d) st (Directive.resultOf d.globalProblem)
      { st.inputs with system := d.systemAfter st.inputs.system }
      (d.growthAfter st.scenario) := by
  unfold Perturbing.global
  refine Ends.get_bind ?_
  split
  -- the discount rate and the reserve margin are in the system tables, the growth settings in
  -- the scenario
  case h_1 h | h_2 h =>
    have hgrowth : d.growthAfter st.scenario = st.scenario := by simp [Directive.growthAfter, h]
    simp only [Directive.globalProblem, Directive.systemAfter, Directive.resultOf, h, hgrowth]
    exact Ends.bind (Ends.first _ _ _ st) fun ns => Ends.update rfl
  case h_3 h =>
    have hsystem : d.systemAfter st.inputs.system = st.inputs.system := by
      simp [Directive.systemAfter, h]
    simp only [Directive.globalProblem, Directive.growthAfter, Directive.resultOf, h, hsystem]
    refine Ends.bind (Ends.cell _ _ _ _ st) fun ns => ?_
    cases d.magnitude.changed "MaxGrowthRate" "global" st.scenario.maxGrowthRate with
    | none => exact Ends.pure () _
    | some v => exact Ends.update rfl
  case h_4 h =>
    have hsystem : d.systemAfter st.inputs.system = st.inputs.system := by
      simp [Directive.systemAfter, h]
    simp only [Directive.globalProblem, Directive.growthAfter, Directive.resultOf, h, hsystem]
    refine Ends.bind (Ends.cell _ _ _ _ st) fun ns => ?_
    cases d.magnitude.changed "MinGrowthSeed" "global" st.scenario.minGrowthSeed with
    | none => exact Ends.pure () _
    | some v => exact Ends.update rfl
  case h_5 h₁ h₂ h₃ h₄ =>
    simp only [Directive.globalProblem, Directive.systemAfter, Directive.growthAfter,
      Directive.resultOf]
    exact Ends.fail _ st

/-! ## Power plant directives -/

/-- The end of a power plant directive: a new value needs the plant's performance row, and a
new efficiency or heat rate recomputes the other. -/
def plantCoupling (d : Directive) (new : Option Float) : Perturbing Unit := do
  let some new := new | pure ()
  let performance := (← get).inputs.plants.performance
  let p ← ofExcept (performance.find d.tech "PowerPlantsPerformance")
  let tech := d.tech
  let update (p' : Performance) : Perturbing Unit :=
    modify fun s => { s with inputs.plants.performance := performance.set tech p' }
  if d.quantity == "Efficiency" && (present p.heatRate).isSome then
    if new > 0.0 then update { p with heatRate := some (heatRateOfEfficiency new) }
    else record #[⟨.warn, .perturbation, s!"Efficiency of {tech} is not positive, heat rate left unchanged"⟩]
  else if d.quantity == "HeatRate" && (present p.efficiency).isSome then
    if new > 0.0 then update { p with efficiency := some (efficiencyOfHeatRate new) }
    else record #[⟨.warn, .perturbation, s!"Heat rate of {tech} is not positive, efficiency left unchanged"⟩]

theorem Ends.plantCoupling_none (d : Directive) (st : Perturbed) :
    Ends (plantCoupling d none) st (.ok ()) st.inputs st.scenario :=
  Ends.pure () st

theorem Ends.plantCoupling_missing {d : Directive} {st : Perturbed} (new : Float)
    (hp : st.inputs.plants.performance.get? d.tech = none) :
    Ends (plantCoupling d (some new)) st
      (.error (Failure.rule (.missingEntry "PowerPlantsPerformance" d.tech))) st.inputs
      st.scenario := by
  unfold plantCoupling
  refine Ends.get_bind ?_
  simp only [Catalog.find, hp]
  exact Ends.bind_error (Ends.fail _ st)

theorem Ends.plantCoupling_other {d : Directive} {st : Perturbed} (new : Float)
    {p : Performance} (hp : st.inputs.plants.performance.get? d.tech = some p)
    (heff : d.quantity ≠ "Efficiency") (hheat : d.quantity ≠ "HeatRate") :
    Ends (plantCoupling d (some new)) st (.ok ()) st.inputs st.scenario := by
  unfold plantCoupling
  refine Ends.get_bind ?_
  simp only [Catalog.find, hp]
  refine Ends.bind (Ends.pure p st) fun ns => ?_
  simp [heff, hheat]
  exact Ends.pure () _

/-- Once the performance row has been written, the coupling writes it once more with the other
value recomputed. -/
theorem Ends.plantCoupling_set {d : Directive} {st : Perturbed} (new : Float) {p : Performance}
    (hp : st.inputs.plants.performance.get? d.tech = some p)
    (hfix : st.inputs.plants.performance.set d.tech p = st.inputs.plants.performance) :
    Ends (plantCoupling d (some new)) st (.ok ())
      { st.inputs with plants.performance :=
          st.inputs.plants.performance.set d.tech (p.couple d.quantity new) } st.scenario := by
  unfold plantCoupling
  refine Ends.get_bind ?_
  simp only [Catalog.find, hp]
  refine Ends.bind (Ends.pure p st) fun ns => ?_
  unfold Performance.couple
  -- the same tests decide whether the program writes the row again and how `couple` changes it
  split_ifs
  · exact Ends.update rfl
  · rw [hfix]
    exact Ends.record _ _
  · exact Ends.update rfl
  · rw [hfix]
    exact Ends.record _ _
  · rw [hfix]
    exact Ends.pure () _

/-- A directive's write to a table of named rows that has the entity's row and the variable's
column, followed by what the rest of the step does with the new value. -/
theorem Ends.rowWrite {catalog : Catalog α} {columns : List (NumericColumn α)} {table : String}
    {d : Directive} (put : InputTables → Catalog α → InputTables)
    {k : Option Float → Perturbing Unit} {st : Perturbed} {r : α} {col : NumericColumn α}
    {res : Except Failure Unit}
    {inputs : InputTables} {scenario : Scenario} (hr : catalog.get? d.tech = some r)
    (hcol : NumericColumn.find? columns d.quantity = some col)
    (hk : ∀ ns, Ends (k (d.magnitude.changed d.quantity d.tech (col.get r)))
      ⟨put st.inputs (catalog.modify d.tech (col.changeWith d fun _ r => r)), st.scenario, ns⟩
      res inputs scenario) :
    Ends (do
        let (c, v) ← Perturbing.row catalog columns table d
        modify fun s : Perturbed => { s with inputs := put s.inputs c }
        let new ← Pure.pure v
        k new) st res inputs scenario :=
  Ends.bind (Ends.row_ok hr hcol st) fun _ =>
    Ends.bind (Ends.update rfl) fun _ => Ends.bind (Ends.pure _ _) fun ns => hk ns

theorem PlantTable.ofQuantity_efficiency :
    PlantTable.ofQuantity "Efficiency" = some .performance :=
  rfl

theorem PlantTable.ofQuantity_heatRate : PlantTable.ofQuantity "HeatRate" = some .performance :=
  rfl

/-- A power plant directive on a table other than the performance table: the change in the table,
then the check that the plant has a performance row, which is left as it is. -/
theorem Ends.plantTable {catalog : Catalog α} {columns : List (NumericColumn α)} {table : String}
    {d : Directive} (put : InputTables → Catalog α → InputTables) {st : Perturbed}
    (hkeep : put st.inputs catalog = st.inputs)
    (hperformance : ∀ c, (put st.inputs c).plants.performance = st.inputs.plants.performance)
    (heff : d.quantity ≠ "Efficiency") (hheat : d.quantity ≠ "HeatRate") :
    Ends (do
        let (c, v) ← Perturbing.row catalog columns table d
        modify fun s : Perturbed => { s with inputs := put s.inputs c }
        let new ← Pure.pure v
        plantCoupling d new) st
      (Directive.resultOf
        (d.plantTableProblem columns catalog table st.inputs.plants.performance))
      (put st.inputs (d.tableAfter columns (fun _ r => r) catalog)) st.scenario := by
  cases hp : d.tableProblem columns catalog table with
  | some p =>
    rw [Directive.plantTableProblem, hp, Option.some_or, Directive.tableAfter_of_problem _ hp,
      hkeep]
    exact Ends.bind_error (Ends.row_problem hp st)
  | none =>
    obtain ⟨r, col, hr, hcol⟩ := Directive.tableProblem_eq_none.mp hp
    have hchanges : d.changesValue columns catalog =
        (d.magnitude.changed d.quantity d.tech (col.get r)).isSome := by
      simp [Directive.changesValue, hr, hcol, Magnitude.changed]
    rw [Directive.plantTableProblem, hp, Option.none_or, Directive.tableAfter_of_find hcol,
      hchanges]
    refine Ends.rowWrite put hr hcol fun ns => ?_
    cases hv : d.magnitude.changed d.quantity d.tech (col.get r) with
    | none => exact Ends.plantCoupling_none d _
    | some v =>
      rw [Catalog.contains_eq_isSome_get?]
      cases hperf : st.inputs.plants.performance.get? d.tech with
      | none =>
        exact Ends.plantCoupling_missing v (by rw [hperformance]; exact hperf)
      | some p =>
        exact Ends.plantCoupling_other v (by rw [hperformance]; exact hperf) heff hheat

/-- A power plant directive on the performance table: the change in the table, then, for a new
efficiency or heat rate, the other recomputed in the row just written. -/
theorem Ends.plantPerformance {d : Directive} {st : Perturbed} :
    Ends (do
        let (c, v) ← Perturbing.row st.inputs.plants.performance Performance.columns
          "PowerPlantsPerformance" d
        modify fun s : Perturbed => { s with inputs.plants.performance := c }
        let new ← Pure.pure v
        plantCoupling d new) st
      (Directive.resultOf (d.plantTableProblem Performance.columns st.inputs.plants.performance
        "PowerPlantsPerformance" st.inputs.plants.performance))
      { st.inputs with
        plants.performance := d.tableAfter Performance.columns (Performance.couple d.quantity)
          st.inputs.plants.performance } st.scenario := by
  have hkeep : { st.inputs with
      plants := { st.inputs.plants with performance := st.inputs.plants.performance } } =
      st.inputs := rfl
  cases hp : d.tableProblem Performance.columns st.inputs.plants.performance
      "PowerPlantsPerformance" with
  | some p =>
    rw [Directive.plantTableProblem, hp, Option.some_or, Directive.tableAfter_of_problem _ hp,
      hkeep]
    exact Ends.bind_error (Ends.row_problem hp st)
  | none =>
    obtain ⟨r, col, hr, hcol⟩ := Directive.tableProblem_eq_none.mp hp
    have hcontains : st.inputs.plants.performance.contains d.tech = true := by
      rw [Catalog.contains_eq_isSome_get?, hr]
      rfl
    rw [Directive.plantTableProblem, hp, Option.none_or, hcontains, Bool.not_true,
      Bool.and_false, if_neg Bool.false_ne_true]
    refine Ends.rowWrite (fun i c => { i with plants.performance := c }) hr hcol
      fun ns => ?_
    -- the coupling reads the row the first phase wrote, and writes it once more
    cases hv : d.magnitude.changed d.quantity d.tech (col.get r) with
    | none =>
      have hkept :
          st.inputs.plants.performance.modify d.tech (col.changeWith d fun _ r => r) =
            st.inputs.plants.performance := by
        rw [Catalog.modify_of_get? hr]
        simp [NumericColumn.changeWith, hv]
      rw [hkept]
      refine (Ends.plantCoupling_none d _).trans_eq ?_
      simp [Directive.tableAfter, hcol, Catalog.modify_of_get? hr, NumericColumn.changeWith, hv]
    | some v =>
      have hwrite :
          st.inputs.plants.performance.modify d.tech (col.changeWith d fun _ r => r) =
            st.inputs.plants.performance.set d.tech (col.set r (some v)) := by
        rw [Catalog.modify_of_get? hr]
        simp [NumericColumn.changeWith, hv]
      have hwritten :
          (st.inputs.plants.performance.set d.tech (col.set r (some v))).get? d.tech =
            some (col.set r (some v)) := by
        rw [Catalog.get?_set_self, hr]
        rfl
      rw [hwrite]
      refine (Ends.plantCoupling_set v hwritten (Catalog.set_set _ _ _ _)).trans_eq ?_
      simp [Directive.tableAfter, hcol, Catalog.modify_of_get? hr, NumericColumn.changeWith, hv,
        Catalog.set_set]

theorem Ends.plant (d : Directive) (st : Perturbed) :
    Ends (Perturbing.plant d) st (Directive.resultOf (d.plantProblem st.inputs.plants))
      { st.inputs with plants := d.plantsAfter st.inputs.plants } st.scenario := by
  unfold Perturbing.plant
  cases hq : PlantTable.ofQuantity d.quantity with
  | none =>
    simp only [Directive.plantProblem, Directive.plantsAfter, hq, Directive.resultOf]
    exact Ends.fail _ st
  | some t =>
    have heff (h : d.quantity = "Efficiency") : t = .performance := by
      rw [h, PlantTable.ofQuantity_efficiency] at hq
      exact (Option.some.inj hq).symm
    have hheat (h : d.quantity = "HeatRate") : t = .performance := by
      rw [h, PlantTable.ofQuantity_heatRate] at hq
      exact (Option.some.inj hq).symm
    rw [Directive.plantProblem, Directive.plantsAfter, hq]
    refine Ends.get_bind ?_
    cases t with
    | identity =>
      exact Ends.plantTable (fun i c => { i with plants.plants := c }) rfl (fun _ => rfl)
        (fun h => by cases heff h) (fun h => by cases hheat h)
    | performance => exact Ends.plantPerformance
    | costs =>
      exact Ends.plantTable (fun i c => { i with plants.costs := c }) rfl (fun _ => rfl)
        (fun h => by cases heff h) (fun h => by cases hheat h)
    | constraints =>
      exact Ends.plantTable (fun i c => { i with plants.constraints := c }) rfl
        (fun _ => rfl) (fun h => by cases heff h) (fun h => by cases hheat h)

end Perturbing

open Perturbing in
/-- A directive ends in the inputs and the scenario that `Directive.inputsAfter` and
`Directive.scenarioAfter` give, and fails exactly when it breaks a rule, with that rule. -/
theorem applyDirective_ends (d : Directive) (st : Perturbed) :
    Ends (applyDirective d) st (Directive.resultOf (d.problem st.inputs))
      (d.inputsAfter st.inputs) (d.scenarioAfter st.scenario) := by
  obtain ⟨family, quantity, tech, magnitude⟩ := d
  unfold applyDirective
  cases family with
  | baseline => exact Ends.pure () st
  | globals => exact Ends.global _ st
  | powerPlants => exact Ends.plant _ st
  | fuels => exact Ends.get_bind (Ends.rowThen (fun i c => { i with fuels := c }) rfl)
  | connections =>
    exact Ends.get_bind (Ends.rowThen (fun i c => { i with connections := c }) rfl)

end EnergyModel
