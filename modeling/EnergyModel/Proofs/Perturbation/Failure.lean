import EnergyModel.Proofs.Perturbation.Commute

/-!
# When a directive fails

A directive fails only when its target cannot be found (`Directive.Misses`): a global parameter
the program does not know; a power plant variable of no plant table, a plant without a row in
the table of its variable, or a value there to change of a plant without a performance row; a
fuel or a connection without a row, or a column that is not one of its table's numbers. The
variables that `PlantTable.ofQuantity` sends to a plant table are exactly the headers of that
table's numeric columns (`PlantTable.ofQuantity_eq_some_iff`), so a power plant directive never
fails for want of a column.

A failing directive leaves the inputs and the scenario as they were, with one exception
(`Directive.WritesThenMisses`): a power plant directive on a present value of the identity, cost
or constraint table writes the new value before it looks for the plant's performance row, and
the write stays when that row is missing. A list of directives is applied in order and stops at
the first that fails, which gets the directive's context.
-/

namespace EnergyModel

open Input Perturbing

/-! ## One value of a table of named rows -/

namespace Input

variable {α : Type}

theorem NumericColumn.find?_isSome_iff {columns : List (NumericColumn α)} {header : String} :
    (NumericColumn.find? columns header).isSome ↔ header ∈ columns.map (·.header) := by
  simp [NumericColumn.find?, List.find?_isSome]

namespace Catalog

/-- The value in a column of a named row, when the table has the row and the column. -/
def value (c : Catalog α) (columns : List (NumericColumn α)) (key header : String) :
    Option Float :=
  match c.get? key, NumericColumn.find? columns header with
  | some r, some col => col.get r
  | _, _ => none

/-- The table with the value in a column of a named row set, when it has the row and the
column. -/
def setValue (c : Catalog α) (columns : List (NumericColumn α)) (key header : String)
    (v : Float) : Catalog α :=
  match NumericColumn.find? columns header with
  | some col => c.modify key fun r => some (col.set r (some v))
  | none => c

theorem value_of_find? {c : Catalog α} {columns : List (NumericColumn α)} {key header : String}
    {col : NumericColumn α} (hcol : NumericColumn.find? columns header = some col) :
    c.value columns key header = (c.get? key).bind col.get := by
  unfold value
  cases c.get? key <;> simp [hcol]

end Catalog

end Input

/-! ## The plant table of a variable -/

namespace Perturbing.PlantTable

/-- The headers of a plant table's numeric columns. -/
def headers : PlantTable → List String
  | .identity => Plant.columns.map (·.header)
  | .performance => Performance.columns.map (·.header)
  | .costs => Costs.columns.map (·.header)
  | .constraints => Constraints.columns.map (·.header)

/-- The variables of each plant table are exactly the headers of its numeric columns. -/
theorem ofQuantity_eq_some_iff {quantity : String} {t : PlantTable} :
    ofQuantity quantity = some t ↔ quantity ∈ t.headers := by
  constructor
  · intro h
    unfold ofQuantity at h
    -- the lists `ofQuantity` tries hold each table's headers, in another order
    split_ifs at h with h₁ h₂ h₃ h₄ <;> cases h
    · simp only [List.contains_iff_mem, List.mem_cons, List.not_mem_nil, or_false] at h₁
      rcases h₁ with rfl | rfl | rfl | rfl <;> decide
    · simp only [List.contains_iff_mem, List.mem_cons, List.not_mem_nil, or_false] at h₂
      rcases h₂ with rfl | rfl | rfl | rfl | rfl | rfl | rfl <;> decide
    · simp only [List.contains_iff_mem, List.mem_cons, List.not_mem_nil, or_false] at h₃
      rcases h₃ with rfl | rfl | rfl | rfl | rfl <;> decide
    · simp only [List.contains_iff_mem, List.mem_cons, List.not_mem_nil, or_false] at h₄
      rcases h₄ with rfl | rfl <;> decide
  · intro h
    cases t <;>
      simp only [headers, Plant.columns, Performance.columns, Costs.columns, Constraints.columns,
        List.map_cons, List.map_nil, List.mem_cons, List.not_mem_nil, or_false] at h <;>
      rcases h with rfl | rfl | rfl | rfl | rfl | rfl | rfl <;> rfl

end Perturbing.PlantTable

namespace Input.PlantTables

/-- Whether a plant table has a plant's row. -/
def hasRow (tables : PlantTables) : PlantTable → String → Bool
  | .identity, tech => tables.plants.contains tech
  | .performance, tech => tables.performance.contains tech
  | .costs, tech => tables.costs.contains tech
  | .constraints, tech => tables.constraints.contains tech

/-- A value of a plant table: the one in a column of a plant's row. -/
def value (tables : PlantTables) : PlantTable → String → String → Option Float
  | .identity, tech, quantity => tables.plants.value Plant.columns tech quantity
  | .performance, tech, quantity => tables.performance.value Performance.columns tech quantity
  | .costs, tech, quantity => tables.costs.value Costs.columns tech quantity
  | .constraints, tech, quantity => tables.constraints.value Constraints.columns tech quantity

/-- The plant tables with one value of one of them set. -/
def setValue (tables : PlantTables) : PlantTable → String → String → Float → PlantTables
  | .identity, tech, quantity, v =>
    { tables with plants := tables.plants.setValue Plant.columns tech quantity v }
  | .performance, tech, quantity, v =>
    { tables with performance := tables.performance.setValue Performance.columns tech quantity v }
  | .costs, tech, quantity, v =>
    { tables with costs := tables.costs.setValue Costs.columns tech quantity v }
  | .constraints, tech, quantity, v =>
    { tables with constraints := tables.constraints.setValue Constraints.columns tech quantity v }

end Input.PlantTables

/-! ## Targets a directive misses -/

/-- The global parameters a directive can change. -/
def globalQuantities : List String :=
  ["DiscountRate", "ReserveMargin", "MaxGrowthRate", "MinGrowthSeed"]

namespace Directive

/-- A directive misses its target: a global parameter the program does not know; a power plant
variable of no plant table, a plant without a row in the table of its variable, or a present
value of a plant without a performance row; a fuel or a connection without a row, or a column
that is not one of its table's numbers. -/
def Misses (d : Directive) (inputs : InputTables) : Prop :=
  match d.family with
  | .baseline => False
  | .globals => d.quantity ∉ globalQuantities
  | .powerPlants =>
    match PlantTable.ofQuantity d.quantity with
    | none => True
    | some t =>
      inputs.plants.hasRow t d.tech = false ∨
        ((present (inputs.plants.value t d.tech d.quantity)).isSome ∧
          inputs.plants.performance.contains d.tech = false)
  | .fuels => inputs.fuels.contains d.tech = false ∨ d.quantity ∉ Fuel.columns.map (·.header)
  | .connections =>
    inputs.connections.contains d.tech = false ∨ d.quantity ∉ Connection.columns.map (·.header)

/-- A power plant directive on a present value of the identity, cost or constraint table, for
a plant without a performance row: it writes the new value, then fails. -/
structure WritesThenMisses (d : Directive) (inputs : InputTables) (t : PlantTable) : Prop where
  family : d.family = .powerPlants
  table : PlantTable.ofQuantity d.quantity = some t
  not_performance : t ≠ .performance
  present : (present (inputs.plants.value t d.tech d.quantity)).isSome
  no_performance_row : inputs.plants.performance.contains d.tech = false

/-! ### One table -/

section Table

variable {α : Type} {d : Directive} {columns : List (NumericColumn α)} {c : Catalog α}

theorem changesValue_eq (d : Directive) (columns : List (NumericColumn α)) (c : Catalog α) :
    d.changesValue columns c = (present (c.value columns d.tech d.quantity)).isSome := by
  unfold changesValue Catalog.value
  cases c.get? d.tech <;> cases NumericColumn.find? columns d.quantity <;> rfl

theorem contains_of_present {key header : String}
    (h : (present (c.value columns key header)).isSome) : c.contains key = true := by
  rw [Catalog.contains_eq_isSome_get?]
  unfold Catalog.value at h
  cases hr : c.get? key with
  | none => simp [hr, present] at h
  | some r => rfl

/-- A table directive breaks no rule exactly when the table has the entity's row and the
variable is one of its columns. -/
theorem tableProblem_eq_none_iff_mem {table : String} :
    d.tableProblem columns c table = none ↔
      c.contains d.tech = true ∧ d.quantity ∈ columns.map (·.header) := by
  rw [tableProblem_eq_none, Catalog.contains_eq_isSome_get?, ← NumericColumn.find?_isSome_iff]
  simp only [Option.isSome_iff_exists]
  constructor
  · rintro ⟨r, col, hr, hcol⟩
    exact ⟨⟨r, hr⟩, ⟨col, hcol⟩⟩
  · rintro ⟨⟨r, hr⟩, ⟨col, hcol⟩⟩
    exact ⟨r, col, hr, hcol⟩

/-- Where the variable's value is absent, a directive leaves the table as it was. -/
theorem tableAfter_of_changed_none (after : Float → α → α)
    (hv : d.magnitude.changed d.quantity d.tech (c.value columns d.tech d.quantity) = none) :
    d.tableAfter columns after c = c := by
  unfold tableAfter
  split
  · rfl
  · rename_i col hcol
    rw [Catalog.value_of_find? hcol] at hv
    cases hr : c.get? d.tech with
    | none => exact Catalog.modify_of_get?_none hr _
    | some r =>
      rw [hr, Option.bind_some] at hv
      rw [Catalog.modify_of_get? hr]
      simp [NumericColumn.changeWith, hv]

/-- Where it is present, a directive leaves its change in that one value. -/
theorem tableAfter_of_changed {v : Float}
    (hv : d.magnitude.changed d.quantity d.tech (c.value columns d.tech d.quantity) = some v) :
    d.tableAfter columns (fun _ r => r) c = c.setValue columns d.tech d.quantity v := by
  cases hcol : NumericColumn.find? columns d.quantity with
  | none => simp [Catalog.value, hcol, Magnitude.changed, present] at hv
  | some col =>
    rw [Catalog.value_of_find? hcol] at hv
    cases hr : c.get? d.tech with
    | none => simp [hr, Magnitude.changed, present] at hv
    | some r =>
      rw [hr, Option.bind_some] at hv
      rw [tableAfter_of_find hcol, Catalog.modify_of_get? hr]
      simp only [Catalog.setValue, hcol, Catalog.modify_of_get? hr]
      simp [NumericColumn.changeWith, hv]

variable {table : String} {performance : Catalog Performance}

/-- A directive on a plant table with the variable's column breaks a rule exactly when the
plant has no row there, or a present value there and no performance row. -/
theorem plantTableProblem_eq_none_iff (hcol : d.quantity ∈ columns.map (·.header)) :
    d.plantTableProblem columns c table performance = none ↔
      ¬ (c.contains d.tech = false ∨
        ((present (c.value columns d.tech d.quantity)).isSome ∧
          performance.contains d.tech = false)) := by
  unfold plantTableProblem
  rw [Option.or_eq_none_iff, tableProblem_eq_none_iff_mem, changesValue_eq]
  cases c.contains d.tech <;> cases (present (c.value columns d.tech d.quantity)).isSome <;>
    cases performance.contains d.tech <;> simp [hcol]

/-- A failing directive on a plant table leaves it as it was, unless it changed a present value
of a plant without a performance row. -/
theorem tableAfter_of_plantTableProblem {p : Problem}
    (hcol : d.quantity ∈ columns.map (·.header)) (after : Float → α → α)
    (h : d.plantTableProblem columns c table performance = some p) :
    d.tableAfter columns after c = c ∨
      ((present (c.value columns d.tech d.quantity)).isSome ∧
        performance.contains d.tech = false) := by
  have hmiss : c.contains d.tech = false ∨
      ((present (c.value columns d.tech d.quantity)).isSome ∧
        performance.contains d.tech = false) := Classical.byContradiction fun hno => by
    rw [← plantTableProblem_eq_none_iff hcol, h] at hno
    cases hno
  rcases hmiss with hrow | hwrite
  · -- no row: the variable's value is absent
    refine .inl (tableAfter_of_changed_none after ?_)
    have habsent : present (c.value columns d.tech d.quantity) = none := by
      cases hp : present (c.value columns d.tech d.quantity) with
      | none => rfl
      | some x =>
        rw [contains_of_present (by rw [hp]; rfl)] at hrow
        cases hrow
    simp [Magnitude.changed, habsent]
  · exact .inr hwrite

end Table

/-! ### A whole directive -/

variable {d : Directive} {inputs : InputTables}

theorem globalProblem_eq_none_iff : d.globalProblem = none ↔ d.quantity ∈ globalQuantities := by
  unfold globalProblem
  split <;> simp_all [globalQuantities]

/-- A directive on a variable that is no global parameter leaves the scenario's growth settings
and the system's rates alone. -/
theorem growthAfter_of_not_mem (h : d.quantity ∉ globalQuantities) (scenario : Scenario) :
    d.growthAfter scenario = scenario := by
  unfold growthAfter
  split <;> simp_all [globalQuantities]

theorem systemAfter_of_not_mem (h : d.quantity ∉ globalQuantities) (system : SystemTables) :
    d.systemAfter system = system := by
  unfold systemAfter
  split <;> simp_all [globalQuantities]

theorem not_mem_of_globalProblem {p : Problem} (h : d.globalProblem = some p) :
    d.quantity ∉ globalQuantities := by
  rw [← globalProblem_eq_none_iff, h]
  nofun

/-- A directive breaks a rule exactly when it misses its target. -/
theorem problem_eq_none_iff (d : Directive) (inputs : InputTables) :
    d.problem inputs = none ↔ ¬ d.Misses inputs := by
  unfold problem Misses
  cases d.family with
  | baseline => simp
  | globals => simpa using globalProblem_eq_none_iff
  | powerPlants =>
    unfold plantProblem
    cases ht : PlantTable.ofQuantity d.quantity with
    | none => simp
    | some t =>
      -- the variable is a column of its table, so only the rows can be missing
      have hcol := PlantTable.ofQuantity_eq_some_iff.mp ht
      cases t <;> exact plantTableProblem_eq_none_iff hcol
  | fuels =>
    rw [tableProblem_eq_none_iff_mem]
    cases inputs.fuels.contains d.tech <;> simp
  | connections =>
    rw [tableProblem_eq_none_iff_mem]
    cases inputs.connections.contains d.tech <;> simp

theorem misses_of_problem {p : Problem} (h : d.problem inputs = some p) : d.Misses inputs :=
  Classical.byContradiction fun hno => by
    rw [← problem_eq_none_iff, h] at hno
    cases hno

/-- A failing directive names none of the scenario's growth settings, so it leaves the
scenario as it was. -/
theorem scenarioAfter_of_problem {p : Problem} (h : d.problem inputs = some p)
    (scenario : Scenario) : d.scenarioAfter scenario = scenario := by
  unfold scenarioAfter
  cases hf : d.family with
  | globals =>
    simp only [problem, hf] at h
    exact growthAfter_of_not_mem (not_mem_of_globalProblem h) scenario
  | _ => rfl

/-- A failing directive leaves the inputs as they were, unless it writes a value and then
misses the plant's performance row. -/
theorem inputsAfter_of_problem {p : Problem} (h : d.problem inputs = some p)
    (hkeep : ∀ t, ¬ d.WritesThenMisses inputs t) : d.inputsAfter inputs = inputs := by
  unfold inputsAfter
  cases hf : d.family with
  | baseline => rfl
  | globals =>
    simp only [problem, hf] at h
    rw [systemAfter_of_not_mem (not_mem_of_globalProblem h)]
  | powerPlants =>
    simp only [problem, hf, plantProblem] at h
    unfold plantsAfter
    cases ht : PlantTable.ofQuantity d.quantity with
    | none => rfl
    | some t =>
      have hcol := PlantTable.ofQuantity_eq_some_iff.mp ht
      rw [ht] at h
      cases t with
      | identity =>
        rcases tableAfter_of_plantTableProblem hcol (fun _ r => r) h with hsame | ⟨hpresent, hnone⟩
        · rw [hsame]
        · exact absurd ⟨hf, ht, by simp, hpresent, hnone⟩ (hkeep .identity)
      | performance =>
        rcases tableAfter_of_plantTableProblem hcol (Performance.couple d.quantity) h with
          hsame | ⟨hpresent, hnone⟩
        · rw [hsame]
        · -- a plant with a value in the performance table has a performance row
          rw [contains_of_present hpresent] at hnone
          cases hnone
      | costs =>
        rcases tableAfter_of_plantTableProblem hcol (fun _ r => r) h with hsame | ⟨hpresent, hnone⟩
        · rw [hsame]
        · exact absurd ⟨hf, ht, by simp, hpresent, hnone⟩ (hkeep .costs)
      | constraints =>
        rcases tableAfter_of_plantTableProblem hcol (fun _ r => r) h with hsame | ⟨hpresent, hnone⟩
        · rw [hsame]
        · exact absurd ⟨hf, ht, by simp, hpresent, hnone⟩ (hkeep .constraints)
  | fuels =>
    simp only [problem, hf] at h
    rw [tableAfter_of_problem _ h]
  | connections =>
    simp only [problem, hf] at h
    rw [tableAfter_of_problem _ h]

/-- The exception: the value is written, and nothing else. -/
theorem inputsAfter_of_writesThenMisses {t : PlantTable} {v : Float}
    (h : d.WritesThenMisses inputs t)
    (hv : d.magnitude.changed d.quantity d.tech (inputs.plants.value t d.tech d.quantity) = some v) :
    d.inputsAfter inputs = { inputs with plants := inputs.plants.setValue t d.tech d.quantity v } := by
  unfold inputsAfter plantsAfter
  simp only [h.family, h.table]
  cases t with
  | identity => rw [tableAfter_of_changed hv]; rfl
  | performance => exact absurd rfl h.not_performance
  | costs => rw [tableAfter_of_changed hv]; rfl
  | constraints => rw [tableAfter_of_changed hv]; rfl

end Directive

/-! ## Runs -/

/-- A directive fails exactly when it misses its target. -/
theorem applyDirective_fails_iff (d : Directive) (st : Perturbed) :
    (∃ e, ((applyDirective d).run.run st).1 = .error e) ↔ d.Misses st.inputs := by
  obtain ⟨ns, hrun⟩ := applyDirective_ends d st
  rw [hrun]
  cases hp : d.problem st.inputs with
  | none =>
    have hfound := (Directive.problem_eq_none_iff d st.inputs).mp hp
    simp [Directive.resultOf, hfound]
  | some p => simp [Directive.resultOf, Directive.misses_of_problem hp]

/-- A failing directive keeps the scenario; it keeps the inputs too, unless it wrote a value
before missing the plant's performance row, and then that value holds its change. -/
theorem applyDirective_error_state {d : Directive} {st st' : Perturbed} {e : Failure}
    (h : (applyDirective d).run.run st = (.error e, st')) :
    st'.scenario = st.scenario ∧
      (∀ t, d.WritesThenMisses st.inputs t →
        ∃ v, d.magnitude.changed d.quantity d.tech (st.inputs.plants.value t d.tech d.quantity) =
            some v ∧
          st'.inputs = { st.inputs with plants := st.inputs.plants.setValue t d.tech d.quantity v })
      ∧ ((∀ t, ¬ d.WritesThenMisses st.inputs t) → st'.inputs = st.inputs) := by
  obtain ⟨ns, hrun⟩ := applyDirective_ends d st
  rw [hrun] at h
  obtain ⟨hresult, rfl⟩ := Prod.mk.inj h
  obtain ⟨p, hp⟩ : ∃ p, d.problem st.inputs = some p := by
    cases hq : d.problem st.inputs with
    | none =>
      rw [hq] at hresult
      cases hresult
    | some p => exact ⟨p, rfl⟩
  refine ⟨Directive.scenarioAfter_of_problem hp _, fun t ht => ?_,
    Directive.inputsAfter_of_problem hp⟩
  obtain ⟨v, hv⟩ :=
    Option.isSome_iff_exists.mp ((Magnitude.isSome_changed _ _ _ _).trans ht.present)
  exact ⟨v, hv, Directive.inputsAfter_of_writesThenMisses ht hv⟩

/-- A directive's run inside the context it is given in a list. -/
theorem run_withinContext {d : Directive} {st st' : Perturbed} {r : Except Failure Unit}
    (h : (applyDirective d).run.run st = (r, st')) :
    (tryCatch (applyDirective d) fun f => throw (f.within d.context) : Perturbing Unit).run.run st =
      (r.mapError (·.within d.context), st') := by
  simp only [tryCatch, tryCatchThe, MonadExceptOf.tryCatch, ExceptT.tryCatch, ExceptT.run_mk,
    StateT.run_bind]
  erw [h]
  cases r <;> rfl

/-- Directives after ones that all succeeded run from where those left the inputs and the
scenario; the first that fails stops the list, with its own context. -/
theorem applyDirectives_append_error {pre post : List Directive} {d : Directive}
    {st st₁ st₂ : Perturbed} {e : Failure}
    (hpre : (applyDirectives pre).run.run st = (.ok (), st₁))
    (hd : (applyDirective d).run.run st₁ = (.error e, st₂)) :
    (applyDirectives (pre ++ d :: post)).run.run st = (.error (e.within d.context), st₂) := by
  have hrest : (applyDirectives (d :: post)).run.run st₁ = (.error (e.within d.context), st₂) := by
    unfold applyDirectives
    simp only [List.forM_eq_forM]
    rw [List.forM_cons, ExceptT.run_bind, StateT.run_bind, run_withinContext hd]
    rfl
  unfold applyDirectives at hpre hrest ⊢
  simp only [List.forM_eq_forM] at hpre ⊢
  rw [List.forM_append, ExceptT.run_bind, StateT.run_bind, hpre]
  exact hrest

/-- A directive that succeeds after ones that all succeeded extends the run. -/
theorem applyDirectives_append_ok {pre : List Directive} {d : Directive} {st st₁ st₂ : Perturbed}
    (hpre : (applyDirectives pre).run.run st = (.ok (), st₁))
    (hd : (applyDirective d).run.run st₁ = (.ok (), st₂)) :
    (applyDirectives (pre ++ [d])).run.run st = (.ok (), st₂) := by
  have hlast : (applyDirectives [d]).run.run st₁ = (.ok (), st₂) := by
    unfold applyDirectives
    simp only [List.forM_eq_forM]
    rw [List.forM_cons, ExceptT.run_bind, StateT.run_bind, run_withinContext hd]
    rfl
  unfold applyDirectives at hpre hlast ⊢
  simp only [List.forM_eq_forM] at hpre ⊢
  rw [List.forM_append, ExceptT.run_bind, StateT.run_bind, hpre]
  exact hlast

/-- A directive fails exactly when it misses its target. A failing directive keeps the
scenario, and keeps the inputs unless it is a power plant directive on a present value of the
identity, cost or constraint table of a plant without a performance row: that value is left
changed, and nothing else. Directives in a list run in turn, each from where the ones before
left the inputs and the scenario, up to the first that fails, whose failure gets the
directive's context. -/
theorem applyDirective_fails_on_missing_target :
    (∀ (d : Directive) (st : Perturbed),
      (∃ e, ((applyDirective d).run.run st).1 = .error e) ↔ d.Misses st.inputs) ∧
    (∀ (d : Directive) (st st' : Perturbed) (e : Failure),
      (applyDirective d).run.run st = (.error e, st') →
      st'.scenario = st.scenario ∧
      (∀ t, d.WritesThenMisses st.inputs t →
        ∃ v, d.magnitude.changed d.quantity d.tech (st.inputs.plants.value t d.tech d.quantity) =
            some v ∧
          st'.inputs = { st.inputs with plants := st.inputs.plants.setValue t d.tech d.quantity v })
      ∧ ((∀ t, ¬ d.WritesThenMisses st.inputs t) → st'.inputs = st.inputs)) ∧
    (∀ (pre post : List Directive) (d : Directive) (st st₁ st₂ : Perturbed) (e : Failure),
      (applyDirectives pre).run.run st = (.ok (), st₁) →
      (applyDirective d).run.run st₁ = (.error e, st₂) →
      (applyDirectives (pre ++ d :: post)).run.run st = (.error (e.within d.context), st₂)) ∧
    (∀ (pre : List Directive) (d : Directive) (st st₁ st₂ : Perturbed),
      (applyDirectives pre).run.run st = (.ok (), st₁) →
      (applyDirective d).run.run st₁ = (.ok (), st₂) →
      (applyDirectives (pre ++ [d])).run.run st = (.ok (), st₂)) :=
  ⟨applyDirective_fails_iff, fun _ _ _ _ h => applyDirective_error_state h,
    fun _ _ _ _ _ _ _ hpre hd => applyDirectives_append_error hpre hd,
    fun _ _ _ _ _ hpre hd => applyDirectives_append_ok hpre hd⟩

/-- Ten percent more investment cost for a gas plant. -/
def costRise : Directive := ⟨.powerPlants, "CostInvest", "GAS", .multiplier 10.0⟩

/-- A gas plant with an investment cost and no performance row. -/
def gasWithoutPerformance : Perturbed where
  inputs := { (default : InputTables) with
    plants := { (default : PlantTables) with
      costs := ⟨[("GAS", ⟨"GAS", some 1000.0, none, none, none, none, none, none, none⟩)]⟩ } }
  scenario := default

/-- The cost rise misses the gas plant's performance row after it has written the new cost,
and the new cost stays. -/
theorem costRise_keeps_write :
    costRise.Misses gasWithoutPerformance.inputs ∧
      costRise.WritesThenMisses gasWithoutPerformance.inputs .costs ∧
      ∃ v, costRise.magnitude.changed "CostInvest" "GAS"
          (gasWithoutPerformance.inputs.plants.value .costs "GAS" "CostInvest") = some v ∧
        ((applyDirective costRise).run.run gasWithoutPerformance).2.inputs =
          { gasWithoutPerformance.inputs with
            plants := gasWithoutPerformance.inputs.plants.setValue .costs "GAS" "CostInvest" v } := by
  have hwrite : costRise.WritesThenMisses gasWithoutPerformance.inputs .costs :=
    ⟨rfl, rfl, nofun, by decide, by decide⟩
  have hmiss : costRise.Misses gasWithoutPerformance.inputs :=
    .inr ⟨hwrite.present, hwrite.no_performance_row⟩
  obtain ⟨hfails, hstate, -, -⟩ := applyDirective_fails_on_missing_target
  obtain ⟨e, he⟩ := (hfails costRise gasWithoutPerformance).mpr hmiss
  have hrun : (applyDirective costRise).run.run gasWithoutPerformance =
      (.error e, ((applyDirective costRise).run.run gasWithoutPerformance).2) := Prod.ext he rfl
  exact ⟨hmiss, hwrite, (hstate _ _ _ _ hrun).2.1 .costs hwrite⟩

end EnergyModel
