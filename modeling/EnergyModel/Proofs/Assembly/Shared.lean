import EnergyModel.Proofs.Assembly.PerTechnology

/-!
# Periods and commodities met along the way

Two relations get rows from what an assembly has met so far: a vintage of existing capacity
that is not yet a period becomes one, with a row flagged `e`, and a commodity a fuel or a
connection names is registered, with a row, the first time only. `Builder.Extends b b'` says
that `b'` has the periods and commodities of `b` and some new ones after them, each given its
row in the order met. Every step after the system-wide stage extends the builder it starts
from, and the periods and commodities it adds are those its technology names.
-/

namespace EnergyModel

open Assembly

/-- The row of a period first met as a vintage of existing capacity. -/
def legacyRow (y : Nat) : Tuple := [.year y, .text "e"]

/-- The row of a commodity first named by a fuel or a connection. -/
def commodityRow (id : String) : Tuple := [.text id, .text "p", .text id]

/-- `b'` has the periods and the commodities of `b`, then new ones, each with its row. -/
def Builder.Extends (b b' : Builder) : Prop :=
  ∃ periods commodities,
    b'.allTimePeriods = b.allTimePeriods ++ periods ∧
    b'.commodities = b.commodities ++ commodities ∧
    (b'.relations.rows .timePeriods).toList =
      (b.relations.rows .timePeriods).toList ++ periods.map legacyRow ∧
    (b'.relations.rows .commodities).toList =
      (b.relations.rows .commodities).toList ++ commodities.map commodityRow

namespace Builder.Extends

theorem refl (b : Builder) : b.Extends b :=
  ⟨[], [], by simp, by simp, by simp, by simp⟩

theorem trans {b₁ b₂ b₃ : Builder} (h₁ : b₁.Extends b₂) (h₂ : b₂.Extends b₃) : b₁.Extends b₃ := by
  obtain ⟨P₁, C₁, hp₁, hc₁, ht₁, hk₁⟩ := h₁
  obtain ⟨P₂, C₂, hp₂, hc₂, ht₂, hk₂⟩ := h₂
  exact ⟨P₁ ++ P₂, C₁ ++ C₂, by simp [hp₂, hp₁], by simp [hc₂, hc₁], by simp [ht₂, ht₁],
    by simp [hk₂, hk₁]⟩

end Builder.Extends

section Steps

variable {b : Builder}

theorem Builder.extends_addPeriod (h : b.relations.Catalogued) (y : Nat) :
    b.Extends (b.addPeriod y) := by
  unfold Builder.addPeriod
  split
  · exact Builder.Extends.refl b
  · refine ⟨[y], [], rfl, by simp, ?_, ?_⟩
    · show ((b.relations.appendAll _).rows _).toList = _
      simp [RelationSet.rows_appendAll h, legacyRow]
    · show ((b.relations.appendAll _).rows _).toList = _
      simp [RelationSet.rows_appendAll h]

theorem Builder.extends_register (h : b.relations.Catalogued) (id : String) :
    b.Extends (b.register id "p" id) := by
  unfold Builder.register
  split
  · exact Builder.Extends.refl b
  · refine ⟨[], [id], by simp, rfl, ?_, ?_⟩
    · show ((b.relations.appendAll _).rows _).toList = _
      simp [RelationSet.rows_appendAll h]
    · show ((b.relations.appendAll _).rows _).toList = _
      simp [RelationSet.rows_appendAll h, commodityRow]

theorem Builder.extends_foldl_addPeriod (h : b.relations.Catalogued) (years : List Nat) :
    b.Extends (years.foldl Builder.addPeriod b) := by
  induction years generalizing b with
  | nil => exact Builder.Extends.refl b
  | cons y ys ih =>
    exact (Builder.extends_addPeriod h y).trans (ih (Builder.catalogued_addPeriod h y))

theorem Builder.extends_withTechnology (h : b.relations.Catalogued) (t : Technology) :
    b.Extends (b.withTechnology t) := by
  obtain ⟨P, C, hp, hc, ht, hk⟩ := Builder.extends_foldl_addPeriod h
    (computeSchedule t.buildPolicy t.existingYears b.periods.activeFuture b.allTimePeriods).legacyPeriods
  have hcat := Builder.catalogued_foldl_addPeriod h
    (computeSchedule t.buildPolicy t.existingYears b.periods.activeFuture b.allTimePeriods).legacyPeriods
  -- the technology's own rows go to neither of the two relations
  refine ⟨P, C, hp, hc, ?_, ?_⟩
  · rw [Builder.withTechnology, Builder.rows_emit hcat, ht,
      rowsIn_techPushes_of_system _ _ (by decide), List.append_nil]
  · rw [Builder.withTechnology, Builder.rows_emit hcat, hk,
      rowsIn_techPushes_of_system _ _ (by decide), List.append_nil]

theorem Builder.extends_withFuel (h : b.relations.Catalogued) (t : Technology) :
    b.Extends (b.withFuel t) :=
  (Builder.extends_withTechnology h t).trans
    (Builder.extends_register (Builder.catalogued_withTechnology h t) _)

theorem Builder.extends_withConnection (h : b.relations.Catalogued) (t : Technology) :
    b.Extends (b.withConnection t) :=
  ((Builder.extends_withTechnology h t).trans
    (Builder.extends_register (Builder.catalogued_withTechnology h t) _)).trans
    (Builder.extends_register
      (Builder.catalogued_register (Builder.catalogued_withTechnology h t) _ _ _) _)

/-- A loop of steps that each extend the builder extends it. -/
theorem Builder.extends_foldl {step : Builder → Technology → Builder}
    (hcat : ∀ (B : Builder) (t : Technology), B.relations.Catalogued →
      (step B t).relations.Catalogued)
    (hext : ∀ (B : Builder) (t : Technology), B.relations.Catalogued → B.Extends (step B t))
    (ts : List Technology) (h : b.relations.Catalogued) : b.Extends (ts.foldl step b) := by
  induction ts generalizing b with
  | nil => exact Builder.Extends.refl b
  | cons t ts ih => exact (hext b t h).trans (ih (hcat b t h))

/-- The stages of technologies extend the builder the system-wide stage leaves. -/
theorem Builder.extends_assembled (h : b.relations.Catalogued)
    (plants fuels connections : List Technology) :
    b.withSystem.Extends (b.assembled plants fuels connections) := by
  have hsys := Builder.catalogued_withSystem h
  have hplants := Builder.foldl_induction (fun b => b.relations.Catalogued)
    (fun b t hb => Builder.catalogued_withTechnology hb t) plants hsys
  have hfuels := Builder.foldl_induction (fun b => b.relations.Catalogued)
    (fun b t hb => Builder.catalogued_withFuel hb t) fuels hplants
  exact ((Builder.extends_foldl (fun B t hB => Builder.catalogued_withTechnology hB t)
    (fun B t hB => Builder.extends_withTechnology hB t) plants hsys).trans
    (Builder.extends_foldl (fun B t hB => Builder.catalogued_withFuel hB t)
      (fun B t hB => Builder.extends_withFuel hB t) fuels hplants)).trans
    (Builder.extends_foldl (fun B t hB => Builder.catalogued_withConnection hB t)
      (fun B t hB => Builder.extends_withConnection hB t) connections hfuels)

end Steps

/-! ## Which periods and commodities are met -/

/-- A vintage of a technology's existing capacity that is still in service when the model
starts; it becomes a period when the model does not have it yet. -/
def Technology.Legacy (periods : Periods) (t : Technology) (y : Nat) : Prop :=
  periods.activeFuture ≠ [] ∧ y ∈ t.existingYears ∧
    Serving t.buildPolicy periods.activeFuture y

section Lists

variable {b : Builder}

theorem Builder.foldl_addPeriod_allTimePeriods (b : Builder) (years : List Nat) :
    (years.foldl Builder.addPeriod b).allTimePeriods = years.foldl addNew b.allTimePeriods := by
  induction years generalizing b with
  | nil => rfl
  | cons y ys ih =>
    rw [List.foldl_cons, ih, List.foldl_cons]
    congr 1
    unfold Builder.addPeriod addNew
    split <;> rfl

@[simp] theorem Builder.foldl_addPeriod_commodities (b : Builder) (years : List Nat) :
    (years.foldl Builder.addPeriod b).commodities = b.commodities := by
  induction years generalizing b with
  | nil => rfl
  | cons y ys ih =>
    rw [List.foldl_cons, ih]
    unfold Builder.addPeriod
    split <;> rfl

@[simp] theorem Builder.register_allTimePeriods (b : Builder) (id flag description : String) :
    (b.register id flag description).allTimePeriods = b.allTimePeriods := by
  unfold Builder.register
  split <;> rfl

theorem Builder.mem_register_commodities {b : Builder} {id flag description x : String} :
    x ∈ (b.register id flag description).commodities ↔ x ∈ b.commodities ∨ x = id := by
  unfold Builder.register
  split
  · rename_i hid
    constructor
    · exact Or.inl
    · rintro (hx | rfl)
      · exact hx
      · simpa using hid
  · simp

theorem Builder.nodup_register_commodities (h : b.commodities.Nodup) (id flag description : String) :
    (b.register id flag description).commodities.Nodup := by
  unfold Builder.register
  split
  · exact h
  · rename_i hid
    exact List.nodup_append.mpr ⟨h, by simp, fun a ha x hx => by
      rw [List.mem_singleton.mp hx]
      rintro rfl
      exact hid (by simpa using ha)⟩

theorem Builder.mem_allTimePeriods_withTechnology {t : Technology} {y : Nat} :
    y ∈ (b.withTechnology t).allTimePeriods ↔ y ∈ b.allTimePeriods ∨ t.Legacy b.periods y := by
  rw [Builder.withTechnology, Builder.emit_allTimePeriods, Builder.foldl_addPeriod_allTimePeriods,
    mem_foldl_addNew, mem_legacyPeriods]
  by_cases hy : y ∈ b.allTimePeriods
  · simp [hy]
  · simp [hy, Technology.Legacy]

theorem Builder.nodup_allTimePeriods_withTechnology (h : b.allTimePeriods.Nodup) (t : Technology) :
    (b.withTechnology t).allTimePeriods.Nodup := by
  rw [Builder.withTechnology, Builder.emit_allTimePeriods, Builder.foldl_addPeriod_allTimePeriods]
  exact nodup_foldl_addNew h _

@[simp] theorem Builder.withTechnology_commodities (b : Builder) (t : Technology) :
    (b.withTechnology t).commodities = b.commodities := by
  simp [Builder.withTechnology]

@[simp] theorem Builder.withFuel_allTimePeriods (b : Builder) (t : Technology) :
    (b.withFuel t).allTimePeriods = (b.withTechnology t).allTimePeriods := by
  simp [Builder.withFuel]

@[simp] theorem Builder.withConnection_allTimePeriods (b : Builder) (t : Technology) :
    (b.withConnection t).allTimePeriods = (b.withTechnology t).allTimePeriods := by
  simp [Builder.withConnection]

/-- The periods after a loop of technologies: those before, and the vintages in service of
every technology of the loop. -/
theorem Builder.mem_allTimePeriods_foldl {step : Builder → Technology → Builder}
    (hset : ∀ B t, (step B t).setting = B.setting)
    (hmem : ∀ B t y, y ∈ (step B t).allTimePeriods ↔ y ∈ B.allTimePeriods ∨ t.Legacy B.periods y)
    (ts : List Technology) (b : Builder) (y : Nat) :
    y ∈ (ts.foldl step b).allTimePeriods ↔ y ∈ b.allTimePeriods ∨ ∃ t ∈ ts, t.Legacy b.periods y := by
  induction ts generalizing b with
  | nil => simp
  | cons t ts ih =>
    rw [List.foldl_cons, ih, hmem, show (step b t).periods = b.periods from
      congrArg Setting.periods (hset b t)]
    simp only [List.mem_cons, exists_eq_or_imp]
    exact or_assoc

/-- The commodities after a loop of technologies: those before, and those every technology of
the loop registers. -/
theorem Builder.mem_commodities_foldl {step : Builder → Technology → Builder}
    {names : Technology → List String}
    (hmem : ∀ B t x, x ∈ (step B t).commodities ↔ x ∈ B.commodities ∨ x ∈ names t)
    (ts : List Technology) (b : Builder) (x : String) :
    x ∈ (ts.foldl step b).commodities ↔ x ∈ b.commodities ∨ ∃ t ∈ ts, x ∈ names t := by
  induction ts generalizing b with
  | nil => simp
  | cons t ts ih =>
    rw [List.foldl_cons, ih, hmem]
    simp only [List.mem_cons, exists_eq_or_imp]
    exact or_assoc

theorem Builder.mem_allTimePeriods_withFuel {t : Technology} {y : Nat} :
    y ∈ (b.withFuel t).allTimePeriods ↔ y ∈ b.allTimePeriods ∨ t.Legacy b.periods y := by
  rw [Builder.withFuel_allTimePeriods]
  exact Builder.mem_allTimePeriods_withTechnology

theorem Builder.mem_allTimePeriods_withConnection {t : Technology} {y : Nat} :
    y ∈ (b.withConnection t).allTimePeriods ↔ y ∈ b.allTimePeriods ∨ t.Legacy b.periods y := by
  rw [Builder.withConnection_allTimePeriods]
  exact Builder.mem_allTimePeriods_withTechnology

theorem Builder.mem_withFuel_commodities {t : Technology} {x : String} :
    x ∈ (b.withFuel t).commodities ↔ x ∈ b.commodities ∨ x ∈ [t.output] := by
  rw [Builder.withFuel, Builder.mem_register_commodities, Builder.withTechnology_commodities,
    List.mem_singleton]

theorem Builder.mem_withConnection_commodities {t : Technology} {x : String} :
    x ∈ (b.withConnection t).commodities ↔ x ∈ b.commodities ∨ x ∈ [t.input, t.output] := by
  rw [Builder.withConnection, Builder.mem_register_commodities, Builder.mem_register_commodities,
    Builder.withTechnology_commodities]
  simp only [List.mem_cons, List.not_mem_nil, or_false]
  exact or_assoc

@[simp] theorem Builder.withSystem_allTimePeriods (b : Builder) :
    b.withSystem.allTimePeriods = b.allTimePeriods := by
  simp [Builder.withSystem]

@[simp] theorem Builder.withSystem_periods (b : Builder) : b.withSystem.periods = b.periods :=
  congrArg Setting.periods (Builder.withSystem_setting b)

theorem Builder.foldl_periods {step : Builder → Technology → Builder}
    (hstep : ∀ b t, (step b t).setting = b.setting) (b : Builder) (ts : List Technology) :
    (ts.foldl step b).periods = b.periods :=
  congrArg Setting.periods (Builder.foldl_setting hstep b ts)

theorem Builder.mem_withSystem_commodities {x : String} :
    x ∈ b.withSystem.commodities ↔
      x ∈ b.commodities ∨ x = dummyCommodity ∨ x = demandCommodity ∨ x = emissionCommodity := by
  simp only [Builder.withSystem, Builder.emit_commodities, Builder.mem_register_commodities]
  simp only [or_assoc]

theorem Builder.nodup_withSystem_commodities (h : b.commodities.Nodup) :
    b.withSystem.commodities.Nodup := by
  have h₀ : (b.emit (calendarPushes b.setting)).commodities.Nodup := by
    rwa [Builder.emit_commodities]
  have h₁ := Builder.nodup_register_commodities h₀ dummyCommodity "p" "dummy variable"
  have h₂ := Builder.nodup_register_commodities h₁ demandCommodity "d" "demand variable"
  have h₃ := Builder.nodup_register_commodities h₂ emissionCommodity "e" "emission"
  unfold Builder.withSystem
  rwa [Builder.emit_commodities]

/-- The periods of an assembled model: those of the start, and every vintage of existing
capacity still in service of some technology. -/
theorem Builder.mem_allTimePeriods_assembled (plants fuels connections : List Technology)
    (y : Nat) :
    y ∈ (b.assembled plants fuels connections).allTimePeriods ↔
      y ∈ b.allTimePeriods ∨ ∃ t ∈ plants ++ fuels ++ connections, t.Legacy b.periods y := by
  let planted := plants.foldl Builder.withTechnology b.withSystem
  let fuelled := fuels.foldl Builder.withFuel planted
  -- every loop starts from a builder with the periods of `b`
  have hp₁ : planted.periods = b.periods := by
    rw [Builder.foldl_periods Builder.withTechnology_setting, Builder.withSystem_periods]
  have hp₂ : fuelled.periods = b.periods := by
    rw [Builder.foldl_periods Builder.withFuel_setting, hp₁]
  unfold Builder.assembled
  rw [Builder.mem_allTimePeriods_foldl Builder.withConnection_setting
      (fun B t y => Builder.mem_allTimePeriods_withConnection) connections fuelled y,
    Builder.mem_allTimePeriods_foldl Builder.withFuel_setting
      (fun B t y => Builder.mem_allTimePeriods_withFuel) fuels planted y,
    Builder.mem_allTimePeriods_foldl Builder.withTechnology_setting
      (fun B t y => Builder.mem_allTimePeriods_withTechnology) plants b.withSystem y,
    Builder.withSystem_allTimePeriods, Builder.withSystem_periods, hp₁, hp₂]
  simp only [List.mem_append, or_and_right, exists_or, or_assoc]

theorem Builder.nodup_allTimePeriods_assembled (h : b.allTimePeriods.Nodup)
    (plants fuels connections : List Technology) :
    (b.assembled plants fuels connections).allTimePeriods.Nodup := by
  have hsys : b.withSystem.allTimePeriods.Nodup := by rwa [Builder.withSystem_allTimePeriods]
  refine Builder.assembled_induction (fun B => B.allTimePeriods.Nodup)
    (fun B t hB => Builder.nodup_allTimePeriods_withTechnology hB t) (fun B t hB => ?_)
    (fun B t hB => ?_) plants fuels connections hsys
  · rw [Builder.withFuel_allTimePeriods]
    exact Builder.nodup_allTimePeriods_withTechnology hB t
  · rw [Builder.withConnection_allTimePeriods]
    exact Builder.nodup_allTimePeriods_withTechnology hB t

/-- The commodities of an assembled model: those of the system-wide stage, the output of every
fuel, and both ends of every connection. -/
theorem Builder.mem_commodities_assembled (plants fuels connections : List Technology)
    (x : String) :
    x ∈ (b.assembled plants fuels connections).commodities ↔
      x ∈ b.withSystem.commodities ∨ (∃ t ∈ fuels, x = t.output) ∨
        ∃ t ∈ connections, x = t.input ∨ x = t.output := by
  have hplants : (plants.foldl Builder.withTechnology b.withSystem).commodities =
      b.withSystem.commodities :=
    Builder.foldl_induction (fun B => B.commodities = b.withSystem.commodities)
      (fun B t hB => (Builder.withTechnology_commodities B t).trans hB) plants rfl
  unfold Builder.assembled
  rw [@Builder.mem_commodities_foldl Builder.withConnection (fun t => [t.input, t.output])
      (fun B t x => Builder.mem_withConnection_commodities),
    @Builder.mem_commodities_foldl Builder.withFuel (fun t => [t.output])
      (fun B t x => Builder.mem_withFuel_commodities), hplants]
  simp only [List.mem_cons, List.not_mem_nil, or_false, or_assoc]

theorem Builder.nodup_commodities_assembled (h : b.commodities.Nodup)
    (plants fuels connections : List Technology) :
    (b.assembled plants fuels connections).commodities.Nodup := by
  have hstep : ∀ (B : Builder) (id : String), B.commodities.Nodup →
      (B.register id "p" id).commodities.Nodup :=
    fun B id hB => Builder.nodup_register_commodities hB id "p" id
  -- a technology registers nothing; a fuel and a connection register only what is new
  refine Builder.assembled_induction (fun B => B.commodities.Nodup)
    (fun B t hB => by rwa [Builder.withTechnology_commodities]) (fun B t hB => ?_)
    (fun B t hB => ?_) plants fuels connections (Builder.nodup_withSystem_commodities h)
  · exact hstep _ _ (by rwa [Builder.withTechnology_commodities])
  · exact hstep _ _ (hstep _ _ (by rwa [Builder.withTechnology_commodities]))

end Lists

/-! ## The builder an assembly starts from -/

/-- What holds of the builder an assembly starts from: no rows and no commodities yet, at
least two demand years, every year but the last open for investment, and the demand years,
each once, as the periods met so far. -/
structure Builder.Fresh (b : Builder) : Prop where
  catalogued : b.relations.Catalogued
  rows_nil : ∀ r, (b.relations.rows r).toList = []
  commodities_nil : b.commodities = []
  mem_allTimePeriods : ∀ y, y ∈ b.allTimePeriods ↔ y ∈ b.periods.future
  nodup_allTimePeriods : b.allTimePeriods.Nodup
  future_eq : b.periods.future = b.inputs.system.demand.map (·.year)
  activeFuture_eq : b.periods.activeFuture = b.periods.future.dropLast
  two_le_length : 2 ≤ b.periods.future.length

theorem Builder.start_fresh {inputs : Input.InputTables} {scenario : Scenario} {b : Builder}
    (h : Builder.start inputs scenario = .ok b) :
    b.Fresh ∧ b.periods.future = inputs.system.demand.map (·.year) := by
  obtain ⟨periods, hp, rfl⟩ := Builder.start_eq_ok.mp h
  unfold Periods.ofDemandYears at hp
  split at hp
  · cases hp
  · rename_i hlen
    cases hp
    -- the start lists the demand years through the same fold that adds unseen years
    have hfold : ∀ years : List Nat,
        years.foldl (fun acc y => if acc.contains y then acc else acc ++ [y]) [] =
          years.foldl addNew [] := fun _ => rfl
    refine ⟨⟨RelationSet.catalogued_empty, fun r => by simp, rfl, fun y => ?_, ?_, rfl, rfl, ?_⟩,
      rfl⟩
    · simp only [hfold, mem_foldl_addNew, List.not_mem_nil, false_or]
    · simp only [hfold]
      exact nodup_foldl_addNew List.nodup_nil _
    · show 2 ≤ (inputs.system.demand.map (·.year)).length
      omega

namespace Builder.Fresh

variable {b : Builder}

theorem activeFuture_ne_nil (h : b.Fresh) : b.periods.activeFuture ≠ [] := by
  rw [h.activeFuture_eq]
  intro hnil
  have := congrArg List.length hnil
  simp only [List.length_dropLast, List.length_nil] at this
  have := h.two_le_length
  omega

theorem mem_future_of_mem_activeFuture (h : b.Fresh) {y : Nat} (hy : y ∈ b.periods.activeFuture) :
    y ∈ b.periods.future := by
  rw [h.activeFuture_eq] at hy
  exact List.dropLast_subset _ hy

/-- A row of an assembled model, in a relation that only the stages write, is a row of the
system-wide stage or of one of the technologies. -/
theorem mem_rows_assembled (h : b.Fresh) {r : Relation} (hr : r ≠ .timePeriods)
    (hr' : r ≠ .commodities) {plants fuels connections : List Technology} {row : Tuple}
    (hrow : row ∈ ((b.assembled plants fuels connections).relations.rows r).toList) :
    row ∈ rowsIn r (calendarPushes b.setting ++ policyPushes b.setting) ∨
      ∃ t ∈ plants ++ fuels ++ connections, row ∈ rowsIn r (techPushes b.setting t) := by
  rw [Builder.rows_assembled h.catalogued hr hr', h.rows_nil, List.nil_append, rowsIn_append,
    List.mem_append, rowsIn_flatMap, List.mem_flatMap] at hrow
  exact hrow

/-- The rows of an assembled model in a relation of the technologies: those of each technology,
in the order they are added. -/
theorem rows_assembled_of_technology (h : b.Fresh) {r : Relation} (hr : r ∉ Relation.systemWide)
    (plants fuels connections : List Technology) :
    ((b.assembled plants fuels connections).relations.rows r).toList =
      (plants ++ fuels ++ connections).flatMap fun t => rowsIn r (techPushes b.setting t) := by
  have htp : r ≠ .timePeriods := fun h => hr (h ▸ by decide)
  have hcm : r ≠ .commodities := fun h => hr (h ▸ by decide)
  rw [Builder.rows_assembled h.catalogued htp hcm, h.rows_nil, List.nil_append, rowsIn_append,
    rowsIn_system_of_technology _ hr, List.nil_append, rowsIn_flatMap]

/-- The rows of an assembled model in a relation that only the system-wide stage writes. -/
theorem rows_assembled_of_system (h : b.Fresh) {r : Relation} (hr : r ∈ Relation.systemWide)
    (htp : r ≠ .timePeriods) (hcm : r ≠ .commodities) (plants fuels connections : List Technology) :
    ((b.assembled plants fuels connections).relations.rows r).toList =
      rowsIn r (calendarPushes b.setting ++ policyPushes b.setting) := by
  rw [Builder.rows_assembled h.catalogued htp hcm, h.rows_nil, List.nil_append, rowsIn_append,
    rowsIn_flatMap]
  simp only [rowsIn_techPushes_of_system _ _ hr, flatMap_const_nil, List.append_nil]

/-- Every period of an assembled model has its row: flagged `f` for a demand year, `e` for a
vintage of existing capacity. -/
theorem timePeriods_row (h : b.Fresh) {plants fuels connections : List Technology} {y : Nat}
    (hy : y ∈ (b.assembled plants fuels connections).allTimePeriods) :
    ∃ flag, [.year y, .text flag] ∈
      ((b.assembled plants fuels connections).relations.rows .timePeriods).toList := by
  obtain ⟨P, -, hp, -, ht, -⟩ := Builder.extends_assembled h.catalogued plants fuels connections
  rw [hp, Builder.withSystem_allTimePeriods, List.mem_append] at hy
  rw [ht, Builder.rows_withSystem h.catalogued (by decide), h.rows_nil, List.nil_append,
    rowsIn_system_timePeriods]
  rcases hy with hy | hy
  · refine ⟨"f", List.mem_append_left _ ?_⟩
    exact List.mem_map_of_mem ((h.mem_allTimePeriods y).mp hy)
  · exact ⟨"e", List.mem_append_right _ (List.mem_map_of_mem hy)⟩

end Builder.Fresh

end EnergyModel
