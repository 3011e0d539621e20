import EnergyModel.Proofs.Assembly.Whole
import EnergyModel.Proofs.Schedule

/-!
# The rows of an assembled model

Every relation but the periods and the commodities gets its rows from the system-wide stage
and from the technologies, each technology's rows reading only the setting: its rows in an
assembled model are the pushes of those to it, in order. The periods and the commodities get
rows also when a vintage or a commodity is met for the first time; what holds of those is
stated through the builder's list of periods and of commodities.
-/

namespace EnergyModel

open Assembly

/-- A property of builders that every step on a technology keeps holds after a loop of them. -/
theorem Builder.foldl_induction (P : Builder → Prop) {step : Builder → Technology → Builder}
    (hstep : ∀ b t, P b → P (step b t)) (ts : List Technology) {b : Builder} (hb : P b) :
    P (ts.foldl step b) := by
  induction ts generalizing b with
  | nil => exact hb
  | cons t ts ih => exact ih (hstep b t hb)

/-- A property of builders that the system-wide stage establishes and every step on a power
plant, a fuel or a connection keeps holds at the end of an assembly. -/
theorem Builder.assembled_induction (P : Builder → Prop)
    (htech : ∀ b t, P b → P (b.withTechnology t)) (hfuel : ∀ b t, P b → P (b.withFuel t))
    (hconn : ∀ b t, P b → P (b.withConnection t)) (plants fuels connections : List Technology)
    {b : Builder} (hb : P b.withSystem) : P (b.assembled plants fuels connections) :=
  Builder.foldl_induction P hconn connections
    (Builder.foldl_induction P hfuel fuels (Builder.foldl_induction P htech plants hb))

/-! ## Every relation keeps its table -/

section Catalogued

variable {b : Builder}

theorem Builder.catalogued_emit (h : b.relations.Catalogued) (L : List (Relation × Tuple)) :
    (b.emit L).relations.Catalogued :=
  RelationSet.Catalogued.appendAll h L

theorem Builder.catalogued_addPeriod (h : b.relations.Catalogued) (y : Nat) :
    (b.addPeriod y).relations.Catalogued := by
  unfold Builder.addPeriod
  split
  · exact h
  · exact Builder.catalogued_emit h _

theorem Builder.catalogued_register (h : b.relations.Catalogued) (id flag description : String) :
    (b.register id flag description).relations.Catalogued := by
  unfold Builder.register
  split
  · exact h
  · exact Builder.catalogued_emit h _

theorem Builder.catalogued_foldl_addPeriod (h : b.relations.Catalogued) (years : List Nat) :
    (years.foldl Builder.addPeriod b).relations.Catalogued := by
  induction years generalizing b with
  | nil => exact h
  | cons y ys ih => exact ih (Builder.catalogued_addPeriod h y)

theorem Builder.catalogued_withTechnology (h : b.relations.Catalogued) (t : Technology) :
    (b.withTechnology t).relations.Catalogued :=
  Builder.catalogued_emit (Builder.catalogued_foldl_addPeriod h _) _

theorem Builder.catalogued_withFuel (h : b.relations.Catalogued) (t : Technology) :
    (b.withFuel t).relations.Catalogued :=
  Builder.catalogued_register (Builder.catalogued_withTechnology h t) _ _ _

theorem Builder.catalogued_withConnection (h : b.relations.Catalogued) (t : Technology) :
    (b.withConnection t).relations.Catalogued :=
  Builder.catalogued_register
    (Builder.catalogued_register (Builder.catalogued_withTechnology h t) _ _ _) _ _ _

theorem Builder.catalogued_withSystem (h : b.relations.Catalogued) :
    b.withSystem.relations.Catalogued := by
  unfold Builder.withSystem
  exact Builder.catalogued_emit (Builder.catalogued_register (Builder.catalogued_register
    (Builder.catalogued_register (Builder.catalogued_emit h _) _ _ _) _ _ _) _ _ _) _

end Catalogued

/-! ## Relations that only the stages write -/

section Local

variable {b : Builder} {r : Relation}

theorem Builder.rows_emit (h : b.relations.Catalogued) (L : List (Relation × Tuple)) (r : Relation) :
    ((b.emit L).relations.rows r).toList = (b.relations.rows r).toList ++ rowsIn r L :=
  RelationSet.rows_appendAll h L r

theorem Builder.rows_addPeriod (h : b.relations.Catalogued) (hr : r ≠ .timePeriods) (y : Nat) :
    ((b.addPeriod y).relations.rows r).toList = (b.relations.rows r).toList := by
  unfold Builder.addPeriod
  split
  · rfl
  · show ((b.relations.appendAll _).rows r).toList = _
    rw [RelationSet.rows_appendAll h]
    simp [Ne.symm hr]

theorem Builder.rows_register (h : b.relations.Catalogued) (hr : r ≠ .commodities)
    (id flag description : String) :
    ((b.register id flag description).relations.rows r).toList = (b.relations.rows r).toList := by
  unfold Builder.register
  split
  · rfl
  · show ((b.relations.appendAll _).rows r).toList = _
    rw [RelationSet.rows_appendAll h]
    simp [Ne.symm hr]

theorem Builder.rows_withTechnology (h : b.relations.Catalogued) (hr : r ≠ .timePeriods)
    (t : Technology) :
    ((b.withTechnology t).relations.rows r).toList =
      (b.relations.rows r).toList ++ rowsIn r (techPushes b.setting t) := by
  have hlegacy : ∀ (years : List Nat) (B : Builder), B.relations.Catalogued →
      ((years.foldl Builder.addPeriod B).relations.rows r).toList = (B.relations.rows r).toList := by
    intro years
    induction years with
    | nil => intro B _; rfl
    | cons y ys ih =>
      intro B hB
      rw [List.foldl_cons, ih _ (Builder.catalogued_addPeriod hB y), Builder.rows_addPeriod hB hr]
  unfold Builder.withTechnology
  rw [Builder.rows_emit (Builder.catalogued_foldl_addPeriod h _), hlegacy _ _ h]

theorem Builder.rows_withFuel (h : b.relations.Catalogued) (hr : r ≠ .timePeriods)
    (hr' : r ≠ .commodities) (t : Technology) :
    ((b.withFuel t).relations.rows r).toList =
      (b.relations.rows r).toList ++ rowsIn r (techPushes b.setting t) := by
  unfold Builder.withFuel
  rw [Builder.rows_register (Builder.catalogued_withTechnology h t) hr',
    Builder.rows_withTechnology h hr]

theorem Builder.rows_withConnection (h : b.relations.Catalogued) (hr : r ≠ .timePeriods)
    (hr' : r ≠ .commodities) (t : Technology) :
    ((b.withConnection t).relations.rows r).toList =
      (b.relations.rows r).toList ++ rowsIn r (techPushes b.setting t) := by
  unfold Builder.withConnection
  rw [Builder.rows_register (Builder.catalogued_register (Builder.catalogued_withTechnology h t)
    _ _ _) hr', Builder.rows_register (Builder.catalogued_withTechnology h t) hr',
    Builder.rows_withTechnology h hr]

/-- A loop of steps that each append a technology's rows appends the rows of all of them. -/
theorem Builder.rows_foldl {step : Builder → Technology → Builder}
    (hcat : ∀ b t, b.relations.Catalogued → (step b t).relations.Catalogued)
    (hset : ∀ b t, (step b t).setting = b.setting)
    (hrows : ∀ b t, b.relations.Catalogued →
      ((step b t).relations.rows r).toList =
        (b.relations.rows r).toList ++ rowsIn r (techPushes b.setting t))
    (ts : List Technology) (h : b.relations.Catalogued) :
    ((ts.foldl step b).relations.rows r).toList =
      (b.relations.rows r).toList ++ rowsIn r (ts.flatMap (techPushes b.setting)) := by
  induction ts generalizing b with
  | nil => simp
  | cons t ts ih =>
    rw [List.foldl_cons, ih (hcat b t h), hrows b t h, hset, List.flatMap_cons, rowsIn_append,
      List.append_assoc]

theorem Builder.rows_withSystem (h : b.relations.Catalogued) (hr : r ≠ .commodities) :
    (b.withSystem.relations.rows r).toList =
      (b.relations.rows r).toList ++ rowsIn r (calendarPushes b.setting ++ policyPushes b.setting) := by
  have h₁ := Builder.catalogued_emit h (calendarPushes b.setting)
  have h₂ := Builder.catalogued_register h₁ dummyCommodity "p" "dummy variable"
  have h₃ := Builder.catalogued_register h₂ demandCommodity "d" "demand variable"
  have h₄ := Builder.catalogued_register h₃ emissionCommodity "e" "emission"
  unfold Builder.withSystem
  rw [Builder.rows_emit h₄, Builder.rows_register h₃ hr, Builder.rows_register h₂ hr,
    Builder.rows_register h₁ hr, Builder.rows_emit h, rowsIn_append, List.append_assoc]

/-- The rows of a relation that only the stages write, in an assembled model: those of the
system-wide stage, then those of every technology in the order they are added. -/
theorem Builder.rows_assembled (h : b.relations.Catalogued) (hr : r ≠ .timePeriods)
    (hr' : r ≠ .commodities) (plants fuels connections : List Technology) :
    ((b.assembled plants fuels connections).relations.rows r).toList =
      (b.relations.rows r).toList ++ rowsIn r (calendarPushes b.setting ++ policyPushes b.setting ++
        (plants ++ fuels ++ connections).flatMap (techPushes b.setting)) := by
  have hsys := Builder.catalogued_withSystem h
  have hplants := Builder.foldl_induction (fun b => b.relations.Catalogued)
    (fun b t hb => Builder.catalogued_withTechnology hb t) plants hsys
  have hfuels := Builder.foldl_induction (fun b => b.relations.Catalogued)
    (fun b t hb => Builder.catalogued_withFuel hb t) fuels hplants
  unfold Builder.assembled
  rw [Builder.rows_foldl (fun b t hb => Builder.catalogued_withConnection hb t)
      Builder.withConnection_setting (fun b t hb => Builder.rows_withConnection hb hr hr' t)
      connections hfuels,
    Builder.rows_foldl (fun b t hb => Builder.catalogued_withFuel hb t)
      Builder.withFuel_setting (fun b t hb => Builder.rows_withFuel hb hr hr' t) fuels hplants,
    Builder.rows_foldl (fun b t hb => Builder.catalogued_withTechnology hb t)
      Builder.withTechnology_setting (fun b t hb => Builder.rows_withTechnology hb hr t) plants hsys,
    Builder.rows_withSystem h hr']
  simp only [Builder.foldl_setting Builder.withFuel_setting,
    Builder.foldl_setting Builder.withTechnology_setting, Builder.withSystem_setting,
    List.flatMap_append, rowsIn_append, List.append_assoc]

end Local

end EnergyModel
