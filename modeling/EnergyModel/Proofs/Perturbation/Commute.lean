import EnergyModel.Proofs.Perturbation.Effect
import Mathlib.Data.List.Pairwise
import Mathlib.Tactic.SplitIfs

/-!
# Directives on different values commute

A directive changes one value: a global parameter, or the value of one column in one entity's
row (`Directive.target`). Two directives on different values, which are not the efficiency and
the heat rate of one plant, commute (`applyDirective_comm`): applied one after the other, each
whether or not the first failed, they leave the same inputs and the same scenario in either
order, and each gives the same result in either order.

The proof works on the description of `Perturbation.Effect`. Directives of different families
write different tables. Two directives on one table change rows by `Catalog.modify`, and changes
at two names commute; at one name they change two columns of the row. Every two columns of a
table are apart (`NumericColumn.Apart`): writing one neither changes the other nor depends on it.
What follows a change, the recomputed heat rate or efficiency, keeps every other column
(`NumericColumn.Keeps`), so the changes of one row commute too (`UpdatesCommute`). The efficiency
and the heat rate of one plant are the exception: each recomputes the other.

Whether a directive fails depends on which names its tables have, which no directive changes,
and, for a power plant directive, on whether its value is present, which a directive on another
column leaves alone.
-/

namespace EnergyModel

open Input

/-! ## Changes of a table at two names -/

namespace Input.Catalog

variable {α : Type}

theorem modify_comm (c : Catalog α) {key key' : String} (u u' : α → Option α)
    (h : key ≠ key') :
    (c.modify key u).modify key' u' = (c.modify key' u').modify key u := by
  cases hr : c.get? key with
  | none =>
    have hr' : (c.modify key' u').get? key = none := by rw [get?_modify_of_ne _ _ h, hr]
    rw [modify_of_get?_none hr, modify_of_get?_none hr']
  | some r =>
    cases hr' : c.get? key' with
    | none =>
      have hr₁ : (c.modify key u).get? key' = none := by rw [get?_modify_of_ne _ _ h.symm, hr']
      rw [modify_of_get?_none hr', modify_of_get?_none hr₁]
    | some r' =>
      have hr₁ : (c.modify key u).get? key' = some r' := by rw [get?_modify_of_ne _ _ h.symm, hr']
      have hr₂ : (c.modify key' u').get? key = some r := by rw [get?_modify_of_ne _ _ h, hr]
      rw [modify_of_get? hr₁, modify_of_get? hr₂, modify_of_get? hr, modify_of_get? hr']
      cases u r <;> cases u' r' <;> simp [set_comm _ _ _ h]

end Input.Catalog

namespace Input

variable {α : Type}

/-- Two changes to a row commute: whether one changes the row does not depend on the other
having changed it first, and both orders end in the same row. -/
structure UpdatesCommute (u v : α → Option α) : Prop where
  left : ∀ r, (v ((u r).getD r)).isSome = (v r).isSome
  right : ∀ r, (u ((v r).getD r)).isSome = (u r).isSome
  both : ∀ r, (v ((u r).getD r)).getD ((u r).getD r) = (u ((v r).getD r)).getD ((v r).getD r)

theorem UpdatesCommute.symm {u v : α → Option α} (h : UpdatesCommute u v) :
    UpdatesCommute v u :=
  ⟨h.right, h.left, fun r => (h.both r).symm⟩

theorem Catalog.modify_modify (c : Catalog α) (key : String) {u v : α → Option α}
    (h : UpdatesCommute u v) : (c.modify key u).modify key v = (c.modify key v).modify key u := by
  cases hr : c.get? key with
  | none => simp only [Catalog.modify_of_get?_none hr]
  | some r =>
    have hu : (c.modify key u).get? key = some ((u r).getD r) := by
      rw [Catalog.get?_modify_self, hr]; rfl
    have hv : (c.modify key v).get? key = some ((v r).getD r) := by
      rw [Catalog.get?_modify_self, hr]; rfl
    rw [Catalog.modify_of_get? hu, Catalog.modify_of_get? hv, Catalog.modify_of_get? hr,
      Catalog.modify_of_get? hr]
    have hleft := h.left r
    have hright := h.right r
    have hboth := h.both r
    -- when both change the row, each still changes the other's row, to one common row
    cases hur : u r with
    | none => cases hvr : v r <;> simp_all
    | some x =>
      cases hvr : v r with
      | none => simp_all
      | some y =>
        simp only [hur, hvr, Option.getD_some, Option.isSome_some, Option.isSome_iff_exists]
          at hleft hright hboth
        obtain ⟨x', hx'⟩ := hleft
        obtain ⟨y', hy'⟩ := hright
        simp only [hx', hy', Option.getD_some] at hboth
        simp [hx', hy', hboth, Catalog.set_set]

/-- Two columns are apart when writing one neither changes what the other reads nor depends on
what the other holds. -/
structure NumericColumn.Apart (c c' : NumericColumn α) : Prop where
  get_set : ∀ r v, c'.get (c.set r v) = c'.get r
  get_set' : ∀ r v, c.get (c'.set r v) = c.get r
  set_comm : ∀ r v v', c'.set (c.set r v) v' = c.set (c'.set r v') v

theorem NumericColumn.Apart.symm {c c' : NumericColumn α} (h : c.Apart c') : c'.Apart c :=
  ⟨h.get_set', h.get_set, fun r v v' => (h.set_comm r v' v).symm⟩

instance : Std.Symm (@NumericColumn.Apart α) := ⟨fun _ _ h => h.symm⟩

theorem NumericColumn.apart_of_mem {columns : List (NumericColumn α)}
    (h : columns.Pairwise NumericColumn.Apart) {c c' : NumericColumn α} (hc : c ∈ columns)
    (hc' : c' ∈ columns) (hne : c.header ≠ c'.header) : c.Apart c' :=
  h.forall hc hc' fun heq => hne (heq ▸ rfl)

theorem NumericColumn.find?_eq_some {columns : List (NumericColumn α)} {header : String}
    {c : NumericColumn α} (h : NumericColumn.find? columns header = some c) :
    c ∈ columns ∧ c.header = header := by
  refine ⟨List.mem_of_find?_eq_some h, ?_⟩
  simpa using List.find?_some h

/-- A change to a row keeps a column when it leaves that column's value alone and does not
depend on it. -/
structure NumericColumn.Keeps (c : NumericColumn α) (f : α → α) : Prop where
  get : ∀ r, c.get (f r) = c.get r
  set : ∀ r v, f (c.set r v) = c.set (f r) v

theorem NumericColumn.keeps_id (c : NumericColumn α) : c.Keeps fun r => r :=
  ⟨fun _ => rfl, fun _ _ => rfl⟩

theorem NumericColumn.isSome_changeWith (c : NumericColumn α) (d : Directive)
    (after : Float → α → α) (r : α) :
    (c.changeWith d after r).isSome = (d.magnitude.changed d.quantity d.tech (c.get r)).isSome :=
  Option.isSome_map

/-- A change reads nothing of the row but its own column. -/
theorem NumericColumn.changeWith_of_get {c : NumericColumn α} {r r' : α} (d : Directive)
    (after : Float → α → α) (h : c.get r' = c.get r) :
    c.changeWith d after r' = (d.magnitude.changed d.quantity d.tech (c.get r)).map
      fun v => after v (c.set r' (some v)) := by
  unfold NumericColumn.changeWith
  rw [h]

theorem NumericColumn.get_changeWith {c c' : NumericColumn α} (h : c.Apart c') (d : Directive)
    {after : Float → α → α} (hkeep : ∀ v, c'.Keeps (after v)) (r : α) :
    c'.get ((c.changeWith d after r).getD r) = c'.get r := by
  unfold NumericColumn.changeWith
  cases d.magnitude.changed d.quantity d.tech (c.get r) with
  | none => rfl
  | some v =>
    show c'.get (after v (c.set r (some v))) = c'.get r
    rw [(hkeep v).get, h.get_set]

/-- Changes of two columns that are apart commute, when what follows each change keeps the
other column and the two follow-ups commute. -/
theorem NumericColumn.Apart.changeWith_commute {c₁ c₂ : NumericColumn α} (h : c₁.Apart c₂)
    {d₁ d₂ : Directive} {a₁ a₂ : Float → α → α} (hk₁ : ∀ v, c₂.Keeps (a₁ v))
    (hk₂ : ∀ v, c₁.Keeps (a₂ v))
    (hcomm : ∀ v w r, a₁ v (a₂ w r) = a₂ w (a₁ v r)) :
    UpdatesCommute (c₁.changeWith d₁ a₁) (c₂.changeWith d₂ a₂) := by
  have get₂ := NumericColumn.get_changeWith h d₁ hk₁
  have get₁ := NumericColumn.get_changeWith h.symm d₂ hk₂
  refine ⟨fun r => ?_, fun r => ?_, fun r => ?_⟩
  · rw [NumericColumn.isSome_changeWith, NumericColumn.isSome_changeWith, get₂]
  · rw [NumericColumn.isSome_changeWith, NumericColumn.isSome_changeWith, get₁]
  · -- each change reads its own column as it was, whichever change came first
    have hget₂ (v : Float) : c₂.get (a₁ v (c₁.set r (some v))) = c₂.get r := by
      rw [(hk₁ v).get, h.get_set]
    have hget₁ (w : Float) : c₁.get (a₂ w (c₂.set r (some w))) = c₁.get r := by
      rw [(hk₂ w).get, h.get_set']
    have hu₁ (r' : α) (hr' : c₁.get r' = c₁.get r) := c₁.changeWith_of_get d₁ a₁ hr'
    have hu₂ (r' : α) (hr' : c₂.get r' = c₂.get r) := c₂.changeWith_of_get d₂ a₂ hr'
    cases hv : d₁.magnitude.changed d₁.quantity d₁.tech (c₁.get r) with
    | none => simp only [hu₁ r rfl, hu₁ _ (get₁ r), hv, Option.map_none, Option.getD_none]
    | some v =>
      cases hw : d₂.magnitude.changed d₂.quantity d₂.tech (c₂.get r) with
      | none => simp only [hu₂ r rfl, hu₂ _ (get₂ r), hw, Option.map_none, Option.getD_none]
      | some w =>
        simp only [hu₁ r rfl, hu₂ r rfl, hu₂ _ (hget₂ v), hu₁ _ (hget₁ w), hv, hw,
          Option.map_some, Option.getD_some]
        calc a₂ w (c₂.set (a₁ v (c₁.set r (some v))) (some w))
            = a₂ w (a₁ v (c₂.set (c₁.set r (some v)) (some w))) := by rw [(hk₁ v).set]
          _ = a₂ w (a₁ v (c₁.set (c₂.set r (some w)) (some v))) := by rw [h.set_comm]
          _ = a₁ v (a₂ w (c₁.set (c₂.set r (some w)) (some v))) := (hcomm v w _).symm
          _ = a₁ v (c₁.set (a₂ w (c₂.set r (some w))) (some v)) := by rw [(hk₂ w).set]

/-! ## The columns of each table are apart -/

theorem Plant.columns_apart : Plant.columns.Pairwise NumericColumn.Apart :=
  List.pairwise_pair.2 ⟨fun _ _ => rfl, fun _ _ => rfl, fun _ _ _ => rfl⟩

theorem Performance.columns_apart : Performance.columns.Pairwise NumericColumn.Apart := by
  simp only [Performance.columns, List.pairwise_cons, List.mem_cons, List.not_mem_nil, or_false,
    forall_eq_or_imp, forall_eq, List.Pairwise.nil, and_true, false_implies, implies_true]
  and_intros
  all_goals exact ⟨fun _ _ => rfl, fun _ _ => rfl, fun _ _ _ => rfl⟩

theorem Costs.columns_apart : Costs.columns.Pairwise NumericColumn.Apart := by
  simp only [Costs.columns, List.pairwise_cons, List.mem_cons, List.not_mem_nil, or_false,
    forall_eq_or_imp, forall_eq, List.Pairwise.nil, and_true, false_implies, implies_true]
  and_intros
  all_goals exact ⟨fun _ _ => rfl, fun _ _ => rfl, fun _ _ _ => rfl⟩

theorem Constraints.columns_apart : Constraints.columns.Pairwise NumericColumn.Apart := by
  simp only [Constraints.columns, List.pairwise_cons, List.mem_cons, List.not_mem_nil, or_false,
    forall_eq_or_imp, forall_eq, List.Pairwise.nil, and_true, false_implies, implies_true]
  and_intros
  all_goals exact ⟨fun _ _ => rfl, fun _ _ => rfl, fun _ _ _ => rfl⟩

theorem Fuel.columns_apart : Fuel.columns.Pairwise NumericColumn.Apart := by
  simp only [Fuel.columns, List.pairwise_cons, List.mem_cons, List.not_mem_nil, or_false,
    forall_eq_or_imp, forall_eq, List.Pairwise.nil, and_true, false_implies, implies_true]
  and_intros
  all_goals exact ⟨fun _ _ => rfl, fun _ _ => rfl, fun _ _ _ => rfl⟩

theorem Connection.columns_apart : Connection.columns.Pairwise NumericColumn.Apart := by
  simp only [Connection.columns, List.pairwise_cons, List.mem_cons, List.not_mem_nil, or_false,
    forall_eq_or_imp, forall_eq, List.Pairwise.nil, and_true, false_implies, implies_true]
  and_intros
  all_goals exact ⟨fun _ _ => rfl, fun _ _ => rfl, fun _ _ _ => rfl⟩

/-- A new efficiency or heat rate recomputes only the other of the two. -/
theorem Performance.couple_of_ne {quantity : String} (heff : quantity ≠ "Efficiency")
    (hheat : quantity ≠ "HeatRate") (new : Float) (p : Performance) :
    p.couple quantity new = p := by
  simp [Performance.couple, heff, hheat]

theorem Performance.keeps_couple {c : NumericColumn Performance} (hc : c ∈ Performance.columns)
    (heff : c.header ≠ "Efficiency") (hheat : c.header ≠ "HeatRate") (quantity : String)
    (new : Float) : c.Keeps (Performance.couple quantity new) := by
  simp only [Performance.columns, List.mem_cons, List.not_mem_nil, or_false] at hc
  rcases hc with rfl | rfl | rfl | rfl
  · exact absurd rfl heff
  · exact absurd rfl hheat
  all_goals
    refine ⟨fun p => ?_, fun p v => ?_⟩
    all_goals
      unfold Performance.couple
      split_ifs <;> rfl

end Input

/-! ## Two directives on one table -/

theorem Magnitude.isSome_changed (m : Magnitude) (quantity tech : String) (current : Option Float) :
    (m.changed quantity tech current).isSome = (present current).isSome :=
  Option.isSome_map

namespace Directive

variable {α : Type} {d d₁ d₂ : Directive} {columns : List (NumericColumn α)}

/-- Whether two directives' changes of one row commute: what `d₁` does after its change keeps
the column `d₂` changes, and the other way round. -/
def RowsCommute (d₁ d₂ : Directive) (columns : List (NumericColumn α))
    (a₁ a₂ : Float → α → α) : Prop :=
  d₁.tech = d₂.tech → ∀ col₁ col₂,
    NumericColumn.find? columns d₁.quantity = some col₁ →
    NumericColumn.find? columns d₂.quantity = some col₂ →
    UpdatesCommute (col₁.changeWith d₁ a₁) (col₂.changeWith d₂ a₂)

theorem tableAfter_comm {a₁ a₂ : Float → α → α}
    (h : d₁.RowsCommute d₂ columns a₁ a₂)
    (c : Catalog α) :
    d₂.tableAfter columns a₂ (d₁.tableAfter columns a₁ c) =
      d₁.tableAfter columns a₁ (d₂.tableAfter columns a₂ c) := by
  unfold tableAfter
  cases h₁ : NumericColumn.find? columns d₁.quantity with
  | none => rfl
  | some col₁ =>
    cases h₂ : NumericColumn.find? columns d₂.quantity with
    | none => rfl
    | some col₂ =>
      by_cases ht : d₁.tech = d₂.tech
      · rw [ht]
        exact Catalog.modify_modify c _ (h ht col₁ col₂ h₁ h₂)
      · exact Catalog.modify_comm c _ _ ht

@[simp] theorem contains_tableAfter (after : Float → α → α) (c : Catalog α) (key : String) :
    (d.tableAfter columns after c).contains key = c.contains key := by
  unfold tableAfter
  split
  · rfl
  · exact Catalog.contains_modify c _ _ _

theorem tableProblem_modify {key : String} {u : α → Option α} (c : Catalog α)
    (table : String) :
    d.tableProblem columns (c.modify key u) table = d.tableProblem columns c table := by
  have hsome : ((c.modify key u).get? d.tech).isSome = (c.get? d.tech).isSome := by
    rw [← Catalog.contains_eq_isSome_get?, ← Catalog.contains_eq_isSome_get?,
      Catalog.contains_modify]
  unfold tableProblem
  cases h : c.get? d.tech <;> cases h' : (c.modify key u).get? d.tech <;>
    cases NumericColumn.find? columns d.quantity <;> simp_all

/-- The rule a directive on a table breaks reads only which names the table has, which no
directive changes. -/
theorem tableProblem_tableAfter (d' : Directive) (after : Float → α → α) (c : Catalog α)
    (table : String) :
    d.tableProblem columns (d'.tableAfter columns after c) table =
      d.tableProblem columns c table := by
  unfold tableAfter
  split
  · rfl
  · exact tableProblem_modify c table

theorem changesValue_tableAfter {a₁ a₂ : Float → α → α}
    (h : d₁.RowsCommute d₂ columns a₁ a₂)
    (c : Catalog α) :
    d₂.changesValue columns (d₁.tableAfter columns a₁ c) = d₂.changesValue columns c := by
  unfold tableAfter
  cases h₁ : NumericColumn.find? columns d₁.quantity with
  | none => rfl
  | some col₁ =>
    unfold changesValue
    by_cases ht : d₁.tech = d₂.tech
    · -- the row `d₂` reads is the one `d₁` changed, in a column `d₁`'s change leaves alone
      rw [← ht, Catalog.get?_modify_self]
      cases hr : c.get? d₁.tech with
      | none => rfl
      | some r =>
        cases h₂ : NumericColumn.find? columns d₂.quantity with
        | none => rfl
        | some col₂ =>
          have hleft := (h ht col₁ col₂ h₁ h₂).left r
          rw [NumericColumn.isSome_changeWith, NumericColumn.isSome_changeWith,
            Magnitude.isSome_changed, Magnitude.isSome_changed] at hleft
          exact hleft
    · rw [Catalog.get?_modify_of_ne _ _ (Ne.symm ht)]

/-- Changes of two different columns of a table commute when nothing follows them. -/
theorem rowsCommute_of_apart (hcols : columns.Pairwise NumericColumn.Apart)
    (hq : d₁.tech = d₂.tech → d₁.quantity ≠ d₂.quantity) :
    d₁.RowsCommute d₂ columns (fun _ r => r) (fun _ r => r) := by
  intro ht col₁ col₂ h₁ h₂
  obtain ⟨hmem₁, hheader₁⟩ := NumericColumn.find?_eq_some h₁
  obtain ⟨hmem₂, hheader₂⟩ := NumericColumn.find?_eq_some h₂
  have hapart : col₁.Apart col₂ :=
    NumericColumn.apart_of_mem hcols hmem₁ hmem₂ (by rw [hheader₁, hheader₂]; exact hq ht)
  exact hapart.changeWith_commute (fun _ => col₂.keeps_id) (fun _ => col₁.keeps_id)
    fun _ _ _ => rfl

/-- Whether two variables are a plant's efficiency and heat rate, in either order. -/
def EfficiencyAndHeatRate (quantity quantity' : String) : Prop :=
  quantity = "Efficiency" ∧ quantity' = "HeatRate" ∨
    quantity = "HeatRate" ∧ quantity' = "Efficiency"

theorem keeps_couple_of {col : NumericColumn Performance} (hcol : col ∈ Performance.columns)
    (quantity : String) (h : quantity = "Efficiency" ∨ quantity = "HeatRate" →
      col.header ≠ "Efficiency" ∧ col.header ≠ "HeatRate") (v : Float) :
    col.Keeps (Performance.couple quantity v) := by
  by_cases hq : quantity = "Efficiency" ∨ quantity = "HeatRate"
  · exact Performance.keeps_couple hcol (h hq).1 (h hq).2 quantity v
  · have hid : Performance.couple quantity v = fun p => p :=
      funext (Performance.couple_of_ne (fun e => hq (.inl e)) (fun e => hq (.inr e)) v)
    rw [hid]
    exact col.keeps_id

/-- Changes of two different columns of the performance table commute, coupling included, unless
they are the efficiency and the heat rate of one plant. -/
theorem rowsCommute_performance (hq : d₁.tech = d₂.tech → d₁.quantity ≠ d₂.quantity)
    (hcouple : d₁.tech = d₂.tech → ¬ EfficiencyAndHeatRate d₁.quantity d₂.quantity) :
    d₁.RowsCommute d₂ Performance.columns (Performance.couple d₁.quantity)
      (Performance.couple d₂.quantity) := by
  intro ht col₁ col₂ h₁ h₂
  obtain ⟨hmem₁, hheader₁⟩ := NumericColumn.find?_eq_some h₁
  obtain ⟨hmem₂, hheader₂⟩ := NumericColumn.find?_eq_some h₂
  have hne := hq ht
  have hnot := hcouple ht
  have hapart : col₁.Apart col₂ := NumericColumn.apart_of_mem Performance.columns_apart hmem₁
    hmem₂ (by rw [hheader₁, hheader₂]; exact hne)
  -- at most one of the two recomputes anything, and never the column the other changes
  unfold EfficiencyAndHeatRate at hnot
  have hk₁ := keeps_couple_of hmem₂ d₁.quantity (by rw [hheader₂]; grind)
  have hk₂ := keeps_couple_of hmem₁ d₂.quantity (by rw [hheader₁]; grind)
  refine hapart.changeWith_commute hk₁ hk₂ fun v w r => ?_
  by_cases hq₁ : d₁.quantity = "Efficiency" ∨ d₁.quantity = "HeatRate"
  · have hq₂ : d₂.quantity ≠ "Efficiency" ∧ d₂.quantity ≠ "HeatRate" := by grind
    rw [Performance.couple_of_ne hq₂.1 hq₂.2, Performance.couple_of_ne hq₂.1 hq₂.2]
  · rw [Performance.couple_of_ne (fun e => hq₁ (.inl e)) (fun e => hq₁ (.inr e)),
      Performance.couple_of_ne (fun e => hq₁ (.inl e)) (fun e => hq₁ (.inr e))]

/-! ## Two directives of one family -/

/-- Two power plant directives on different cells change the plant tables in either order
alike. -/
theorem plantsAfter_comm (hq : d₁.tech = d₂.tech →
      (Perturbing.PlantTable.ofQuantity d₁.quantity).isSome → d₁.quantity ≠ d₂.quantity)
    (hcouple : d₁.tech = d₂.tech → ¬ EfficiencyAndHeatRate d₁.quantity d₂.quantity)
    (tables : PlantTables) :
    d₂.plantsAfter (d₁.plantsAfter tables) = d₁.plantsAfter (d₂.plantsAfter tables) := by
  unfold plantsAfter
  cases h₁ : Perturbing.PlantTable.ofQuantity d₁.quantity with
  | none => rfl
  | some t₁ =>
    cases h₂ : Perturbing.PlantTable.ofQuantity d₂.quantity with
    | none => rfl
    | some t₂ =>
      have hne : d₁.tech = d₂.tech → d₁.quantity ≠ d₂.quantity :=
        fun ht => hq ht (by simp [h₁])
      -- directives on different tables write different fields; on one table, `tableAfter_comm`
      cases t₁ <;> cases t₂
      case identity.identity =>
        simp only [tableAfter_comm (rowsCommute_of_apart Plant.columns_apart hne)]
      case performance.performance =>
        simp only [tableAfter_comm (rowsCommute_performance hne hcouple)]
      case costs.costs =>
        simp only [tableAfter_comm (rowsCommute_of_apart Costs.columns_apart hne)]
      case constraints.constraints =>
        simp only [tableAfter_comm (rowsCommute_of_apart Constraints.columns_apart hne)]
      all_goals rfl

/-- A power plant directive fails after another on a different cell exactly as it fails on its
own: it reads which names the tables have, and the value it changes, which the other leaves. -/
theorem plantProblem_plantsAfter (hq : d₁.tech = d₂.tech →
      (Perturbing.PlantTable.ofQuantity d₁.quantity).isSome → d₁.quantity ≠ d₂.quantity)
    (hcouple : d₁.tech = d₂.tech → ¬ EfficiencyAndHeatRate d₁.quantity d₂.quantity)
    (tables : PlantTables) :
    d₂.plantProblem (d₁.plantsAfter tables) = d₂.plantProblem tables := by
  unfold plantProblem plantsAfter
  cases h₂ : Perturbing.PlantTable.ofQuantity d₂.quantity with
  | none => rfl
  | some t₂ =>
    cases h₁ : Perturbing.PlantTable.ofQuantity d₁.quantity with
    | none => rfl
    | some t₁ =>
      have hne : d₁.tech = d₂.tech → d₁.quantity ≠ d₂.quantity :=
        fun ht => hq ht (by simp [h₁])
      have hplant := changesValue_tableAfter (rowsCommute_of_apart Plant.columns_apart hne)
      have hperformance := changesValue_tableAfter (rowsCommute_performance hne hcouple)
      have hcosts := changesValue_tableAfter (rowsCommute_of_apart Costs.columns_apart hne)
      have hconstraints :=
        changesValue_tableAfter (rowsCommute_of_apart Constraints.columns_apart hne)
      cases t₁ <;> cases t₂ <;>
        simp only [plantTableProblem, tableProblem_tableAfter, contains_tableAfter, hplant,
          hperformance, hcosts, hconstraints]

/-- Global directives on different parameters change the system tables in either order
alike. -/
theorem systemAfter_comm (hq : d₁.quantity ≠ d₂.quantity) (system : SystemTables) :
    d₂.systemAfter (d₁.systemAfter system) = d₁.systemAfter (d₂.systemAfter system) := by
  unfold systemAfter
  split <;> split <;> simp_all

theorem growthAfter_comm (hq : d₁.quantity ≠ d₂.quantity) (scenario : Scenario) :
    d₂.growthAfter (d₁.growthAfter scenario) =
      d₁.growthAfter (d₂.growthAfter scenario) := by
  unfold growthAfter
  split <;> split <;> simp_all

/-! ## Directives on different cells -/

/-- The value a directive changes: a global parameter, or a column of an entity's row. -/
inductive Target where
  | global (name : String)
  | plant (tech column : String)
  | fuel (tech column : String)
  | connection (tech column : String)
  deriving DecidableEq

/-- The value a directive changes; a baseline and a power plant directive on a variable of no
plant table change none. -/
def target (d : Directive) : Option Target :=
  match d.family with
  | .baseline => none
  | .globals => some (.global d.quantity)
  | .powerPlants =>
    (Perturbing.PlantTable.ofQuantity d.quantity).map fun _ => .plant d.tech d.quantity
  | .fuels => some (.fuel d.tech d.quantity)
  | .connections => some (.connection d.tech d.quantity)

/-- Whether two directives change the efficiency and the heat rate of one plant. -/
def Coupled (d₁ d₂ : Directive) : Prop :=
  d₁.family = .powerPlants ∧ d₂.family = .powerPlants ∧ d₁.tech = d₂.tech ∧
    EfficiencyAndHeatRate d₁.quantity d₂.quantity

/-- Two directives are separate when they change different values, and not the efficiency and
the heat rate of one plant. -/
def Separate (d₁ d₂ : Directive) : Prop :=
  (d₁.target = none ∨ d₁.target ≠ d₂.target) ∧ ¬ d₁.Coupled d₂

instance (quantity quantity' : String) : Decidable (EfficiencyAndHeatRate quantity quantity') :=
  inferInstanceAs (Decidable (_ ∨ _))

instance (d₁ d₂ : Directive) : Decidable (d₁.Coupled d₂) :=
  inferInstanceAs (Decidable (_ ∧ _))

instance (d₁ d₂ : Directive) : Decidable (d₁.Separate d₂) :=
  inferInstanceAs (Decidable (_ ∧ _))

theorem Separate.symm (h : d₁.Separate d₂) : d₂.Separate d₁ := by
  obtain ⟨htarget, hcouple⟩ := h
  refine ⟨?_, fun ⟨h₁, h₂, ht, hq⟩ => hcouple ⟨h₂, h₁, ht.symm, ?_⟩⟩
  · by_cases h₂ : d₂.target = none
    · exact .inl h₂
    · refine .inr fun heq => ?_
      rcases htarget with h₁ | h₁
      · exact h₂ (heq.trans h₁)
      · exact h₁ heq.symm
  · rcases hq with ⟨hq₂, hq₁⟩ | ⟨hq₂, hq₁⟩
    · exact .inr ⟨hq₁, hq₂⟩
    · exact .inl ⟨hq₁, hq₂⟩

/-- Two separate directives that both name a value name different values. -/
theorem Separate.target_ne {t₁ t₂ : Target} (h : d₁.Separate d₂)
    (h₁ : d₁.target = some t₁) (h₂ : d₂.target = some t₂) : t₁ ≠ t₂ := by
  rintro rfl
  rcases h.1 with hnone | hne
  · rw [h₁] at hnone
    cases hnone
  · exact hne (h₁.trans h₂.symm)

theorem target_globals (h : d.family = .globals) : d.target = some (.global d.quantity) := by
  simp [target, h]

theorem target_fuels (h : d.family = .fuels) : d.target = some (.fuel d.tech d.quantity) := by
  simp [target, h]

theorem target_connections (h : d.family = .connections) :
    d.target = some (.connection d.tech d.quantity) := by
  simp [target, h]

theorem target_powerPlants (h : d.family = .powerPlants) {table : Perturbing.PlantTable}
    (htable : Perturbing.PlantTable.ofQuantity d.quantity = some table) :
    d.target = some (.plant d.tech d.quantity) := by
  simp [target, h, htable]

section Families

variable (h : d₁.Separate d₂)
include h

theorem Separate.globals (hf₁ : d₁.family = .globals) (hf₂ : d₂.family = .globals) :
    d₁.quantity ≠ d₂.quantity := by
  intro hq
  exact h.target_ne (target_globals hf₁) (target_globals hf₂) (by rw [hq])

theorem Separate.fuels (hf₁ : d₁.family = .fuels) (hf₂ : d₂.family = .fuels) :
    d₁.tech = d₂.tech → d₁.quantity ≠ d₂.quantity := by
  intro ht hq
  exact h.target_ne (target_fuels hf₁) (target_fuels hf₂) (by rw [ht, hq])

theorem Separate.connections (hf₁ : d₁.family = .connections)
    (hf₂ : d₂.family = .connections) :
    d₁.tech = d₂.tech → d₁.quantity ≠ d₂.quantity := by
  intro ht hq
  exact h.target_ne (target_connections hf₁) (target_connections hf₂) (by rw [ht, hq])

theorem Separate.powerPlants (hf₁ : d₁.family = .powerPlants)
    (hf₂ : d₂.family = .powerPlants) :
    d₁.tech = d₂.tech → (Perturbing.PlantTable.ofQuantity d₁.quantity).isSome →
      d₁.quantity ≠ d₂.quantity := by
  intro ht hsome hq
  obtain ⟨table, htable⟩ := Option.isSome_iff_exists.mp hsome
  exact h.target_ne (target_powerPlants hf₁ htable) (target_powerPlants hf₂ (hq ▸ htable))
    (by rw [ht, hq])

theorem Separate.not_coupled (hf₁ : d₁.family = .powerPlants)
    (hf₂ : d₂.family = .powerPlants) :
    d₁.tech = d₂.tech → ¬ EfficiencyAndHeatRate d₁.quantity d₂.quantity :=
  fun ht hq => h.2 ⟨hf₁, hf₂, ht, hq⟩

end Families

/-- Two separate directives leave the same inputs in either order. -/
theorem inputsAfter_comm (h : d₁.Separate d₂) (inputs : InputTables) :
    d₂.inputsAfter (d₁.inputsAfter inputs) = d₁.inputsAfter (d₂.inputsAfter inputs) := by
  unfold inputsAfter
  -- directives of different families write different tables
  cases hf₁ : d₁.family <;> cases hf₂ : d₂.family
  case globals.globals => simp only [systemAfter_comm (h.globals hf₁ hf₂)]
  case powerPlants.powerPlants =>
    simp only [plantsAfter_comm (h.powerPlants hf₁ hf₂) (h.not_coupled hf₁ hf₂)]
  case fuels.fuels =>
    simp only [tableAfter_comm (rowsCommute_of_apart Fuel.columns_apart (h.fuels hf₁ hf₂))]
  case connections.connections =>
    simp only [tableAfter_comm
      (rowsCommute_of_apart Connection.columns_apart (h.connections hf₁ hf₂))]
  all_goals rfl

/-- Two separate directives leave the same scenario in either order. -/
theorem scenarioAfter_comm (h : d₁.Separate d₂) (scenario : Scenario) :
    d₂.scenarioAfter (d₁.scenarioAfter scenario) =
      d₁.scenarioAfter (d₂.scenarioAfter scenario) := by
  unfold scenarioAfter
  cases hf₁ : d₁.family <;> cases hf₂ : d₂.family
  case globals.globals => simp only [growthAfter_comm (h.globals hf₁ hf₂)]
  all_goals rfl

/-- A directive fails after a separate one exactly as it fails on its own. -/
theorem problem_inputsAfter (h : d₁.Separate d₂) (inputs : InputTables) :
    d₂.problem (d₁.inputsAfter inputs) = d₂.problem inputs := by
  unfold problem inputsAfter
  cases hf₁ : d₁.family <;> cases hf₂ : d₂.family
  case powerPlants.powerPlants =>
    exact plantProblem_plantsAfter (h.powerPlants hf₁ hf₂) (h.not_coupled hf₁ hf₂)
      inputs.plants
  case fuels.fuels => exact tableProblem_tableAfter _ _ _ _
  case connections.connections => exact tableProblem_tableAfter _ _ _ _
  all_goals rfl

end Directive

/-- Two directives on different values, and not the efficiency and the heat rate of one plant,
commute: applied one after the other, each applied whether or not the first failed, they leave
the same inputs and the same scenario in either order, and each gives the same result in either
order. -/
theorem applyDirective_comm {d₁ d₂ : Directive} (h : d₁.Separate d₂) (st : Perturbed) :
    let first := (applyDirective d₁).run.run st
    let second := (applyDirective d₂).run.run first.2
    let first' := (applyDirective d₂).run.run st
    let second' := (applyDirective d₁).run.run first'.2
    second.2.inputs = second'.2.inputs ∧ second.2.scenario = second'.2.scenario ∧
      first.1 = second'.1 ∧ second.1 = first'.1 := by
  obtain ⟨ns₁, h₁⟩ := applyDirective_ends d₁ st
  obtain ⟨ns₂, h₂⟩ := applyDirective_ends d₂ st
  obtain ⟨ns₁₂, h₁₂⟩ := applyDirective_ends d₂
    ⟨d₁.inputsAfter st.inputs, d₁.scenarioAfter st.scenario, st.notes ++ ns₁⟩
  obtain ⟨ns₂₁, h₂₁⟩ := applyDirective_ends d₁
    ⟨d₂.inputsAfter st.inputs, d₂.scenarioAfter st.scenario, st.notes ++ ns₂⟩
  simp only [h₁, h₂, h₁₂, h₂₁]
  exact ⟨Directive.inputsAfter_comm h st.inputs, Directive.scenarioAfter_comm h st.scenario,
    by rw [Directive.problem_inputsAfter h.symm], by rw [Directive.problem_inputsAfter h]⟩

/-- Ten percent more efficiency for a plant. -/
def efficiencyRise : Directive := ⟨.powerPlants, "Efficiency", "COAL", .multiplier 10.0⟩

/-- A lifetime of thirty years for the same plant. -/
def lifetimeThirty : Directive := ⟨.powerPlants, "ExpectedLifetime", "COAL", .value 30.0⟩

/-- A plant whose efficiency, heat rate, lifetime and capacity factor are all given. -/
def coalPlantInputs : Perturbed where
  inputs := { (default : InputTables) with
    plants := { (default : PlantTables) with
      performance :=
        ⟨[("COAL", ⟨"COAL", some 35.0, some 9750.0, some 40.0, some 85.0⟩)]⟩ } }
  scenario := default

/-- The two change one row of the performance table, and the first recomputes the heat rate of
that row: still they commute. -/
theorem efficiencyRise_lifetimeThirty_comm :
    efficiencyRise.Separate lifetimeThirty ∧
      let st := coalPlantInputs
      let first := (applyDirective efficiencyRise).run.run st
      let second := (applyDirective lifetimeThirty).run.run first.2
      let first' := (applyDirective lifetimeThirty).run.run st
      let second' := (applyDirective efficiencyRise).run.run first'.2
      second.2.inputs = second'.2.inputs ∧ second.2.scenario = second'.2.scenario ∧
        first.1 = second'.1 ∧ second.1 = first'.1 :=
  have h : efficiencyRise.Separate lifetimeThirty := by decide
  ⟨h, applyDirective_comm h coalPlantInputs⟩

end EnergyModel
