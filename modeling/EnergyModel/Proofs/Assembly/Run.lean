import EnergyModel.Model.Assembly

/-!
# Runs of assembly steps

An assembly step works on a builder and may write notes, and nothing in an assembly reads the
notes back. `Assembly.Runs m b a b'` says that `m`, run from `b` carrying any notes, succeeds
with `a` and ends in `b'`, having appended some notes to the ones it was given. It is the
semantics the statements about rows need, and it composes as the steps do: `Runs.bind` for
sequencing, `Runs.forM` and `Runs.foldlM` for loops. `Assembly.Fails m b e` is the other
outcome: `m` fails with `e` whatever notes it starts with.

A row whose number of values is right is appended without the check (`RelationSet.append`). A
relation set is `Catalogued` when every relation has its table, in catalogue order, as the empty
set has and every append keeps; the rows of a relation are then the rows pushed to it, in order
(`RelationSet.rows_appendAll`).
-/

namespace EnergyModel

/-! ## Relations and relation sets -/

theorem Relation.eq_of_ctorIdx_eq {a b : Relation} (h : a.ctorIdx = b.ctorIdx) : a = b := by
  have hd : decide (a = b) = true := by
    unfold decide instDecidableEqRelation
    rw [dif_pos h]
  exact of_decide_eq_true hd

/-- The derived comparison of relations compares their constructors, so it is equality. -/
instance : LawfulBEq Relation where
  eq_of_beq {a b} h :=
    Relation.eq_of_ctorIdx_eq (beq_iff_eq.mp (show (a.ctorIdx == b.ctorIdx) = true from h))
  rfl {a} := show (a.ctorIdx == a.ctorIdx) = true from beq_self_eq_true _

theorem Relation.mem_all (r : Relation) : r ∈ Relation.all := by
  cases r <;> simp [Relation.all]

/-- The rows that a list of pushes gives one relation, in order. -/
def rowsIn (r : Relation) (pushes : List (Relation × Tuple)) : List Tuple :=
  pushes.filterMap fun e => if e.1 = r then some e.2 else none

@[simp] theorem rowsIn_nil (r : Relation) : rowsIn r [] = [] := rfl

@[simp] theorem rowsIn_cons (r r' : Relation) (row : Tuple) (L : List (Relation × Tuple)) :
    rowsIn r ((r', row) :: L) = if r' = r then row :: rowsIn r L else rowsIn r L := by
  by_cases h : r' = r <;> simp [rowsIn, h]

@[simp] theorem rowsIn_append (r : Relation) (L₁ L₂ : List (Relation × Tuple)) :
    rowsIn r (L₁ ++ L₂) = rowsIn r L₁ ++ rowsIn r L₂ := by
  simp [rowsIn]

@[simp] theorem rowsIn_flatMap {γ : Type} (r : Relation) (l : List γ)
    (f : γ → List (Relation × Tuple)) :
    rowsIn r (l.flatMap f) = l.flatMap fun x => rowsIn r (f x) := by
  induction l with
  | nil => rfl
  | cons x xs ih => simp [ih]

/-- Pushes that all go to one relation give it their rows. -/
@[simp] theorem rowsIn_map_const {γ : Type} (r r' : Relation) (l : List γ) (row : γ → Tuple) :
    rowsIn r (l.map fun x => (r', row x)) = if r' = r then l.map row else [] := by
  induction l with
  | nil => by_cases h : r' = r <;> simp [h]
  | cons x xs ih => by_cases h : r' = r <;> simp_all

@[simp] theorem rowsIn_map_pair (r r' : Relation) (rows : List Tuple) :
    rowsIn r (rows.map fun row => (r', row)) = if r' = r then rows else [] := by
  simpa using rowsIn_map_const r r' rows id

theorem mem_rowsIn {r : Relation} {row : Tuple} {L : List (Relation × Tuple)} :
    row ∈ rowsIn r L ↔ (r, row) ∈ L := by
  simp only [rowsIn, List.mem_filterMap]
  constructor
  · rintro ⟨⟨r', row'⟩, hmem, h⟩
    by_cases hr : r' = r
    · simp only [hr, if_true, Option.some.injEq] at h
      subst hr h
      exact hmem
    · simp [hr] at h
  · intro h
    exact ⟨(r, row), h, by simp⟩

namespace RelationSet

/-- Appends a row to a relation, without checking its number of values. -/
def append (s : RelationSet) (r : Relation) (row : Tuple) : RelationSet :=
  ⟨s.tables.map fun e => if e.1 == r then (r, e.2.push row) else e⟩

/-- Appends rows, in order. -/
def appendAll (s : RelationSet) (pushes : List (Relation × Tuple)) : RelationSet :=
  pushes.foldl (fun s e => s.append e.1 e.2) s

@[simp] theorem appendAll_nil (s : RelationSet) : s.appendAll [] = s := rfl

@[simp] theorem appendAll_append (s : RelationSet) (L₁ L₂ : List (Relation × Tuple)) :
    s.appendAll (L₁ ++ L₂) = (s.appendAll L₁).appendAll L₂ := by
  simp [appendAll, List.foldl_append]

theorem appendAll_cons (s : RelationSet) (e : Relation × Tuple) (L : List (Relation × Tuple)) :
    s.appendAll (e :: L) = (s.append e.1 e.2).appendAll L := rfl

/-- A row of the right length is pushed as it is appended. -/
theorem push_eq_ok {s : RelationSet} {r : Relation} {row : Tuple} (h : row.length = r.arity) :
    s.push r row = .ok (s.append r row) := by
  simp [push, h, append]

/-- Every relation has its table, in catalogue order. -/
def Catalogued (s : RelationSet) : Prop := s.tables.map Prod.fst = Relation.all

theorem catalogued_empty : Catalogued {} := by
  simp [Catalogued, List.map_map, Function.comp_def]

theorem Catalogued.append {s : RelationSet} (hs : s.Catalogued) (r : Relation) (row : Tuple) :
    (s.append r row).Catalogued := by
  have key : ∀ e : Relation × Array Tuple,
      (if e.1 == r then (r, e.2.push row) else e).1 = e.1 := by
    intro e
    by_cases h : e.1 = r <;> simp [h]
  simpa only [Catalogued, RelationSet.append, List.map_map, Function.comp_def, key] using hs

theorem Catalogued.appendAll {s : RelationSet} (hs : s.Catalogued)
    (L : List (Relation × Tuple)) : (s.appendAll L).Catalogued := by
  induction L generalizing s with
  | nil => exact hs
  | cons e L ih => exact ih (hs.append e.1 e.2)

/-- In a catalogued set, appending a row adds it to its relation and to no other. -/
theorem rows_append {s : RelationSet} (hs : s.Catalogued) (r r' : Relation) (row : Tuple) :
    (s.append r row).rows r' = if r' = r then (s.rows r').push row else s.rows r' := by
  have hkey : ∀ e : Relation × Array Tuple,
      ((if e.1 == r then (r, e.2.push row) else e).1 == r') = (e.1 == r') := by
    intro e
    by_cases h : e.1 = r <;> simp [h]
  have hfound : ∃ e, s.tables.find? (·.1 == r') = some e := by
    have hmem : r' ∈ s.tables.map Prod.fst := by
      rw [hs]
      exact Relation.mem_all r'
    obtain ⟨e, he, rfl⟩ := List.mem_map.mp hmem
    exact Option.isSome_iff_exists.mp (List.find?_isSome.mpr ⟨e, he, by simp⟩)
  obtain ⟨e, he⟩ := hfound
  have he₁ : e.1 = r' := by simpa using List.find?_some he
  simp only [rows, append, List.find?_map, Function.comp_def, hkey, he, Option.map_some,
    Option.getD_some]
  by_cases h : r' = r
  · subst h
    simp [he₁]
  · simp [he₁, h]

/-- In a catalogued set, a relation's rows after appending are its rows before, then the rows
pushed to it. -/
theorem rows_appendAll {s : RelationSet} (hs : s.Catalogued) (L : List (Relation × Tuple))
    (r : Relation) : ((s.appendAll L).rows r).toList = (s.rows r).toList ++ rowsIn r L := by
  induction L generalizing s with
  | nil => simp
  | cons e L ih =>
    rw [appendAll_cons, ih (hs.append e.1 e.2), rows_append hs]
    obtain ⟨r', row⟩ := e
    by_cases h : r' = r
    · subst h
      simp
    · simp [h, Ne.symm h]

@[simp] theorem rows_empty (r : Relation) : ({} : RelationSet).rows r = #[] := by
  obtain ⟨e, he⟩ : ∃ e, (Relation.all.map fun r => (r, (#[] : Array Tuple))).find? (·.1 == r)
      = some e := by
    have hmem : (r, (#[] : Array Tuple)) ∈ Relation.all.map fun r => (r, (#[] : Array Tuple)) :=
      List.mem_map.mpr ⟨r, Relation.mem_all r, rfl⟩
    exact Option.isSome_iff_exists.mp (List.find?_isSome.mpr ⟨_, hmem, by simp⟩)
  have hrows : e.2 = #[] := by
    obtain ⟨r', -, rfl⟩ := List.mem_map.mp (List.mem_of_find?_eq_some he)
    rfl
  simp [rows, he, hrows]

end RelationSet

/-! ## Builders -/

/-- The builder after rows are appended. -/
def Builder.emit (b : Builder) (pushes : List (Relation × Tuple)) : Builder :=
  { b with relations := b.relations.appendAll pushes }

@[simp] theorem Builder.emit_nil (b : Builder) : b.emit [] = b := rfl

@[simp] theorem Builder.emit_emit (b : Builder) (L₁ L₂ : List (Relation × Tuple)) :
    (b.emit L₁).emit L₂ = b.emit (L₁ ++ L₂) := by
  simp [Builder.emit]

@[simp] theorem Builder.emit_inputs (b : Builder) (L : List (Relation × Tuple)) :
    (b.emit L).inputs = b.inputs := rfl

@[simp] theorem Builder.emit_scenario (b : Builder) (L : List (Relation × Tuple)) :
    (b.emit L).scenario = b.scenario := rfl

@[simp] theorem Builder.emit_periods (b : Builder) (L : List (Relation × Tuple)) :
    (b.emit L).periods = b.periods := rfl

@[simp] theorem Builder.emit_allTimePeriods (b : Builder) (L : List (Relation × Tuple)) :
    (b.emit L).allTimePeriods = b.allTimePeriods := rfl

@[simp] theorem Builder.emit_commodities (b : Builder) (L : List (Relation × Tuple)) :
    (b.emit L).commodities = b.commodities := rfl

@[simp] theorem Builder.emit_relations (b : Builder) (L : List (Relation × Tuple)) :
    (b.emit L).relations = b.relations.appendAll L := rfl

namespace Assembly

variable {α β γ : Type}

/-! ## Successful runs -/

/-- Run from `b` carrying any notes, `m` succeeds with `a` and ends in `b'`, having appended
some notes to the ones it was given. -/
def Runs (m : Assembly α) (b : Builder) (a : α) (b' : Builder) : Prop :=
  ∀ ns, ∃ ns', m.run.run { b with notes := ns } = (.ok a, { b' with notes := ns ++ ns' })

theorem Runs.pure {a : α} {b : Builder} : Runs (Pure.pure a) b a b :=
  fun ns => ⟨#[], by simp; rfl⟩

/-- The builder a run ends in may be given in any equal form. -/
theorem Runs.trans_eq {m : Assembly α} {b b₁ b₂ : Builder} {a : α} (h : Runs m b a b₁)
    (e : b₁ = b₂) : Runs m b a b₂ :=
  e ▸ h

theorem Runs.bind {m : Assembly α} {k : α → Assembly β} {b b₁ b₂ : Builder} {a : α} {c : β}
    (hm : Runs m b a b₁) (hk : Runs (k a) b₁ c b₂) : Runs (m >>= k) b c b₂ := by
  intro ns
  obtain ⟨ns₁, h₁⟩ := hm ns
  obtain ⟨ns₂, h₂⟩ := hk (ns ++ ns₁)
  refine ⟨ns₁ ++ ns₂, ?_⟩
  rw [← Array.append_assoc]
  simp only [ExceptT.run_bind, StateT.run_bind, h₁]
  exact h₂

/-- A step that reads the builder sees it with the notes it carries, which no step reads. -/
theorem Runs.get_bind {k : Builder → Assembly α} {b b' : Builder} {a : α}
    (hk : ∀ ns, Runs (k { b with notes := ns }) b a b') : Runs (get >>= k) b a b' := by
  intro ns
  obtain ⟨ns', h⟩ := hk ns ns
  exact ⟨ns', h⟩

theorem Runs.push {r : Relation} {row : Tuple} {b : Builder} (h : row.length = r.arity) :
    Runs (Assembly.push r row) b () (b.emit [(r, row)]) := by
  intro ns
  refine ⟨#[], ?_⟩
  simp [Assembly.push, RelationSet.push_eq_ok h, Builder.emit, RelationSet.appendAll]
  rfl

theorem Runs.warn {o : Origin} {text : String} {b : Builder} :
    Runs (Assembly.warn o text) b () b := by
  intro ns
  exact ⟨#[⟨.warn, o, text⟩], by simp [Assembly.warn]; rfl⟩

/-- A step that changes the builder but not its notes. -/
theorem Runs.update {f : Builder → Builder} {b : Builder}
    (hf : ∀ ns, f { b with notes := ns } = { f b with notes := ns }) :
    Runs (modify f) b () (f b) := by
  intro ns
  refine ⟨#[], ?_⟩
  rw [Array.append_empty, ← hf]
  rfl

/-- A context given to a step changes only its failures. -/
theorem Runs.within {m : Assembly α} {b b' : Builder} {a : α} {outer : String}
    (h : Runs m b a b') : Runs (Assembly.within outer m) b a b' := by
  intro ns
  obtain ⟨ns', h'⟩ := h ns
  refine ⟨ns', ?_⟩
  simp only [Assembly.within, tryCatch, tryCatchThe, MonadExceptOf.tryCatch, ExceptT.tryCatch,
    ExceptT.run_mk, StateT.run_bind]
  erw [h']
  rfl

/-- A loop whose body, from every builder, appends rows that depend on its element only. -/
theorem Runs.forM {l : List γ} {f : γ → Assembly Unit} {L : γ → List (Relation × Tuple)}
    {b : Builder} (h : ∀ x ∈ l, ∀ b, Runs (f x) b () (b.emit (L x))) :
    Runs (l.forM f) b () (b.emit (l.flatMap L)) := by
  induction l generalizing b with
  | nil => exact Runs.pure
  | cons x xs ih =>
    simp only [List.flatMap_cons, ← Builder.emit_emit]
    exact Runs.bind (h x (by simp) b) (ih fun y hy => h y (by simp [hy]))

/-- A push made only when a condition holds. -/
theorem Runs.pushIf {c : Bool} {r : Relation} {row : Tuple} {b : Builder}
    (h : row.length = r.arity) :
    Runs (if c = true then Assembly.push r row else Pure.pure ()) b ()
      (b.emit (if c = true then [(r, row)] else [])) := by
  cases c
  · simpa using Runs.pure
  · simpa using Runs.push h

/-- A loop whose body may read and change the builder: the run is the fold of the bodies' ends. -/
theorem Runs.forM_fold {l : List γ} {f : γ → Assembly Unit} {g : Builder → γ → Builder}
    {b : Builder} (h : ∀ x ∈ l, ∀ b, Runs (f x) b () (g b x)) :
    Runs (l.forM f) b () (l.foldl g b) := by
  induction l generalizing b with
  | nil => exact Runs.pure
  | cons x xs ih =>
    exact Runs.bind (h x (by simp) b) (ih fun y hy => h y (by simp [hy]))

/-- A loop that pushes one row to one relation for each element. -/
theorem Runs.forM_push {l : List γ} {r : Relation} {row : γ → Tuple} {b : Builder}
    (h : ∀ x ∈ l, (row x).length = r.arity) :
    Runs (l.forM fun x => Assembly.push r (row x)) b () (b.emit (l.map fun x => (r, row x))) := by
  rw [List.map_eq_flatMap]
  exact Runs.forM fun x hx b => Runs.push (h x hx)

/-- A loop that pushes each of a list of rows to one relation. -/
theorem Runs.forM_pushEach {rows : List Tuple} {r : Relation} {b : Builder}
    (h : ∀ row ∈ rows, row.length = r.arity) :
    Runs (rows.forM (Assembly.push r)) b () (b.emit (rows.map fun row => (r, row))) :=
  Runs.forM_push h

/-- A loop that gives a value for each element and leaves the builder as it was. -/
theorem Runs.mapM {l : List γ} {f : γ → Assembly α} {g : γ → α} {b : Builder}
    (h : ∀ x ∈ l, Runs (f x) b (g x) b) : Runs (l.mapM f) b (l.map g) b := by
  induction l with
  | nil => exact Runs.pure
  | cons x xs ih =>
    simp only [List.mapM_cons, List.map_cons]
    exact Runs.bind (h x (by simp)) (Runs.bind (ih fun y hy => h y (by simp [hy])) Runs.pure)

/-- A fold whose step appends rows that depend on the element only, and whose value is a pure
fold. -/
theorem Runs.foldlM {l : List γ} {f : α → γ → Assembly α} {g : α → γ → α}
    {L : γ → List (Relation × Tuple)} {init : α} {b : Builder}
    (h : ∀ acc, ∀ x ∈ l, ∀ b, Runs (f acc x) b (g acc x) (b.emit (L x))) :
    Runs (l.foldlM f init) b (l.foldl g init) (b.emit (l.flatMap L)) := by
  induction l generalizing b init with
  | nil => exact Runs.pure
  | cons x xs ih =>
    simp only [List.foldlM_cons, List.foldl_cons, List.flatMap_cons, ← Builder.emit_emit]
    exact Runs.bind (h init x (by simp) b) (ih fun acc y hy => h acc y (by simp [hy]))

/-! ## Runs with the notes they write -/

/-- Run from `b` carrying any notes, `m` succeeds with `a` and ends in `b'`, having appended
exactly the notes `out`. -/
def Logs (m : Assembly α) (b : Builder) (a : α) (b' : Builder) (out : List Note) : Prop :=
  ∀ ns, m.run.run { b with notes := ns } = (.ok a, { b' with notes := ns ++ out.toArray })

theorem Logs.runs {m : Assembly α} {b b' : Builder} {a : α} {out : List Note}
    (h : Logs m b a b' out) : Runs m b a b' :=
  fun ns => ⟨out.toArray, h ns⟩

/-- The builder and the notes of a run may be given in any equal form. -/
theorem Logs.congr {m : Assembly α} {b b₁ b₂ : Builder} {a : α} {out out' : List Note}
    (h : Logs m b a b₁ out) (e : b₁ = b₂) (e' : out = out') : Logs m b a b₂ out' :=
  e ▸ e' ▸ h

theorem Logs.pure {a : α} {b : Builder} : Logs (Pure.pure a) b a b [] :=
  fun ns => by simp; rfl

theorem Logs.bind {m : Assembly α} {k : α → Assembly β} {b b₁ b₂ : Builder} {a : α} {c : β}
    {out₁ out₂ : List Note} (hm : Logs m b a b₁ out₁) (hk : Logs (k a) b₁ c b₂ out₂) :
    Logs (m >>= k) b c b₂ (out₁ ++ out₂) := by
  intro ns
  simp only [ExceptT.run_bind, StateT.run_bind, hm ns]
  rw [← List.append_toArray, ← Array.append_assoc]
  exact hk (ns ++ out₁.toArray)

theorem Logs.get_bind {k : Builder → Assembly α} {b b' : Builder} {a : α} {out : List Note}
    (hk : ∀ ns, Logs (k { b with notes := ns }) b a b' out) : Logs (get >>= k) b a b' out :=
  fun ns => hk ns ns

/-- A run whose value is then mapped to the result. -/
theorem Logs.bind_pure {m : Assembly α} {f : α → β} {b b' : Builder} {a : α} {out : List Note}
    (hm : Logs m b a b' out) : Logs (m >>= fun x => Pure.pure (f x)) b (f a) b' out := by
  rw [← List.append_nil out]
  exact Logs.bind hm Logs.pure

theorem Logs.push {r : Relation} {row : Tuple} {b : Builder} (h : row.length = r.arity) :
    Logs (Assembly.push r row) b () (b.emit [(r, row)]) [] := by
  intro ns
  simp [Assembly.push, RelationSet.push_eq_ok h, Builder.emit, RelationSet.appendAll]
  rfl

theorem Logs.warn {o : Origin} {text : String} {b : Builder} :
    Logs (Assembly.warn o text) b () b [⟨.warn, o, text⟩] := by
  intro ns
  simp [Assembly.warn]
  rfl

/-- A step that changes the builder but not its notes. -/
theorem Logs.update {f : Builder → Builder} {b : Builder}
    (hf : ∀ ns, f { b with notes := ns } = { f b with notes := ns }) :
    Logs (modify f) b () (f b) [] := by
  intro ns
  rw [Array.append_empty, ← hf]
  rfl

/-- A loop whose body may read and change the builder and writes no notes. -/
theorem Logs.forM_fold {l : List γ} {f : γ → Assembly Unit} {g : Builder → γ → Builder}
    {b : Builder} (h : ∀ x ∈ l, ∀ b, Logs (f x) b () (g b x) []) :
    Logs (l.forM f) b () (l.foldl g b) [] := by
  induction l generalizing b with
  | nil => exact Logs.pure
  | cons x xs ih =>
    exact Logs.bind (h x (by simp) b) (ih fun y hy => h y (by simp [hy]))

/-- A loop that pushes each of a list of rows to one relation, writing no notes. -/
theorem Logs.forM_pushEach {rows : List Tuple} {r : Relation} {b : Builder}
    (h : ∀ row ∈ rows, row.length = r.arity) :
    Logs (rows.forM (Assembly.push r)) b () (b.emit (rows.map fun row => (r, row))) [] := by
  induction rows generalizing b with
  | nil => exact Logs.pure
  | cons row rows ih =>
    rw [List.map_cons, show (r, row) :: rows.map (fun row => (r, row)) =
      [(r, row)] ++ rows.map (fun row => (r, row)) from rfl, ← Builder.emit_emit]
    exact Logs.bind (Logs.push (h row (by simp))) (ih fun row' hr => h row' (by simp [hr]))

/-- A loop that gives a value for each element, leaves the builder as it was, and writes the
notes of each element in turn. -/
theorem Logs.mapM {l : List γ} {f : γ → Assembly α} {g : γ → α} {out : γ → List Note}
    {b : Builder} (h : ∀ x ∈ l, Logs (f x) b (g x) b (out x)) :
    Logs (l.mapM f) b (l.map g) b (l.flatMap out) := by
  induction l with
  | nil => exact Logs.pure
  | cons x xs ih =>
    simp only [List.mapM_cons, List.map_cons, List.flatMap_cons]
    exact Logs.bind (h x (by simp)) (Logs.bind_pure (ih fun y hy => h y (by simp [hy])))

/-- Run from `b` carrying any notes, `m` succeeds with `a` and ends in `b'`, and the notes it
appends begin with `out`. -/
def LogsFirst (m : Assembly α) (b : Builder) (a : α) (b' : Builder) (out : List Note) : Prop :=
  ∀ ns, ∃ rest, m.run.run { b with notes := ns } =
    (.ok a, { b' with notes := ns ++ out.toArray ++ rest })

theorem LogsFirst.runs {m : Assembly α} {b b' : Builder} {a : α} {out : List Note}
    (h : LogsFirst m b a b' out) : Runs m b a b' := by
  intro ns
  obtain ⟨rest, hrun⟩ := h ns
  exact ⟨out.toArray ++ rest, by rw [hrun, Array.append_assoc]⟩

theorem LogsFirst.trans_eq {m : Assembly α} {b b₁ b₂ : Builder} {a : α} {out : List Note}
    (h : LogsFirst m b a b₁ out) (e : b₁ = b₂) : LogsFirst m b a b₂ out :=
  e ▸ h

theorem LogsFirst.get_bind {k : Builder → Assembly α} {b b' : Builder} {a : α} {out : List Note}
    (hk : ∀ ns, LogsFirst (k { b with notes := ns }) b a b' out) :
    LogsFirst (get >>= k) b a b' out :=
  fun ns => hk ns ns

/-- A step that writes `out`, then a run: the notes begin with `out`. -/
theorem Logs.bind_runs {m : Assembly α} {k : α → Assembly β} {b b₁ b₂ : Builder} {a : α}
    {c : β} {out : List Note} (hm : Logs m b a b₁ out) (hk : Runs (k a) b₁ c b₂) :
    LogsFirst (m >>= k) b c b₂ out := by
  intro ns
  obtain ⟨rest, hrest⟩ := hk (ns ++ out.toArray)
  refine ⟨rest, ?_⟩
  simp only [ExceptT.run_bind, StateT.run_bind, hm ns]
  exact hrest

theorem Logs.bind_logsFirst {m : Assembly α} {k : α → Assembly β} {b b₁ b₂ : Builder} {a : α}
    {c : β} {out₁ out₂ : List Note} (hm : Logs m b a b₁ out₁) (hk : LogsFirst (k a) b₁ c b₂ out₂) :
    LogsFirst (m >>= k) b c b₂ (out₁ ++ out₂) := by
  intro ns
  obtain ⟨rest, hrest⟩ := hk (ns ++ out₁.toArray)
  refine ⟨rest, ?_⟩
  simp only [ExceptT.run_bind, StateT.run_bind, hm ns]
  rw [← List.append_toArray, ← Array.append_assoc]
  exact hrest

/-! ## Failures -/

/-- Run from `b` carrying any notes, `m` fails with `e`. -/
def Fails (m : Assembly α) (b : Builder) (e : Failure) : Prop :=
  ∀ ns, ∃ b', m.run.run { b with notes := ns } = (.error e, b')

theorem Fails.bind {m : Assembly α} {k : α → Assembly β} {b : Builder} {e : Failure}
    (hm : Fails m b e) : Fails (m >>= k) b e := by
  intro ns
  obtain ⟨b', h⟩ := hm ns
  exact ⟨b', by simp only [ExceptT.run_bind, StateT.run_bind, h]; rfl⟩

theorem Runs.bind_fails {m : Assembly α} {k : α → Assembly β} {b b₁ : Builder} {a : α}
    {e : Failure} (hm : Runs m b a b₁) (hk : Fails (k a) b₁ e) : Fails (m >>= k) b e := by
  intro ns
  obtain ⟨ns₁, h₁⟩ := hm ns
  obtain ⟨b', h₂⟩ := hk (ns ++ ns₁)
  exact ⟨b', by simp only [ExceptT.run_bind, StateT.run_bind, h₁]; exact h₂⟩

theorem Fails.get_bind {k : Builder → Assembly α} {b : Builder} {e : Failure}
    (hk : ∀ ns, Fails (k { b with notes := ns }) b e) : Fails (get >>= k) b e := by
  intro ns
  exact hk ns ns

theorem Fails.ofExcept {p : Problem} {b : Builder} :
    Fails (Assembly.ofExcept (.error p : Except Problem α)) b (Failure.rule p) :=
  fun ns => ⟨{ b with notes := ns }, rfl⟩

theorem Runs.ofExcept {a : α} {b : Builder} :
    Runs (Assembly.ofExcept (.ok a : Except Problem α)) b a b := Runs.pure

end Assembly

end EnergyModel
