import EnergyModel.Store
import EnergyModel.Proofs.Sql.Tables
import Mathlib

/-!
# Storing a row in a plain table

A table made by `CREATE TABLE` with untyped columns and nothing else is plain: no column is
`NOT NULL`, generated or typed, the row id is no column, and there are no checks or foreign keys
(`Table.Plain`). When, besides, no trigger, index or foreign key of another table acts on it
(`Database.Quiet`), storing a row of values given as parameters `?1`, …, `?n` does the least
an `INSERT` can do: the row goes in with the next row id, unless the row ids are used up
(`Connection.run_insert_plain`). A plain table of another number of columns refuses the row
before anything is stored (`Connection.run_insert_width_ne`).

The proof runs the statement step by step. Each step of the engine the statement meets has a
lemma saying what it does on a plain table (`checkRow_plain`, `insertOne_plain`,
`execute_insert_plain`), and the row of parameters is evaluated once
(`Env.query_parameters`).
-/

namespace EnergyModel.Sql

/-! ## Running changes -/

namespace Change

variable {α β : Type}

@[simp] theorem run_get (w : Work) : (get : Change Work).run.run w = (.ok w, w) := rfl

@[simp] theorem run_pure (a : α) (w : Work) : (pure a : Change α).run.run w = (.ok a, w) := rfl

@[simp] theorem run_modify (f : Work → Work) (w : Work) :
    (modify f : Change Unit).run.run w = (.ok (), f w) := rfl

@[simp] theorem run_check_ok (a : α) (w : Work) :
    (Change.check (.ok a) : Change α).run.run w = (.ok a, w) := rfl

@[simp] theorem run_check_error (e : SqlError) (w : Work) :
    (Change.check (.error e) : Change α).run.run w = (.error (.error e .abort), w) := rfl

/-- A change run after another starts from the state the first left, unless the first stopped. -/
theorem run_bind (m : Change α) (f : α → Change β) (w : Work) :
    (m >>= f).run.run w = match m.run.run w with
      | (.ok a, w') => (f a).run.run w'
      | (.error e, w') => (.error e, w') := by
  rcases h : m.run.run w with ⟨_ | a, w'⟩ <;> simp only [ExceptT.run_bind, StateT.run_bind, h] <;> rfl

end Change

@[simp] theorem run_tableNamed (n : String) (w : Work) :
    (tableNamed n).run.run w = (.ok (w.db.table? n), w) := rfl

@[simp] theorem run_hasTriggers (n : String) (tm : TriggerTiming) (ev : TriggerEvent) (w : Work) :
    (hasTriggers n tm ev).run.run w =
      (.ok ((w.db.triggersOn n).any fun tr => tr.timing == tm && tr.event.fires ev), w) := rfl

@[simp] theorem run_storeTable (t : Table) (w : Work) :
    (storeTable t).run.run w = (.ok (), { w with db := w.db.putTable t }) := rfl

@[simp] theorem run_countChange (w : Work) :
    countChange.run.run w = (.ok (), { w with rowsChanged := w.rowsChanged + 1 }) := rfl

/-! ## Loops that keep or extend their state -/

section Loops

variable {m : Type → Type} [Monad m] [LawfulMonad m] {α β : Type}

/-- A loop whose body goes on from its start state at every item ends in that state. -/
theorem forIn_of_yield {l : List α} {init : β} {f : α → β → m (ForInStep β)}
    (h : ∀ x ∈ l, f x init = pure (.yield init)) : forIn l init f = pure init := by
  induction l with
  | nil => rfl
  | cons x l ih =>
    rw [List.forIn_cons, h x (List.mem_cons_self ..), pure_bind]
    exact ih fun y hy => h y (List.mem_cons_of_mem _ hy)

/-- A loop whose body appends one value per item ends with all of them, in order. -/
theorem forIn_of_append {l : List α} {init : List β} {g : α → β}
    {f : α → List β → m (ForInStep (List β))} (h : ∀ x ∈ l, ∀ acc, f x acc = pure (.yield (acc ++ [g x]))) :
    forIn l init f = pure (init ++ l.map g) := by
  induction l generalizing init with
  | nil => simp
  | cons x l ih =>
    rw [List.forIn_cons, h x (List.mem_cons_self ..), pure_bind]
    simp only [ih fun y hy => h y (List.mem_cons_of_mem _ hy), List.map_cons, List.append_assoc,
      List.singleton_append]

end Loops

/-! ## Plain tables -/

/-- A table with untyped columns and no constraints: what `CREATE TABLE` makes of a list of bare
column names. -/
structure Table.Plain (t : Table) : Prop where
  notNull : ∀ c ∈ t.columns, c.notNull = none
  generated : ∀ c ∈ t.columns, c.generated = none
  stored : ∀ c ∈ t.columns, c.strictType = none ∧ c.affinity = .blob
  rowidColumn : t.rowidColumn = none
  autoincrement : t.autoincrement = false
  checks : t.checks = []
  foreignKeys : t.foreignKeys = []
  withoutRowId : t.withoutRowId = false

/-- Nothing in the database acts on a change of the table of a name: no trigger, no index, and
no foreign key of any table refers to it. -/
structure Database.Quiet (db : Database) (name : String) : Prop where
  triggers : db.triggersOn name = []
  indexes : db.indexesOf name = []
  referred : db.keysReferring name = []

variable {t : Table}

theorem Value.withAffinity_blob (v : Value) : v.withAffinity .blob = v := by
  cases v <;> rfl

namespace Table.Plain

theorem hasGenerated (ht : t.Plain) : t.hasGenerated = false := by
  simp only [Table.hasGenerated, List.any_eq_false]
  intro c hc
  simp [ht.generated c hc]

theorem withKey (ht : t.Plain) (vs : List Value) (rowid : Int) : t.withKey vs rowid = vs := by
  simp [Table.withKey, ht.rowidColumn]

theorem run_regenerate (ht : t.Plain) (vs : List Value) (rowid : Int) (w : Work) :
    (t.regenerate vs rowid).run.run w = (.ok vs, w) := by
  simp [Table.regenerate, ht.hasGenerated]
  rfl

/-- Values go into a plain table as they are. -/
theorem withAffinities (ht : t.Plain) (vs : List Value) (h : vs.length = t.columns.length) :
    t.withAffinities vs false = .ok vs := by
  unfold Table.withAffinities
  -- every column keeps its value: no type to check and no affinity to convert towards
  suffices hcols : ∀ cs : List Column, (∀ c ∈ cs, c.strictType = none ∧ c.affinity = .blob) →
      ∀ vs : List Value, vs.length = cs.length →
        (cs.zip vs).mapM (fun (x : Column × Value) =>
          if false && x.1.generated.isSome then Except.ok x.2 else t.columnValue x.1 x.2) = .ok vs from
    hcols t.columns ht.stored vs h
  intro cs hcs
  induction cs with
  | nil =>
    intro vs hvs
    rw [List.length_eq_zero_iff.1 hvs]
    rfl
  | cons c cs ih =>
    intro vs hvs
    cases vs with
    | nil => simp at hvs
    | cons v vs =>
      obtain ⟨hstrict, haff⟩ := hcs c (List.mem_cons_self ..)
      have hrest := ih (fun c' h' => hcs c' (List.mem_cons_of_mem _ h')) vs (by simpa using hvs)
      rw [List.zip_cons_cons, List.mapM_cons, hrest]
      simp only [Bool.false_and, Bool.false_eq_true, ↓reduceIte, Table.columnValue, hstrict, haff,
        Value.withAffinity_blob]
      rfl

/-- An `INSERT` without a column list gives a value for every column, in order. -/
theorem insertPlacements (ht : t.Plain) (s : String) :
    Sql.insertPlacements t s none = .ok ((List.range' 0 t.columns.length).map Placement.column) := by
  simp only [Sql.insertPlacements]
  congr 1
  rw [← List.zipIdx_map_snd 0 t.columns, List.map_map, ← List.filterMap_eq_map]
  apply List.filterMap_congr
  intro x hx
  simp [ht.generated x.1 (List.fst_mem_of_mem_zipIdx hx)]

end Table.Plain

theorem Placement.column_beq (a b : Nat) : (Placement.column a == Placement.column b) = (a == b) := rfl

theorem find?_zip_columns (vs : List Value) (s k : Nat) (hk : s ≤ k) (hk' : k < s + vs.length) :
    (((List.range' s vs.length).map Placement.column).zip vs).find? (fun x => x.1 == .column k) =
      some (.column k, vs.getD (k - s) .null) := by
  induction vs generalizing s with
  | nil => simp at hk'; omega
  | cons v vs ih =>
    rw [List.length_cons, List.range'_succ, List.map_cons, List.zip_cons_cons, List.find?_cons]
    by_cases hks : k = s
    · subst hks
      simp [Placement.column_beq]
    · have hne : (Placement.column s == Placement.column k) = false := by
        rw [Placement.column_beq, beq_eq_false_iff_ne]
        omega
      rw [hne, ih (s + 1) (by omega) (by simp at hk'; omega)]
      obtain ⟨j, hj⟩ : ∃ j, k - s = j + 1 := ⟨k - s - 1, by omega⟩
      simp [hj, show k - (s + 1) = j by omega]

/-- A row given for every column, in order, supplies each column its own value and no row id. -/
theorem Table.Plain.placeRow (ht : t.Plain) {n : Nat} (hn : t.columns.length = n) (vs : List Value)
    (h : vs.length = n) :
    Sql.placeRow t ((List.range' 0 n).map Placement.column) vs = (vs.map some, none) := by
  simp only [Sql.placeRow, ht.rowidColumn, hn, ← h]
  refine Prod.ext ?_ ?_
  · apply List.ext_getElem (by simp)
    intro k hk _
    simp only [List.getElem_map, List.getElem_range]
    rw [find?_zip_columns vs 0 k (by omega) (by simp at hk; omega)]
    simp [List.getElem?_eq_getElem (by simpa using hk : k < vs.length)]
  · -- no value is given for the row id
    have hnone : ((List.map Placement.column (List.range' 0 vs.length)).zip vs).find?
        (fun x => x.1 == Placement.rowid) = none := by
      rw [List.find?_eq_none]
      intro x hx
      obtain ⟨i, -, hi⟩ := List.mem_map.1 (List.of_mem_zip hx).1
      rw [← hi, show (Placement.column i == Placement.rowid) = false from rfl]
      decide
    simp [hnone]

theorem map_zip_some {γ : Type} (cs : List γ) (vs : List Value) (h : vs.length = cs.length) :
    (cs.zip (vs.map some)).map (fun x => x.2.getD .null) = vs := by
  induction cs generalizing vs with
  | nil => simp_all
  | cons c cs ih =>
    cases vs with
    | nil => simp at h
    | cons v vs => simp [ih vs (by simpa using h)]

theorem map_getD_range (l : List Value) : (List.range l.length).map (fun i => l.getD i .null) = l := by
  apply List.ext_getElem
  · simp
  · intro i _ h
    simp only [List.getElem_map, List.getElem_range]
    exact List.getD_eq_getElem _ _ h

/-! ## What a quiet table leaves alone -/

theorem run_childKeys_of_nil {vs : List Value} {rowid : Int} {oc : Option (List Nat)} {d : Int}
    {ao : Bool} (h : t.foreignKeys = []) (w : Work) :
    (childKeys t vs rowid oc d ao).run.run w = (.ok (), w) := by
  simp only [childKeys, Change.run_bind, Change.run_get, h, List.forIn_nil]
  cases w.keysOn <;> rfl

theorem run_parentKeys_of_nil {vs : List Value} {rowid : Int} {oc : Option (List Nat × Bool)} {d : Int}
    (w : Work) (h : w.db.keysReferring t.name = []) :
    (parentKeys t vs rowid oc d).run.run w = (.ok (), w) := by
  simp only [parentKeys, Change.run_bind, Change.run_get, h, List.forIn_nil]
  cases w.keysOn <;> rfl

theorem run_fireTriggers_of_nil (fuel : Nat) (sc : Scope) (table : String) (tm : TriggerTiming)
    (ev : TriggerEvent) (old new : Option Binding) (w : Work) (h : w.db.triggersOn table = []) :
    (fireTriggers (fuel + 1) sc table tm ev old new).run.run w = (.ok true, w) := by
  simp only [fireTriggers, Change.run_bind, Change.run_get, h, List.reverse_nil, List.filter_nil,
    List.forIn_nil]
  rfl

/-- Storing a table leaves the triggers as they were. -/
theorem Database.triggersOn_putTable (db : Database) (t : Table) (n : String) :
    (db.putTable t).triggersOn n = db.triggersOn n := by
  simp only [Database.triggersOn, Database.putTable, List.filterMap_map]
  congr 1
  funext o
  cases o with
  | table u =>
    -- a table stays a table, whichever it becomes
    simp only [Function.comp_apply]
    by_cases h : (sameName u.name t.name && u.temp == t.temp) = true
    · rw [if_pos h]
    · rw [if_neg h]
  | _ => rfl

theorem keyError_of_quiet (db : Database) (h : t.foreignKeys = []) (hr : db.keysReferring t.name = [])
    (asChild : Option (Option (List Nat))) (asParent deferredOnly : Bool) :
    keyError db t asChild asParent deferredOnly = none := by
  unfold keyError
  cases asChild <;> cases asParent <;> simp [h, hr]

theorem prepareError_none (db : Database) (keysOn : Bool) : prepareError db keysOn [] none = none := by
  cases keysOn <;> rfl

theorem upsertTargets_nil (db : Database) : upsertTargets db t [] = .ok [] := rfl

/-! ## One row -/

/-- A row checked against a plain table without indexes is stored as it is. -/
theorem checkRow_plain (fuel : Nat) (sc : Scope) (vs : List Value) (rowid : Int) (a : String) (w : Work)
    (ht : t.Plain) (hidx : w.db.indexesOf t.name = []) :
    (checkRow (fuel + 1) sc t vs rowid none none false [] a).run.run w = (.ok (.store vs), w) := by
  simp only [checkRow]
  rw [forIn_of_yield]
  · simp only [Change.run_bind, Change.run_pure, Change.run_get, ht.checks, hidx, checkOrder,
      Bool.false_eq_true, ↓reduceIte, ite_self, List.forIn_nil, Option.isSome_none, Bool.false_and,
      List.filterMap_nil, List.foldl_nil, List.filter_nil, List.append_nil]
  · -- no column is `NOT NULL`, so the first pass over the columns finds nothing to do
    intro x hx
    have hnull : x.1.notNull = none := ht.notNull _ (List.fst_mem_of_mem_zipIdx hx)
    simp [hnull]

/-- One row given for every column of a quiet plain table goes in with the next row id, or the
insert stops when there is none. -/
theorem insertOne_plain (fuel : Nat) (sc : Scope) (values : List Value) (a : String) (atOnce : Bool)
    (w : Work) (hfind : w.db.table? t.name = some t) (ht : t.Plain) (hq : w.db.Quiet t.name)
    (hlen : values.length = t.columns.length) :
    (insertOne (fuel + 2) sc t.name a (values.map some) none [] atOnce).run.run w =
      match t.nextRowid w.db with
      | .ok rowid =>
        (.ok (), { w with db := w.db.putTable (t.withRow ⟨rowid, values⟩),
                          rowsChanged := w.rowsChanged + 1, lastRowid := rowid })
      | .error e => (.error (.error e .abort), w) := by
  simp only [insertOne, Change.run_bind, run_tableNamed, hfind]
  rw [forIn_of_append (g := fun x => x.2.getD .null)]
  · -- the values become the row as they are; then the row id is taken
    simp only [Change.run_pure, List.nil_append, map_zip_some _ _ hlen, run_hasTriggers, hq.triggers,
      List.any_nil, Bool.false_eq_true, ↓reduceIte, Change.run_bind, Change.run_get, run_tableNamed,
      hfind]
    cases hnext : t.nextRowid w.db with
    | error e => simp only [Change.run_check_error]
    | ok rowid =>
      simp only [Change.run_check_ok, Change.run_bind, Change.run_pure, run_tableNamed, hfind, ht.autoincrement, Bool.false_eq_true, ↓reduceIte, ht.withKey,
        ht.run_regenerate, Option.isSome_none, checkRow_plain _ _ _ _ _ _ ht hq.indexes,
        run_childKeys_of_nil ht.foreignKeys, run_parentKeys_of_nil _ hq.referred,
        ht.withAffinities _ hlen, run_storeTable, run_countChange, ht.withoutRowId, Bool.not_false,
        Change.run_modify]
      -- the row is stored; no trigger fires on it
      rw [run_fireTriggers_of_nil]
      simp [Database.triggersOn_putTable, hq.triggers]
  · intro x hx acc
    obtain ⟨v, hv⟩ : ∃ v, x.2 = some v := by
      obtain ⟨v, -, hv⟩ := List.mem_map.1 (List.of_mem_zip hx).2
      exact ⟨v, hv.symm⟩
    simp [hv]

/-! ## The row of parameters -/

theorem drop_question_copy (x : String) : (("?" ++ x).drop 1).copy = x := by
  apply String.toList_injective
  rw [String.toList_copy_drop, String.toList_append]
  rfl

/-- The parameter `?(i + 1)` stands for the value at `i`; every relation has fewer columns than
the twelve checked here. -/
theorem parameterIndex (i : Nat) (hi : i < 12) :
    ((("?" ++ toString (i + 1)).drop 1).toNat?.getD 1) = i + 1 := by
  rw [← String.Slice.toNat?_copy, drop_question_copy]
  simp only [String.toNat?, String.Slice.toNat?, String.Slice.isNat, String.Slice.forIn_eq_forIn_toList,
    String.Slice.foldl_eq_foldl_toList, String.copy_toSlice]
  interval_cases i <;> decide

/-- The parameter `?(i + 1)`, as the statement that stores a row names it. -/
def parameterExpr (i : Nat) : Expr := .parameter ("?" ++ toString (i + 1))

@[simp] theorem Eval.run_read (env : Env) : (read : Eval Env).run env = .ok env := rfl

theorem evalExprs_parameters (env : Env) (is : List Nat) (his : ∀ i ∈ is, i < 12) (fuel : Nat)
    (hfuel : is.length < fuel) :
    (evalExprs fuel (is.map parameterExpr)).run env =
      .ok (is.map fun i => .plain (env.parameters.getD i .null)) := by
  induction is generalizing fuel with
  | nil =>
    obtain ⟨fuel, rfl⟩ : ∃ f, fuel = f + 1 := ⟨fuel - 1, by simp at hfuel; omega⟩
    rfl
  | cons i is ih =>
    obtain ⟨f, rfl⟩ : ∃ f, fuel = f + 2 := ⟨fuel - 2, by simp at hfuel; omega⟩
    have hrest := ih (fun j hj => his j (List.mem_cons_of_mem _ hj)) (f + 1) (by simp at hfuel; omega)
    rw [List.map_cons, evalExprs.eq_3]
    simp only [ReaderT.run_bind, hrest, evalExpr, parameterExpr,
      parameterIndex i (his i (List.mem_cons_self ..)), Nat.add_sub_cancel]
    rfl

theorem hasAggregate_parameters (is : List Nat) :
    (is.map parameterExpr).any (Expr.hasAggregate 64) = false := by
  have hone : ∀ i, Expr.hasAggregate 64 (parameterExpr i) = false := fun _ => rfl
  simp [hone]

/-- `VALUES (?1, …, ?n)` is one row: the first `n` parameters. -/
theorem Env.query_parameters (env : Env) (n : Nat) (hn : n ≤ 12) :
    env.query (.values [(List.range n).map parameterExpr]) =
      .ok ⟨(List.range n).map fun i => Field.mk ("column" ++ toString (i + 1)) none .binary,
        [(List.range n).map fun i => env.parameters.getD i .null]⟩ := by
  have hrange : ∀ i ∈ List.range n, i < 12 := fun i hi => by
    have := List.mem_range.1 hi
    omega
  simp only [Env.query, evalFuel, evalQuery, orderedRows, compoundRelation, List.forIn_cons, List.forIn_nil,
    List.head?_cons, Option.map_some, Option.getD_some, List.length_map, List.length_range, bne_self_eq_false,
    Bool.false_eq_true, ↓reduceIte, valuesMisusedAggregate, List.reverse_cons, List.reverse_nil,
    List.nil_append, hasAggregate_parameters, List.isEmpty_nil, ReaderT.run_bind,
    evalExprs_parameters env (List.range n) hrange 99997 (by simp; omega)]
  simp [List.map_map, Function.comp_def]
  rfl

theorem insertStatement_parameters (r : EnergyModel.Relation) :
    r.insertStatement = .insert [] none ⟨none, r.tableName⟩ none none
      (.rows (.values [(List.range r.arity).map parameterExpr])) [] := rfl

theorem run_insertRows_parameters (sc : Scope) (n : Nat) (hn : n ≤ 12) (w : Work) :
    (Sql.insertRows sc (.rows (.values [(List.range n).map parameterExpr]))).run.run w =
      (.ok ⟨(List.range n).map fun i => Field.mk ("column" ++ toString (i + 1)) none .binary,
        [(List.range n).map fun i => sc.parameters.getD i .null]⟩, w) := by
  have hone : ∀ i, Expr.firstAggregate 64 (parameterExpr i) = none := fun _ => rfl
  have hnone : ((List.range n).map parameterExpr).findSome? (Expr.firstAggregate 64) = none := by
    simp [List.findSome?_eq_none_iff, hone]
  simp only [Sql.insertRows, hnone, queryIn, Change.run_bind, Change.run_get]
  rw [show (w.envOf sc).query _ = _ from Env.query_parameters (w.envOf sc) n hn]
  rfl

/-! ## The statement -/

variable (r : EnergyModel.Relation) (ps : List Value)

/-- The statement that stores a row of a relation, run on a quiet plain table of its name. -/
theorem execute_insert_plain (w : Work) (hfind : w.db.table? r.tableName = some t) (ht : t.Plain)
    (hq : w.db.Quiet t.name) (hwidth : t.columns.length = r.arity) (hps : ps.length = r.arity)
    (hr : r.arity ≤ 12) :
    (execute changeFuel ⟨[], [], false, ps, none⟩ r.insertStatement).run.run w =
      match t.nextRowid w.db with
      | .ok rowid =>
        (.ok (), { w with db := w.db.putTable (t.withRow ⟨rowid, ps⟩),
                          rowsChanged := w.rowsChanged + 1, lastRowid := rowid })
      | .error e => (.error (.error e .abort), w) := by
  have hfind' := Database.table?_name hfind
  rw [insertStatement_parameters]
  simp only [changeFuel, execute]
  rw [insertStatement.eq_def]
  simp only [Change.run_bind, Change.run_get, hfind, ht.insertPlacements, Change.run_check_ok,
    run_insertRows_parameters _ _ hr, List.length_map, List.length_range, List.length_range', hwidth,
    bne_self_eq_false, Bool.false_eq_true, ↓reduceIte, hq.triggers, List.filter_nil,
    keyError_of_quiet _ ht.foreignKeys hq.referred, prepareError_none, upsertTargets_nil]
  -- the one row of values is the row of parameters, laid over the table's columns in order
  simp only [← hps, map_getD_range, List.forIn_cons, List.forIn_nil, Option.getD_none]
  simp only [hps, ht.placeRow hwidth ps hps, Change.run_bind, Change.run_pure,
    insertOne_plain _ _ _ _ _ _ hfind' ht hq (hps.trans hwidth.symm)]
  cases t.nextRowid w.db <;> rfl

/-- Storing a row of a relation in a quiet plain table of its name: the row goes in with the
next row id, unless the row ids are used up, or foreign keys were left broken outside a
transaction; a statement that fails changes nothing but the counters of changes. -/
theorem Connection.run_insert_plain (c : Connection) (hfind : c.db.table? r.tableName = some t)
    (ht : t.Plain) (hq : c.db.Quiet t.name) (hwidth : t.columns.length = r.arity)
    (hps : ps.length = r.arity) (hr : r.arity ≤ 12) :
    c.run ps r.insertStatement =
      match t.nextRowid c.db with
      | .ok rowid =>
        if c.transaction.isNone && decide (0 < c.deferred) then
          ({ c with lastRowid := rowid, changes := 0 }, some .foreignKey)
        else
          ({ c with db := c.db.putTable (t.withRow ⟨rowid, ps⟩), lastRowid := rowid, changes := 1,
                    totalChanges := c.totalChanges + 1,
                    deferred := if c.transaction.isNone then 0 else c.deferred }, none)
      | .error e => ({ c with changes := 0 }, some e) := by
  rw [insertStatement_parameters]
  simp only [Connection.run, Connection.apply]
  rw [← insertStatement_parameters, execute_insert_plain r ps _ hfind ht hq hwidth hps hr]
  cases t.nextRowid c.db with
  | error e => rfl
  | ok rowid =>
    dsimp only
    cases c.transaction <;> simp

/-- The statement that stores a row of a relation stops at once when nothing has the relation's
name. -/
theorem execute_insert_missing (w : Work) (hfind : w.db.table? r.tableName = none)
    (hview : w.db.view? r.tableName = none) :
    (execute changeFuel ⟨[], [], false, ps, none⟩ r.insertStatement).run.run w =
      (.error (.error (missingTable ⟨[], [], false, ps, none⟩ ⟨none, r.tableName⟩) .abort), w) := by
  rw [insertStatement_parameters]
  simp only [changeFuel, execute]
  rw [insertStatement.eq_def]
  simp only [Change.run_bind, Change.run_get, hfind, hview]
  rfl

/-- Storing a row of a relation that has no table fails and changes nothing but the counter of
changes. -/
theorem Connection.run_insert_missing (c : Connection) (hfind : c.db.table? r.tableName = none)
    (hview : c.db.view? r.tableName = none) :
    ∃ e, c.run ps r.insertStatement = ({ c with changes := 0 }, some e) := by
  refine ⟨missingTable ⟨[], [], false, ps, none⟩ ⟨none, r.tableName⟩, ?_⟩
  rw [insertStatement_parameters]
  simp only [Connection.run, Connection.apply]
  rw [← insertStatement_parameters, execute_insert_missing r ps _ hfind hview]
  rfl

/-- The statement that stores a row of a relation stops before any row when the plain table of
its name has another number of columns than the relation. -/
theorem execute_insert_width_ne (w : Work) (hfind : w.db.table? r.tableName = some t) (ht : t.Plain)
    (hwidth : t.columns.length ≠ r.arity) (hr : r.arity ≤ 12) :
    (execute changeFuel ⟨[], [], false, ps, none⟩ r.insertStatement).run.run w =
      (.error (.error (.logic ("table " ++ r.tableName ++ " has " ++ toString t.columns.length ++
        " columns but " ++ toString r.arity ++ " values were supplied")) .abort), w) := by
  rw [insertStatement_parameters]
  simp only [changeFuel, execute]
  rw [insertStatement.eq_def]
  simp only [Change.run_bind, Change.run_get, hfind, ht.insertPlacements, Change.run_check_ok,
    run_insertRows_parameters _ _ hr, List.length_map, List.length_range, List.length_range']
  -- the statement gives the relation's number of values, the table has another
  rw [if_pos (by simpa using Ne.symm hwidth)]
  rfl

/-- Storing a row of a relation in a plain table of its name that has another number of columns
fails, saying both numbers, and changes nothing but the counter of changes. -/
theorem Connection.run_insert_width_ne (c : Connection) (hfind : c.db.table? r.tableName = some t)
    (ht : t.Plain) (hwidth : t.columns.length ≠ r.arity) (hr : r.arity ≤ 12) :
    c.run ps r.insertStatement = ({ c with changes := 0 }, some (.logic ("table " ++ r.tableName ++
      " has " ++ toString t.columns.length ++ " columns but " ++ toString r.arity ++
      " values were supplied"))) := by
  rw [insertStatement_parameters]
  simp only [Connection.run, Connection.apply]
  rw [← insertStatement_parameters, execute_insert_width_ne r ps _ hfind ht hwidth hr]
  rfl

/-- A plain table takes the next row id, one past the largest, while there is one. -/
theorem Table.Plain.nextRowid (ht : t.Plain) (db : Database) :
    t.nextRowid db = if t.maxRowid.getD 0 ≥ maxInteger then .error (.logic "database or disk is full")
      else .ok (t.maxRowid.getD 0 + 1) := by
  simp [Table.nextRowid, ht.autoincrement]

end EnergyModel.Sql
