import EnergyModel.Store
import EnergyModel.Proofs.Sql.Tables

/-!
# Tables written under savepoints

A model's rows go into its database inside one transaction, each non-empty relation under a
savepoint of its own (`insertRelations`). The savepoint makes each table all or nothing: when
every row of a relation is stored the savepoint is released and the rows stay; when one fails,
`ROLLBACK TO` returns the database to the savepoint, undoing the rows of that table stored
before the failure, and the table is warned about. The tables after it are still written, in
the same transaction.

The database is read as a map from table names to row lists (`Database.rowsOf`). What one
`INSERT` does is the database's business; `InsertAppends admits r row` says that, from any
connection whose database `admits`, storing `row` keeps the transaction and savepoints and,
when it succeeds, appends the row's stored values to `r`'s table and to nothing else. Under
that law for every row, `insertRelations_tables` gives the whole write: every relation's table
gains its rows unless the relation was warned about, the warnings name non-empty relations in
the order they were written, and the connection keeps its transaction and savepoints.
-/

namespace EnergyModel

open Sql

/-! ## Rows appended to one table -/

namespace Sql

/-- `db'` is `db` with `rows` appended to the table `name`, every other table as it was. -/
def Database.Appends (db db' : Database) (name : String) (rows : List (List Value)) : Prop :=
  ∀ n, db'.rowsOf n = db.rowsOf n ++ if sameName n name then rows else []

theorem Database.Appends.trans {db db' db'' : Database} {name : String}
    {rows rows' : List (List Value)} (h : db.Appends db' name rows)
    (h' : db'.Appends db'' name rows') : db.Appends db'' name (rows ++ rows') := by
  intro n
  rw [h' n, h n]
  split <;> simp

theorem Database.Appends.refl (db : Database) (name : String) : db.Appends db name [] := by
  intro n
  simp

/-! ## Transactions and savepoints -/

/-- `c'` has the transaction and the savepoints of `c`, and began its transaction the same way. -/
structure Connection.SameFrame (c c' : Connection) : Prop where
  transaction : c'.transaction = c.transaction
  savepoints : c'.savepoints = c.savepoints
  bySavepoint : c'.bySavepoint = c.bySavepoint

namespace Connection.SameFrame

variable {c c' c'' : Connection}

theorem refl (c : Connection) : c.SameFrame c := ⟨rfl, rfl, rfl⟩

theorem trans (h : c.SameFrame c') (h' : c'.SameFrame c'') : c.SameFrame c'' :=
  ⟨h'.transaction.trans h.transaction, h'.savepoints.trans h.savepoints,
    h'.bySavepoint.trans h.bySavepoint⟩

end Connection.SameFrame

/-- The connection with the savepoint a table is written under on top of its savepoints. -/
def Connection.tableMarked (c : Connection) : Connection :=
  { c with savepoints := ⟨tableSavepoint, c.db, c.deferred⟩ :: c.savepoints }

variable {c c₂ : Connection} {ps : List Value}

/-- Inside a transaction, a savepoint only marks the database as it is. -/
theorem Connection.run_savepoint (h : c.transaction.isSome) :
    c.run ps (.savepoint tableSavepoint) = (c.tableMarked, none) := by
  have hnone : c.transaction.isNone = false := by
    cases htx : c.transaction <;> simp_all
  simp [Connection.run, hnone, Connection.tableMarked]

/-- Releasing the table's savepoint forgets it and keeps what was done since; as the
transaction did not begin with it, the transaction goes on. -/
theorem Connection.run_release_marked (hby : c.bySavepoint = false)
    (h : c.tableMarked.SameFrame c₂) :
    c₂.run ps (.release tableSavepoint) = ({ c₂ with savepoints := c.savepoints }, none) := by
  have hsp : c₂.savepoints = ⟨tableSavepoint, c.db, c.deferred⟩ :: c.savepoints := h.savepoints
  have hby₂ : c₂.bySavepoint = false := h.bySavepoint.trans hby
  simp [Connection.run, hsp, hby₂, List.findIdx?_cons, sameName_self]

/-- Rolling back to the table's savepoint returns to the database and deferred keys it
marked, and keeps the savepoint. -/
theorem Connection.run_rollback_marked (h : c.tableMarked.SameFrame c₂) :
    c₂.run ps (.rollback (some tableSavepoint)) =
      ({ c₂ with db := c.db, deferred := c.deferred }, none) := by
  have hsp : c₂.savepoints = ⟨tableSavepoint, c.db, c.deferred⟩ :: c.savepoints := h.savepoints
  simp [Connection.run, hsp, List.findIdx?_cons, sameName_self]

/-- A transaction begins from the database as it is, and no savepoint began it. -/
theorem Connection.run_begin (h : c.run ps .begin = (c₂, none)) :
    c₂ = { c with transaction := some c.db, bySavepoint := false } := by
  simp only [Connection.run] at h
  split at h
  · cases h
  · cases h
    rfl

/-- A commit ends the transaction with the database as it is. -/
theorem Connection.run_commit (h : c.run ps .commit = (c₂, none)) :
    c₂ = { c with transaction := none, savepoints := [], bySavepoint := false } := by
  simp only [Connection.run] at h
  split at h
  · cases h
  · split at h
    · cases h
    · cases h
      rfl

end Sql

/-! ## One table -/

/-- What storing one row of a relation does, from a connection whose database `admits`: the
transaction and savepoints stay as they are, and a row that is stored is appended to the
relation's table alone, leaving a database that `admits` again. -/
def InsertAppends (admits : Database → Prop) (r : Relation) (row : Tuple) : Prop :=
  ∀ (c c' : Connection) e, admits c.db → c.run (row.map Cell.stored) r.insertStatement = (c', e) →
    c.SameFrame c' ∧ (e = none → admits c'.db ∧ c.db.Appends c'.db r.tableName [row.map Cell.stored])

variable {admits : Database → Prop} {r : Relation} {c c₂ : Connection}

/-- Storing a relation's rows one by one stops at the first failure, keeping the
transaction and savepoints; when none fails, all the rows are appended, in order. -/
theorem insertRows_appends {rows : List Tuple} (hlaw : ∀ row ∈ rows, InsertAppends admits r row)
    (hc : admits c.db) :
    c.SameFrame (insertRows c r rows).1 ∧
      ((insertRows c r rows).2 = none → admits (insertRows c r rows).1.db ∧
        c.db.Appends (insertRows c r rows).1.db r.tableName (rows.map (·.map Cell.stored))) := by
  induction rows generalizing c with
  | nil => exact ⟨.refl c, fun _ => ⟨hc, .refl _ _⟩⟩
  | cons row rest ih =>
    rcases hrun : c.run (row.map Cell.stored) r.insertStatement with ⟨c₁, e⟩
    obtain ⟨hframe, hok⟩ := hlaw row (List.mem_cons_self ..) c c₁ e hc hrun
    cases e with
    | some e =>
      simp only [insertRows, hrun]
      exact ⟨hframe, fun h => nomatch h⟩
    | none =>
      -- the first row is stored: the rest go on from its connection
      obtain ⟨hc₁, happ⟩ := hok rfl
      have hrest := ih (fun row' h' => hlaw row' (List.mem_cons_of_mem _ h')) hc₁
      simp only [insertRows, hrun, List.map_cons]
      exact ⟨hframe.trans hrest.1, fun hnone =>
        ⟨(hrest.2 hnone).1, by simpa using happ.trans (hrest.2 hnone).2⟩⟩

variable {rows : Array Tuple} {rest : List (Relation × Array Tuple)}

/-- One non-empty table, when its rows keep the transaction and savepoints: written under
its savepoint, which is released when every row went in, and otherwise rolled back to and
released, leaving the database as it was before the table and a warning with the reason. -/
theorem insertRelations_cons_of_frame (hc : c.transaction.isSome) (hby : c.bySavepoint = false)
    (hne : rows.isEmpty = false)
    (hframe : c.tableMarked.SameFrame (insertRows c.tableMarked r rows.toList).1) :
    insertRelations c ((r, rows) :: rest) =
      match insertRows c.tableMarked r rows.toList with
      | (c₂, none) => insertRelations { c₂ with savepoints := c.savepoints } rest
      | (c₂, some e) =>
        (insertRelations { c₂ with db := c.db, deferred := c.deferred, savepoints := c.savepoints }
          rest).map fun (c, ws) => (c, ⟨r.tableName, e.message⟩ :: ws) := by
  rcases hins : insertRows c.tableMarked r rows.toList with ⟨c₂, e⟩
  rw [hins] at hframe
  simp only [insertRelations, hne, Bool.false_eq_true, ↓reduceIte, runStatement,
    Connection.run_savepoint hc, hins]
  cases e with
  | none =>
    simp only [Connection.run_release_marked hby hframe]
    cases insertRelations { c₂ with savepoints := c.savepoints } rest <;> rfl
  | some e =>
    -- the rollback keeps the savepoint, so the release that follows finds it
    have hback : c.tableMarked.SameFrame { c₂ with db := c.db, deferred := c.deferred } :=
      ⟨hframe.transaction, hframe.savepoints, hframe.bySavepoint⟩
    simp only [Connection.run_rollback_marked hframe, Connection.run_release_marked hby hback]

/-! ## Every table -/

/-- The stored rows that the relations `ts` add to the table `n`, leaving out the tables
named in `failed`. -/
def writtenRows (ts : List (Relation × Array Tuple)) (failed : List String) (n : String) :
    List (List Value) :=
  (ts.filter fun e => sameName n e.1.tableName && !failed.contains e.1.tableName).flatMap
    fun e => e.2.toList.map (·.map Cell.stored)

@[simp] theorem writtenRows_nil (failed : List String) (n : String) : writtenRows [] failed n = [] :=
  rfl

theorem writtenRows_cons_of_isEmpty (failed : List String) (n : String) (h : rows.isEmpty = true) :
    writtenRows ((r, rows) :: rest) failed n = writtenRows rest failed n := by
  have hnil : rows.toList = [] := by simpa using h
  unfold writtenRows
  rw [List.filter_cons]
  split <;> simp [hnil]

theorem writtenRows_cons_of_not_mem (failed : List String) (n : String)
    (h : r.tableName ∉ failed) :
    writtenRows ((r, rows) :: rest) failed n =
      (if sameName n r.tableName then rows.toList.map (·.map Cell.stored) else []) ++
        writtenRows rest failed n := by
  unfold writtenRows
  rw [List.filter_cons]
  split <;> simp_all

theorem writtenRows_cons_failed (failed : List String) (n : String)
    (h : r.tableName ∉ rest.map (·.1.tableName)) :
    writtenRows ((r, rows) :: rest) (r.tableName :: failed) n = writtenRows rest failed n := by
  unfold writtenRows
  rw [List.filter_cons]
  have hhead : (sameName n r.tableName && !(r.tableName :: failed).contains r.tableName) = false := by
    simp
  rw [if_neg (by simp only [hhead]; decide)]
  -- no later table has the name of the failed one, so its warning leaves them as they were
  congr 1
  apply List.filter_congr
  intro e he
  have hne : e.1.tableName ≠ r.tableName := fun heq => h (heq ▸ List.mem_map_of_mem he)
  simp [hne]

/-- Writing every table of a list, each under its own savepoint, inside a transaction that a
savepoint did not begin: each table gains all of its relation's rows unless it is warned
about, and then keeps the rows it had; the warnings name non-empty relations in the order
they were written; and the connection keeps its transaction and savepoints. -/
theorem insertRelations_tables {ts : List (Relation × Array Tuple)} {c' : Connection}
    {ws : List WriteWarning} (hlaw : ∀ e ∈ ts, ∀ row ∈ e.2.toList, InsertAppends admits e.1 row)
    (hnodup : (ts.map (·.1.tableName)).Nodup) (hc : admits c.db) (htx : c.transaction.isSome)
    (hby : c.bySavepoint = false) (h : insertRelations c ts = .ok (c', ws)) :
    c.SameFrame c' ∧ admits c'.db ∧
      (ws.map (·.table)).Sublist ((ts.filter (!·.2.isEmpty)).map (·.1.tableName)) ∧
      ∀ n, c'.db.rowsOf n = c.db.rowsOf n ++ writtenRows ts (ws.map (·.table)) n := by
  induction ts generalizing c ws with
  | nil =>
    simp only [insertRelations, Except.ok.injEq, Prod.mk.injEq] at h
    obtain ⟨rfl, rfl⟩ := h
    exact ⟨.refl c, hc, by simp, by simp⟩
  | cons entry rest ih =>
    obtain ⟨r, rows⟩ := entry
    have hlaw' : ∀ e ∈ rest, ∀ row ∈ e.2.toList, InsertAppends admits e.1 row :=
      fun e he => hlaw e (List.mem_cons_of_mem _ he)
    have hnodup' : (rest.map (·.1.tableName)).Nodup := (List.nodup_cons.1 hnodup).2
    have hfresh : r.tableName ∉ rest.map (·.1.tableName) := (List.nodup_cons.1 hnodup).1
    cases hne : rows.isEmpty with
    | true =>
      -- an empty relation is skipped: no savepoint, no warning
      simp only [insertRelations, hne, if_true] at h
      obtain ⟨hframe, hc', hsub, hrows⟩ := ih hlaw' hnodup' hc htx hby h
      refine ⟨hframe, hc', by simpa [hne] using hsub, fun n => ?_⟩
      rw [hrows n, writtenRows_cons_of_isEmpty _ _ hne]
    | false =>
      obtain ⟨hframe, hok⟩ := insertRows_appends (hlaw (r, rows) (List.mem_cons_self ..))
        (c := c.tableMarked) hc
      rw [insertRelations_cons_of_frame htx hby hne hframe] at h
      rcases hins : insertRows c.tableMarked r rows.toList with ⟨c₂, e⟩
      rw [hins] at hframe hok h
      have htx₂ : c₂.transaction = c.transaction := hframe.transaction
      have hby₂ : c₂.bySavepoint = c.bySavepoint := hframe.bySavepoint
      cases e with
      | none =>
        -- every row went in: the table has them, and the next tables start from there
        dsimp only at h hok
        obtain ⟨hc₂, happ⟩ := hok rfl
        obtain ⟨hframe', hc', hsub, hrows⟩ := ih (c := { c₂ with savepoints := c.savepoints })
          hlaw' hnodup' hc₂ (by simpa [htx₂] using htx)
          (by simpa [hby₂] using hby) h
        have hnot : r.tableName ∉ ws.map (·.table) := fun hm => hfresh (hsub.subset hm |>
          List.mem_map.1 |>.elim fun e he => List.mem_map.2 ⟨e, (List.mem_filter.1 he.1).1, he.2⟩)
        have hon : c.SameFrame { c₂ with savepoints := c.savepoints } := ⟨htx₂, rfl, hby₂⟩
        refine ⟨hon.trans hframe', hc', by simpa [hne] using hsub.cons _, fun n => ?_⟩
        rw [hrows n, writtenRows_cons_of_not_mem _ _ hnot, happ n]
        simp [Connection.tableMarked]
      | some err =>
        -- the table is rolled back to its savepoint: the next tables start from the database
        -- as it was before it
        dsimp only at h
        rcases hrest : insertRelations
            { c₂ with db := c.db, deferred := c.deferred, savepoints := c.savepoints } rest with
          _ | ⟨c'', ws'⟩
        · simp [hrest, Except.map] at h
        simp only [hrest, Except.map, Except.ok.injEq, Prod.mk.injEq] at h
        obtain ⟨rfl, rfl⟩ := h
        obtain ⟨hframe', hc', hsub, hrows⟩ :=
          ih (c := { c₂ with db := c.db, deferred := c.deferred, savepoints := c.savepoints })
            hlaw' hnodup' hc (by simpa [htx₂] using htx) (by simpa [hby₂] using hby) hrest
        have hback : c.SameFrame
            { c₂ with db := c.db, deferred := c.deferred, savepoints := c.savepoints } :=
          ⟨htx₂, rfl, hby₂⟩
        refine ⟨hback.trans hframe', hc', by simpa [hne] using (List.cons_sublist_cons (a := r.tableName)).2 hsub, fun n => ?_⟩
        rw [hrows n, List.map_cons, writtenRows_cons_failed _ _ hfresh]

end EnergyModel
