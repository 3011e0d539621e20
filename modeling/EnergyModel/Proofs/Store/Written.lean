import EnergyModel.Proofs.Store.Fresh
import EnergyModel.Proofs.Build.Recording

/-!
# Writing a model to a database file

`writeModel` clears the path, copies the template there if one is given, makes the table of
every relation that has none, and stores the relations' rows inside one transaction, each table
under a savepoint of its own. A write that returns its warnings leaves at the path the database
it started from, the template's or an empty one, so that a file that was at the path is
replaced, with the rows of every relation appended to its table; a warned relation keeps the
rows it had, and the warnings name non-empty relations in catalogue order.

Which rows go in depends on the database. The law is stated for a class of databases, as
`WriteLaws`: making a table keeps a database in the class, and on one in the class storing a row
appends it to its relation's table or fails. The databases of untyped relation tables that a
write without a template works on are such a class, and there every row goes in when each has
its relation's number of values. So are databases of untyped tables of any width, as a template
may hold: a table one column wider than its relation refuses the relation's rows, and the write
warns about it and keeps the table's own rows.
-/

namespace EnergyModel

open Sql

/-! ## Files -/

namespace FileTree

section Grows

variable {keys : List (List String)} {t t' : FileTree Content}

theorem Grows.isFileAt (h : t.Grows keys t') (k : List String) : t'.isFileAt k = t.isFileAt k := by
  rcases h k with h | ⟨-, text, more, hold, hnew⟩
  · simp only [FileTree.isFileAt, h]
  · simp only [FileTree.isFileAt, hold, hnew]

/-- Appending text to files leaves a database file as it was. -/
theorem Grows.read_database (h : t.Grows keys t') {p : String} {db : Database}
    (hr : t.read p = .ok (.database db)) : t'.read p = .ok (.database db) := by
  have hnode : t'.node? (Path.parts p) = t.node? (Path.parts p) := by
    rcases h (Path.parts p) with h | ⟨-, text, more, hold, -⟩
    · exact h
    · rw [node?_of_read hr] at hold
      cases hold
  unfold read at hr ⊢
  dsimp only at hr ⊢
  rw [funext h.isFileAt, hnode]
  exact hr

end Grows

section Remove

variable {α : Type} {t t' : FileTree α} {p : String}

theorem remove_eq_ok (h : t.remove p = .ok t') :
    Path.parts p ≠ [] ∧ t' = { entries := t.entries.filter (·.1 != Path.parts p) } := by
  unfold remove at h
  dsimp only at h
  split at h
  · rename_i c hnode
    cases h
    refine ⟨fun hroot => ?_, rfl⟩
    rw [hroot] at hnode
    cases hnode
  · cases h
  · cases h

theorem node?_remove_of_ne (h : t.remove p = .ok t') {k : List String} (hk : k ≠ Path.parts p) :
    t'.node? k = t.node? k := by
  obtain ⟨-, rfl⟩ := remove_eq_ok h
  unfold node?
  split
  · rfl
  · rw [List.find?_filter]
    congr 1
    apply List.find?_congr
    intro e _
    by_cases he : e.1 = k
    · subst he
      simp [hk]
    · simp [he]

theorem node?_remove_self (h : t.remove p = .ok t') : t'.node? (Path.parts p) = none := by
  obtain ⟨hkey, rfl⟩ := remove_eq_ok h
  unfold node?
  rw [if_neg (by simpa using hkey), List.find?_filter]
  simp

/-- Removing a file keeps every file that could be read at another path. -/
theorem read_remove_of_ne {q : String} {c : α} (h : t.remove p = .ok t')
    (hne : Path.parts q ≠ Path.parts p) (hr : t.read q = .ok c) : t'.read q = .ok c := by
  -- a file after the removal was a file before it
  have hfile : ∀ k, t'.isFileAt k = true → t.isFileAt k = true := by
    intro k hk
    by_cases hkp : k = Path.parts p
    · subst hkp
      simp [FileTree.isFileAt, node?_remove_self h] at hk
    · rwa [FileTree.isFileAt, node?_remove_of_ne h hkp] at hk
  unfold read at hr ⊢
  dsimp only at hr ⊢
  split at hr
  · cases hr
  · rename_i habove
    have habove' : ¬ (prefixes (Path.parts q)).any t'.isFileAt = true := by
      intro hany
      obtain ⟨k, hk, hf⟩ := List.any_eq_true.1 hany
      exact habove (List.any_eq_true.2 ⟨k, hk, hfile k hf⟩)
    rw [if_neg habove', node?_remove_of_ne h hne]
    exact hr

end Remove

end FileTree

/-! ## The steps of a write -/

namespace Run

variable {α β : Type} {s s' : Session}

/-- A run of two steps that succeeds ran the first to a result, from which the second
succeeded. -/
theorem bind_eq_ok {m : Run α} {f : α → Run β} {b : β} (h : (m >>= f).run.run s = (.ok b, s')) :
    ∃ a s₁, m.run.run s = (.ok a, s₁) ∧ (f a).run.run s₁ = (.ok b, s') := by
  rcases hm : m.run.run s with ⟨_ | a, s₁⟩
  · simp only [ExceptT.run_bind, StateT.run_bind, hm] at h
    cases h
  · simp only [ExceptT.run_bind, StateT.run_bind, hm] at h
    exact ⟨a, s₁, rfl, h⟩

theorem throw_ne_ok (f : Failure) (b : β) : (throw f : Run β).run.run s ≠ (.ok b, s') := by
  intro h
  cases h

/-- A run that starts by throwing does not succeed. -/
theorem throw_bind_ne_ok (e : Failure) (f : α → Run β) (b : β) :
    ((throw e : Run α) >>= f).run.run s ≠ (.ok b, s') := fun h => by
  obtain ⟨_, _, hthrow, -⟩ := bind_eq_ok h
  exact throw_ne_ok _ _ hthrow

/-- Nor does one that throws after a first step, as a write does when it saves what it has
before it fails. -/
theorem then_throw_bind_ne_ok {γ : Type} (m : Run γ) (e : Failure) (f : α → Run β) (b : β) :
    (m >>= fun _ => (throw e : Run α) >>= f).run.run s ≠ (.ok b, s') := fun h => by
  obtain ⟨_, _, -, h⟩ := bind_eq_ok h
  exact throw_bind_ne_ok _ _ _ h

end Run

variable {s s' : Session} {path : String}

open FileTree in
/-- Clearing the path leaves nothing there, and every database file elsewhere as it was. -/
theorem removeExisting_eq_ok (h : (removeExisting path).run.run s = (.ok (), s')) :
    s'.files.node? (Path.parts path) = none ∧
      ∀ q db, Path.parts q ≠ Path.parts path → s.files.read q = .ok (.database db) →
        s'.files.read q = .ok (.database db) := by
  unfold removeExisting at h
  rw [Run.files_bind] at h
  split at h
  · -- something is there: a note, which may grow a log file, then the removal
    obtain ⟨_, s₁, hnote, h⟩ := Run.bind_eq_ok h
    cases hnote
    rw [Run.files_bind] at h
    split at h
    · rename_i t' hremove
      cases h
      refine ⟨node?_remove_self hremove, fun q db hq hr => ?_⟩
      exact read_remove_of_ne hremove hq ((Session.record_grows s _).read_database hr)
    · exact (Run.throw_ne_ok _ _ h).elim
  · rename_i hnone
    cases h
    refine ⟨?_, fun _ _ _ hr => hr⟩
    simpa [FileTree.exists?] using hnone

/-- Copying a template puts what it holds at the path. -/
theorem copyTemplate_eq_ok {t : String} {c : Content} (hr : s.files.read t = .ok c)
    (h : (copyTemplate t path).run.run s = (.ok (), s')) : s'.files.read path = .ok c := by
  unfold copyTemplate at h
  rw [Run.files_bind] at h
  dsimp only at h
  rw [hr] at h
  obtain ⟨_, s₁, hpure, h⟩ := Run.bind_eq_ok h
  cases hpure
  split at h
  · rename_i t' hwrite
    cases h
    exact FileTree.read_of_write hwrite
  · exact (Run.throw_ne_ok _ _ h).elim

/-- Saving a connection puts its database, as the connection leaves it, at the path. -/
theorem saveDatabase_eq_ok {c : Connection} (h : (saveDatabase path c).run.run s = (.ok (), s')) :
    s'.files.read path = .ok (.database c.close) := by
  unfold saveDatabase at h
  rw [Run.files_bind] at h
  split at h
  · rename_i t hwrite
    cases h
    exact FileTree.read_of_write hwrite
  · exact (Run.throw_ne_ok _ _ h).elim

/-- A transaction that begins keeps the database, and no savepoint began it. -/
theorem runStatement_begin {c c₂ : Connection} (h : runStatement c [] .begin = .ok c₂) :
    c₂.db = c.db ∧ c₂.transaction.isSome ∧ c₂.bySavepoint = false := by
  rw [Connection.run_begin (runStatement_eq_ok h)]
  exact ⟨rfl, rfl, rfl⟩

/-- The database a write to `path` starts from: without a template the empty database, and with
one the database file the template names, at another path than `path`. -/
def TemplateAt (files : FileTree Content) (path : String) : Option String → Database → Prop
  | none, db => db = {}
  | some t, db => Path.parts t ≠ Path.parts path ∧ files.read t = .ok (.database db)

theorem templateAt_none (files : FileTree Content) (path : String) : TemplateAt files path none {} :=
  rfl

/-- Opening a path gives the database that what is there holds. -/
theorem openDatabase_eq_ok {db D : Database}
    (hD : databaseOf (s.files.read path).toOption = .ok D)
    (h : (openDatabase path).run.run s = (.ok db, s')) : db = D := by
  unfold openDatabase at h
  rw [Run.files_bind] at h
  dsimp only at h
  split at h
  · exact (Run.throw_bind_ne_ok _ _ _ h).elim
  · rw [hD] at h
    cases h
    rfl

/-- Making the path ready for a write gives the database the write starts from. -/
theorem openTarget_eq_ok {template : Option String} {D db : Database}
    (hD : TemplateAt s.files path template D)
    (h : (openTarget path template).run.run s = (.ok db, s')) : db = D := by
  unfold openTarget at h
  obtain ⟨_, s₁, hremove, h⟩ := Run.bind_eq_ok h
  obtain ⟨hgone, hkeep⟩ := removeExisting_eq_ok hremove
  cases template with
  | none =>
    -- the path was cleared, so there is no file to open
    have hread : (s₁.files.read path).toOption = none := by
      cases hr : s₁.files.read path with
      | ok c =>
        rw [FileTree.node?_of_read hr] at hgone
        cases hgone
      | error e => rfl
    dsimp only at h
    exact openDatabase_eq_ok (by rw [hread, show D = {} from hD]; rfl) h
  | some t =>
    obtain ⟨hne, hr⟩ := hD
    dsimp only at h
    obtain ⟨_, s₂, hcopy, h⟩ := Run.bind_eq_ok h
    have hread := copyTemplate_eq_ok (hkeep t D hne hr) hcopy
    exact openDatabase_eq_ok (by rw [hread]; rfl) h

/-- A write that returns its warnings made the tables in the database it starts from, began a
transaction, stored the relations and committed, and the path holds the database the commit
left. -/
theorem writeModel_eq_ok {R : RelationSet} {template : Option String} {D : Database}
    {ws : List WriteWarning} (hD : TemplateAt s.files path template D)
    (h : (writeModel path R template).run.run s = (.ok ws, s')) :
    ∃ c₁ c₂ c₃ c₄, createTables (Connection.open D) Relation.all = .ok c₁ ∧
      runStatement c₁ [] .begin = .ok c₂ ∧ insertRelations c₂ R.tables = .ok (c₃, ws) ∧
      runStatement c₃ [] .commit = .ok c₄ ∧ s'.files.read path = .ok (.database c₄.close) := by
  unfold writeModel at h
  obtain ⟨db, s₁, hopen, h⟩ := Run.bind_eq_ok h
  obtain rfl := openTarget_eq_ok hD hopen
  dsimp only at h
  -- the tables are made, then saved
  split at h
  rotate_left
  · exact (Run.then_throw_bind_ne_ok _ _ _ _ h).elim
  rename_i c₁ hc₁
  obtain ⟨_, _, hpure, h⟩ := Run.bind_eq_ok h
  cases hpure
  obtain ⟨_, _, -, h⟩ := Run.bind_eq_ok h
  -- the transaction begins
  split at h
  rotate_left
  · exact (Run.throw_bind_ne_ok _ _ _ h).elim
  rename_i c₂ hc₂
  obtain ⟨_, _, hpure, h⟩ := Run.bind_eq_ok h
  cases hpure
  -- the relations are stored
  split at h
  rotate_left
  · exact (Run.then_throw_bind_ne_ok _ _ _ _ h).elim
  rename_i written hwritten
  obtain ⟨_, _, hpure, h⟩ := Run.bind_eq_ok h
  cases hpure
  -- the warnings are noted, and the commit is saved
  obtain ⟨_, _, -, h⟩ := Run.bind_eq_ok h
  split at h
  rotate_left
  · exact (Run.then_throw_bind_ne_ok _ _ _ _ h).elim
  rename_i c₄ hc₄
  obtain ⟨_, s₅, hsave, h⟩ := Run.bind_eq_ok h
  obtain ⟨_, _, hnote, h⟩ := Run.bind_eq_ok h
  cases hnote
  cases h
  -- the last note may grow a log file, which leaves the saved database as it is
  exact ⟨c₁, c₂, written.1, c₄, hc₁, hc₂, hwritten, hc₄,
    (Session.record_grows s₅ _).read_database (saveDatabase_eq_ok hsave)⟩

/-! ## The rows of a catalogued set -/

section Catalogued

variable {R : RelationSet} {ts : List (Relation × Array Tuple)} {failed : List String} {n : String}

theorem writtenRows_cons_of_skipped {r : Relation} {rows : Array Tuple}
    (h : (sameName n r.tableName && !failed.contains r.tableName) = false) :
    writtenRows ((r, rows) :: ts) failed n = writtenRows ts failed n := by
  unfold writtenRows
  rw [List.filter_cons_of_neg (by rw [Bool.not_eq_true]; exact h)]

theorem writtenRows_eq_nil (h : ∀ e ∈ ts, sameName n e.1.tableName = false) :
    writtenRows ts failed n = [] := by
  unfold writtenRows
  rw [List.filter_eq_nil_iff.2 fun e he => by simp [h e he], List.flatMap_nil]

/-- Among relations of distinct names, the rows written to an entry's table are the entry's,
unless its table failed. -/
theorem writtenRows_of_mem (hdistinct : ts.Pairwise fun e e' => sameName e.1.tableName e'.1.tableName = false)
    {e : Relation × Array Tuple} (he : e ∈ ts) :
    writtenRows ts failed e.1.tableName =
      if e.1.tableName ∈ failed then [] else e.2.toList.map (·.map Cell.stored) := by
  induction ts with
  | nil => cases he
  | cons e' rest ih =>
    obtain ⟨hfar, hrest⟩ := List.pairwise_cons.1 hdistinct
    obtain ⟨r', rows'⟩ := e'
    rcases List.mem_cons.1 he with rfl | he
    · -- the entry itself: no later entry has its name
      dsimp only at hfar ⊢
      split
      · rename_i hfailed
        rw [writtenRows_cons_of_skipped (by simp [hfailed]), writtenRows_eq_nil hfar]
      · rename_i hfailed
        rw [writtenRows_cons_of_not_mem _ _ hfailed, writtenRows_eq_nil hfar, if_pos (sameName_self _),
          List.append_nil]
    · -- an earlier entry has another name, so it adds nothing here
      have hother : sameName e.1.tableName r'.tableName = false := by
        rw [sameName_comm]
        exact hfar e he
      rw [writtenRows_cons_of_skipped (by simp [hother]), ih hrest he]

theorem find?_fst_of_mem (hnodup : (ts.map Prod.fst).Nodup) {e : Relation × Array Tuple}
    (he : e ∈ ts) : ts.find? (·.1 == e.1) = some e := by
  induction ts with
  | nil => cases he
  | cons e' rest ih =>
    rw [List.map_cons, List.nodup_cons] at hnodup
    rcases List.mem_cons.1 he with rfl | he
    · simp
    · have hne : e'.1 ≠ e.1 := fun h => hnodup.1 (h ▸ List.mem_map_of_mem he)
      rw [List.find?_cons_of_neg (by simpa using hne), ih hnodup.2 he]

namespace RelationSet

theorem Catalogued.pairwise_sameName (hR : R.Catalogued) :
    R.tables.Pairwise fun e e' => sameName e.1.tableName e'.1.tableName = false := by
  have h := Relation.all_pairwise_sameName
  rw [← hR, List.pairwise_map] at h
  exact h

theorem Catalogued.tableNames_nodup (hR : R.Catalogued) : (R.tables.map (·.1.tableName)).Nodup := by
  refine (List.pairwise_map (R := fun a b => sameName a b = false)).2 hR.pairwise_sameName |>.imp ?_
  intro a b hab heq
  rw [heq, sameName_self] at hab
  cases hab

/-- In a catalogued set, an entry holds its relation's rows. -/
theorem Catalogued.rows_of_mem (hR : R.Catalogued) {e : Relation × Array Tuple}
    (he : e ∈ R.tables) : R.rows e.1 = e.2 := by
  simp [rows, find?_fst_of_mem (hR ▸ Relation.all_nodup) he]

/-- In a catalogued set, the rows written to a relation's table are its rows, unless its table
failed. -/
theorem Catalogued.writtenRows_tableName (hR : R.Catalogued) (failed : List String) (r : Relation) :
    writtenRows R.tables failed r.tableName =
      if r.tableName ∈ failed then [] else (R.rows r).toList.map (·.map Cell.stored) := by
  obtain ⟨e, he, rfl⟩ : ∃ e ∈ R.tables, e.1 = r := List.mem_map.1 (hR ▸ Relation.mem_all r)
  rw [writtenRows_of_mem hR.pairwise_sameName he, hR.rows_of_mem he]

end RelationSet

end Catalogued

/-! ## What a write leaves at the path -/

/-- What a write assumes of the databases it works on: making a relation's table keeps a
database in the class, and on a database of the class storing a row of `R` appends it to its
relation's table or fails, keeping the transaction and savepoints. -/
structure WriteLaws (admits : Database → Prop) (R : RelationSet) : Prop where
  create : ∀ (c c' : Connection) (r : Relation), admits c.db → c.run [] r.createStatement = (c', none) →
    admits c'.db
  insert : ∀ e ∈ R.tables, ∀ row ∈ e.2.toList, InsertAppends admits e.1 row

section Widths

variable {R : RelationSet} (harity : ∀ e ∈ R.tables, ∀ row ∈ e.2.toList, row.length = e.1.arity)
include harity

/-- Rows as wide as their relations obey the write law on untyped tables of any width. -/
theorem WriteLaws.untyped : WriteLaws Database.UntypedTables R :=
  ⟨fun _ _ _ hd h => Connection.run_createStatement_untyped hd h,
    fun e he row hrow => insertAppends_untyped (harity e he row hrow)⟩

/-- Rows as wide as their relations obey the write law on a store of relation tables. -/
theorem WriteLaws.plainStore : WriteLaws Database.PlainStore R :=
  ⟨fun _ _ _ hd h => (Connection.run_createStatement_plainStore hd h).1,
    fun e he row hrow => insertAppends_plainStore (harity e he row hrow)⟩

end Widths

/-- A write that returns its warnings leaves at the path the database it started from with the
rows of every relation appended to its table, except that a warned relation's table keeps its
rows; the warnings name non-empty relations in catalogue order. -/
theorem writeModel_writtenRows {admits : Database → Prop} {R : RelationSet}
    {template : Option String} {D : Database} {ws : List WriteWarning}
    (hR : R.Catalogued) (hlaws : WriteLaws admits R) (hadmits : admits D)
    (hD : TemplateAt s.files path template D)
    (h : (writeModel path R template).run.run s = (.ok ws, s')) :
    ∃ db, s'.files.read path = .ok (.database db) ∧
      (ws.map (·.table)).Sublist ((R.tables.filter (!·.2.isEmpty)).map (·.1.tableName)) ∧
      ∀ n, db.rowsOf n = D.rowsOf n ++ writtenRows R.tables (ws.map (·.table)) n := by
  obtain ⟨c₁, c₂, c₃, c₄, hc₁, hc₂, hc₃, hc₄, hread⟩ := writeModel_eq_ok hD h
  -- making the tables keeps the class and adds no rows
  have hadmits₁ : admits c₁.db := createTables_of_step hlaws.create hadmits hc₁
  -- the transaction begins, no savepoint began it, and the rows go in
  obtain ⟨hdb₂, htx₂, hby₂⟩ := runStatement_begin hc₂
  obtain ⟨-, -, hsub, hrows₃⟩ := insertRelations_tables hlaws.insert hR.tableNames_nodup
    (hdb₂ ▸ hadmits₁) htx₂ hby₂ hc₃
  -- the commit keeps the database, which the connection leaves as it is
  obtain rfl := Connection.run_commit (runStatement_eq_ok hc₄)
  refine ⟨_, hread, hsub, fun n => ?_⟩
  rw [Connection.close, Option.getD_none, Database.rowsOf_withoutTemp, hrows₃ n, hdb₂,
    createTables_rowsOf hc₁]
  rfl

/-- Without a template, when every row has its relation's number of values and no relation has
more rows than there are row ids, a write warns about no relation. -/
theorem writeModel_fresh_warnings {R : RelationSet} {ws : List WriteWarning} (hR : R.Catalogued)
    (harity : ∀ e ∈ R.tables, ∀ row ∈ e.2.toList, row.length = e.1.arity)
    (hsize : ∀ e ∈ R.tables, e.2.size ≤ maxInteger)
    (h : (writeModel path R none).run.run s = (.ok ws, s')) : ws = [] := by
  obtain ⟨c₁, c₂, c₃, -, hc₁, hc₂, hc₃, -, -⟩ := writeModel_eq_ok (templateAt_none _ _) h
  -- every relation has an empty table in a store of untyped tables
  obtain ⟨hd₁, -, hall⟩ := createTables_plainStore .empty hc₁
  obtain ⟨hdb₂, htx₂, hby₂⟩ := runStatement_begin hc₂
  obtain ⟨c', hc'⟩ := insertRelations_plainStore (hdb₂ ▸ hd₁) htx₂ hby₂
    (fun e _ => ⟨hdb₂ ▸ hall e.1 (Relation.mem_all _), by rw [hdb₂, createTables_rowsOf hc₁]; rfl⟩)
    harity hsize hR.pairwise_sameName
  rw [hc'] at hc₃
  cases hc₃
  rfl

/-- A write keeps every relation's rows, and without a template takes all of them.

A write that returns its warnings leaves at the path the database it started from, the
template's or an empty one, with the rows of every relation appended to its table, except that
a warned relation's table keeps only the rows it had; the warnings name non-empty relations,
each once, in catalogue order; tables of other names keep their rows. This holds for every
class of databases that making a table keeps, on which storing a row appends it or fails.
Without a template, when every row has its relation's number of values and no relation has more
rows than there are row ids, no relation is warned about and the database holds exactly the
model's rows. -/
theorem writeModel_tables (path : String) {R : RelationSet} (hR : R.Catalogued) :
    (∀ (admits : Database → Prop) (template : Option String) (D : Database) (s s' : Session)
        (ws : List WriteWarning),
      WriteLaws admits R → admits D → TemplateAt s.files path template D →
      (writeModel path R template).run.run s = (.ok ws, s') →
      ∃ db, s'.files.read path = .ok (.database db) ∧
        (ws.map (·.table)).Sublist ((R.tables.filter (!·.2.isEmpty)).map (·.1.tableName)) ∧
        (∀ r : Relation, db.rowsOf r.tableName = D.rowsOf r.tableName ++
          if r.tableName ∈ ws.map (·.table) then [] else (R.rows r).toList.map (·.map Cell.stored)) ∧
        ∀ n, (∀ r : Relation, sameName n r.tableName = false) → db.rowsOf n = D.rowsOf n) ∧
    (∀ (s s' : Session) (ws : List WriteWarning),
      (∀ r, ∀ row ∈ (R.rows r).toList, row.length = r.arity) →
      (∀ r, (R.rows r).size ≤ maxInteger) →
      (writeModel path R none).run.run s = (.ok ws, s') →
      ws = [] ∧ ∃ db, s'.files.read path = .ok (.database db) ∧
        (∀ r : Relation, db.rowsOf r.tableName = (R.rows r).toList.map (·.map Cell.stored)) ∧
        ∀ n, (∀ r : Relation, sameName n r.tableName = false) → db.rowsOf n = []) := by
  -- the rows each relation's table ends with, and those of other names
  have hread : ∀ {D db : Database} {ws : List WriteWarning},
      (∀ n, db.rowsOf n = D.rowsOf n ++ writtenRows R.tables (ws.map (·.table)) n) →
      (∀ r : Relation, db.rowsOf r.tableName = D.rowsOf r.tableName ++
        if r.tableName ∈ ws.map (·.table) then [] else (R.rows r).toList.map (·.map Cell.stored)) ∧
      ∀ n, (∀ r : Relation, sameName n r.tableName = false) → db.rowsOf n = D.rowsOf n := by
    intro D db ws hrows
    refine ⟨fun r => ?_, fun n hn => ?_⟩
    · rw [hrows, hR.writtenRows_tableName]
    · rw [hrows, writtenRows_eq_nil fun e _ => hn e.1, List.append_nil]
  refine ⟨fun admits template D s s' ws hlaws hadmits hD h => ?_,
    fun s s' ws harity hsize h => ?_⟩
  · obtain ⟨db, hdb, hsub, hrows⟩ := writeModel_writtenRows hR hlaws hadmits hD h
    exact ⟨db, hdb, hsub, hread hrows⟩
  · -- the fresh database: a store of untyped tables, on which every row goes in
    have harity' : ∀ e ∈ R.tables, ∀ row ∈ e.2.toList, row.length = e.1.arity := by
      intro e he row hrow
      exact harity e.1 row (by rwa [hR.rows_of_mem he])
    have hsize' : ∀ e ∈ R.tables, e.2.size ≤ maxInteger := by
      intro e he
      simpa [hR.rows_of_mem he] using hsize e.1
    obtain rfl := writeModel_fresh_warnings hR harity' hsize' h
    obtain ⟨db, hdb, -, hrows⟩ :=
      writeModel_writtenRows hR (WriteLaws.plainStore harity') .empty (templateAt_none _ _) h
    obtain ⟨hrel, hother⟩ := hread hrows
    refine ⟨rfl, db, hdb, fun r => ?_, fun n hn => ?_⟩
    · simpa using hrel r
    · simpa using hother n hn

/-! ## A template with a table of another width -/

/-- A template whose `time_season` table has one row and two untyped columns, one more than the
relation has. -/
def wideSeasonTemplate : Database :=
  { objects := [.table ((plainTable false "time_season" ["t_season", "note"]
      "CREATE TABLE time_season (t_season, note)").withRow ⟨1, [.text "winter", .text "cold"]⟩)] }

/-- A model of one period, `2020`, and one season, `summer`. -/
def seasonModel : RelationSet :=
  { tables := Relation.all.map fun r => (r,
      if r == .timePeriods then #[[.year 2020, .text "f"]]
      else if r == .timeSeason then #[[.text "summer"]] else #[]) }

/-- A session whose one file is the template. -/
def templateSession : Session :=
  { files := ⟨[(["template.sqlite"], .file (.database wideSeasonTemplate))]⟩ }

theorem wideSeasonTemplate_untyped : wideSeasonTemplate.UntypedTables where
  tables := by
    intro o ho
    rw [wideSeasonTemplate, List.mem_singleton] at ho
    subst ho
    exact ⟨_, rfl, (plainTable_plain false "time_season" ["t_season", "note"]
      "CREATE TABLE time_season (t_season, note)" 0).withRow _, rfl, by decide⟩

/-- The template holds its one row under the name `time_season`, in any case. -/
theorem wideSeasonTemplate_rowsOf (n : String) : wideSeasonTemplate.rowsOf n =
    if sameName "time_season" n then [[.text "winter", .text "cold"]] else [] := by
  rw [wideSeasonTemplate_untyped.rowsOf]
  by_cases h : sameName "time_season" n
  · simp [h, Database.table?, wideSeasonTemplate, Table.withRow, plainTable, insertRow]
  · simp [h, Database.table?, wideSeasonTemplate, Table.withRow, plainTable]

theorem seasonModel_catalogued : seasonModel.Catalogued := by
  simp [RelationSet.Catalogued, seasonModel, List.map_map, Function.comp_def]

theorem seasonModel_arity :
    ∀ e ∈ seasonModel.tables, ∀ row ∈ e.2.toList, row.length = e.1.arity := by
  intro e he row hrow
  simp only [seasonModel, List.mem_map] at he
  obtain ⟨r, -, rfl⟩ := he
  -- only the period and the season have a row, each as wide as its relation
  dsimp only at hrow
  split_ifs at hrow with hperiod hseason
  · rw [beq_iff_eq.1 hperiod]
    simp_all
    rfl
  · rw [beq_iff_eq.1 hseason]
    simp_all
    rfl
  · simp at hrow

theorem path_parts_model : Path.parts "model.sqlite" = ["model.sqlite"] := by
  simp +decide [Path.parts, String.splitOn, String.splitOnAux]

theorem path_parts_template : Path.parts "template.sqlite" = ["template.sqlite"] := by
  simp +decide [Path.parts, String.splitOn, String.splitOnAux]

theorem templateAt_wideSeason :
    TemplateAt templateSession.files "model.sqlite" (some "template.sqlite") wideSeasonTemplate := by
  refine ⟨by rw [path_parts_template, path_parts_model]; decide, ?_⟩
  simp only [templateSession, FileTree.read, path_parts_template]
  rfl

/-- Written over the wide template, the season model succeeds with one warning, for
`time_season`. The run is evaluated. -/
theorem writeModel_seasonModel_warnings :
    ((writeModel "model.sqlite" seasonModel (some "template.sqlite")).run.run
      templateSession).1.toOption.map (·.map (·.table)) = some ["time_season"] := by
  -- the paths are split by rewriting, the write is then run by the kernel
  simp only [writeModel, openTarget, removeExisting, copyTemplate, openDatabase, saveDatabase,
    FileTree.read, FileTree.write, FileTree.remove, FileTree.exists?, path_parts_model,
    path_parts_template]
  decide +kernel

/-- The season model written over the wide template: the template's `time_season` table refuses
the model's season and keeps its own row, the write warns about that table alone, and the
period is written. -/
theorem writeModel_wide_template :
    ∃ ws s', (writeModel "model.sqlite" seasonModel (some "template.sqlite")).run.run
        templateSession = (.ok ws, s') ∧ ws.map (·.table) = ["time_season"] ∧
      ∃ db, s'.files.read "model.sqlite" = .ok (.database db) ∧
        db.rowsOf "time_periods" = [[.integer 2020, .text "f"]] ∧
        db.rowsOf "time_season" = [[.text "winter", .text "cold"]] := by
  have hok := writeModel_seasonModel_warnings
  rcases hrun : (writeModel "model.sqlite" seasonModel (some "template.sqlite")).run.run
    templateSession with ⟨_ | ws, s'⟩
  · rw [hrun] at hok
    cases hok
  rw [hrun] at hok
  have hws : ws.map (·.table) = ["time_season"] := Option.some.inj hok
  obtain ⟨db, hdb, -, hrows, -⟩ := (writeModel_tables "model.sqlite" seasonModel_catalogued).1
    Database.UntypedTables (some "template.sqlite") wideSeasonTemplate templateSession s' ws
    (WriteLaws.untyped seasonModel_arity) wideSeasonTemplate_untyped templateAt_wideSeason hrun
  -- the period goes after the template's no rows; the season table keeps its one row
  have hother : sameName "time_season" "time_periods" = false :=
    Bool.eq_false_iff.2 fun h => nomatch @Relation.eq_of_sameName .timeSeason .timePeriods h
  have hperiod : seasonModel.rows .timePeriods = #[[.year 2020, .text "f"]] := rfl
  refine ⟨ws, s', rfl, hws, db, hdb, ?_, ?_⟩
  · simpa [hws, hperiod, wideSeasonTemplate_rowsOf, hother, Relation.tableName, Cell.year,
      Cell.stored] using hrows .timePeriods
  · simpa [hws, wideSeasonTemplate_rowsOf, sameName_self, Relation.tableName] using
      hrows .timeSeason

end EnergyModel
