import EnergyModel.Proofs.Sql.PlainInsert
import EnergyModel.Proofs.Assembly.Keys

/-!
# Making a table of untyped columns

A relation's table is made by `CREATE TABLE IF NOT EXISTS` with its column names and nothing else.
When that statement succeeds, it has either found a table or view of the name and changed
nothing, or added the relation's table at the end of the schema: untyped columns of the
relation's names (`plainColumn`), no rows, no constraints, lasting (`plainTable`). That is
`Connection.run_createStatement`, read off the statement in three steps: a column definition
without constraints adds one untyped column (`TableDraft.addColumn_plain`), the table defined
from such columns is `plainTable` (`defineTable_plain`), and `createTable` either stops or adds
it (`run_createTable_plain`). A successful statement keeps the database its change left
(`Connection.apply_of_none`).

Either way the rows of every name stay as they were (`Database.rowsOf_withTable_plain`).
-/

namespace EnergyModel.Sql

/-! ## An untyped column -/

theorem toUpper_empty : "".toUpper = "" := by
  rw [← String.toList_inj, String.toUpper, String.toList_map]
  rfl

theorem containsText_empty (needle : String) : containsText "" needle = false := by
  unfold containsText String.splitOn
  split
  · rfl
  · rw [String.splitOnAux]
    simp

theorem Affinity.ofDeclared_empty : Affinity.ofDeclared "" = .blob := by
  simp only [Affinity.ofDeclared, toUpper_empty, containsText_empty]
  rfl

/-- The definition of a column by its name alone. -/
def plainDefinition (name : String) : ColumnDefinition := { name, declared := "", constraints := [] }

/-- The column a definition by name alone makes: untyped, so with no affinity, and free of
constraints. -/
def plainColumn (name : String) : Column :=
  { name, declared := "", affinity := .blob, collation := .binary, notNull := none, defaultValue := none,
    generated := none, primaryKey := false, strictType := none }

/-- A column defined by its name alone is added as an untyped column, unless the name is taken. -/
theorem TableDraft.addColumn_plain (d : TableDraft) (table name : String) :
    d.addColumn table (plainDefinition name) =
      if d.columns.any (fun c => sameName c.name name) then .error (.logic ("duplicate column name: " ++ name))
      else .ok { d with columns := d.columns ++ [plainColumn name] } := by
  unfold TableDraft.addColumn
  dsimp only [plainDefinition]
  by_cases hdup : d.columns.any (fun c => sameName c.name name) = true
  · simp only [hdup, ↓reduceIte]
    rfl
  · simp only [hdup, Bool.false_eq_true, ↓reduceIte, List.forIn_nil, Affinity.ofDeclared_empty]
    rfl

/-- Defining the columns one by one appends them, in order, when none of them fails. -/
theorem forIn_addColumn_plain {table : String} {cols : List String} {d d' : TableDraft}
    (h : forIn (cols.map plainDefinition) d
      (fun c r => r.addColumn table c >>= fun d => pure (ForInStep.yield d)) = .ok d') :
    d' = { d with columns := d.columns ++ cols.map plainColumn } := by
  induction cols generalizing d with
  | nil =>
    cases h
    simp
  | cons c cols ih =>
    rw [List.map_cons, List.forIn_cons, TableDraft.addColumn_plain] at h
    split at h
    · cases h
    · have hrest := ih h
      rw [hrest]
      simp

/-! ## The table a definition of untyped columns makes -/

theorem keyIndexes_nil (table : String) (temp : Bool) (columns : List Column) :
    keyIndexes table temp columns [] = .ok [] := rfl

/-- The table a `CREATE TABLE` of untyped columns and nothing else defines. -/
def plainTable (temp : Bool) (name : String) (cols : List String) (sql : String) : Table :=
  { name, columns := cols.map plainColumn, rows := [], rowidColumn := none, keyConflict := none,
    autoincrement := false, checks := [], foreignKeys := [], withoutRowId := false, strict := false,
    temp := temp, sql := sql }

/-- A table defined by untyped columns alone is `plainTable`, with no index. -/
theorem defineTable_plain {temp : Bool} {name : String} {cols : List String} {sql : String} {t : Table}
    {idx : List Index} (h : defineTable temp name (cols.map plainDefinition) [] false false sql = .ok (t, idx)) :
    t = plainTable temp name cols sql ∧ idx = [] := by
  unfold defineTable at h
  dsimp only at h
  obtain ⟨d, hloop, h⟩ := bind_eq_ok_iff.1 h
  obtain rfl := forIn_addColumn_plain hloop
  simp only [List.forIn_nil, Bool.false_or, Bool.false_eq_true, ↓reduceIte] at h
  obtain ⟨a, ha, h⟩ := bind_eq_ok_iff.1 h
  cases ha
  dsimp only at h
  repeat' split at h
  all_goals try (cases h; done)
  rw [keyIndexes_nil] at h
  cases h
  exact ⟨by simp [plainTable], rfl⟩

/-! ## The statement -/

/-- The work a statement run on a connection starts from. -/
def Connection.work (c : Connection) : Work :=
  { db := c.db, immediate := 0, deferred := c.deferred, keysOn := c.keysOn, running := [],
    lastRowid := c.lastRowid, changes := c.changes, totalChanges := c.totalChanges, settings := c.settings }

/-- A statement that succeeds ran its change to the end, or skipped its row, and keeps the
database its change left. -/
theorem Connection.apply_of_none {c c' : Connection} {counted : Bool} {action : Change Unit}
    (h : c.apply counted action = (c', none)) :
    ((action.run.run c.work).1 = .ok () ∨ (action.run.run c.work).1 = .error .ignoreRow) ∧
      c'.db = (action.run.run c.work).2.db := by
  unfold Connection.apply at h
  dsimp only at h
  split at h
  rename_i res after heq
  have hrun : action.run.run c.work = (res, after) := heq
  rw [hrun]
  cases res with
  | ok u =>
    dsimp only at h
    split at h
    · simp at h
    · simp only [Prod.mk.injEq] at h
      exact ⟨.inl rfl, by rw [← h.1]⟩
  | error stop =>
    cases stop with
    | ignoreRow =>
      dsimp only at h
      split at h
      · simp at h
      · simp only [Prod.mk.injEq] at h
        exact ⟨.inr rfl, by rw [← h.1]⟩
    | error e act =>
      -- a statement that stopped reports its error, whatever it keeps
      cases act <;> dsimp only at h <;> (try split at h) <;> simp at h

@[simp] theorem Change.run_fail {α : Type} (e : SqlError) (a : Conflict) (w : Work) :
    (Change.fail e a : Change α).run.run w = (.error (.error e a), w) := rfl

/-- `CREATE TABLE IF NOT EXISTS` of untyped columns: it stops and changes nothing, or finds a
table or view of the name and does nothing, or adds the table. -/
theorem run_createTable_plain (name : String) (cols : List String) (sql : String) (w : Work) :
    (∃ e, (createTable false true ⟨none, name⟩ (cols.map plainDefinition) [] false false sql).run.run w =
        (.error (.error e .abort), w)) ∨
      (w.db.objects.any (fun o => o.temp == false && o.isRelation && sameName o.name name) = true ∧
        (createTable false true ⟨none, name⟩ (cols.map plainDefinition) [] false false sql).run.run w =
          (.ok (), w)) ∨
      nameTaken w.db false name = none ∧
        (createTable false true ⟨none, name⟩ (cols.map plainDefinition) [] false false sql).run.run w =
          (.ok (), { w with db := w.db.withTable (plainTable false name cols sql) [] }) := by
  have htemp : (false || Option.map (fun (x : String) => x.toLower == "temp") none == some true) = false := rfl
  unfold createTable
  simp only [htemp]
  split
  · -- a reserved name
    rename_i e _
    exact .inl ⟨e, by simp only [Change.run_bind, Change.run_fail]⟩
  simp only [Change.run_bind, Change.run_get]
  split
  · -- the name is taken: a table or view of it is kept, anything else fails the statement
    rename_i e _
    split
    · rename_i hfound
      exact .inr (.inl ⟨by simpa using hfound, rfl⟩)
    · exact .inl ⟨e, by simp only [Change.run_bind, Change.run_fail]⟩
  rename_i htaken
  rcases hdef : defineTable false name (cols.map plainDefinition) [] false false sql with e | ⟨t, idx⟩
  · exact .inl ⟨e, by simp only [Change.run_bind, Change.run_check_error]⟩
  obtain ⟨rfl, rfl⟩ := defineTable_plain hdef
  refine .inr (.inr ⟨?_, by simp only [Change.run_bind, Change.run_check_ok, Change.run_modify]⟩)
  cases h : nameTaken w.db false name with
  | none => rfl
  | some e => exact absurd h (htaken e)

/-- Making a relation's table either finds a table or view of its name and leaves the database
as it was, or adds the relation's untyped, empty table at the end of the schema. -/
theorem Connection.run_createStatement {c c' : Connection} {r : EnergyModel.Relation}
    (h : c.run [] r.createStatement = (c', none)) :
    (c'.db = c.db ∧
        c.db.objects.any (fun o => o.temp == false && o.isRelation && sameName o.name r.tableName) = true) ∨
      nameTaken c.db false r.tableName = none ∧
        ∃ sql, c'.db = c.db.withTable (plainTable false r.tableName r.columns sql) [] := by
  obtain ⟨sql, hrun⟩ : ∃ sql, c.run [] r.createStatement =
      c.apply false (createTable false true ⟨none, r.tableName⟩ (r.columns.map plainDefinition) [] false false sql) := by
    simp only [Relation.createStatement, Connection.run, defineStatement]
    exact ⟨_, rfl⟩
  rw [hrun] at h
  obtain ⟨hresult, hdb⟩ := Connection.apply_of_none h
  rcases run_createTable_plain r.tableName r.columns sql c.work with ⟨e, hstop⟩ | ⟨hfound, hsame⟩ | ⟨htaken, hmade⟩
  · rw [hstop] at hresult
    simp at hresult
  · rw [hsame] at hdb
    exact .inl ⟨hdb, hfound⟩
  · rw [hmade] at hdb
    exact .inr ⟨htaken, sql, hdb⟩

/-! ## The schema after it -/

theorem plainTable_plain (temp : Bool) (name : String) (cols : List String) (sql : String) (page : Nat) :
    { plainTable temp name cols sql with page }.Plain where
  notNull := by simp [plainTable, plainColumn]
  generated := by simp [plainTable, plainColumn]
  stored := by simp [plainTable, plainColumn]
  rowidColumn := rfl
  autoincrement := rfl
  checks := rfl
  foreignKeys := rfl
  withoutRowId := rfl

/-- The table goes after every object, on the first free page. -/
theorem Database.withTable_plain (db : Database) (temp : Bool) (name : String) (cols : List String)
    (sql : String) :
    db.withTable (plainTable temp name cols sql) [] =
      { db with objects := db.objects ++
        [SchemaObject.table { plainTable temp name cols sql with page := db.freePage temp }] } := rfl

/-- Making a table of untyped columns keeps the rows of every name. -/
theorem Database.rowsOf_withTable_plain (db : Database) (temp : Bool) (name : String) (cols : List String)
    (sql : String) : (db.withTable (plainTable temp name cols sql) []).rowsOf = db.rowsOf := by
  rw [Database.withTable_plain, Database.rowsOf_append_empty _ rfl]

/-- Making a relation's table adds no rows. -/
theorem Connection.rowsOf_createStatement {c c' : Connection} {r : EnergyModel.Relation}
    (h : c.run [] r.createStatement = (c', none)) : c'.db.rowsOf = c.db.rowsOf := by
  rcases Connection.run_createStatement h with ⟨hsame, -⟩ | ⟨-, sql, hmade⟩
  · rw [hsame]
  · rw [hmade, Database.rowsOf_withTable_plain]

/-- In a database without temporary objects, a name that no table or view takes finds no table. -/
theorem Database.table?_eq_none_of_nameTaken {db : Database} {name : String}
    (hlast : ∀ o ∈ db.objects, o.temp = false) (h : nameTaken db false name = none) :
    db.table? name = none := by
  have hnone : db.objects.find? (fun o => o.temp == false && o.isRelation && sameName o.name name) = none := by
    unfold nameTaken at h
    split at h
    · cases h
    · cases h
    · assumption
  have hempty : db.tablesNamed name = [] := by
    apply List.eq_nil_iff_forall_not_mem.2
    intro t ht
    obtain ⟨hmem, hname⟩ := Database.mem_tablesNamed.1 ht
    have htemp : t.temp = false := hlast _ hmem
    have := List.find?_eq_none.1 hnone _ hmem
    simp [SchemaObject.temp, SchemaObject.isRelation, SchemaObject.name, htemp, hname] at this
  rw [Database.table?_eq, hempty]
  rfl

end EnergyModel.Sql
