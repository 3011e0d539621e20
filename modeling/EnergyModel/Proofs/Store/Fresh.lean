import EnergyModel.Proofs.Store.Savepoints
import EnergyModel.Proofs.Sql.CreateTable
import EnergyModel.Proofs.Assembly.Run

/-!
# A fresh database takes every row

Without a template, a model is written into an empty database: the writer makes one untyped
table per relation and stores the rows in them. `Database.UntypedTables` says what such a
database is like at every step: its objects are lasting untyped tables, and no table has row ids
beyond its number of rows. Making a relation's table keeps it
(`Connection.run_createStatement_untyped`), and storing a row either appends it to its
relation's table or fails, keeping the transaction (`Connection.run_insert_untyped`); a table of
another width than the relation, as a template may hold, refuses every row.
`Database.PlainStore` adds that the table found by a relation's name is as wide as the relation.
The empty database is one (`Database.PlainStore.empty`), and making tables and storing rows
keep it (`Connection.run_createStatement_plainStore`, `insertAppends_plainStore`).

On such a database, with a table for every relation and no rows yet, every row of every
relation goes in, when each has its relation's number of values and no relation has more rows
than there are row ids: no table is warned about (`insertRelations_plainStore`).
-/

namespace EnergyModel

open Sql

/-! ## Relations by table name -/

theorem Relation.lowerNames_nodup :
    (Relation.all.map fun r => r.tableName.toList.map Char.toLower).Nodup := by
  decide +kernel

/-- No two relations have table names that differ only in ASCII case. -/
theorem Relation.eq_of_sameName {r r' : Relation} (h : sameName r.tableName r'.tableName = true) :
    r = r' := by
  have hlower : r.tableName.toList.map Char.toLower = r'.tableName.toList.map Char.toLower := by
    simp only [sameName, beq_iff_eq] at h
    rw [← String.toList_map, ← String.toList_map]
    exact congrArg String.toList h
  exact List.inj_on_of_nodup_map Relation.lowerNames_nodup (Relation.mem_all r) (Relation.mem_all r')
    hlower

theorem Relation.all_nodup : Relation.all.Nodup :=
  Relation.lowerNames_nodup.of_map _

/-- No two relations have table names that differ only in ASCII case. -/
theorem Relation.all_pairwise_sameName :
    Relation.all.Pairwise fun r r' => sameName r.tableName r'.tableName = false :=
  Relation.all_nodup.imp fun hne => Bool.eq_false_iff.2 fun h => hne (Relation.eq_of_sameName h)

theorem Relation.arity_le (r : Relation) : r.arity ≤ 12 := by
  cases r <;> decide

/-! ## Databases of untyped tables -/

theorem Sql.Table.Plain.withRow {t : Table} (ht : t.Plain) (r : Row) : (t.withRow r).Plain :=
  ⟨ht.notNull, ht.generated, ht.stored, ht.rowidColumn, ht.autoincrement, ht.checks, ht.foreignKeys,
    ht.withoutRowId⟩

/-- A database whose objects are lasting untyped tables, of any number of columns, none with a
row id beyond its number of rows. -/
structure Sql.Database.UntypedTables (db : Database) : Prop where
  tables : ∀ o ∈ db.objects, ∃ t, o = .table t ∧ t.Plain ∧ t.temp = false ∧
    t.maxRowid.getD 0 ≤ t.rows.length

namespace Sql.Database.UntypedTables

variable {db : Database} {n : String} {t : Table}

theorem lasting (hd : db.UntypedTables) : ∀ o ∈ db.objects, o.temp = false := by
  intro o ho
  obtain ⟨t, rfl, -, htemp, -⟩ := hd.tables o ho
  exact htemp

theorem table (hd : db.UntypedTables) (h : db.table? n = some t) :
    t.Plain ∧ t.temp = false ∧ t.maxRowid.getD 0 ≤ t.rows.length := by
  obtain ⟨u, hu, hplain, htemp, hbound⟩ := hd.tables _ (Database.table?_mem h)
  cases hu
  exact ⟨hplain, htemp, hbound⟩

/-- Nothing but tables: no trigger, index or foreign key acts on a change of a table. -/
theorem quiet (hd : db.UntypedTables) (n : String) : db.Quiet n where
  triggers := by
    apply List.filterMap_eq_nil_iff.2
    intro o ho
    obtain ⟨t, rfl, -⟩ := hd.tables o ho
    rfl
  indexes := by
    unfold Database.indexesOf
    -- every object is a table, which no step of the fold takes in
    have hfold : ∀ (f : List Index → SchemaObject → List Index), (∀ acc t, f acc (.table t) = acc) →
        ∀ os : List SchemaObject, (∀ o ∈ os, ∃ t, o = .table t) → ∀ acc, os.foldl f acc = acc := by
      intro f hf os hos
      induction os with
      | nil => intro acc; rfl
      | cons o os ih =>
        intro acc
        obtain ⟨t, rfl⟩ := hos o (List.mem_cons_self ..)
        rw [List.foldl_cons, hf, ih fun o' h' => hos o' (List.mem_cons_of_mem _ h')]
    exact hfold _ (fun _ _ => rfl) db.objects (fun o ho => (hd.tables o ho).imp fun _ h => h.1) []
  referred := by
    apply List.flatMap_eq_nil_iff.2
    intro o ho
    obtain ⟨t, rfl, hplain, -⟩ := hd.tables o ho
    simp [hplain.foreignKeys]

theorem view? (hd : db.UntypedTables) (n : String) : db.view? n = none := by
  unfold Database.view?
  dsimp only
  rw [List.filterMap_eq_nil_iff.2 ?_]
  · rfl
  · intro o ho
    obtain ⟨t, rfl, -⟩ := hd.tables o ho
    rfl

/-- In a database of lasting tables, the rows of a name are those of the table it finds. -/
theorem rowsOf (hd : db.UntypedTables) (n : String) :
    db.rowsOf n = ((db.table? n).map fun t => t.rows.map (·.values)).getD [] := by
  rw [Database.rowsOf, Database.withoutTemp_eq_self hd.lasting]

/-- Adding an untyped table after the others keeps the tables untyped. -/
theorem withTable (hd : db.UntypedTables) (name : String) (cols : List String) (sql : String) :
    (db.withTable (plainTable false name cols sql) []).UntypedTables where
  tables := by
    rw [Database.withTable_plain]
    intro o ho
    rcases List.mem_append.1 ho with ho | ho
    · exact hd.tables o ho
    · rw [List.mem_singleton] at ho
      subst ho
      exact ⟨_, rfl, plainTable_plain .., rfl, by simp [plainTable, Table.maxRowid]⟩

/-- Storing a table found by a name, with one more row at the next row id, keeps the tables
untyped. -/
theorem putTable_next (hd : db.UntypedTables) (hfind : db.table? n = some t) (vs : List Value) :
    (db.putTable (t.withRow ⟨t.maxRowid.getD 0 + 1, vs⟩)).UntypedTables where
  tables := by
    intro o ho
    simp only [Database.putTable, List.mem_map] at ho
    obtain ⟨o', ho', rfl⟩ := ho
    obtain ⟨u, rfl, hu⟩ := hd.tables o' ho'
    dsimp only
    split
    · -- the stored table: the columns as before, and one more row with the next row id
      obtain ⟨hplain, htemp, hbound⟩ := hd.table hfind
      refine ⟨_, rfl, hplain.withRow _, htemp, ?_⟩
      rw [Table.maxRowid_withRow_next, Table.rows_withRow_next]
      simp only [Option.getD_some, List.length_append, List.length_singleton, Nat.cast_add,
        Nat.cast_one]
      omega
    · exact ⟨u, rfl, hu⟩

/-- Storing a row with the next row id in the table a name finds appends it to that name's rows
and to no other. -/
theorem appends_putTable_next (hd : db.UntypedTables) (hfind : db.table? n = some t)
    (vs : List Value) : db.Appends (db.putTable (t.withRow ⟨t.maxRowid.getD 0 + 1, vs⟩)) n [vs] := by
  intro m
  rw [Database.rowsOf_putTable hd.lasting hfind
    (show (t.withRow ⟨t.maxRowid.getD 0 + 1, vs⟩).name = t.name from rfl) rfl,
    Table.rows_withRow_next, hd.rowsOf m]
  split
  · rename_i hm
    rw [Database.table?_congr _ hm, hfind]
    simp
  · simp

end Sql.Database.UntypedTables

/-- A database of untyped tables in which the table found by a relation's name is as wide as
the relation. -/
structure Sql.Database.PlainStore (db : Database) : Prop where
  tables : ∀ o ∈ db.objects, ∃ t, o = .table t ∧ t.Plain ∧ t.temp = false ∧
    t.maxRowid.getD 0 ≤ t.rows.length
  widths : ∀ (r : EnergyModel.Relation) t, db.table? r.tableName = some t → t.columns.length = r.arity

namespace Sql.Database.PlainStore

variable {db : Database} {n : String} {t : Table}

theorem untyped (hd : db.PlainStore) : db.UntypedTables := ⟨hd.tables⟩

theorem empty : ({} : Database).PlainStore where
  tables := fun _ h => nomatch h
  widths := fun _ _ h => nomatch h

/-- Adding a relation's untyped table after the others keeps the store: a name that found a
table finds it still, and the new table is found only by its relation's name. -/
theorem withTable (hd : db.PlainStore) (r : EnergyModel.Relation) (sql : String) :
    (db.withTable (plainTable false r.tableName r.columns sql) []).PlainStore where
  tables := (hd.untyped.withTable r.tableName r.columns sql).tables
  widths := by
    intro r' u hu
    rw [Database.withTable_plain, Database.table?_append_table _ rfl] at hu
    cases hold : db.table? r'.tableName with
    | some v =>
      rw [hold, Option.some_or] at hu
      cases hu
      exact hd.widths r' _ hold
    | none =>
      rw [hold, Option.none_or] at hu
      split at hu
      · rename_i hname
        cases hu
        -- only the relation itself has the new table's name
        obtain rfl := Relation.eq_of_sameName hname
        simp [plainTable, Relation.arity]
      · cases hu

/-- Storing a table found by a name, with one more row at the next row id, keeps the store. -/
theorem putTable_next (hd : db.PlainStore) (hfind : db.table? n = some t) (vs : List Value) :
    (db.putTable (t.withRow ⟨t.maxRowid.getD 0 + 1, vs⟩)).PlainStore where
  tables := (hd.untyped.putTable_next hfind vs).tables
  widths := by
    intro r u hu
    rw [Database.table?_putTable] at hu
    obtain ⟨v, hv, rfl⟩ := Option.map_eq_some_iff.1 hu
    unfold Table.replacing
    split
    · -- the table replaced is the one found by the name, so it is as wide
      rename_i hrep
      simp only [Bool.and_eq_true] at hrep
      have hname : sameName v.name t.name = true := hrep.1
      have hsame : v = t := by
        have hv' := Database.table?_name hv
        rw [Database.table?_congr db hname, Database.table?_name hfind] at hv'
        exact (Option.some.inj hv').symm
      subst hsame
      exact hd.widths r v hv
    · exact hd.widths r v hv

end Sql.Database.PlainStore

theorem runStatement_eq_ok {c c' : Connection} {ps : List Value} {s : Statement}
    (h : runStatement c ps s = .ok c') : c.run ps s = (c', none) := by
  rcases hrun : c.run ps s with ⟨c₁, _ | e⟩ <;> simp [runStatement, hrun] at h
  rw [h]

/-! ## Making the tables -/

/-- Making a relation's table keeps the tables untyped. -/
theorem Connection.run_createStatement_untyped {c c' : Connection} {r : Relation}
    (hd : c.db.UntypedTables) (h : c.run [] r.createStatement = (c', none)) :
    c'.db.UntypedTables := by
  rcases Connection.run_createStatement h with ⟨hsame, -⟩ | ⟨-, sql, hmade⟩
  · rw [hsame]
    exact hd
  · rw [hmade]
    exact hd.withTable r.tableName r.columns sql

/-- Making a relation's table keeps the store, keeps every table found before, and leaves a
table found by the relation's name. -/
theorem Connection.run_createStatement_plainStore {c c' : Connection} {r : Relation}
    (hd : c.db.PlainStore) (h : c.run [] r.createStatement = (c', none)) :
    c'.db.PlainStore ∧ (c'.db.table? r.tableName).isSome ∧
      ∀ n, (c.db.table? n).isSome → (c'.db.table? n).isSome := by
  rcases Connection.run_createStatement h with ⟨hsame, hfound⟩ | ⟨-, sql, hmade⟩
  · -- the name is taken, and in the store only a table can take it
    rw [hsame]
    refine ⟨hd, ?_, fun _ h => h⟩
    obtain ⟨o, ho, hname⟩ := List.any_eq_true.1 hfound
    obtain ⟨t, rfl, -⟩ := hd.tables o ho
    simp only [Bool.and_eq_true] at hname
    exact Database.isSome_table?_of_mem (Database.mem_tablesNamed.2 ⟨ho, hname.2⟩)
  · rw [hmade, Database.withTable_plain]
    refine ⟨Database.withTable_plain .. ▸ hd.withTable r sql, ?_, fun n hn => ?_⟩
    · rw [Database.table?_append_table _ rfl]
      simp [plainTable, sameName_self]
    · rw [Database.table?_append_table _ rfl, Option.isSome_or, hn, Bool.true_or]

/-- Making the tables of relations made the first one's table, then the others'. -/
theorem createTables_cons_eq_ok {c c' : Connection} {r : Relation} {rest : List Relation}
    (h : createTables c (r :: rest) = .ok c') :
    ∃ c₁, c.run [] r.createStatement = (c₁, none) ∧ createTables c₁ rest = .ok c' := by
  unfold createTables at h
  rcases hrun : runStatement c [] r.createStatement with e | c₁ <;> rw [hrun] at h
  · cases h
  · exact ⟨c₁, runStatement_eq_ok hrun, h⟩

/-- What making one relation's table keeps, making the tables of relations keeps. -/
theorem createTables_of_step {P : Database → Prop}
    (hstep : ∀ (c c' : Connection) (r : Relation), P c.db → c.run [] r.createStatement = (c', none) →
      P c'.db)
    {c c' : Connection} {rs : List Relation} (hc : P c.db) (h : createTables c rs = .ok c') :
    P c'.db := by
  induction rs generalizing c with
  | nil =>
    cases h
    exact hc
  | cons r rest ih =>
    obtain ⟨c₁, hrun, hrest⟩ := createTables_cons_eq_ok h
    exact ih (hstep c c₁ r hc hrun) hrest

/-- Making tables adds no rows. -/
theorem createTables_rowsOf {c c' : Connection} {rs : List Relation}
    (h : createTables c rs = .ok c') : c'.db.rowsOf = c.db.rowsOf :=
  createTables_of_step (P := fun db => db.rowsOf = c.db.rowsOf)
    (fun _ _ _ h hrun => (Connection.rowsOf_createStatement hrun).trans h) rfl h

/-- Making the tables of relations on the store keeps it, keeps every table found before, and
leaves a table found by each relation's name. -/
theorem createTables_plainStore {c c' : Connection} {rs : List Relation} (hd : c.db.PlainStore)
    (h : createTables c rs = .ok c') :
    c'.db.PlainStore ∧ (∀ n, (c.db.table? n).isSome → (c'.db.table? n).isSome) ∧
      ∀ r ∈ rs, (c'.db.table? r.tableName).isSome := by
  induction rs generalizing c with
  | nil =>
    cases h
    exact ⟨hd, fun _ h => h, by simp⟩
  | cons r rest ih =>
    obtain ⟨c₁, hrun, hrest⟩ := createTables_cons_eq_ok h
    obtain ⟨hd₁, hmade, hkeep₁⟩ := Connection.run_createStatement_plainStore hd hrun
    obtain ⟨hd', hkeep, hall⟩ := ih hd₁ hrest
    refine ⟨hd', fun n hn => hkeep n (hkeep₁ n hn), fun r' hr' => ?_⟩
    rcases List.mem_cons.1 hr' with rfl | hr'
    · exact hkeep _ hmade
    · exact hall r' hr'

/-! ## Storing a row -/

/-- On untyped tables, a row with its relation's number of values is refused, keeping the
transaction and savepoints, or goes into the relation's table with the next row id. It is
refused when the relation has no table, when its table has another number of columns, when its
row ids are used up, or when foreign keys were left broken outside a transaction. -/
theorem Connection.run_insert_untyped {c c' : Connection} {e : Option SqlError} {r : Relation}
    {row : Tuple} (hd : c.db.UntypedTables) (hrow : row.length = r.arity)
    (hrun : c.run (row.map Cell.stored) r.insertStatement = (c', e)) :
    c.SameFrame c' ∧ (e = none → ∃ t, c.db.table? r.tableName = some t ∧
      c'.db = c.db.putTable (t.withRow ⟨t.maxRowid.getD 0 + 1, row.map Cell.stored⟩)) := by
  cases hfind : c.db.table? r.tableName with
  | none =>
    obtain ⟨e', hmiss⟩ := Connection.run_insert_missing r (row.map Cell.stored) c hfind (hd.view? _)
    rw [hmiss] at hrun
    cases hrun
    exact ⟨⟨rfl, rfl, rfl⟩, fun h => nomatch h⟩
  | some t =>
    obtain ⟨hplain, -, -⟩ := hd.table hfind
    by_cases hwidth : t.columns.length = r.arity
    case neg =>
      -- a table of another width refuses the row
      rw [Connection.run_insert_width_ne r _ c hfind hplain hwidth r.arity_le] at hrun
      cases hrun
      exact ⟨⟨rfl, rfl, rfl⟩, fun h => nomatch h⟩
    have hps : (row.map Cell.stored).length = r.arity := by simpa using hrow
    rw [Connection.run_insert_plain r _ c hfind hplain (hd.quiet t.name) hwidth hps r.arity_le,
      hplain.nextRowid] at hrun
    by_cases htop : t.maxRowid.getD 0 ≥ maxInteger
    · -- no row id is left
      simp only [htop, ↓reduceIte] at hrun
      cases hrun
      exact ⟨⟨rfl, rfl, rfl⟩, fun h => nomatch h⟩
    simp only [htop, ↓reduceIte] at hrun
    split at hrun
    · cases hrun
      exact ⟨⟨rfl, rfl, rfl⟩, fun h => nomatch h⟩
    · cases hrun
      exact ⟨⟨rfl, rfl, rfl⟩, fun _ => ⟨t, rfl, rfl⟩⟩

/-- On untyped tables, a row with its relation's number of values is appended to the
relation's table, or the statement fails. -/
theorem insertAppends_untyped {r : Relation} {row : Tuple} (hrow : row.length = r.arity) :
    InsertAppends Database.UntypedTables r row := by
  intro c c' e hd hrun
  obtain ⟨hframe, hstored⟩ := Connection.run_insert_untyped hd hrow hrun
  refine ⟨hframe, fun he => ?_⟩
  obtain ⟨t, hfind, hdb⟩ := hstored he
  rw [hdb]
  exact ⟨hd.putTable_next hfind _, hd.appends_putTable_next hfind _⟩

/-- On a store of untyped relation tables, a row with its relation's number of values is
appended to the relation's table, or the statement fails. -/
theorem insertAppends_plainStore {r : Relation} {row : Tuple} (hrow : row.length = r.arity) :
    InsertAppends Database.PlainStore r row := by
  intro c c' e hd hrun
  obtain ⟨hframe, hstored⟩ := Connection.run_insert_untyped hd.untyped hrow hrun
  refine ⟨hframe, fun he => ?_⟩
  obtain ⟨t, hfind, hdb⟩ := hstored he
  rw [hdb]
  exact ⟨hd.putTable_next hfind _, hd.untyped.appends_putTable_next hfind _⟩

/-! ## Storing every row -/

/-- Inside a transaction, the rows of a relation whose table has room for them, each with the
relation's number of values, all go in, and every name finds a table as before. -/
theorem insertRows_plainStore {c : Connection} {r : Relation} {rows : List Tuple} {t : Table}
    (hd : c.db.PlainStore) (htx : c.transaction.isSome) (hfind : c.db.table? r.tableName = some t)
    (harity : ∀ row ∈ rows, row.length = r.arity)
    (hroom : t.rows.length + rows.length ≤ maxInteger) :
    (insertRows c r rows).2 = none ∧
      ∀ n, ((insertRows c r rows).1.db.table? n).isSome = (c.db.table? n).isSome := by
  induction rows generalizing c t with
  | nil => exact ⟨rfl, fun _ => rfl⟩
  | cons row rest ih =>
    obtain ⟨hplain, -, hbound⟩ := hd.untyped.table hfind
    have hps : (row.map Cell.stored).length = r.arity := by
      simpa using harity row (List.mem_cons_self ..)
    -- the row ids in use stay below the number of rows, so one is left for this row
    have htop : ¬ t.maxRowid.getD 0 ≥ maxInteger := by
      simp only [List.length_cons] at hroom
      push_cast at hroom
      omega
    obtain ⟨c₁, hrun, hdb, htx₁⟩ : ∃ c₁, c.run (row.map Cell.stored) r.insertStatement = (c₁, none) ∧
        c₁.db = c.db.putTable (t.withRow ⟨t.maxRowid.getD 0 + 1, row.map Cell.stored⟩) ∧
        c₁.transaction = c.transaction := by
      have hopen : c.transaction.isNone = false := by simpa using htx
      rw [Connection.run_insert_plain r _ c hfind hplain (hd.untyped.quiet t.name) (hd.widths r t hfind) hps
        r.arity_le, hplain.nextRowid, if_neg htop]
      simp only [hopen, Bool.false_and, Bool.false_eq_true, ↓reduceIte]
      exact ⟨_, rfl, rfl, rfl⟩
    have hfind₁ : c₁.db.table? r.tableName =
        some (t.withRow ⟨t.maxRowid.getD 0 + 1, row.map Cell.stored⟩) := by
      rw [hdb, Database.table?_putTable, hfind]
      simp [Table.replacing, Table.withRow, sameName_self]
    obtain ⟨hnone, hkeep⟩ := ih (hdb ▸ hd.putTable_next hfind _) (htx₁ ▸ htx) hfind₁
      (fun row' h' => harity row' (List.mem_cons_of_mem _ h'))
      (by
        rw [Table.rows_withRow_next, List.length_append, List.length_singleton]
        simp only [List.length_cons] at hroom
        push_cast at hroom ⊢
        omega)
    simp only [insertRows, hrun]
    refine ⟨hnone, fun n => ?_⟩
    rw [hkeep n, hdb, Database.table?_putTable, Option.isSome_map]

/-- Inside a transaction that no savepoint began, on the store, relations of distinct table
names, each with an empty table, rows of its number of values and no more rows than there are
row ids, are all written with no warning. -/
theorem insertRelations_plainStore {c : Connection} {ts : List (Relation × Array Tuple)}
    (hd : c.db.PlainStore) (htx : c.transaction.isSome) (hby : c.bySavepoint = false)
    (hempty : ∀ e ∈ ts, (c.db.table? e.1.tableName).isSome ∧ c.db.rowsOf e.1.tableName = [])
    (harity : ∀ e ∈ ts, ∀ row ∈ e.2.toList, row.length = e.1.arity)
    (hsize : ∀ e ∈ ts, e.2.size ≤ maxInteger)
    (hdistinct : ts.Pairwise fun e e' => sameName e.1.tableName e'.1.tableName = false) :
    ∃ c', insertRelations c ts = .ok (c', []) := by
  induction ts generalizing c with
  | nil => exact ⟨c, rfl⟩
  | cons entry rest ih =>
    obtain ⟨r, rows⟩ := entry
    obtain ⟨hfar, hdistinct'⟩ := List.pairwise_cons.1 hdistinct
    have harity' := fun e (he : e ∈ rest) => harity e (List.mem_cons_of_mem _ he)
    have hsize' := fun e (he : e ∈ rest) => hsize e (List.mem_cons_of_mem _ he)
    cases hne : rows.isEmpty with
    | true =>
      simp only [insertRelations, hne, if_true]
      exact ih hd htx hby (fun e he => hempty e (List.mem_cons_of_mem _ he)) harity' hsize'
        hdistinct'
    | false =>
      obtain ⟨hframe, hok⟩ := insertRows_appends (c := c.tableMarked)
        (fun row h => insertAppends_plainStore (harity (r, rows) (List.mem_cons_self ..) row h)) hd
      rw [insertRelations_cons_of_frame htx hby hne hframe]
      -- the relation's table is there and empty, so all its rows fit
      obtain ⟨hsome, hnil⟩ := hempty (r, rows) (List.mem_cons_self ..)
      obtain ⟨t, hfind⟩ := Option.isSome_iff_exists.1 hsome
      have hrows : t.rows = [] := by
        rw [hd.untyped.rowsOf, hfind] at hnil
        simpa using hnil
      obtain ⟨hnone, hkeep⟩ := insertRows_plainStore (c := c.tableMarked) hd htx hfind
        (harity (r, rows) (List.mem_cons_self ..))
        (by simpa [hrows] using hsize (r, rows) (List.mem_cons_self ..))
      rcases hins : insertRows c.tableMarked r rows.toList with ⟨c₂, e⟩
      rw [hins] at hframe hok hnone hkeep
      cases hnone
      obtain ⟨hd₂, happ⟩ := hok rfl
      -- the later relations have other names, so their tables are still there and empty
      refine ih hd₂ (hframe.transaction ▸ htx) (hframe.bySavepoint ▸ hby) (fun e he => ?_) harity'
        hsize' hdistinct'
      have hother : sameName e.1.tableName r.tableName = false := by
        rw [sameName_comm]
        exact hfar e he
      obtain ⟨hsome', hnil'⟩ := hempty e (List.mem_cons_of_mem _ he)
      refine ⟨(hkeep _).trans hsome', ?_⟩
      rw [happ, hother]
      simp only [Bool.false_eq_true, ↓reduceIte, List.append_nil]
      exact hnil'

end EnergyModel
