import EnergyModel.Sql.Connection
import Mathlib

/-!
# Tables by name

A database finds a table by its name, ASCII case aside (`sameName`), preferring a temporary table
to a lasting one and an older table to a newer (`Database.table?`). Here that lookup is read
through the list of tables of a name (`Database.tablesNamed`), which turns the two ways a
schema changes under a write into list operations: storing a new state of a table replaces the
tables of its name and lifetime (`Database.table?_putTable`), and making a table adds it after
the others (`Database.table?_append_table`).

The database is read as a map from table names to row lists (`Database.rowsOf`): the rows of the
lasting table of a name, in row id order. Storing a table found by a name changes the rows of
that name alone (`Database.rowsOf_putTable`), and a table added with no rows changes none
(`Database.rowsOf_append_empty`). A row stored with the next row id goes after every other
(`Table.rows_withRow_next`).
-/

namespace EnergyModel.Sql

/-! ## Names -/

theorem sameName_self (name : String) : sameName name name = true := by
  simp [sameName]

theorem sameName_comm (a b : String) : sameName a b = sameName b a := by
  simp only [sameName, Bool.beq_comm]

theorem sameName_trans {a b c : String} (h₁ : sameName a b = true) (h₂ : sameName b c = true) :
    sameName a c = true := by
  simp only [sameName, beq_iff_eq] at *
  exact h₁.trans h₂

theorem sameName_congr_left {a b : String} (h : sameName a b = true) (u : String) :
    sameName a u = sameName b u := by
  simp only [sameName, beq_iff_eq] at h ⊢
  rw [h]

theorem sameName_congr_right {a b : String} (h : sameName a b = true) (u : String) :
    sameName u a = sameName u b := by
  simp only [sameName, beq_iff_eq] at h ⊢
  rw [h]

/-! ## The tables of a name -/

/-- The tables of a name, temporary or lasting, in the order they were made. -/
def Database.tablesNamed (db : Database) (n : String) : List Table :=
  db.objects.filterMap fun o =>
    match o with
    | .table u => if sameName u.name n then some u else none
    | _ => none

theorem Database.table?_eq (db : Database) (n : String) :
    db.table? n = ((db.tablesNamed n).find? (·.temp)).or (db.tablesNamed n).head? := by
  unfold Database.table?
  dsimp only
  -- the tables the lookup collects are those of the name
  split
  · rename_i t hfind
    change (db.tablesNamed n).find? (·.temp) = some t at hfind
    rw [hfind, Option.some_or]
  · rename_i hfind
    change (db.tablesNamed n).find? (·.temp) = none at hfind
    rw [hfind, Option.none_or]
    rfl

theorem Database.table?_congr (db : Database) {a b : String} (h : sameName a b = true) :
    db.table? a = db.table? b := by
  simp only [Database.table?, sameName_congr_right h]

variable {db : Database} {n : String} {t : Table}

theorem Database.mem_tablesNamed :
    t ∈ db.tablesNamed n ↔ .table t ∈ db.objects ∧ sameName t.name n = true := by
  unfold Database.tablesNamed
  constructor
  · intro h
    obtain ⟨o, ho, hsome⟩ := List.mem_filterMap.1 h
    cases o with
    | table u =>
      simp only at hsome
      split at hsome
      · cases hsome
        exact ⟨ho, ‹_›⟩
      · cases hsome
    | _ => cases hsome
  · rintro ⟨ho, hname⟩
    exact List.mem_filterMap.2 ⟨.table t, ho, by simp [hname]⟩

theorem Database.mem_tablesNamed_of_table? (h : db.table? n = some t) : t ∈ db.tablesNamed n := by
  rw [Database.table?_eq] at h
  cases hfind : (db.tablesNamed n).find? (·.temp) with
  | some u =>
    rw [hfind, Option.some_or] at h
    cases h
    exact List.mem_of_find?_eq_some hfind
  | none =>
    rw [hfind, Option.none_or] at h
    exact List.mem_of_mem_head? h

/-- A table found by a name has that name, ASCII case aside. -/
theorem Database.sameName_of_table? (h : db.table? n = some t) : sameName t.name n = true :=
  (Database.mem_tablesNamed.1 (Database.mem_tablesNamed_of_table? h)).2

theorem Database.table?_mem (h : db.table? n = some t) : .table t ∈ db.objects :=
  (Database.mem_tablesNamed.1 (Database.mem_tablesNamed_of_table? h)).1

/-- A name that some table has finds a table. -/
theorem Database.isSome_table?_of_mem (h : t ∈ db.tablesNamed n) : (db.table? n).isSome := by
  rw [Database.table?_eq, Option.isSome_or, List.isSome_head?.2 (List.ne_nil_of_mem h),
    Bool.or_true]

/-- The table found under a name is found under its own name too. -/
theorem Database.table?_name (h : db.table? n = some t) : db.table? t.name = some t := by
  rw [Database.table?_congr db (Database.sameName_of_table? h), h]

/-! ## Storing a table and adding one -/

/-- What storing `t` makes of a table `u`: `t` when it has `u`'s name and lifetime. -/
def Table.replacing (t u : Table) : Table :=
  if sameName u.name t.name && u.temp == t.temp then t else u

theorem Table.temp_replacing (t u : Table) : (t.replacing u).temp = u.temp := by
  unfold Table.replacing
  split
  · rename_i hrep
    simp only [Bool.and_eq_true, beq_iff_eq] at hrep
    exact hrep.2.symm
  · rfl

theorem Database.tablesNamed_putTable (db : Database) (t : Table) (n : String) :
    (db.putTable t).tablesNamed n = (db.tablesNamed n).map t.replacing := by
  unfold Database.tablesNamed
  rw [List.map_filterMap]
  simp only [Database.putTable, List.filterMap_map]
  apply List.filterMap_congr
  intro o _
  cases o with
  | table u =>
    simp only [Function.comp_apply]
    by_cases hrep : (sameName u.name t.name && u.temp == t.temp) = true
    · -- a replaced table has the name of the one replacing it
      have hname : sameName t.name n = sameName u.name n := by
        simp only [Bool.and_eq_true] at hrep
        exact (sameName_congr_left hrep.1 n).symm
      simp [Table.replacing, hrep, hname]
    · simp [Table.replacing, hrep]
  | _ => rfl

/-- After a table is stored, a name finds what it found before, replaced. -/
theorem Database.table?_putTable (db : Database) (t : Table) (n : String) :
    (db.putTable t).table? n = (db.table? n).map t.replacing := by
  have htemp : ((·.temp) ∘ t.replacing) = (·.temp) := funext t.temp_replacing
  rw [Database.table?_eq, Database.table?_eq, Database.tablesNamed_putTable, List.find?_map, htemp,
    List.head?_map]
  cases (db.tablesNamed n).find? (·.temp) <;> simp

theorem Database.tablesNamed_append_table (db : Database) (t : Table) (n : String) :
    { db with objects := db.objects ++ [SchemaObject.table t] }.tablesNamed n =
      db.tablesNamed n ++ if sameName t.name n then [t] else [] := by
  unfold Database.tablesNamed
  rw [List.filterMap_append]
  split <;> simp_all

/-- A lasting table added after the others is found by its name only when no table was. -/
theorem Database.table?_append_table (db : Database) (ht : t.temp = false) (n : String) :
    { db with objects := db.objects ++ [SchemaObject.table t] }.table? n =
      (db.table? n).or (if sameName t.name n then some t else none) := by
  rw [Database.table?_eq, Database.table?_eq, Database.tablesNamed_append_table, List.find?_append,
    List.head?_append]
  have hlast : (if sameName t.name n then [t] else []).find? (·.temp) = none := by
    split <;> simp [ht]
  rw [hlast, Option.or_none]
  cases (db.tablesNamed n).find? (·.temp) with
  | some u => rfl
  | none => split <;> simp

/-! ## The database as a map from table names to rows -/

/-- The rows of the lasting table of a name, each as its values, in row id order; none when
there is no lasting table of that name. -/
def Database.rowsOf (db : Database) (name : String) : List (List Value) :=
  ((db.withoutTemp.table? name).map fun t => t.rows.map (·.values)).getD []

@[simp] theorem Database.rowsOf_empty (n : String) : ({} : Database).rowsOf n = [] := rfl

/-- A database file keeps no temporary objects, and the rows of its tables are all there. -/
@[simp] theorem Database.rowsOf_withoutTemp (db : Database) : db.withoutTemp.rowsOf = db.rowsOf := by
  funext name
  simp [Database.rowsOf, Database.withoutTemp, List.filter_filter]

theorem Database.withoutTemp_eq_self (h : ∀ o ∈ db.objects, o.temp = false) : db.withoutTemp = db := by
  unfold Database.withoutTemp
  rw [List.filter_eq_self.2 (fun o ho => by simp [h o ho])]

theorem Database.withoutTemp_putTable (db : Database) (t : Table) :
    (db.putTable t).withoutTemp = db.withoutTemp.putTable t := by
  simp only [Database.withoutTemp, Database.putTable, List.filter_map]
  congr 2
  apply List.filter_congr
  intro o _
  cases o with
  | table u =>
    simp only [Function.comp_apply]
    split
    · rename_i hrep
      simp only [Bool.and_eq_true, beq_iff_eq] at hrep
      simp [SchemaObject.temp, hrep.2]
    · rfl
  | _ => rfl

/-- In a database without temporary objects, storing a table found by a name changes the rows
of that name alone. -/
theorem Database.rowsOf_putTable {name : String} {t' : Table}
    (hlast : ∀ o ∈ db.objects, o.temp = false) (hfind : db.table? name = some t)
    (hname : t'.name = t.name) (htemp : t'.temp = t.temp) (n : String) :
    (db.putTable t').rowsOf n = if sameName n name then t'.rows.map (·.values) else db.rowsOf n := by
  rw [Database.rowsOf, Database.rowsOf, Database.withoutTemp_putTable, Database.withoutTemp_eq_self hlast,
    Database.table?_putTable]
  have hfound : sameName t.name name = true := Database.sameName_of_table? hfind
  split
  · rename_i hn
    rw [Database.table?_congr db hn, hfind]
    simp [Table.replacing, hname, htemp, sameName_self]
  · rename_i hn
    cases hu : db.table? n with
    | none => rfl
    | some u =>
      -- a table of another name is not the one replaced
      have hun : sameName u.name n = true := Database.sameName_of_table? hu
      have hkeep : sameName u.name t'.name = false := by
        rw [hname]
        cases hut : sameName u.name t.name
        · rfl
        · exact absurd (sameName_trans (sameName_trans (by rwa [sameName_comm]) hut) hfound) hn
      simp [Table.replacing, hkeep]

/-- A table added with no rows leaves every name's rows as they were. -/
theorem Database.rowsOf_append_empty (db : Database) (hrows : t.rows = []) :
    { db with objects := db.objects ++ [SchemaObject.table t] }.rowsOf = db.rowsOf := by
  funext n
  cases htemp : t.temp with
  | true =>
    simp [Database.rowsOf, Database.withoutTemp, SchemaObject.temp, htemp]
  | false =>
    have hwithout : { db with objects := db.objects ++ [SchemaObject.table t] }.withoutTemp =
        { db.withoutTemp with objects := db.withoutTemp.objects ++ [SchemaObject.table t] } := by
      simp [Database.withoutTemp, SchemaObject.temp, htemp]
    rw [Database.rowsOf, Database.rowsOf, hwithout, Database.table?_append_table _ htemp]
    cases db.withoutTemp.table? n with
    | some u => rfl
    | none => split <;> simp [hrows]

/-! ## Row ids -/

/-- A row with a larger row id than all of a table's goes after them. -/
theorem insertRow_of_lt (r : Row) (rows : List Row) (h : ∀ s ∈ rows, s.rowid < r.rowid) :
    insertRow r rows = rows ++ [r] := by
  induction rows with
  | nil => rfl
  | cons s rest ih =>
    have hs := h s (List.mem_cons_self ..)
    rw [insertRow, if_neg (by omega), if_neg (by simp; omega),
      ih fun s' hs' => h s' (List.mem_cons_of_mem _ hs')]
    rfl

/-- A fold that keeps the largest row id seen ends at least at every row id, and at least where
it started. -/
theorem foldl_rowid_bound {f : Option Int → Row → Option Int}
    (hstep : ∀ acc r, ∃ m, f acc r = some m ∧ r.rowid ≤ m ∧ ∀ a, acc = some a → a ≤ m)
    (rows : List Row) (acc : Option Int) :
    (∀ a, acc = some a → ∃ m, rows.foldl f acc = some m ∧ a ≤ m) ∧
      ∀ s ∈ rows, ∃ m, rows.foldl f acc = some m ∧ s.rowid ≤ m := by
  induction rows generalizing acc with
  | nil => exact ⟨fun a ha => ⟨a, ha, le_refl a⟩, fun s hs => nomatch hs⟩
  | cons r rest ih =>
    obtain ⟨m₀, hm₀, hr, hacc⟩ := hstep acc r
    obtain ⟨hgrow, hrest⟩ := ih (f acc r)
    obtain ⟨m, hm, hle⟩ := hgrow m₀ hm₀
    rw [List.foldl_cons]
    refine ⟨fun a ha => ⟨m, hm, (hacc a ha).trans hle⟩, fun s hs => ?_⟩
    rcases List.mem_cons.1 hs with rfl | hs
    · exact ⟨m, hm, hr.trans hle⟩
    · exact hrest s hs

theorem Table.rowid_le_maxRowid (t : Table) {s : Row} (hs : s ∈ t.rows) :
    s.rowid ≤ t.maxRowid.getD 0 := by
  suffices h : ∃ m, t.maxRowid = some m ∧ s.rowid ≤ m by
    obtain ⟨m, hm, hle⟩ := h
    rw [hm]
    exact hle
  unfold Table.maxRowid
  refine (foldl_rowid_bound ?_ t.rows none).2 s hs
  intro acc r
  cases acc <;> simp

/-- The row stored with the next row id goes after every other. -/
theorem Table.rows_withRow_next (t : Table) (vs : List Value) :
    (t.withRow ⟨t.maxRowid.getD 0 + 1, vs⟩).rows = t.rows ++ [⟨t.maxRowid.getD 0 + 1, vs⟩] :=
  insertRow_of_lt _ _ fun s hs => by
    have := t.rowid_le_maxRowid hs
    simp only
    omega

theorem Table.maxRowid_withRow_next (t : Table) (vs : List Value) :
    (t.withRow ⟨t.maxRowid.getD 0 + 1, vs⟩).maxRowid = some (t.maxRowid.getD 0 + 1) := by
  have hrows := t.rows_withRow_next vs
  unfold Table.maxRowid at hrows ⊢
  rw [hrows, List.foldl_append]
  cases t.rows.foldl _ none <;> simp

end EnergyModel.Sql
