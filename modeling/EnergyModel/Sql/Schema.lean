import EnergyModel.Sql.Syntax

/-!
# Schemas and the rows they hold

A database is its schema objects in the order they were created (tables, indexes, views and
triggers) with the rows of its tables, and the counters of its `AUTOINCREMENT` tables. Object
names are matched without regard to ASCII case, and an object made by a temporary statement
is found before a lasting one of the same name.

A table keeps its rows in row id order. A column may be an alias of the row id (a column
declared `INTEGER PRIMARY KEY`), in which case its value is the row id.

The unique indexes of a table are checked in a fixed order when a row goes in: each new index
comes first, except that an index that resolves conflicts by replacing rows goes after all the
others (`Database.indexesOf`).
-/

namespace EnergyModel.Sql

/-- Whether two names are the same, ASCII case aside. -/
def sameName (a b : String) : Bool := a.toLower == b.toLower

/-- The column types a strict table allows. -/
inductive StrictType where
  | any
  | blob
  | int
  | integer
  | real
  | text
  deriving BEq, Repr, Inhabited

/-- The strict type a declared type names, if it names one. -/
def StrictType.ofDeclared? (declared : String) : Option StrictType :=
  match declared.toUpper with
  | "ANY" => some .any
  | "BLOB" => some .blob
  | "INT" => some .int
  | "INTEGER" => some .integer
  | "REAL" => some .real
  | "TEXT" => some .text
  | _ => none

/-- The name of a strict type in error messages. -/
def StrictType.name : StrictType → String
  | .any => "ANY"
  | .blob => "BLOB"
  | .int => "INT"
  | .integer => "INTEGER"
  | .real => "REAL"
  | .text => "TEXT"

/-- A column of a table. -/
structure Column where
  name : String
  declared : String
  affinity : Affinity
  collation : Collation
  /-- `some c` when the column is `NOT NULL`, with its conflict clause `c` if any. -/
  notNull : Option (Option Conflict)
  defaultValue : Option Expr
  /-- The expression of a generated column, and whether it is stored. -/
  generated : Option (Expr × Bool)
  primaryKey : Bool
  /-- The type of a column of a strict table. -/
  strictType : Option StrictType
  deriving Inhabited

/-- A check of a table, with the label its failures name. -/
structure Check where
  label : String
  condition : Expr
  deriving Inhabited

/-- A foreign key of a table: its columns and what they refer to. -/
structure ForeignKey where
  columns : List String
  clause : ForeignKeyClause
  deriving Inhabited

/-- A row of a table. -/
structure Row where
  rowid : Int
  values : List Value
  deriving Inhabited

/-- A table with its rows. -/
structure Table where
  name : String
  columns : List Column
  rows : List Row
  /-- The column that is the row id, if any. -/
  rowidColumn : Option Nat
  /-- The conflict clause of the row id's primary key. -/
  keyConflict : Option Conflict
  autoincrement : Bool
  checks : List Check
  foreignKeys : List ForeignKey
  withoutRowId : Bool
  strict : Bool
  temp : Bool
  sql : String
  /-- The page the table's rows start at, which the schema table shows. -/
  page : Nat := 0
  deriving Inhabited

/-- What an index orders by: a column, the row id, or an expression. -/
inductive IndexKey where
  | column (index : Nat)
  | rowid
  | expr (e : Expr)
  deriving Inhabited

/-- A term of an index with its collation. -/
structure IndexTerm where
  key : IndexKey
  collation : Collation
  /-- Whether the index orders by the term from the largest down. -/
  descending : Bool := false
  deriving Inhabited

/-- An index of a table. -/
structure Index where
  name : String
  table : String
  terms : List IndexTerm
  unique : Bool
  /-- The conflict clause of the constraint the index was made for. -/
  conflict : Option Conflict
  /-- Whether it was made for a `PRIMARY KEY`. -/
  primary : Bool
  filter : Option Expr
  /-- The statement that made it; none when a constraint made it. -/
  sql : Option String
  temp : Bool
  /-- The page the index starts at, which the schema table shows. -/
  page : Nat := 0
  deriving Inhabited

/-- A view. -/
structure View where
  name : String
  columns : List String
  query : Query
  sql : String
  temp : Bool
  deriving Inhabited

/-- A trigger. -/
structure Trigger where
  name : String
  table : String
  timing : TriggerTiming
  event : TriggerEvent
  condition : Option Expr
  body : List Statement
  sql : String
  temp : Bool
  deriving Inhabited

/-- A schema object. -/
inductive SchemaObject where
  | table (t : Table)
  | index (i : Index)
  | view (v : View)
  | trigger (t : Trigger)
  /-- The table of the counters of the `AUTOINCREMENT` tables: the first of them brings it into
  the schema, and it stays when they are dropped. -/
  | counters (page : Nat)
  deriving Inhabited

/-- The name of a schema object. -/
def SchemaObject.name : SchemaObject → String
  | .table t => t.name
  | .index i => i.name
  | .view v => v.name
  | .trigger t => t.name
  | .counters _ => "sqlite_sequence"

/-- Whether a schema object is temporary. -/
def SchemaObject.temp : SchemaObject → Bool
  | .table t => t.temp
  | .index i => i.temp
  | .view v => v.temp
  | .trigger t => t.temp
  | .counters _ => false

/-- The page a schema object starts at: none for a view or trigger, which keep no rows. -/
def SchemaObject.page : SchemaObject → Nat
  | .table t => t.page
  | .index i => i.page
  | .counters p => p
  | _ => 0

/-- A database: its schema objects in creation order and the counters of its
`AUTOINCREMENT` tables. -/
structure Database where
  objects : List SchemaObject := []
  sequence : List (String × Int) := []
  /-- The encoding the database keeps its texts in. -/
  encoding : TextEncoding := .utf8
  deriving Inhabited

/-- A table by name; a temporary one first. -/
def Database.table? (db : Database) (name : String) : Option Table :=
  let found := db.objects.filterMap fun o =>
    match o with
    | .table t => if sameName t.name name then some t else none
    | _ => none
  match found.find? (·.temp) with
  | some t => some t
  | none => found.head?

/-- A view by name; a temporary one first. -/
def Database.view? (db : Database) (name : String) : Option View :=
  let found := db.objects.filterMap fun o =>
    match o with
    | .view v => if sameName v.name name then some v else none
    | _ => none
  match found.find? (·.temp) with
  | some v => some v
  | none => found.head?

/-- An index by name. -/
def Database.index? (db : Database) (name : String) : Option Index :=
  db.objects.findSome? fun o =>
    match o with
    | .index i => if sameName i.name name then some i else none
    | _ => none

/-- A trigger by name. -/
def Database.trigger? (db : Database) (name : String) : Option Trigger :=
  db.objects.findSome? fun o =>
    match o with
    | .trigger t => if sameName t.name name then some t else none
    | _ => none

/-- Whether an index resolves conflicts by replacing rows. -/
def Index.replaces (i : Index) : Bool := i.conflict == some .replace

/-- Adds an index to the front of a table's list, or, when it replaces rows and the front one
does not, just before the first that replaces. -/
def linkIndex (i : Index) (list : List Index) : List Index :=
  if !i.replaces then i :: list
  else
    match list with
    | [] => [i]
    | first :: _ =>
      if first.replaces then i :: list
      else
        let kept := list.takeWhile fun j => !j.replaces
        let rest := list.dropWhile fun j => !j.replaces
        kept ++ i :: rest

/-- The indexes of a table in the order its rows are checked against them. -/
def Database.indexesOf (db : Database) (table : String) : List Index :=
  db.objects.foldl (fun acc o =>
    match o with
    | .index i => if sameName i.table table then linkIndex i acc else acc
    | _ => acc) []

/-- The triggers on a table or view. -/
def Database.triggersOn (db : Database) (table : String) : List Trigger :=
  db.objects.filterMap fun o =>
    match o with
    | .trigger t => if sameName t.table table then some t else none
    | _ => none

/-- Replaces a table (the one of its name and lifetime) by a new state of it. -/
def Database.putTable (db : Database) (t : Table) : Database :=
  { db with objects := db.objects.map fun o =>
      match o with
      | .table u => if sameName u.name t.name && u.temp == t.temp then .table t else o
      | _ => o }

/-- The position of a column of a table by name. -/
def Table.columnIndex? (t : Table) (name : String) : Option Nat :=
  t.columns.findIdx? fun c => sameName c.name name

/-- Whether a name is one of the names of the row id. -/
def isRowidName (name : String) : Bool :=
  let n := name.toLower
  n == "rowid" || n == "oid" || n == "_rowid_"

/-- The row with a row id. -/
def Table.row? (t : Table) (rowid : Int) : Option Row := t.rows.find? (·.rowid == rowid)

/-- The largest row id in use. -/
def Table.maxRowid (t : Table) : Option Int :=
  t.rows.foldl (fun acc r => some (match acc with | some m => max m r.rowid | none => r.rowid)) none

/-- Puts a row into the rows of a table at its place in row id order, replacing a row with the
same row id. -/
def insertRow (r : Row) : List Row → List Row
  | [] => [r]
  | s :: rest =>
    if r.rowid < s.rowid then r :: s :: rest
    else if r.rowid == s.rowid then r :: rest
    else s :: insertRow r rest

/-- The table with a row stored. -/
def Table.withRow (t : Table) (r : Row) : Table := { t with rows := insertRow r t.rows }

/-- The table without the row of a row id. -/
def Table.withoutRow (t : Table) (rowid : Int) : Table :=
  { t with rows := t.rows.filter (·.rowid != rowid) }

/-- The number of columns a table takes values for: those that are not generated. -/
def Table.insertableCount (t : Table) : Nat := (t.columns.filter fun c => c.generated.isNone).length

/-- The counter of an `AUTOINCREMENT` table. -/
def Database.sequenceOf (db : Database) (table : String) : Int :=
  ((db.sequence.find? fun (n, _) => sameName n table).map (·.2)).getD 0

/-- Sets the counter of an `AUTOINCREMENT` table. -/
def Database.setSequence (db : Database) (table : String) (value : Int) : Database :=
  if db.sequence.any (fun (n, _) => sameName n table) then
    { db with sequence := db.sequence.map fun (n, v) => if sameName n table then (n, value) else (n, v) }
  else { db with sequence := db.sequence ++ [(table, value)] }

/-- The first page after the schema table's own that no object of the main schema, or of the
temporary one, starts at: a page that a dropped object leaves is taken again. Pages of rows
beyond an object's first are not counted. -/
def Database.freePage (db : Database) (temp : Bool) : Nat :=
  let used := (db.objects.filter (·.temp == temp)).map SchemaObject.page
  (List.range (used.length + 1)).foldr (fun k acc => if used.contains (k + 2) then acc else k + 2) 0

/-- Whether the table of counters is in the schema. -/
def Database.hasCounters (db : Database) : Bool :=
  db.objects.any fun o => match o with
    | .counters _ => true
    | _ => false

/-- The database without its temporary objects. -/
def Database.withoutTemp (db : Database) : Database :=
  { db with objects := db.objects.filter fun o => !o.temp }

end EnergyModel.Sql
