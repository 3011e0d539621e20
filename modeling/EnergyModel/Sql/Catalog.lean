import EnergyModel.Sql.Schema

/-!
# The tables that describe a database

A database describes itself in tables that a query reads like any other. The schema table,
`sqlite_schema` (also `sqlite_master`), has a row for each object of the main schema in the
order they were made: its kind, its name, the table it belongs to, the page it starts at and
the statement that made it, which a constraint's index lacks. The temporary objects have a
schema table of their own, `sqlite_temp_schema` (also `sqlite_temp_master`). Once an
`AUTOINCREMENT` table has been made, `sqlite_sequence` holds each such table's counter, from the
first row stored in it until the table is dropped.

These tables are built from the schema each time they are read, so they always agree with it.
-/

namespace EnergyModel.Sql

/-- A column of one of the tables the database describes itself in. -/
def catalogColumn (name declared : String) (affinity : Affinity) : Column :=
  { name, declared, affinity, collation := .binary, notNull := none, defaultValue := none,
    generated := none, primaryKey := false, strictType := none }

/-- The row of a schema object in the schema table: kind, name, table, first page and text. -/
def SchemaObject.catalogValues : SchemaObject → List Value
  | .table t => [.text "table", .text t.name, .text t.name, .integer t.page, .text t.sql]
  | .index i =>
    [.text "index", .text i.name, .text i.table, .integer i.page,
     (i.sql.map Value.text).getD .null]
  | .view v => [.text "view", .text v.name, .text v.name, .integer 0, .text v.sql]
  | .trigger t => [.text "trigger", .text t.name, .text t.table, .integer 0, .text t.sql]
  | .counters p =>
    [.text "table", .text "sqlite_sequence", .text "sqlite_sequence", .integer p,
     .text "CREATE TABLE sqlite_sequence(name,seq)"]

/-- A table the database describes itself in, with its rows numbered from one. -/
def catalogTable (name : String) (columns : List Column) (rows : List (List Value)) : Table :=
  { name, columns, rowidColumn := none, keyConflict := none, autoincrement := false, checks := [],
    foreignKeys := [], withoutRowId := false, strict := false, temp := false, sql := "",
    rows := rows.zipIdx.map fun (values, k) => { rowid := k + 1, values } }

/-- The schema table of the main schema, or of the temporary one. -/
def Database.schemaTable (db : Database) (temp : Bool) (name : String) : Table :=
  catalogTable name
    [catalogColumn "type" "text" .text, catalogColumn "name" "text" .text,
     catalogColumn "tbl_name" "text" .text, catalogColumn "rootpage" "int" .integer,
     catalogColumn "sql" "text" .text]
    ((db.objects.filter (·.temp == temp)).map SchemaObject.catalogValues)

/-- The table of the counters of the `AUTOINCREMENT` tables. -/
def Database.countersTable (db : Database) : Table :=
  catalogTable "sqlite_sequence" [catalogColumn "name" "" .blob, catalogColumn "seq" "" .blob]
    (db.sequence.map fun (n, v) => [.text n, .integer v])

/-- The table a name reads when it names one the database describes itself in: the schema
tables under their two names each, in the schema a qualifier names, and the table of counters
once it exists. -/
def Database.catalog? (db : Database) (schema : Option String) (name : String) : Option Table :=
  let n := name.toLower
  let s := schema.map String.toLower
  let inMain := s.isNone || s == some "main"
  if (n == "sqlite_master" || n == "sqlite_schema") && inMain then some (db.schemaTable false name)
  else if n == "sqlite_master" || n == "sqlite_schema" then
    if s == some "temp" then some (db.schemaTable true name) else none
  else if (n == "sqlite_temp_master" || n == "sqlite_temp_schema") && (s.isNone || s == some "temp") then
    some (db.schemaTable true name)
  else if n == "sqlite_sequence" && inMain && db.hasCounters then some db.countersTable
  else none

end EnergyModel.Sql
