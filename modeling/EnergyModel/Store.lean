import EnergyModel.Model.Relation
import EnergyModel.Session
import EnergyModel.Sql.Connection

/-!
# Writing a model to a database

`writeModel` writes every relation of a model into a new database file. An existing file at the
path is removed first. With a template, the template file is copied to the path and its tables
are kept: only the relations it has no table (or view) for get a table of their own, with
untyped columns named as the relation's.

The rows go in table by table, in catalogue order, skipping empty relations. A table whose rows
cannot all be stored keeps none of them: the database refuses a view or a table with another
number of columns before any row, and a row that breaks a constraint (a unique key, a check, a
not-null column) undoes the rows of its table stored before it. Each such table is reported as a
`WriteWarning` with the database's reason, and the other tables are still written.

A real that is NaN is stored as null, as the database does with it.

A file that is not empty and holds no database fails at the first table created, which is the
first relation of the catalogue.
-/

namespace EnergyModel

/-- A table that could not be written, with the database's reason. -/
structure WriteWarning where
  table : String
  reason : String
  deriving Inhabited, BEq

/-- The wording of a write warning in the log. -/
def WriteWarning.message (w : WriteWarning) : String :=
  "Could not write table " ++ w.table ++ ": " ++ w.reason

/-- The file extension of model databases. -/
def databaseExtension : String := "sqlite"

/-- The database file of the named model in a directory. -/
def databasePath (dir name : String) : String :=
  Path.join dir (name ++ "." ++ databaseExtension)

/-- The value a cell is stored as; a NaN real becomes null. -/
def Cell.stored : Cell → Sql.Value
  | .null => .null
  | .integer n => .integer n
  | .real x => if x.isNaN then .null else .real x
  | .text s => .text s

/-- The database a file holds: a missing or empty file is an empty database, and other text is
no database. -/
def databaseOf : Option Content → Except Sql.SqlError Sql.Database
  | none => .ok {}
  | some (.database db) => .ok db
  | some (.text s) => if s.isEmpty then .ok {} else .error .notADatabase

/-- A database error met while doing what the context says. -/
def storeFailure (context : String) (e : Sql.SqlError) : Failure :=
  (Failure.of (.store e)).within context

/-- A name as a quoted identifier. -/
def quoteIdentifier (name : String) : String := "\"" ++ name ++ "\""

/-- The statement that makes a relation's table when the database has none: its columns,
untyped. -/
def Relation.createStatement (r : Relation) : Sql.Statement :=
  let columns : List Sql.ColumnDefinition := r.columns.map fun c => { name := c, declared := "", constraints := [] }
  let text := "CREATE TABLE IF NOT EXISTS " ++ quoteIdentifier r.tableName ++ " (" ++
    ", ".intercalate (r.columns.map quoteIdentifier) ++ ")"
  .createTable false true ⟨none, r.tableName⟩ columns [] false false text

/-- The statement that stores one row of a relation, its values given as parameters `?1`, `?2`, … -/
def Relation.insertStatement (r : Relation) : Sql.Statement :=
  let params := (List.range r.arity).map fun i => Sql.Expr.parameter ("?" ++ toString (i + 1))
  .insert [] none ⟨none, r.tableName⟩ none none (.rows (.values [params])) []

/-- The name of the savepoint each table is written under. -/
def tableSavepoint : String := "table_write"

/-- Runs a statement on a connection, as a change of it or the error it met. -/
def runStatement (c : Sql.Connection) (parameters : List Sql.Value) (s : Sql.Statement) :
    Except Sql.SqlError Sql.Connection :=
  match c.run parameters s with
  | (c, none) => .ok c
  | (_, some e) => .error e

/-- Makes the table of every relation in the list that has none, in order. The first
statement finds out a file that holds no database. Each statement commits on its own, so a
failure comes with the connection as the statements before it left it. -/
def createTables (c : Sql.Connection) :
    List Relation → Except (Failure × Sql.Connection) Sql.Connection
  | [] => .ok c
  | r :: rest =>
    match runStatement c [] r.createStatement with
    | .ok c => createTables c rest
    | .error e => .error (storeFailure ("Could not create table " ++ r.tableName) e, c)

/-- Stores the rows of one relation one statement at a time, stopping at the first error. -/
def insertRows (c : Sql.Connection) (r : Relation) : List Tuple → Sql.Connection × Option Sql.SqlError
  | [] => (c, none)
  | row :: rest =>
    match c.run (row.map Cell.stored) r.insertStatement with
    | (c, none) => insertRows c r rest
    | (c, some e) => (c, some e)

/-- Stores every non-empty relation in catalogue order, each under its own savepoint: a table
whose rows cannot all be stored is rolled back to its savepoint and warned about. The error of
a savepoint that cannot be made or released ends the writing. -/
def insertRelations (c : Sql.Connection) : List (Relation × Array Tuple) →
    Except Failure (Sql.Connection × List WriteWarning)
  | [] => .ok (c, [])
  | (r, rows) :: rest =>
    if rows.isEmpty then insertRelations c rest
    else
      match runStatement c [] (.savepoint tableSavepoint) with
      | .error e => .error (Failure.of (.store e))
      | .ok c =>
        match insertRows c r rows.toList with
        | (c, none) =>
          match runStatement c [] (.release tableSavepoint) with
          | .error e => .error (Failure.of (.store e))
          | .ok c => (insertRelations c rest).map fun (c, ws) => (c, ws)
        | (c, some e) =>
          -- undoing the table may itself fail; that failure is not reported
          let c := (c.run [] (.rollback (some tableSavepoint))).1
          let c := (c.run [] (.release tableSavepoint)).1
          (insertRelations c rest).map fun (c, ws) => (c, ⟨r.tableName, e.message⟩ :: ws)

/-- Removes the file at a path if there is anything there. -/
def removeExisting (path : String) : Run Unit := do
  let files ← Run.files
  if files.exists? path then
    Run.note .debug .database ("Removing existing database " ++ path)
    -- the note may have written to a log file, so the files are read again
    match (← Run.files).remove path with
    | .ok t => Run.setFiles t
    | .error e => throw ((Failure.of (.file e)).within ("Could not remove existing database " ++ path))

/-- Copies a template file to a path. -/
def copyTemplate (template path : String) : Run Unit := do
  let files ← Run.files
  let context := "Could not copy template database " ++ template ++ " to " ++ path
  let content ← match files.read template with
    | .ok c => pure c
    | .error .isADirectory => throw ((Failure.of (.file .notRegularFile)).within context)
    | .error e => throw ((Failure.of (.file e)).within context)
  match files.write path content with
  | .ok t => Run.setFiles t
  | .error e => throw ((Failure.of (.file e)).within context)

/-- Opens the database file at a path: a missing file is an empty database, when the file can
be made there, and a text file is a database only when it is empty. -/
def openDatabase (path : String) : Run Sql.Database := do
  let files ← Run.files
  let current := (files.read path).toOption
  -- opening creates the file, which needs its directory; the refusal names the file
  if current.isNone && (files.write path (.text "")).toOption.isNone then
    throw (storeFailure ("Could not open database " ++ path)
      (.cannotOpen ("unable to open database file: " ++ path)))
  match databaseOf current with
  | .ok db => pure db
  | .error e =>
    match Relation.all.head? with
    | some r => throw (storeFailure ("Could not create table " ++ r.tableName) e)
    | none => throw (Failure.of (.store e))

/-- Makes the path ready for a database: what is there is removed, the template is copied there
if one is given, and the database the path then holds is opened. -/
def openTarget (path : String) (template : Option String) : Run Sql.Database := do
  removeExisting path
  if let some t := template then copyTemplate t path
  openDatabase path

/-- Saves the database of a connection, as it is when the connection ends, at the path. -/
def saveDatabase (path : String) (c : Sql.Connection) : Run Unit := do
  match (← Run.files).write path (.database c.close) with
  | .ok t => Run.setFiles t
  | .error e => throw ((Failure.of (.file e)).within ("Could not open database " ++ path))

/-- Writes every relation to a new database at `path`, copying the template first if one is
given: the missing tables are made, then the rows go in inside one transaction, each table under
its own savepoint. The tables that could not be written are warned about and returned. The file
keeps what was committed, also when a later step fails. -/
def writeModel (path : String) (relations : RelationSet) (template : Option String) :
    Run (List WriteWarning) := do
  let db ← openTarget path template
  let opened := Sql.Connection.open db
  let c ← match createTables opened Relation.all with
    | .ok c => pure c
    | .error (f, made) => do
      saveDatabase path made
      throw f
  saveDatabase path c
  let c ← match runStatement c [] .begin with
    | .ok c => pure c
    | .error e => throw (Failure.of (.store e))
  let (c, warnings) ← match insertRelations c relations.tables with
    | .ok r => pure r
    | .error f => do
      saveDatabase path c
      throw f
  for w in warnings do
    Run.note .warn .database w.message
  match runStatement c [] .commit with
  | .ok c => saveDatabase path c
  | .error e => do
    saveDatabase path c
    throw (storeFailure ("Could not commit database " ++ path) e)
  Run.note .info .database
    ("Wrote " ++ toString relations.totalRows ++ " rows to " ++ path)
  pure warnings

/-- The relation tables of a database that have rows, in catalogue order, each with its rows as
`SELECT * … ORDER BY rowid` gives them; a relation whose table cannot be read so (a view, a
table without row ids) is left out. -/
def storedTables (db : Sql.Database) : List (String × List (List Sql.Value)) :=
  Relation.all.filterMap fun r =>
    let q : Sql.Query := .ordered [] false
      (.select false [.all] (some (.table ⟨none, r.tableName⟩ none)) none [] none [])
      [.mk (.column none "rowid" false) false none] none none
    let env : Sql.Env := { db, scopes := [], ctes := [], inTrigger := false, group := none, parameters := [] }
    match env.query q with
    | .ok rel => if rel.rows.isEmpty then none else some (r.tableName, rel.rows)
    | .error _ => none

end EnergyModel
