import EnergyModel.Sql.Change
import EnergyModel.Sql.Resolve
import EnergyModel.Sql.Token

/-!
# Defining the schema

The statements that make, change and drop schema objects, each checked the way a database
checks it, with the same error text.

`CREATE TABLE` reads the columns in order and then the table constraints. A column declared
with exactly the type `INTEGER` and a `PRIMARY KEY` that is not descending becomes the row id
(a table constraint's key may be descending). Every other primary key, and every `UNIQUE`,
makes an index named `sqlite_autoindex_<table>_<n>`, `n` counting the table's indexes; a key on
the same columns and collations as an earlier one is merged into it instead. Foreign keys are
kept most recent first, as they are checked. A table `WITHOUT ROWID`, or a strict one, makes its
primary key columns `NOT NULL`.

`CREATE TABLE … AS` names its columns after the query's (a repeated name gets `:1`, `:2`, …)
and gives each the type of its affinity.
-/

namespace EnergyModel.Sql

/-- Every column a expression names, with its qualifier; subqueries are not looked into. -/
def Expr.columnRefs : Nat → Expr → List (Option String × String × Bool)
  | 0, _ => []
  | fuel + 1, e =>
    let go := Expr.columnRefs fuel
    match e with
    | .column q n dq => [(q, n, dq)]
    | .unary _ a | .collate a _ | .cast a _ | .isNull _ a => go a
    | .binary _ a b => go a ++ go b
    | .pattern _ _ a b c => go a ++ go b ++ (c.map go).getD []
    | .between _ a b c => go a ++ go b ++ go c
    | .inList _ a items => go a ++ items.flatMap go
    | .inQuery _ a _ | .inTable _ a _ => go a
    | .caseWhen o bs d => (o.map go).getD [] ++ bs.flatMap (fun (x, y) => go x ++ go y) ++ (d.map go).getD []
    | .call _ _ args _ f _ _ => args.flatMap go ++ (f.map go).getD []
    | .vector items => items.flatMap go
    | .raise _ m => (m.map go).getD []
    | _ => []

/-- Whether an expression holds a subquery. -/
def Expr.hasSubquery : Nat → Expr → Bool
  | 0, _ => false
  | fuel + 1, e =>
    let go := Expr.hasSubquery fuel
    match e with
    | .inQuery .. | .existsQuery _ | .subquery _ | .inTable .. => true
    | .unary _ a | .collate a _ | .cast a _ | .isNull _ a => go a
    | .binary _ a b => go a || go b
    | .pattern _ _ a b c => go a || go b || (c.map go).getD false
    | .between _ a b c => go a || go b || go c
    | .inList _ a items => go a || items.any go
    | .caseWhen o bs d => (o.map go).getD false || bs.any (fun (x, y) => go x || go y) || (d.map go).getD false
    | .call _ _ args _ f _ _ => args.any go || (f.map go).getD false
    | .vector items => items.any go
    | _ => false

/-- Whether a default value is a constant: no column, parameter or subquery in it. -/
def Expr.isConstantDefault (e : Expr) : Bool :=
  (e.columnRefs 200).all (fun (q, _, dq) => q.isNone && dq) && !e.hasSubquery 200

/-- The generated column that a loop of generated columns stops at, if there is a loop. Passes
over the generated columns compute each one whose generated columns are computed, until a pass
computes nothing; the last one left in that pass is named. -/
def generatedLoop (columns : List Column) : Option String := Id.run do
  let generated := columns.filter fun c => c.generated.isSome
  let mut waiting := generated.map (·.name)
  for _ in generated do
    let mut stuck : Option String := none
    let mut progress := false
    for c in generated do
      if !(waiting.any (sameName · c.name)) then continue
      let refs := ((c.generated.map (·.1)).map (Expr.columnRefs 200)).getD []
      if refs.any (fun (_, n, _) => waiting.any (sameName · n)) then stuck := some c.name
      else
        waiting := waiting.filter fun w => !sameName w c.name
        progress := true
    if stuck.isNone || !progress then return stuck
  return none

/-- The collation a name gives, or the error of an unknown one. -/
def collationNamed (name : String) : Except SqlError Collation :=
  match Collation.ofName? name with
  | some c => .ok c
  | none => .error (.logic ("no such collation sequence: " ++ name))

/-- The error of a name kept for the database's own objects. -/
def reservedName (name : String) : Option SqlError :=
  if (name.toLower.take 7).toString == "sqlite_" then
    some (.logic ("object name reserved for internal use: " ++ name))
  else none

/-- A schema object in one schema (temporary or lasting) by name. -/
def Database.objectIn (db : Database) (temp : Bool) (name : String) : Option SchemaObject :=
  db.objects.find? fun o => o.temp == temp && sameName o.name name

/-- Whether a schema object is a table or view. -/
def SchemaObject.isRelation : SchemaObject → Bool
  | .table _ | .view _ => true
  | _ => false

/-- Whether a schema object is an index. -/
def SchemaObject.isIndex : SchemaObject → Bool
  | .index _ => true
  | _ => false

/-- Whether a schema object is a trigger. -/
def SchemaObject.isTrigger : SchemaObject → Bool
  | .trigger _ => true
  | _ => false

/-- The error of a new table or view whose name is taken in its schema; none when the name is
free. -/
def nameTaken (db : Database) (temp : Bool) (name : String) : Option SqlError :=
  match db.objects.find? fun o => o.temp == temp && o.isRelation && sameName o.name name with
  | some (.view _) => some (.logic ("view " ++ name ++ " already exists"))
  | some _ => some (.logic ("table " ++ name ++ " already exists"))
  | none =>
    if db.objects.any fun o => o.temp == temp && o.isIndex && sameName o.name name then
      some (.logic ("there is already an index named " ++ name))
    else none

/-- Whether a declared type makes a primary key column the row id: it is exactly `INTEGER`. -/
def isRowidType (declared : String) : Bool := declared.toUpper == "INTEGER"

/-- A key or index about to be made while a table is defined: its columns (with an explicit
collation, if any), its conflict clause, and whether it is the primary key. -/
structure PendingKey where
  columns : List (Nat × Option String)
  conflict : Option Conflict
  primary : Bool
  deriving Inhabited

/-- The table being defined, as its parts are read. -/
structure TableDraft where
  columns : List Column
  keys : List PendingKey
  checks : List Check
  foreignKeys : List ForeignKey
  rowidColumn : Option Nat
  keyConflict : Option Conflict
  autoincrement : Bool
  hasPrimaryKey : Bool
  deriving Inhabited

/-- The error of a second primary key. -/
def morePrimaryKeys (table : String) : SqlError :=
  .logic ("table \"" ++ table ++ "\" has more than one primary key")

/-- The affinity of a column of a strict table, from its type. -/
def StrictType.affinity : StrictType → Affinity
  | .any => .blob
  | .blob => .blob
  | .int | .integer => .integer
  | .real => .real
  | .text => .text

/-- Reads one column definition into the draft. -/
def TableDraft.addColumn (d : TableDraft) (table : String) (def_ : ColumnDefinition) :
    Except SqlError TableDraft := do
  if d.columns.any fun c => sameName c.name def_.name then
    throw (.logic ("duplicate column name: " ++ def_.name))
  let k := d.columns.length
  let mut col : Column :=
    { name := def_.name, declared := def_.declared, affinity := Affinity.ofDeclared def_.declared,
      collation := .binary, notNull := none, defaultValue := none, generated := none,
      primaryKey := false, strictType := none }
  let mut d := d
  for c in def_.constraints do
    match c with
    | .primaryKey descending conflict autoincrement =>
      if d.hasPrimaryKey then throw (morePrimaryKeys table)
      if col.generated.isSome then throw (.logic "generated columns cannot be part of the PRIMARY KEY")
      d := { d with hasPrimaryKey := true }
      col := { col with primaryKey := true }
      if isRowidType def_.declared && !descending then
        d := { d with rowidColumn := some k, keyConflict := conflict, autoincrement }
      else if autoincrement then
        throw (.logic "AUTOINCREMENT is only allowed on an INTEGER PRIMARY KEY")
      else
        d := { d with keys := d.keys ++ [{ columns := [(k, none)], conflict, primary := true }] }
    | .notNull conflict => col := { col with notNull := some conflict }
    | .nullable => pure ()
    | .unique conflict =>
      d := { d with keys := d.keys ++ [{ columns := [(k, none)], conflict, primary := false }] }
    | .check name condition text =>
      d := { d with checks := d.checks ++ [{ label := name.getD text, condition }] }
    | .defaultValue e =>
      if col.generated.isSome then throw (.logic "cannot use DEFAULT on a generated column")
      if !e.isConstantDefault then
        throw (.logic ("default value of column [" ++ def_.name ++ "] is not constant"))
      col := { col with defaultValue := some e }
    | .collate name =>
      let coll ← collationNamed name
      col := { col with collation := coll }
    | .references clause =>
      if clause.columns.length > 1 then
        throw (.logic ("foreign key on " ++ def_.name ++
          " should reference only one column of table " ++ clause.table))
      d := { d with foreignKeys := { columns := [def_.name], clause } :: d.foreignKeys }
    | .generated e stored =>
      if col.defaultValue.isSome then throw (.logic "cannot use DEFAULT on a generated column")
      if col.primaryKey then throw (.logic "generated columns cannot be part of the PRIMARY KEY")
      col := { col with generated := some (e, stored) }
  return { d with columns := d.columns ++ [col] }

/-- The columns of a key named in a table constraint, with their explicit collations. -/
def keyColumns (d : TableDraft) (terms : List IndexedTerm) : Except SqlError (List (Nat × Option String)) :=
  terms.mapM fun term =>
    match term.value with
    | .column none n _ | .literal (.text n) =>
      match d.columns.findIdx? fun c => sameName c.name n with
      | some k => .ok (k, term.collation)
      | none => .error (.noSuchColumn n)
    | .column (some q) n _ => .error (.noSuchColumn (q ++ "." ++ n))
    | _ => .error (.logic "expressions prohibited in PRIMARY KEY and UNIQUE constraints")

/-- Reads one table constraint into the draft. -/
def TableDraft.addConstraint (d : TableDraft) (table : String) (c : TableConstraint) :
    Except SqlError TableDraft := do
  match c with
  | .primaryKey terms conflict autoincrement =>
    if d.hasPrimaryKey then throw (morePrimaryKeys table)
    let d := { d with hasPrimaryKey := true }
    let marked (cols : List Nat) : TableDraft :=
      { d with
        columns := d.columns.zipIdx.map fun ((col, k) : Column × Nat) =>
          if cols.contains k then { col with primaryKey := true } else col }
    -- a single named column of type INTEGER is the row id, whatever its order
    let single := match terms with
      | [term] =>
        match term.value with
        | .column none n _ | .literal (.text n) => d.columns.findIdx? fun (col : Column) => sameName col.name n
        | _ => none
      | _ => none
    match single with
    | some k =>
      if isRowidType (d.columns.getD k default).declared then
        return { marked [k] with rowidColumn := some k, keyConflict := conflict, autoincrement }
      else if autoincrement then throw (.logic "AUTOINCREMENT is only allowed on an INTEGER PRIMARY KEY")
      else
        let cols ← keyColumns d terms
        let d := marked (cols.map (·.1))
        return { d with keys := d.keys ++ [{ columns := cols, conflict, primary := true }] }
    | none =>
      if autoincrement then throw (.logic "AUTOINCREMENT is only allowed on an INTEGER PRIMARY KEY")
      let cols ← keyColumns d terms
      let d := marked (cols.map (·.1))
      return { d with keys := d.keys ++ [{ columns := cols, conflict, primary := true }] }
  | .unique terms conflict =>
    let cols ← keyColumns d terms
    return { d with keys := d.keys ++ [{ columns := cols, conflict, primary := false }] }
  | .check name condition text =>
    return { d with checks := d.checks ++ [{ label := name.getD text, condition }] }
  | .foreignKey columns clause =>
    if !clause.columns.isEmpty && clause.columns.length != columns.length then
      throw (.logic "number of columns in foreign key does not match the number of columns in the referenced table")
    for c in columns do
      if !(d.columns.any fun col => sameName col.name c) then
        throw (.logic ("unknown column \"" ++ c ++ "\" in foreign key definition"))
    return { d with foreignKeys := { columns, clause } :: d.foreignKeys }

/-- The indexes a table's keys make, named and merged in order. -/
def keyIndexes (table : String) (temp : Bool) (columns : List Column) (keys : List PendingKey) :
    Except SqlError (List Index) := do
  let mut made : List Index := []
  for key in keys do
    let terms ← key.columns.mapM fun (k, coll) => do
      let collation ← match coll with
        | some n => collationNamed n
        | none => pure (columns.getD k default).collation
      pure ({ key := .column k, collation } : IndexTerm)
    let same (i : Index) : Bool :=
      i.terms.length == terms.length &&
        (i.terms.zip terms).all fun (a, b) =>
          (match a.key, b.key with
            | .column x, .column y => x == y
            | _, _ => false) && a.collation == b.collation
    match made.findIdx? same with
    | some j =>
      let old := made.getD j default
      if old.conflict != key.conflict && old.conflict.isSome && key.conflict.isSome then
        throw (.logic "conflicting ON CONFLICT clauses specified")
      let merged := { old with conflict := old.conflict <|> key.conflict, primary := old.primary || key.primary }
      made := made.set j merged
    | none =>
      let name := "sqlite_autoindex_" ++ table ++ "_" ++ toString (made.length + 1)
      made := made ++
        [{ name, table, terms, unique := true, conflict := key.conflict, primary := key.primary,
           filter := none, sql := none, temp }]
  return made

/-- Adds a table and its indexes to a database, each index linked in creation order. -/
def Database.withTable (db : Database) (t : Table) (indexes : List Index) : Database :=
  let t := { t with page := db.freePage t.temp }
  let db := { db with objects := db.objects ++ [.table t] }
  -- the primary key of a table without row ids is the table itself
  let db := indexes.foldl (fun db i =>
    let page := if t.withoutRowId && i.primary then t.page else db.freePage t.temp
    { db with objects := db.objects ++ [.index { i with page }] }) db
  if t.autoincrement && !t.temp && !db.hasCounters then
    { db with objects := db.objects ++ [.counters (db.freePage false)] }
  else db

/-- The table a `CREATE TABLE` defines, with the indexes its keys make. -/
def defineTable (temp : Bool) (name : String) (defs : List ColumnDefinition)
    (constraints : List TableConstraint) (withoutRowId strict : Bool) (sql : String) :
    Except SqlError (Table × List Index) := do
  let empty : TableDraft :=
    { columns := [], keys := [], checks := [], foreignKeys := [], rowidColumn := none,
      keyConflict := none, autoincrement := false, hasPrimaryKey := false }
  let mut d := empty
  for c in defs do
    d ← d.addColumn name c
  for c in constraints do
    d ← d.addConstraint name c
  let mut columns := d.columns
  if strict then
    let mut typed : List Column := []
    for c in columns do
      match StrictType.ofDeclared? c.declared with
      | some st => typed := typed ++ [{ c with strictType := some st, affinity := st.affinity }]
      | none =>
        if c.declared.isEmpty then throw (.logic ("missing datatype for " ++ name ++ "." ++ c.name))
        else throw (.logic ("unknown datatype for " ++ name ++ "." ++ c.name ++ ": \"" ++ c.declared ++ "\""))
    columns := typed
  let mut keys := d.keys
  let mut rowidColumn := d.rowidColumn
  if withoutRowId then
    if !d.hasPrimaryKey then throw (.logic ("PRIMARY KEY missing on table " ++ name))
    if d.autoincrement then throw (.logic "AUTOINCREMENT not allowed on WITHOUT ROWID tables")
    if let some k := rowidColumn then
      keys := { columns := [(k, none)], conflict := d.keyConflict, primary := true } :: keys
      rowidColumn := none
  if withoutRowId || strict then
    columns := columns.zipIdx.map fun (c, k) =>
      if c.primaryKey && c.notNull.isNone && rowidColumn != some k then { c with notNull := some none } else c
  let names := columns.map (·.name)
  -- the checks are resolved first, then the generated columns while nothing is wrong
  let checkScope : DefinitionScope :=
    { table := name, columns := names, rowid := !withoutRowId, place := .check }
  let generatedScope := { checkScope with rowid := false, place := .generated }
  let generated := columns.filterMap fun c => c.generated.map (·.1)
  let problem := checkScope.firstError (d.checks.map (·.condition)) <|>
    generatedScope.firstError generated
  if columns.all fun c => c.generated.isSome then
    throw (.logic "must have at least one non-generated column")
  if let some m := problem then throw (.logic m)
  if let some c := generatedLoop columns then
    throw (.logic ("generated column loop on \"" ++ c ++ "\""))
  if generated.any (Expr.hasRaise 200) then throw (.logic raiseOutsideTrigger)
  let indexes ← keyIndexes name temp columns keys
  let t : Table :=
    { name, columns, rows := [], rowidColumn, keyConflict := d.keyConflict,
      autoincrement := d.autoincrement, checks := d.checks, foreignKeys := d.foreignKeys,
      withoutRowId, strict, temp, sql }
  return (t, indexes)

/-- The declared type a column made from a query gets from its affinity. -/
def Affinity.declaredName : Affinity → String
  | .blob => ""
  | .text => "TEXT"
  | .numeric => "NUM"
  | .integer => "INT"
  | .real => "REAL"

/-- Names made unique by a `:n` suffix, the first of each name kept as it is. -/
def uniqueNames (names : List String) : List String := Id.run do
  let mut out : List String := []
  for n in names do
    let mut candidate := n
    let mut count := 0
    for _ in [0:names.length + 1] do
      if !(out.any (sameName · candidate)) then break
      count := count + 1
      candidate := n ++ ":" ++ toString count
    out := out ++ [candidate]
  return out

/-- A name quoted for a statement's text when it needs it. -/
def quotedIdentifier (name : String) : String :=
  let plain := !name.isEmpty && (name.toList.headD '0').isAlpha &&
    name.toList.all fun c => c.isAlphanum || c == '_'
  if plain then name
  else "\"" ++ String.join (name.toList.map fun c => if c == '"' then "\"\"" else c.toString) ++ "\""

/-- A `CREATE TABLE`: checks its name, then defines the table. -/
def createTable (temp ifNotExists : Bool) (name : ObjectName) (defs : List ColumnDefinition)
    (constraints : List TableConstraint) (withoutRowId strict : Bool) (sql : String) : Change Unit := do
  let temp := temp || name.schema.map (·.toLower == "temp") == some true
  if let some e := reservedName name.name then Change.fail e .abort
  let db := (← get).db
  if let some e := nameTaken db temp name.name then
    if ifNotExists && (db.objects.any fun o => o.temp == temp && o.isRelation && sameName o.name name.name) then
      return
    Change.fail e .abort
  let (t, indexes) ← Change.check (defineTable temp name.name defs constraints withoutRowId strict sql)
  modify fun w => { w with db := w.db.withTable t indexes }

/-- A `CREATE TABLE … AS`: the query's rows in a new table whose columns take its names and the
types of their affinities. -/
def createTableAs (temp ifNotExists : Bool) (name : ObjectName) (q : Query) : Change Unit := do
  let temp := temp || name.schema.map (·.toLower == "temp") == some true
  if let some e := reservedName name.name then Change.fail e .abort
  let db := (← get).db
  if let some e := nameTaken db temp name.name then
    if ifNotExists && (db.objects.any fun o => o.temp == temp && o.isRelation && sameName o.name name.name) then
      return
    Change.fail e .abort
  let sc : Scope := { scopes := [], ctes := [], inTrigger := false, parameters := [], override := none }
  let rel ← queryIn sc q
  let names := uniqueNames (rel.fields.map (·.name))
  let columns : List Column := (rel.fields.zip names).map fun (f, n) =>
    let aff := f.affinity.getD .blob
    { name := n, declared := aff.declaredName, affinity := aff, collation := .binary, notNull := none,
      defaultValue := none, generated := none, primaryKey := false, strictType := none }
  let sql := "CREATE TABLE " ++ quotedIdentifier name.name ++ "(" ++ ",".intercalate (columns.map fun c =>
    quotedIdentifier c.name ++ (if c.declared.isEmpty then "" else " " ++ c.declared)) ++ ")"
  let rows := rel.rows.zipIdx.map fun (vs, k) =>
    ({ rowid := k + 1, values := (columns.zip vs).map fun (c, v) => v.withAffinity c.affinity } : Row)
  let t : Table :=
    { name := name.name, columns, rows, rowidColumn := none, keyConflict := none, autoincrement := false,
      checks := [], foreignKeys := [], withoutRowId := false, strict := false, temp, sql }
  modify fun w => { w with db := w.db.withTable t [] }

/-- The term of an index on a table: a column, or an expression over the table's columns. -/
def indexTerm (t : Table) (term : IndexedTerm) : Except SqlError IndexTerm := do
  let explicit ← match term.collation with
    | some n => some <$> collationNamed n
    | none => pure none
  match term.value with
  | .column none n _ | .literal (.text n) =>
    match t.columnIndex? n with
    | some k =>
      return { key := .column k, collation := explicit.getD (t.columns.getD k default).collation,
               descending := term.descending }
    | none =>
      match term.value with
      | .literal _ | .column _ _ true =>
        return { key := .expr term.value, collation := explicit.getD .binary, descending := term.descending }
      | _ => throw (.noSuchColumn n)
  | e =>
    let scope : DefinitionScope :=
      { table := t.name, columns := t.columns.map (·.name), rowid := false, place := .indexKey }
    if let some m := scope.firstError [e] then throw (.logic m)
    if e.hasRaise 200 then throw (.logic raiseOutsideTrigger)
    return { key := .expr e, collation := explicit.getD .binary, descending := term.descending }

/-- A `CREATE INDEX`: the table must exist and be a table, the name must be free, the terms
must name its columns, and a unique index must hold for the rows already there. -/
def createIndex (unique ifNotExists : Bool) (name : ObjectName) (table : String)
    (terms : List IndexedTerm) (filter : Option Expr) (sql : String) : Change Unit := do
  if let some e := reservedName name.name then Change.fail e .abort
  let db := (← get).db
  let some t := db.table? table
    | if (db.view? table).isSome then Change.fail (.logic "views may not be indexed") .abort
      else Change.fail (.noSuchTable ("main." ++ table)) .abort
  if (db.objects.any fun o => o.isIndex && sameName o.name name.name) then
    if ifNotExists then return
    Change.fail (.logic ("index " ++ name.name ++ " already exists")) .abort
  if (db.objects.any fun o => o.isRelation && sameName o.name name.name) then
    Change.fail (.logic ("there is already a table named " ++ name.name)) .abort
  let terms ← Change.check (terms.mapM (indexTerm t))
  if let some f := filter then
    let scope : DefinitionScope :=
      { table := t.name, columns := t.columns.map (·.name), rowid := !t.withoutRowId,
        place := .indexFilter }
    if let some m := scope.firstError [f] then Change.fail (.logic m) .abort
    if f.hasRaise 200 then Change.fail (.logic raiseOutsideTrigger) .abort
  let i : Index :=
    { name := name.name, table := t.name, terms, unique, conflict := if unique then some .abort else none,
      primary := false, filter, sql := some sql, temp := t.temp, page := db.freePage t.temp }
  if unique then
    let mut seen : List (List Value) := []
    for r in t.rows do
      match ← Change.lift (i.keyOf t db r.values r.rowid) with
      | some k =>
        if seen.any (i.sameKey · k) then Change.fail (i.violation t) .abort
        seen := seen ++ [k]
      | none => pure ()
  modify fun w => { w with db := { w.db with objects := w.db.objects ++ [.index i] } }

/-- A `CREATE VIEW`. -/
def createView (temp ifNotExists : Bool) (name : ObjectName) (columns : List String) (q : Query)
    (sql : String) : Change Unit := do
  let temp := temp || name.schema.map (·.toLower == "temp") == some true
  if let some e := reservedName name.name then Change.fail e .abort
  let db := (← get).db
  if let some e := nameTaken db temp name.name then
    if ifNotExists && (db.objects.any fun o => o.temp == temp && o.isRelation && sameName o.name name.name) then
      return
    Change.fail e .abort
  let v : View := { name := name.name, columns, query := q, sql, temp }
  modify fun w => { w with db := { w.db with objects := w.db.objects ++ [.view v] } }

/-- A `CREATE TRIGGER`: on a table or view that exists, with a free name, `INSTEAD OF` exactly
when it is on a view. -/
def createTrigger (temp ifNotExists : Bool) (name : ObjectName) (timing : TriggerTiming)
    (event : TriggerEvent) (table : String) (condition : Option Expr) (body : List Statement)
    (sql : String) : Change Unit := do
  let temp := temp || name.schema.map (·.toLower == "temp") == some true
  let db := (← get).db
  let isView := (db.table? table).isNone && (db.view? table).isSome
  if (db.table? table).isNone && !isView then
    Change.fail (.noSuchTable ("main." ++ table)) .abort
  if let some e := reservedName name.name then Change.fail e .abort
  if db.objects.any fun o => o.isTrigger && o.temp == temp && sameName o.name name.name then
    if ifNotExists then return
    Change.fail (.logic ("trigger " ++ name.name ++ " already exists")) .abort
  if (table.toLower.take 7).toString == "sqlite_" then
    Change.fail (.logic "cannot create trigger on system table") .abort
  if isView && timing != .insteadOf then
    Change.fail (.logic ("cannot create " ++ (if timing == .before then "BEFORE" else "AFTER") ++
      " trigger on view: " ++ table)) .abort
  if !isView && timing == .insteadOf then
    Change.fail (.logic ("cannot create INSTEAD OF trigger on table: " ++ table)) .abort
  let tableName := match db.table? table with
    | some t => t.name
    | none => (db.view? table).map (·.name) |>.getD table
  let tr : Trigger := { name := name.name, table := tableName, timing, event, condition, body, sql, temp }
  modify fun w => { w with db := { w.db with objects := w.db.objects ++ [.trigger tr] } }

/-- The database without the objects a test picks. -/
def Database.without (db : Database) (drop : SchemaObject → Bool) : Database :=
  { db with objects := db.objects.filter fun o => !drop o }

/-- Whether a schema object belongs to a table: its index or trigger. -/
def SchemaObject.belongsTo (o : SchemaObject) (table : String) : Bool :=
  match o with
  | .index i => sameName i.table table
  | .trigger t => sameName t.table table
  | _ => false

/-- A `DROP`: the object must exist (unless `IF EXISTS`) and be of the kind named; a table or
view takes its indexes and triggers with it. -/
def dropObject (kind : ObjectKind) (ifExists : Bool) (name : ObjectName) : Change Unit := do
  let db := (← get).db
  match kind with
  | .table | .view =>
    let found := match db.table? name.name with
      | some t => some (SchemaObject.table t)
      | none => (db.view? name.name).map SchemaObject.view
    match found with
    | none =>
      if ifExists then return
      Change.fail (.logic ((if kind == .view then "no such view: " else "no such table: ") ++ name.shown)) .abort
    | some o =>
      if let some e := reservedName o.name then
        Change.fail (.logic ("table " ++ o.name ++ " may not be dropped")) .abort
        let _ := e
      match o, kind with
      | .view v, .table => Change.fail (.logic ("use DROP VIEW to delete view " ++ v.name)) .abort
      | .table t, .view => Change.fail (.logic ("use DROP TABLE to delete table " ++ t.name)) .abort
      | _, _ => pure ()
      if let .table t := o then
        if (← get).keysOn && !(db.keysReferring t.name).all (fun (c, _) => sameName c.name t.name) then
          let sc : Scope := { scopes := [], ctes := [], inTrigger := false, parameters := [], override := none }
          let before := (← get).immediate
          for r in t.rows do
            parentKeys t r.values r.rowid none 1
            let _ := sc
          if (← get).immediate != before then
            Change.fail .foreignKey .abort
      let temp := o.temp
      modify fun w => { w with db := w.db.without fun x =>
        (x.isRelation && x.temp == temp && sameName x.name o.name) || x.belongsTo o.name }
      if let .table t := o then
        if t.autoincrement then
          modify fun w => { w with db := { w.db with
            sequence := w.db.sequence.filter fun (n, _) => !sameName n t.name } }
  | .index =>
    match db.index? name.name with
    | none =>
      if ifExists then return
      Change.fail (.logic ("no such index: " ++ name.shown)) .abort
    | some i =>
      if i.sql.isNone then
        Change.fail (.logic "index associated with UNIQUE or PRIMARY KEY constraint cannot be dropped") .abort
      modify fun w => { w with db := w.db.without fun x => x.isIndex && sameName x.name i.name }
  | .trigger =>
    match db.trigger? name.name with
    | none =>
      if ifExists then return
      Change.fail (.logic ("no such trigger: " ++ name.shown)) .abort
    | some tr =>
      modify fun w => { w with db := w.db.without fun x => x.isTrigger && sameName x.name tr.name }

/-- A table renamed in the foreign keys of another that refer to it. -/
def ForeignKey.renamedParent (fk : ForeignKey) (old new : String) : ForeignKey :=
  if sameName fk.clause.table old then { fk with clause := { fk.clause with table := new } } else fk

/-- An `ALTER TABLE … RENAME TO`: the table, its indexes and triggers, and the foreign keys that
refer to it take the new name. -/
def renameTable (name : ObjectName) (newName : String) : Change Unit := do
  let db := (← get).db
  let some t := db.table? name.name
    | if let some v := db.view? name.name then
        Change.fail (.logic ("view " ++ v.name ++ " may not be altered")) .abort
      else Change.fail (.noSuchTable name.shown) .abort
  if (reservedName t.name).isSome then
    Change.fail (.logic ("table " ++ t.name ++ " may not be altered")) .abort
  if db.objects.any fun o => (o.isRelation || o.isIndex) && o.temp == t.temp && sameName o.name newName then
    Change.fail (.logic ("there is already another table or index with this name: " ++ newName)) .abort
  if let some e := reservedName newName then Change.fail e .abort
  let old := t.name
  let autoPrefix := "sqlite_autoindex_" ++ old ++ "_"
  let objects := db.objects.map fun o =>
    match o with
    | .table u =>
      let u := { u with foreignKeys := u.foreignKeys.map (·.renamedParent old newName) }
      if sameName u.name old && u.temp == t.temp then .table { u with name := newName } else .table u
    | .index i =>
      if sameName i.table old then
        let n := if i.sql.isNone && (i.name.take autoPrefix.length).toString == autoPrefix then
          "sqlite_autoindex_" ++ newName ++ "_" ++ (i.name.drop autoPrefix.length).toString else i.name
        .index { i with table := newName, name := n }
      else o
    | .trigger tr => if sameName tr.table old then .trigger { tr with table := newName } else o
    | other => other
  let sequence := db.sequence.map fun (n, v) => if sameName n old then (newName, v) else (n, v)
  modify fun w => { w with db := { w.db with objects, sequence } }

/-- An `ALTER TABLE … RENAME COLUMN`: the column takes the new name, in the table and in the
foreign keys that name it. -/
def renameColumn (name : ObjectName) (column newName : String) : Change Unit := do
  let db := (← get).db
  let some t := db.table? name.name
    | if let some v := db.view? name.name then
        Change.fail (.logic ("cannot rename columns of view \"" ++ v.name ++ "\"")) .abort
      else Change.fail (.noSuchTable name.shown) .abort
  let some k := t.columnIndex? column
    | Change.fail (.logic ("no such column: \"" ++ column ++ "\"")) .abort
  if t.columns.any fun c => sameName c.name newName then
    Change.fail (.logic ("duplicate column name: " ++ newName)) .abort
  let old := (t.columns.getD k default).name
  let renameIn (cols : List String) : List String := cols.map fun c => if sameName c old then newName else c
  let objects := db.objects.map fun o =>
    match o with
    | .table u =>
      let fks := u.foreignKeys.map fun fk =>
        let fk := if sameName u.name t.name then { fk with columns := renameIn fk.columns } else fk
        if sameName fk.clause.table t.name then { fk with clause := { fk.clause with columns := renameIn fk.clause.columns } }
        else fk
      let u := { u with foreignKeys := fks }
      if sameName u.name t.name && u.temp == t.temp then
        .table { u with columns := u.columns.set k { u.columns.getD k default with name := newName } }
      else .table u
    | other => other
  modify fun w => { w with db := { w.db with objects } }

/-- Where a column added to a table goes in the table's stored text: the offset of the comma
that starts the table's constraints, or else of the bracket that closes its columns. The
lexemes are walked with the depth of brackets open. -/
def columnListEnd : List Lexeme → Nat → Option Nat
  | [], _ => none
  | l :: rest, depth =>
    if l.isSymbol "(" then columnListEnd rest (depth + 1)
    else if l.isSymbol ")" then
      if depth == 1 then some l.start else columnListEnd rest (depth - 1)
    else if depth == 1 && l.isSymbol "," &&
        rest.head?.any (fun n => ["CONSTRAINT", "PRIMARY", "UNIQUE", "CHECK", "FOREIGN"].any n.isWord) then
      some l.start
    else columnListEnd rest depth

/-- An `ALTER TABLE … ADD COLUMN`: the column goes last, and the rows already there take its
default. -/
def addColumn (name : ObjectName) (def_ : ColumnDefinition) (sql : String) : Change Unit := do
  let db := (← get).db
  let some t := db.table? name.name
    | if (db.view? name.name).isSome then Change.fail (.logic "Cannot add a column to a view") .abort
      else Change.fail (.noSuchTable name.shown) .abort
  let draft : TableDraft :=
    { columns := t.columns, keys := [], checks := [], foreignKeys := [], rowidColumn := none,
      keyConflict := none, autoincrement := false, hasPrimaryKey := false }
  let d ← Change.check (draft.addColumn t.name def_)
  let col := d.columns.getD t.columns.length default
  if col.primaryKey then Change.fail (.logic "Cannot add a PRIMARY KEY column") .abort
  if !d.keys.isEmpty then Change.fail (.logic "Cannot add a UNIQUE column") .abort
  let nonEmpty := !t.rows.isEmpty
  let defaultIsNull := match col.defaultValue with
    | none => true
    | some (.literal .null) => true
    | some _ => false
  if col.generated.isNone then
    if (← get).keysOn && !d.foreignKeys.isEmpty && !defaultIsNull && nonEmpty then
      Change.fail (.logic "Cannot add a REFERENCES column with non-NULL default value") .abort
    if col.notNull.isSome && defaultIsNull && nonEmpty then
      Change.fail (.logic "Cannot add a NOT NULL column with default value NULL") .abort
  else if (col.generated.map (·.2)).getD false then
    if nonEmpty then Change.fail (.logic "cannot add a STORED column") .abort
  let col := if t.strict then
      match StrictType.ofDeclared? col.declared with
      | some st => { col with strictType := some st, affinity := st.affinity }
      | none => col
    else col
  let value ← defaultValueOf col
  let value := value.withAffinity col.affinity
  let sql := match columnListEnd (lexemes t.sql).toList 0 with
    | some k => spanText t.sql 0 k ++ ", " ++ sql ++ spanText t.sql k t.sql.utf8ByteSize
    | none => t.sql
  let t2 : Table :=
    { t with
      columns := t.columns ++ [col], checks := t.checks ++ d.checks,
      foreignKeys := d.foreignKeys.filter (fun fk => !t.foreignKeys.any fun g => g.columns == fk.columns) ++ t.foreignKeys,
      rows := t.rows.map fun r => { r with values := r.values ++ [value] }, sql }
  let t2 ← if col.generated.isSome then do
      let rows ← t2.rows.mapM fun r => do
        let vs ← Change.lift (t2.withGenerated (← get).db r.values (t2.rowidOf r.rowid))
        pure { r with values := vs }
      pure { t2 with rows }
    else pure t2
  storeTable t2

/-- An `ALTER TABLE … DROP COLUMN`: the column must exist, not be a key, and not be the only
one. -/
def dropColumn (name : ObjectName) (column : String) : Change Unit := do
  let db := (← get).db
  let some t := db.table? name.name
    | if let some v := db.view? name.name then
        Change.fail (.logic ("cannot drop column from view \"" ++ v.name ++ "\"")) .abort
      else Change.fail (.noSuchTable name.shown) .abort
  let some k := t.columnIndex? column
    | Change.fail (.logic ("no such column: \"" ++ column ++ "\"")) .abort
  let c := t.columns.getD k default
  if c.primaryKey then Change.fail (.logic ("cannot drop PRIMARY KEY column: \"" ++ c.name ++ "\"")) .abort
  if (db.indexesOf t.name).any (fun i => i.terms.any fun term => match term.key with
      | .column j => j == k
      | _ => false) then
    Change.fail (.logic ("cannot drop UNIQUE column: \"" ++ c.name ++ "\"")) .abort
  if t.columns.length ≤ 1 then
    Change.fail (.logic ("cannot drop column \"" ++ c.name ++ "\": no other columns exist")) .abort
  let shift (j : Nat) : Nat := if j > k then j - 1 else j
  let columns := t.columns.eraseIdx k
  let t2 : Table :=
    { t with
      columns, rows := t.rows.map fun r => { r with values := r.values.eraseIdx k },
      rowidColumn := t.rowidColumn.map shift,
      foreignKeys := t.foreignKeys.filter fun fk => !fk.columns.any (sameName · c.name) }
  let objects := (← get).db.objects.map fun o =>
    match o with
    | .table u => if sameName u.name t.name && u.temp == t.temp then .table t2 else o
    | .index i =>
      if sameName i.table t.name then
        .index { i with terms := i.terms.map fun term =>
          match term.key with
          | .column j => { term with key := .column (shift j) }
          | _ => term }
      else o
    | other => other
  modify fun w => { w with db := { w.db with objects } }

/-- Runs a statement that defines the schema. -/
def defineStatement (s : Statement) : Change Unit :=
  match s with
  | .createTable temp ine name columns constraints withoutRowId strict text =>
    createTable temp ine name columns constraints withoutRowId strict text
  | .createTableAs temp ine name q => createTableAs temp ine name q
  | .createIndex unique ine name table terms filter text => createIndex unique ine name table terms filter text
  | .createView temp ine name columns q text => createView temp ine name columns q text
  | .createTrigger temp ine name timing event table condition body text =>
    createTrigger temp ine name timing event table condition body text
  | .drop kind ifExists name => dropObject kind ifExists name
  | .renameTable table newName => renameTable table newName
  | .renameColumn table column newName => renameColumn table column newName
  | .addColumn table column text => addColumn table column text
  | .dropColumn table column => dropColumn table column
  | _ => pure ()

end EnergyModel.Sql
