import EnergyModel.Sql.Row

/-!
# Changing rows

`INSERT`, `UPDATE` and `DELETE`, row by row, in the order a database takes the steps in:

1. the values of the row: those given, the defaults of the others;
2. the `BEFORE` triggers, which see the row converted to its columns' affinities and a row id
   of -1 when none was given;
3. the row id: the one given (which must be an integer), or one past the largest in use (past
   the table's counter too when it is `AUTOINCREMENT`);
4. the generated columns;
5. the checks (`checkRow`): `NOT NULL` (twice when a `REPLACE` put in a default or a generated
   column is `NOT NULL`), `CHECK`, the row id, then every unique index in turn, each broken one
   resolved by its conflict clause, which the statement's own `OR` clause overrides;
6. the foreign keys: a row that refers to a missing parent raises the count of broken keys,
   and a parent row going in lowers it by the children it gives back a parent;
7. the row is stored and the `AFTER` triggers run.

Changes happen in `ExceptT Stop (StateM Work)`, so a stop keeps what was done before it: a
trigger's `RAISE(IGNORE)` skips the rest of its row and nothing else, and a statement that
fails with `FAIL` keeps its earlier rows. How a statement as a whole ends is
`Sql.Connection`'s business.

A trigger does not start again while it runs, and the triggers of a table run most recently
made first.
-/

namespace EnergyModel.Sql

/-- What row changes act on: the database, the counts of broken foreign keys (those of the
statement running, and the deferred ones of the transaction), whether foreign keys are
enforced, and the triggers running, innermost first. -/
structure Work where
  db : Database
  immediate : Int
  deferred : Int
  keysOn : Bool
  running : List String
  /-- The row id of the last row inserted. -/
  lastRowid : Int := 0
  /-- What `changes()` gives: the rows the last finished statement changed. -/
  changes : Int := 0
  /-- The rows changed by the statements finished since the connection opened. -/
  totalChanges : Int := 0
  /-- The rows the running statement (at the level of its trigger, if any) has changed. -/
  rowsChanged : Int := 0
  /-- The options of the connection. -/
  settings : Settings := {}
  deriving Inhabited

/-- A change of rows, which may stop; a stop keeps the changes made before it. -/
abbrev Change := ExceptT Stop (StateM Work)

/-- What a statement that changes rows sees: the rows in scope (a trigger's `OLD` and `NEW`),
its common tables and parameters, whether it runs in a trigger, and the conflict clause that
overrides every constraint's own, if there is one. -/
structure Scope where
  scopes : List (List Binding)
  ctes : List (String × CteValue)
  inTrigger : Bool
  parameters : List Value
  override : Option Conflict
  deriving Inhabited

/-- The evaluation environment of a scope over the current database. -/
def Work.envOf (w : Work) (sc : Scope) : Env :=
  { db := w.db, scopes := sc.scopes, ctes := sc.ctes, inTrigger := sc.inTrigger, group := none,
    parameters := sc.parameters, lastRowid := w.lastRowid, changes := w.changes,
    totalChanges := w.totalChanges, settings := w.settings }

/-- Counts a row the running statement changed. -/
def countChange : Change Unit :=
  modify fun w => { w with rowsChanged := w.rowsChanged + 1 }

/-- The result of an evaluation, as a change. -/
def Change.lift {α : Type} : Except Stop α → Change α
  | .ok a => pure a
  | .error s => throw s

/-- Stops with an error that ends the statement as `action` says. -/
def Change.fail {α : Type} (e : SqlError) (action : Conflict) : Change α := throw (Stop.error e action)

/-- A result that may be an error, as a change; an error ends the statement undone. -/
def Change.check {α : Type} : Except SqlError α → Change α
  | .ok a => pure a
  | .error e => throw (Stop.error e .abort)

/-- Evaluates an expression in a scope. -/
def evalIn (sc : Scope) (e : Expr) : Change Operand := do
  Change.lift (((← get).envOf sc).eval e)

/-- Evaluates a query in a scope. -/
def queryIn (sc : Scope) (q : Query) : Change Relation := do
  Change.lift (((← get).envOf sc).query q)

/-- The current state of a table. -/
def tableNamed (name : String) : Change (Option Table) := do
  pure ((← get).db.table? name)

/-- Stores a new state of a table. -/
def storeTable (t : Table) : Change Unit :=
  modify fun w => { w with db := w.db.putTable t }

/-- Adds to the count of broken foreign keys of one kind. -/
def countBroken (deferred : Bool) (n : Int) : Change Unit :=
  modify fun w =>
    if deferred then { w with deferred := w.deferred + n } else { w with immediate := w.immediate + n }

/-- Whether the count of broken foreign keys of one kind is not zero. -/
def anyBroken (deferred : Bool) : Change Bool := do
  let w ← get
  pure ((if deferred then w.deferred else w.immediate) != 0)

/-- A value that must be an integer, as a row id must: converted as a number, or a mismatch. -/
def mustBeInteger (v : Value) : Change Int :=
  match v.withAffinity .numeric with
  | .integer n => pure n
  | _ => Change.fail .mismatch .abort

/-- The default value of a column: its `DEFAULT` expression, or null. -/
def defaultValueOf (c : Column) : Change Value := do
  match c.defaultValue with
  | none => pure .null
  | some e =>
    let w ← get
    let env : Env :=
      { db := w.db, scopes := [], ctes := [], inTrigger := false, group := none, parameters := [] }
    pure (← Change.lift (env.eval e)).value

/-- Whether a table has generated columns. -/
def Table.hasGenerated (t : Table) : Bool := t.columns.any fun c => c.generated.isSome

/-- The row id as expressions see it: none in a table without row ids. -/
def Table.rowidOf (t : Table) (rowid : Int) : Option Int := if t.withoutRowId then none else some rowid

/-- A row's values with the row id in the column that is the row id. -/
def Table.withKey (t : Table) (values : List Value) (rowid : Int) : List Value :=
  match t.rowidColumn with
  | some k => values.set k (.integer rowid)
  | none => values

/-- The row id a new row gets: one past the largest in use, and past the table's counter when
it is `AUTOINCREMENT`. -/
def Table.nextRowid (t : Table) (db : Database) : Except SqlError Int :=
  let top := t.maxRowid.getD 0
  let base := if t.autoincrement then max top (db.sequenceOf t.name) else top
  if base ≥ maxInteger then .error (.logic "database or disk is full") else .ok (base + 1)

/-- The generated columns recomputed from the others, the others converted first. -/
def Table.regenerate (t : Table) (values : List Value) (rowid : Int) : Change (List Value) := do
  if !t.hasGenerated then return values
  let vs ← Change.check (t.withAffinities values true)
  Change.lift (t.withGenerated (← get).db vs (t.rowidOf rowid))

/-- Whether a trigger with an event runs on a change: an update trigger on named columns only
when one of them is assigned. -/
def TriggerEvent.fires : TriggerEvent → TriggerEvent → Bool
  | .insert, .insert => true
  | .delete, .delete => true
  | .update watched, .update assigned =>
    watched.isEmpty || watched.any fun w => assigned.any (sameName w ·)
  | _, _ => false

/-- Whether a table has triggers with a timing and event. -/
def hasTriggers (table : String) (timing : TriggerTiming) (event : TriggerEvent) : Change Bool := do
  pure (((← get).db.triggersOn table).any fun tr => tr.timing == timing && tr.event.fires event)

/-- The most triggers that may run one inside another. -/
def triggerDepthLimit : Nat := 1000

/-- Counts the foreign keys a row of a child table breaks as it goes in (`delta = 1`), or lowers
the count for those a row going out had broken (`delta = -1`, only while the count is not
zero). A key with a null is never broken, and a row may be its own parent. With `atOnce`, a
broken immediate key fails the statement at once. With `onlyChanged`, only keys on changed
columns are looked at. -/
def childKeys (t : Table) (values : List Value) (rowid : Int) (onlyChanged : Option (List Nat))
    (delta : Int) (atOnce : Bool) : Change Unit := do
  if !(← get).keysOn then return
  for fk in t.foreignKeys do
    if let some changed := onlyChanged then
      let touched := fk.columns.any fun c =>
        match t.columnIndex? c with
        | some k => changed.contains k
        | none => false
      if !touched then continue
    let cvs := fk.childValues t values
    if cvs.any (·.isNull) then continue
    if delta < 0 && !(← anyBroken fk.clause.deferred) then continue
    let db := (← get).db
    let found := match db.table? fk.clause.table with
      | none => false
      | some parent =>
        match fk.parentKey db parent with
        | none => false
        | some key =>
          key.found parent cvs ||
            (delta > 0 && sameName parent.name t.name && key.holds parent ⟨rowid, values⟩ cvs)
    if found then continue
    if delta > 0 && atOnce && !fk.clause.deferred then Change.fail .foreignKey .abort
    countBroken fk.clause.deferred delta

/-- Whether a change to some columns changes a foreign key's parent key. -/
def ParentKey.changedBy (key : ParentKey) (changed : List Nat) (rowidChanged : Bool) : Bool :=
  match key with
  | .rowid => rowidChanged
  | .columns ks _ => ks.any changed.contains

/-- Counts the children a parent row leaves without a parent as it goes out (`delta = 1`; a row
that is its own child does not count), or lowers the count by those a parent row going in gives
a parent back (`delta = -1`, only while the count is not zero). With `onlyChanged`, only keys
whose parent columns changed are looked at. -/
def parentKeys (t : Table) (values : List Value) (rowid : Int)
    (onlyChanged : Option (List Nat × Bool)) (delta : Int) : Change Unit := do
  let w ← get
  if !w.keysOn then return
  for (child, fk) in w.db.keysReferring t.name do
    let some key := fk.parentKey w.db t | continue
    if let some (changed, rowidChanged) := onlyChanged then
      if !key.changedBy changed rowidChanged then continue
    if delta < 0 && !(← anyBroken fk.clause.deferred) then continue
    let some current := (← get).db.table? child.name | continue
    let kids := key.children fk t current values rowid
    let kids := if delta > 0 && sameName current.name t.name then kids.filter (·.rowid != rowid) else kids
    if !kids.isEmpty then countBroken fk.clause.deferred (delta * kids.length)

/-- What an `ON CONFLICT` clause of an `INSERT` is for: every constraint, the row id, or one
index. -/
inductive UpsertTarget where
  | any
  | rowid
  | index (name : String)
  deriving BEq, Inhabited

/-- An ordinal number as error messages write it: `1st`, `2nd`, `3rd`, `4th`, … -/
def ordinalWord (n : Nat) : String :=
  let suffix :=
    if n % 100 ≥ 11 && n % 100 ≤ 13 then "th"
    else match n % 10 with
      | 1 => "st"
      | 2 => "nd"
      | 3 => "rd"
      | _ => "th"
  toString n ++ suffix

/-- The target of each `ON CONFLICT` clause: the row id when it names the column that is the row
id, or the unique index on exactly the named columns; an error when a clause names no such
constraint. -/
def upsertTargets (db : Database) (t : Table) (upserts : List Upsert) :
    Except SqlError (List (Upsert × UpsertTarget)) :=
  upserts.zipIdx.mapM fun (u, n) =>
    let failure : SqlError := .logic ((if upserts.length == 1 then "" else ordinalWord (n + 1) ++ " ") ++
      "ON CONFLICT clause does not match any PRIMARY KEY or UNIQUE constraint")
    if u.target.isEmpty then .ok (u, .any)
    else
      let names := u.target.filterMap fun term =>
        match term.value with
        | .column _ c _ => some c
        | _ => none
      if names.length != u.target.length then .error failure
      else
        let isKey := match names with
          | [c] =>
            !t.withoutRowId &&
              ((t.rowidColumn.map fun k => sameName (t.columns.getD k default).name c).getD false ||
                (isRowidName c && (t.columnIndex? c).isNone))
          | _ => false
        if isKey then .ok (u, .rowid)
        else
          let fits (i : Index) : Bool :=
            i.unique && i.terms.length == names.length && (i.filter.isNone || u.targetFilter.isSome) &&
              i.terms.all fun term =>
                match term.key with
                | .column k => names.any (sameName · (t.columns.getD k default).name)
                | _ => false
          match (db.indexesOf t.name).find? fits with
          | some i => .ok (u, .index i.name)
          | none => .error failure

/-- The first `ON CONFLICT` clause that applies to a constraint. -/
def upsertFor (upserts : List (Upsert × UpsertTarget)) (target : UpsertTarget) : Option Upsert :=
  (upserts.find? fun (_, t) => t == .any || t == target).map (·.1)

/-- The indexes of a table in the order a new row is checked against them: with `ON CONFLICT`
clauses, the indexes they name first, in their order. -/
def checkOrder (indexes : List Index) (upserts : List (Upsert × UpsertTarget)) : List Index :=
  let named := upserts.filterMap fun (_, t) =>
    match t with
    | .index n => indexes.find? fun i => sameName i.name n
    | _ => none
  let named := named.foldl (fun acc i => if acc.any (fun j => sameName j.name i.name) then acc else acc ++ [i]) []
  named ++ indexes.filter fun i => !named.any fun j => sameName j.name i.name

/-- How a broken constraint is resolved: by a conflict clause, or by the `DO UPDATE` of an
`ON CONFLICT` clause. -/
inductive Resolution where
  | conflict (c : Conflict)
  | doUpdate (u : Upsert)
  deriving Inhabited

/-- What the checks of a row decided: store it with these values, or skip it. -/
inductive Verdict where
  | store (values : List Value)
  | skip
  deriving Inhabited

/-- Where an `INSERT` puts a value: a column, or the row id. -/
inductive Placement where
  | column (index : Nat)
  | rowid
  deriving BEq, Inhabited

/-- The columns an `INSERT` gives values for, in order: those named, or every column that is not
generated. -/
def insertPlacements (t : Table) (shown : String) : Option (List String) → Except SqlError (List Placement)
  | none => .ok (t.columns.zipIdx.filterMap fun (c, k) => if c.generated.isNone then some (.column k) else none)
  | some names => names.mapM fun n =>
    match t.columnIndex? n with
    | some k =>
      if (t.columns.getD k default).generated.isSome then
        .error (.logic ("cannot INSERT into generated column \"" ++ n ++ "\""))
      else .ok (.column k)
    | none =>
      if isRowidName n && !t.withoutRowId then .ok .rowid
      else .error (.logic ("table " ++ shown ++ " has no column named " ++ n))

/-- A source row laid out over a table's columns: the value given for each column (none for a
default), and the value given for the row id, if any. -/
def placeRow (t : Table) (placements : List Placement) (row : List Value) :
    List (Option Value) × Option Value :=
  let given (k : Nat) : Option Value :=
    ((placements.zip row).find? fun (p, _) => p == .column k).map (·.2)
  let supplied := (List.range t.columns.length).map given
  let key := match t.rowidColumn with
    | some k => given k
    | none => none
  let key := match key with
    | some v => some v
    | none => ((placements.zip row).find? fun (p, _) => p == .rowid).map (·.2)
  (supplied, key)

/-- The first error among the trigger bodies that a change of a table would compile: a table a
step changes that does not exist. -/
def triggerError (db : Database) (triggers : List Trigger) : Option SqlError :=
  triggers.findSome? fun tr =>
    tr.body.findSome? fun s =>
      let target := match s with
        | .insert _ _ n _ _ _ _ => some n.name
        | .update _ _ n _ _ _ => some n.name
        | .delete _ n _ => some n.name
        | _ => none
      match target with
      | some n =>
        if (db.table? n).isSome || (db.view? n).isSome then none
        else some (.noSuchTable ((if tr.temp then "" else "main.") ++ n))
      | none => none

/-- The error, if any, that preparing a change of a table meets in its foreign keys: a parent
table that does not exist, or a parent with no unique key on the named columns. The child keys
of the table are looked at when `asChild` says which columns (none for all), and the keys that
refer to it when `asParent` holds. -/
def keyError (db : Database) (t : Table) (asChild : Option (Option (List Nat))) (asParent : Bool)
    (deferredOnly : Bool) : Option SqlError :=
  let childError : Option SqlError := match asChild with
    | none => none
    | some changed =>
      t.foreignKeys.findSome? fun (fk : ForeignKey) =>
        let touched := match changed with
          | none => true
          | some cs => fk.columns.any fun c => (t.columnIndex? c).any cs.contains
        if !touched then none
        else match db.table? fk.clause.table with
          | none => some (.noSuchTable ("main." ++ fk.clause.table))
          | some parent =>
            match fk.parentKey db parent with
            | some _ => none
            | none => some (foreignKeyMismatch t.name parent.name)
  match childError with
  | some e => some e
  | none =>
    if !asParent then none
    else (db.keysReferring t.name).findSome? fun ((child, fk) : Table × ForeignKey) =>
      if deferredOnly && !fk.clause.deferred then none
      else match fk.parentKey db t with
        | some _ => none
        | none => some (foreignKeyMismatch child.name t.name)

/-- The error, if any, of preparing a change of a table: the foreign key error if there is one,
as it is reported last, or else the first trigger error. -/
def prepareError (db : Database) (keysOn : Bool) (triggers : List Trigger)
    (keys : Option SqlError) : Option SqlError :=
  match (if keysOn then keys else none) with
  | some e => some e
  | none => triggerError db triggers

/-- The common tables of a `WITH` clause. -/
def cteDefinitions (ctes : List CommonTable) : List (String × CteValue) :=
  (ctes.map fun c => match c with | CommonTable.mk n cols q => (n, CteValue.query cols q)).reverse

/-- The name of a table as a statement wrote it, with its schema. -/
def ObjectName.shown (n : ObjectName) : String :=
  match n.schema with
  | some s => s ++ "." ++ n.name
  | none => n.name

/-- The error of a table that does not exist, as a statement names it: a trigger's statements
look in the main schema. -/
def missingTable (sc : Scope) (n : ObjectName) : SqlError :=
  .noSuchTable (if sc.inTrigger && n.schema.isNone then "main." ++ n.name else n.shown)

/-- The values a multi-column assignment gives: from a row value, or the first row of a query. -/
def assignedValues (sc : Scope) (count : Nat) (e : Expr) : Change (List Value) := do
  if count == 1 then return [(← evalIn sc e).value]
  let values ← match e with
    | .vector items => items.mapM fun x => do pure (← evalIn sc x).value
    | .subquery q => do
      let r ← queryIn sc q
      pure (r.rows.headD (r.fields.map fun _ => Value.null))
    | _ => pure [(← evalIn sc e).value]
  if values.length != count then
    Change.fail (.logic (toString count ++ " columns assigned " ++ toString values.length ++ " values")) .abort
  return values

/-- The new values of a row under the assignments of an `UPDATE`, with the new row id if it is
assigned, the positions of the assigned columns and their names as written. -/
def assignRow (sc : Scope) (t : Table) (row : Row) (assignments : List (List String × Expr)) :
    Change (List Value × Option Value × List Nat × List String) := do
  let mut values := row.values
  let mut key : Option Value := none
  let mut changed : List Nat := []
  let mut names : List String := []
  for (cols, e) in assignments do
    let vs ← assignedValues sc cols.length e
    for (c, v) in cols.zip vs do
      names := names ++ [c]
      match t.columnIndex? c with
      | some k =>
        if t.rowidColumn == some k then key := some v
        values := values.set k v
        if !changed.contains k then changed := changed ++ [k]
      | none => key := some v
  return (values, key, changed, names)

/-- Checks the columns an `UPDATE` assigns: each must exist and not be generated. -/
def assignmentError (t : Table) (assignments : List (List String × Expr)) : Option SqlError :=
  assignments.findSome? fun (cols, _) =>
    cols.findSome? fun c =>
      match t.columnIndex? c with
      | some k =>
        if (t.columns.getD k default).generated.isSome then
          some (.logic ("cannot UPDATE generated column \"" ++ c ++ "\""))
        else none
      | none => if isRowidName c && !t.withoutRowId then none else some (.noSuchColumn c)

/-- The generated columns that depend on changed columns, with the changed ones. -/
def Table.affectedColumns (t : Table) (changed : List Nat) : List Nat := Id.run do
  let mut out := changed
  for _ in t.columns do
    for (c, k) in t.columns.zipIdx do
      if let some (e, _) := c.generated then
        let names := out.map fun j => (t.columns.getD j default).name
        if !out.contains k && e.mentions names 64 then out := out ++ [k]
  return out

/-- The rows of a view's query, whose tables are those of the main schema. -/
def viewRelation (sc : Scope) (v : View) : Change Relation := do
  let env := (← get).envOf { sc with scopes := [], ctes := [] }
  Change.lift ({ env with fixedSchema := true }.query v.query)

/-- The rows an `INSERT` inserts. A single row of values is a list of expressions rather
than a query, so an aggregate in it is misused. -/
def insertRows (sc : Scope) : InsertSource → Change Relation
  | .defaults => pure { fields := [], rows := [[]] }
  | .rows (.values [row]) => do
    if let some n := row.findSome? (Expr.firstAggregate 64) then
      Change.fail (.logic ("misuse of aggregate function " ++ n ++ "()")) .abort
    queryIn sc (.values [row])
  | .rows q => queryIn sc q

/-- The columns of a view: its own names, or those of its query. -/
def viewColumns (sc : Scope) (v : View) : Change (List String) := do
  if !v.columns.isEmpty then return v.columns
  let r ← viewRelation sc v
  return r.fields.map (·.name)

/-- A view's rows as bindings under its name. -/
def viewRows (sc : Scope) (v : View) : Change (List Binding) := do
  let r ← viewRelation sc v
  let names ← viewColumns sc v
  let fields := (r.fields.zip names).map fun (f, n) => { f with name := n }
  return r.rows.map fun vs => { Binding.shape v.name fields with values := vs }

mutual

/-- Runs the triggers of a table with a timing and event over the rows `old` and `new`; false
when one of them said `RAISE(IGNORE)`, which skips the rest of the row. A trigger that is
already running does not start again. -/
def fireTriggers (fuel : Nat) (sc : Scope) (table : String) (timing : TriggerTiming)
    (event : TriggerEvent) (old new : Option Binding) : Change Bool :=
  match fuel with
  | 0 => Change.fail tooComplex .abort
  | fuel + 1 => do
    let triggers := ((← get).db.triggersOn table).reverse.filter fun tr =>
      tr.timing == timing && tr.event.fires event
    for tr in triggers do
      let w ← get
      if !w.settings.recursiveTriggers && w.running.any (sameName · tr.name) then continue
      if w.running.length ≥ triggerDepthLimit then
        Change.fail (.logic "too many levels of trigger recursion") .abort
      let tsc : Scope :=
        { scopes := [old.toList ++ new.toList], ctes := [], inTrigger := true,
          parameters := sc.parameters, override := sc.override }
      if let some c := tr.condition then
        let o ← evalIn tsc c
        if o.value.truth != some true then continue
      let saved ← get
      modify fun w => { w with running := tr.name :: w.running, rowsChanged := 0 }
      let ok ← tryCatch (do
          for s in tr.body do
            execute fuel tsc s
            match s with
            | .query _ => pure ()
            | _ => modify fun w =>
              { w with changes := w.rowsChanged, totalChanges := w.totalChanges + w.rowsChanged,
                       rowsChanged := 0 }
          pure true)
        fun s => match s with
          | .ignoreRow => pure false
          | e => throw e
      modify fun w =>
        { w with running := w.running.drop 1, lastRowid := saved.lastRowid, changes := saved.changes,
                 rowsChanged := saved.rowsChanged }
      if !ok then return false
    return true

/-- Runs a statement that changes rows (or a query, for what it raises) in a scope. -/
def execute (fuel : Nat) (sc : Scope) (s : Statement) : Change Unit :=
  match fuel with
  | 0 => Change.fail tooComplex .abort
  | fuel + 1 =>
    match s with
    | .insert ctes conflict name aliasName columns source upserts =>
      insertStatement fuel { sc with ctes := cteDefinitions ctes ++ sc.ctes, override := sc.override <|> conflict }
        name aliasName columns source upserts
    | .update ctes conflict name assignments source filter =>
      updateStatement fuel { sc with ctes := cteDefinitions ctes ++ sc.ctes, override := sc.override <|> conflict }
        name assignments source filter
    | .delete ctes name filter =>
      deleteStatement fuel { sc with ctes := cteDefinitions ctes ++ sc.ctes } name filter
    | .query q => do
      let _ ← queryIn sc q
      pure ()
    | _ => pure ()

/-- An `INSERT`: the target and the columns it names are checked, the source rows computed,
and each row inserted. -/
def insertStatement (fuel : Nat) (sc : Scope) (name : ObjectName) (aliasName : Option String)
    (columns : Option (List String)) (source : InsertSource) (upserts : List Upsert) : Change Unit :=
  match fuel with
  | 0 => Change.fail tooComplex .abort
  | fuel + 1 => do
    let db := (← get).db
    match db.table? name.name with
    | none =>
      match db.view? name.name with
      | some v => insertIntoView fuel sc v columns source
      | none => Change.fail (missingTable sc name) .abort
    | some t =>
      let placements ← Change.check (insertPlacements t name.shown columns)
      let rel ← insertRows sc source
      let width := match source with
        | .defaults => placements.length
        | .rows _ => rel.fields.length
      if width != placements.length then
        match columns with
        | none =>
          Change.fail (.logic ("table " ++ name.shown ++ " has " ++ toString placements.length ++
            " columns but " ++ toString width ++ " values were supplied")) .abort
        | some _ =>
          Change.fail (.logic (toString width ++ " values for " ++ toString placements.length ++
            " columns")) .abort
      let placements := match source with
        | .defaults => []
        | .rows _ => placements
      let targets ← Change.check (upsertTargets db t upserts)
      let single := match source with
        | .rows (.values [_]) => true
        | .defaults => true
        | _ => false
      let triggers := (db.triggersOn t.name).filter (·.event.fires .insert)
      let indexes := db.indexesOf t.name
      let multi := !single || !triggers.isEmpty || sc.override == some .replace ||
        t.keyConflict == some .replace || indexes.any (·.replaces)
      let anyDeferred := t.foreignKeys.any (·.clause.deferred)
      let keys := keyError db t (some none) (multi || sc.inTrigger || anyDeferred) false
      match prepareError db (← get).keysOn triggers keys with
      | some e => Change.fail e .abort
      | none => pure ()
      let atOnce := !multi && !sc.inTrigger
      for row in rel.rows do
        let (supplied, key) := placeRow t placements row
        insertOne fuel sc t.name (aliasName.getD t.name) supplied key targets atOnce

/-- An `INSERT` into a view: its `INSTEAD OF` triggers run for each row instead. -/
def insertIntoView (fuel : Nat) (sc : Scope) (v : View) (columns : Option (List String))
    (source : InsertSource) : Change Unit :=
  match fuel with
  | 0 => Change.fail tooComplex .abort
  | fuel + 1 => do
    let names ← viewColumns sc v
    if !(← hasTriggers v.name .insteadOf .insert) then
      Change.fail (.logic ("cannot modify " ++ v.name ++ " because it is a view")) .abort
    let positions ← match columns with
      | none => pure (List.range names.length)
      | some cs => cs.mapM fun c =>
        match names.findIdx? (sameName · c) with
        | some k => pure k
        | none => Change.fail (.logic ("table " ++ v.name ++ " has no column named " ++ c)) .abort
    let rel ← insertRows sc source
    let width := match source with
      | .defaults => positions.length
      | .rows _ => rel.fields.length
    if width != positions.length then
      match columns with
      | none =>
        Change.fail (.logic ("table " ++ v.name ++ " has " ++ toString positions.length ++
          " columns but " ++ toString width ++ " values were supplied")) .abort
      | some _ =>
        Change.fail (.logic (toString width ++ " values for " ++ toString positions.length ++
          " columns")) .abort
    let fields : List Field := names.map fun n => { name := n, affinity := none, collation := .binary }
    for row in rel.rows do
      let values := (List.range names.length).map fun k =>
        match positions.findIdx? (· == k) with
        | some j => row.getD j .null
        | none => .null
      let newB : Binding := { Binding.shape "new" fields with values, qualifiedOnly := true }
      let _ ← fireTriggers fuel sc v.name .insteadOf .insert none (some newB)

/-- Inserts one row into a table, given the values for its columns (none for a default) and
the value given for its row id, if any. -/
def insertOne (fuel : Nat) (sc : Scope) (tname aliasName : String) (supplied : List (Option Value))
    (key : Option Value) (upserts : List (Upsert × UpsertTarget)) (atOnce : Bool) : Change Unit :=
  match fuel with
  | 0 => Change.fail tooComplex .abort
  | fuel + 1 => do
    let some t ← tableNamed tname | return
    let mut raw : List Value := []
    for (c, s) in t.columns.zip supplied do
      match s with
      | some v => raw := raw ++ [v]
      | none =>
        let d ← if c.generated.isSome then pure Value.null else defaultValueOf c
        raw := raw ++ [d]
    if ← hasTriggers tname .before .insert then
      let early ← match key with
        | some v => if v.isNull then pure (-1) else mustBeInteger v
        | none => pure (-1)
      let nv ← t.regenerate (t.withKey raw early) early
      let nv ← Change.check (t.withAffinities nv false)
      let newB := t.bindingOf "new" nv (t.rowidOf early) true
      if !(← fireTriggers fuel sc tname .before .insert none (some newB)) then return
    let some t ← tableNamed tname | return
    let rowid ← match key with
      | some v => if v.isNull then Change.check (t.nextRowid (← get).db) else mustBeInteger v
      | none => Change.check (t.nextRowid (← get).db)
    if t.autoincrement then
      modify fun w => { w with db := w.db.setSequence t.name (max rowid (w.db.sequenceOf t.name)) }
    let vs ← t.regenerate (t.withKey raw rowid) rowid
    match ← checkRow fuel sc t vs rowid none none key.isSome upserts aliasName with
    | .skip => return
    | .store vs =>
      let some t ← tableNamed tname | return
      childKeys t vs rowid none 1 atOnce
      parentKeys t vs rowid none (-1)
      let vs ← Change.check (t.withAffinities vs false)
      let some t ← tableNamed tname | return
      storeTable (t.withRow ⟨rowid, vs⟩)
      countChange
      if !t.withoutRowId then modify fun w => { w with lastRowid := rowid }
      let newB := t.bindingOf "new" vs (t.rowidOf rowid) true
      let _ ← fireTriggers fuel sc tname .after .insert none (some newB)

/-- Checks a row about to be stored (new, or the new state of `old`) against the constraints
of its table, resolving each broken one; `changed` are the columns an update assigns, and
`keyGiven` says whether the statement gave the row id. -/
def checkRow (fuel : Nat) (sc : Scope) (t : Table) (values : List Value) (rowid : Int)
    (old : Option Row) (changed : Option (List Nat)) (keyGiven : Bool)
    (upserts : List (Upsert × UpsertTarget)) (aliasName : String) : Change Verdict :=
  match fuel with
  | 0 => Change.fail tooComplex .abort
  | fuel + 1 => do
    let override := sc.override
    let isChanged (k : Nat) : Bool := match changed with
      | some cs => cs.contains k
      | none => true
    let mut vs := values
    -- NOT NULL, first pass: generated columns wait for the second
    let mut secondPass := false
    let mut replacing := false
    for (c, k) in t.columns.zipIdx do
      let some clause := c.notNull | continue
      if t.rowidColumn == some k then continue
      if c.generated.isSome then
        secondPass := true
        continue
      if !isChanged k then continue
      let action := (override <|> clause).getD .abort
      if action == .replace && c.defaultValue.isSome then
        secondPass := true
        replacing := true
        if (vs.getD k .null).isNull then
          let d ← defaultValueOf c
          vs := vs.set k d
      else if (vs.getD k .null).isNull then
        let action := if action == .replace then .abort else action
        if action == .ignore then return .skip
        Change.fail (.notNull (t.name ++ "." ++ c.name)) action
    if secondPass then
      if replacing then vs ← t.regenerate vs rowid
      for (c, k) in t.columns.zipIdx do
        let some clause := c.notNull | continue
        if t.rowidColumn == some k then continue
        let action := (override <|> clause).getD .abort
        if c.generated.isSome then
          if (vs.getD k .null).isNull then
            let action := if action == .replace then .abort else action
            if action == .ignore then return .skip
            Change.fail (.notNull (t.name ++ "." ++ c.name)) action
        else if action == .replace && isChanged k && (vs.getD k .null).isNull then
          Change.fail (.notNull (t.name ++ "." ++ c.name)) .abort
    -- CHECK
    let rowidChanged := match old with
      | some o => keyGiven && o.rowid != rowid
      | none => keyGiven
    let changedNames : List String := match changed with
      | some cs =>
        cs.map (fun k => (t.columns.getD k default).name) ++
          (if rowidChanged then ["rowid", "oid", "_rowid_"] else [])
      | none => []
    let mut affinityDone := false
    let checks := if (← get).settings.ignoreChecks then [] else t.checks
    for ch in checks do
      if changed.isSome && !ch.condition.mentions changedNames 64 then continue
      if !affinityDone then
        vs ← Change.check (t.withAffinities vs false)
        affinityDone := true
      let o ← Change.lift ((t.rowEnv (← get).db vs (t.rowidOf rowid) "a CHECK constraint").eval ch.condition)
      if o.value.truth == some false then
        let action := override.getD .abort
        if action == .ignore then return .skip
        Change.fail (.check ch.label) (if action == .replace then .abort else action)
    -- the row id
    let indexes := checkOrder ((← get).db.indexesOf t.name) upserts
    let mut rowidLast := false
    if rowidChanged && !t.withoutRowId then
      let upsert := upsertFor upserts .rowid
      let resolution : Resolution := match upsert with
        | some u => if u.assignments.isNone then .conflict .ignore else .doUpdate u
        | none => .conflict ((override <|> t.keyConflict).getD .abort)
      let deferIt : Bool := match resolution with
        | .conflict .replace => override != some .replace && !indexes.isEmpty
        | _ => false
      if deferIt then rowidLast := true
      else
        let some cur ← tableNamed t.name | return .skip
        if let some hit := cur.row? rowid then
          if let some v ← resolveCollision fuel sc cur hit resolution cur.rowidViolation vs rowid aliasName then
            return v
    -- unique indexes
    for i in indexes do
      if old.isSome then
        if !(rowidChanged || i.touches (changed.getD []) changedNames) then continue
      if !affinityDone then
        vs ← Change.check (t.withAffinities vs false)
        affinityDone := true
      if !i.unique then continue
      let db := (← get).db
      let some cur := db.table? t.name | continue
      let some k ← Change.lift (i.keyOf cur db vs rowid) | continue
      let hits ← Change.lift (i.collisions cur db k (old.map (·.rowid)))
      let some hit := hits.head? | continue
      let resolution : Resolution := match upsertFor upserts (.index i.name) with
        | some u => if u.assignments.isNone then .conflict .ignore else .doUpdate u
        | none => .conflict ((override <|> i.conflict).getD .abort)
      if let some v ← resolveCollision fuel sc cur hit resolution (i.violation cur) vs rowid aliasName then
        return v
    if rowidLast then
      let some cur ← tableNamed t.name | return .skip
      if let some hit := cur.row? rowid then
        if let some v ← resolveCollision fuel sc cur hit (.conflict .replace) cur.rowidViolation vs rowid aliasName then
          return v
    return .store vs

/-- Resolves a row that collides with a stored one: fails, skips the new row, deletes the
stored one (`REPLACE`, without delete triggers), or updates the stored one instead
(`DO UPDATE`). None when the new row may go on. -/
def resolveCollision (fuel : Nat) (sc : Scope) (t : Table) (hit : Row) (resolution : Resolution)
    (error : SqlError) (values : List Value) (rowid : Int) (aliasName : String) : Change (Option Verdict) :=
  match fuel with
  | 0 => Change.fail tooComplex .abort
  | fuel + 1 =>
    match resolution with
    | .conflict .ignore => pure (some .skip)
    | .conflict .replace => do
      deleteRow fuel sc t.name hit.rowid false
      pure none
    | .conflict action => Change.fail error action
    | .doUpdate u => do
      let excludedValues ← Change.check (t.withAffinities values false)
      let excluded := t.bindingOf "excluded" excludedValues (t.rowidOf rowid) true
      let target := t.bindingOf aliasName hit.values (t.rowidOf hit.rowid) false
      let usc : Scope := { sc with scopes := [target, excluded] :: sc.scopes, override := some .abort }
      if let some f := u.filter then
        if (← evalIn usc f).value.truth != some true then return some .skip
      let (vals, key, changedCols, names) ← assignRow usc t hit (u.assignments.getD [])
      updateRow fuel { sc with override := some .abort } t.name hit.rowid vals key changedCols names
      pure (some .skip)

/-- Updates one row to new values (and a new row id, if one is assigned), with its triggers,
checks and foreign keys. -/
def updateRow (fuel : Nat) (sc : Scope) (tname : String) (rowid : Int) (newValues : List Value)
    (key : Option Value) (changed : List Nat) (names : List String) : Change Unit :=
  match fuel with
  | 0 => Change.fail tooComplex .abort
  | fuel + 1 => do
    let some t ← tableNamed tname | return
    let some old := t.row? rowid | return
    let newRowid ← match key with
      | some v => mustBeInteger v
      | none => pure old.rowid
    let mut nv := newValues
    if ← hasTriggers tname .before (.update names) then
      let tv ← t.regenerate (t.withKey nv newRowid) newRowid
      let tv ← Change.check (t.withAffinities tv false)
      let oldB := t.bindingOf "old" old.values (t.rowidOf old.rowid) true
      let newB := t.bindingOf "new" tv (t.rowidOf newRowid) true
      if !(← fireTriggers fuel sc tname .before (.update names) (some oldB) (some newB)) then return
      let some t2 ← tableNamed tname | return
      let some cur := t2.row? rowid | return
      nv := (List.range t2.columns.length).map fun k =>
        if changed.contains k then nv.getD k .null else cur.values.getD k .null
    let some t ← tableNamed tname | return
    let some old := t.row? rowid | return
    let vs ← t.regenerate (t.withKey nv newRowid) newRowid
    let affected := t.affectedColumns changed
    match ← checkRow fuel sc t vs newRowid (some old) (some affected) key.isSome [] tname with
    | .skip => return
    | .store vs =>
      let some t ← tableNamed tname | return
      let rowidChanged := key.isSome
      childKeys t old.values old.rowid (some affected) (-1) false
      parentKeys t old.values old.rowid (some (affected, rowidChanged)) 1
      storeTable (t.withoutRow old.rowid)
      let some t ← tableNamed tname | return
      childKeys t vs newRowid (some affected) 1 false
      parentKeys t vs newRowid (some (affected, rowidChanged)) (-1)
      let vs ← Change.check (t.withAffinities vs false)
      let some t ← tableNamed tname | return
      storeTable (t.withRow ⟨newRowid, vs⟩)
      countChange
      keyActions fuel sc t old (some ⟨newRowid, vs⟩)
      let oldB := t.bindingOf "old" old.values (t.rowidOf old.rowid) true
      let newB := t.bindingOf "new" vs (t.rowidOf newRowid) true
      let _ ← fireTriggers fuel sc tname .after (.update names) (some oldB) (some newB)

/-- Deletes one row, with its triggers when `fire` holds and its foreign keys. -/
def deleteRow (fuel : Nat) (sc : Scope) (tname : String) (rowid : Int) (fire : Bool) : Change Unit :=
  match fuel with
  | 0 => Change.fail tooComplex .abort
  | fuel + 1 => do
    let some t ← tableNamed tname | return
    let some r := t.row? rowid | return
    let oldB := t.bindingOf "old" r.values (t.rowidOf r.rowid) true
    if fire then
      if !(← fireTriggers fuel sc tname .before .delete (some oldB) none) then return
    let some t ← tableNamed tname | return
    let some r := t.row? rowid | return
    childKeys t r.values r.rowid none (-1) false
    parentKeys t r.values r.rowid none 1
    storeTable (t.withoutRow rowid)
    if fire then countChange
    keyActions fuel sc t r none
    if fire then
      let oldB := t.bindingOf "old" r.values (t.rowidOf r.rowid) true
      let _ ← fireTriggers fuel sc tname .after .delete (some oldB) none

/-- The actions of the foreign keys that refer to a row that was deleted (`new` none) or whose
key changed: its children are deleted, updated, set to null or to their defaults, or, for
`RESTRICT`, the statement fails while it has any. -/
def keyActions (fuel : Nat) (sc : Scope) (t : Table) (old : Row) (new : Option Row) : Change Unit :=
  match fuel with
  | 0 => Change.fail tooComplex .abort
  | fuel + 1 => do
    let w ← get
    if !w.keysOn then return
    let asc : Scope := { sc with override := some .abort, inTrigger := true }
    for (child, fk) in w.db.keysReferring t.name do
      let some key := fk.parentKey w.db t | continue
      let action := if new.isSome then fk.clause.onUpdate else fk.clause.onDelete
      if action == .noAction then continue
      let keyValues (r : Row) : List Value := match key with
        | .rowid => [.integer r.rowid]
        | .columns ks _ => ks.map fun k => r.values.getD k .null
      if let some nr := new then
        let same := (keyValues old).length == (keyValues nr).length &&
          ((keyValues old).zip (keyValues nr)).all fun (a, b) => a.same .binary b
        if same then continue
      let some current := (← get).db.table? child.name | continue
      let kids := key.children fk t current old.values old.rowid
      let columns := fk.columns.filterMap current.columnIndex?
      match action with
      | .restrict =>
        if !kids.isEmpty then Change.fail (.constraint .trigger "FOREIGN KEY constraint failed") .abort
      | .cascade =>
        match new with
        | none =>
          for k in kids do
            deleteRow fuel asc current.name k.rowid true
        | some nr =>
          for k in kids do
            let vals := (columns.zip (keyValues nr)).foldl (fun acc (j, v) => acc.set j v) k.values
            let keyed := columns.find? (fun j => current.rowidColumn == some j)
            let newKey := keyed.map fun j => vals.getD j .null
            updateRow fuel asc current.name k.rowid vals newKey columns fk.columns
      | .setNull | .setDefault =>
        for k in kids do
          let mut vals := k.values
          for j in columns do
            let v ← if action == .setNull then pure Value.null
              else defaultValueOf (current.columns.getD j default)
            vals := vals.set j v
          let keyed := columns.find? (fun j => current.rowidColumn == some j)
          let newKey := keyed.map fun j => vals.getD j .null
          updateRow fuel asc current.name k.rowid vals newKey columns fk.columns
      | .noAction => pure ()

/-- An `UPDATE`: the rows the filter keeps (joined with the `FROM` rows, if any) are collected,
then each is updated with the assignments evaluated over it. -/
def updateStatement (fuel : Nat) (sc : Scope) (name : ObjectName)
    (assignments : List (List String × Expr)) (source : Option Source) (filter : Option Expr) :
    Change Unit :=
  match fuel with
  | 0 => Change.fail tooComplex .abort
  | fuel + 1 => do
    let db := (← get).db
    match db.table? name.name with
    | none =>
      match db.view? name.name with
      | some v => updateView fuel sc v assignments filter
      | none => Change.fail (missingTable sc name) .abort
    | some t =>
      if let some e := assignmentError t assignments then Change.fail e .abort
      let assigned := assignments.flatMap (·.1)
      let changed := assigned.filterMap t.columnIndex?
      let rowidChanged := assigned.any fun c =>
        (t.columnIndex? c).isNone || (t.columnIndex? c) == t.rowidColumn
      let triggers := (db.triggersOn t.name).filter (·.event.fires (.update assigned))
      let keys := keyError db t (some (some changed))
        ((db.keysReferring t.name).any fun (_, fk) =>
          match fk.parentKey db t with
          | some key => key.changedBy changed rowidChanged
          | none => true) false
      match prepareError db (← get).keysOn triggers keys with
      | some e => Change.fail e .abort
      | none => pure ()
      let extra ← match source with
        | none => pure none
        | some src => do
          let env := (← get).envOf sc
          match (evalSource evalFuel src).run env with
          | .ok (_, rows) => pure (some rows)
          | .error s => throw s
      let mut targets : List (Int × List Binding) := []
      for r in t.rows do
        let b := t.bindingOf t.name r.values (t.rowidOf r.rowid) false
        match extra with
        | none =>
          let keep ← match filter with
            | none => pure true
            | some f => do pure ((← evalIn { sc with scopes := [b] :: sc.scopes } f).value.truth == some true)
          if keep then targets := targets ++ [(r.rowid, [])]
        | some rows =>
          let mut chosen : Option (List Binding) := none
          for other in rows do
            if chosen.isSome then break
            let keep ← match filter with
              | none => pure true
              | some f => do
                pure ((← evalIn { sc with scopes := (b :: other) :: sc.scopes } f).value.truth == some true)
            if keep then chosen := some other
          if let some other := chosen then targets := targets ++ [(r.rowid, other)]
      for (rid, other) in targets do
        let some cur ← tableNamed t.name | continue
        let some row := cur.row? rid | continue
        let b := cur.bindingOf cur.name row.values (cur.rowidOf row.rowid) false
        let (vals, key, changedCols, names) ←
          assignRow { sc with scopes := (b :: other) :: sc.scopes } cur row assignments
        updateRow fuel sc cur.name rid vals key changedCols names

/-- An `UPDATE` of a view: its `INSTEAD OF` triggers run for each row the filter keeps. -/
def updateView (fuel : Nat) (sc : Scope) (v : View) (assignments : List (List String × Expr))
    (filter : Option Expr) : Change Unit :=
  match fuel with
  | 0 => Change.fail tooComplex .abort
  | fuel + 1 => do
    let assigned := assignments.flatMap (·.1)
    if !(← hasTriggers v.name .insteadOf (.update assigned)) then
      if !(← hasTriggers v.name .insteadOf (.update [])) then
        Change.fail (.logic ("cannot modify " ++ v.name ++ " because it is a view")) .abort
    let rows ← viewRows sc v
    for b in rows do
      let keep ← match filter with
        | none => pure true
        | some f => do pure ((← evalIn { sc with scopes := [b] :: sc.scopes } f).value.truth == some true)
      if !keep then continue
      let mut values := b.values
      for (cols, e) in assignments do
        let vs ← assignedValues { sc with scopes := [b] :: sc.scopes } cols.length e
        for (c, x) in cols.zip vs do
          match b.fields.findIdx? (fun f => sameName f.name c) with
          | some k => values := values.set k x
          | none => Change.fail (.noSuchColumn c) .abort
      let oldB := { b with name := "old", qualifiedOnly := true }
      let newB := { b with name := "new", values, qualifiedOnly := true }
      let _ ← fireTriggers fuel sc v.name .insteadOf (.update assigned) (some oldB) (some newB)

/-- A `DELETE`: the rows the filter keeps are collected, then each is deleted. -/
def deleteStatement (fuel : Nat) (sc : Scope) (name : ObjectName) (filter : Option Expr) : Change Unit :=
  match fuel with
  | 0 => Change.fail tooComplex .abort
  | fuel + 1 => do
    let db := (← get).db
    match db.table? name.name with
    | none =>
      match db.view? name.name with
      | some v =>
        if !(← hasTriggers v.name .insteadOf .delete) then
          Change.fail (.logic ("cannot modify " ++ v.name ++ " because it is a view")) .abort
        let rows ← viewRows sc v
        for b in rows do
          let keep ← match filter with
            | none => pure true
            | some f => do pure ((← evalIn { sc with scopes := [b] :: sc.scopes } f).value.truth == some true)
          if !keep then continue
          let oldB := { b with name := "old", qualifiedOnly := true }
          let _ ← fireTriggers fuel sc v.name .insteadOf .delete (some oldB) none
      | none => Change.fail (missingTable sc name) .abort
    | some t =>
      let triggers := (db.triggersOn t.name).filter (·.event.fires .delete)
      let keys := keyError db t (some none) true false
      match prepareError db (← get).keysOn triggers keys with
      | some e => Change.fail e .abort
      | none => pure ()
      let mut targets : List Int := []
      for r in t.rows do
        let keep ← match filter with
          | none => pure true
          | some f => do
            let b := t.bindingOf t.name r.values (t.rowidOf r.rowid) false
            pure ((← evalIn { sc with scopes := [b] :: sc.scopes } f).value.truth == some true)
        if keep then targets := targets ++ [r.rowid]
      for rid in targets do
        deleteRow fuel sc t.name rid true

end

/-- The fuel of a statement that changes rows: enough for triggers nested as deep as they may
go. -/
def changeFuel : Nat := 20000

end EnergyModel.Sql
