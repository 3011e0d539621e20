import EnergyModel.Sql.Eval

/-!
# The rules a row is stored by

What happens to the values of a row on its way into a table, apart from the order of events
that `Sql.Change` keeps:

* `Table.withAffinities` converts each value towards its column's affinity; in a strict table
  it then checks the value's type against the column's and refuses a value of another type;
* `Table.withGenerated` computes the generated columns from the others;
* `Index.keyOf` is the key of a row in an index, and none when the row is outside a partial
  index or has a null in its key (nulls never collide);
* `ForeignKey.parentKey` finds the columns of the parent table a foreign key refers to: the
  row id, or the columns of a unique index on exactly the named columns.
-/

namespace EnergyModel.Sql

/-- The name of a value's storage class in the type errors of strict tables. -/
def Value.storageName : Value → String
  | .null => "NULL"
  | .integer _ => "INT"
  | .real _ => "REAL"
  | .text _ => "TEXT"
  | .blob _ => "BLOB"

/-- A value converted towards a column's affinity, checked against its type in a strict table. -/
def Table.columnValue (t : Table) (c : Column) (v : Value) : Except SqlError Value :=
  match c.strictType with
  | none => .ok (v.withAffinity c.affinity)
  | some st =>
    let w := if st == .any then v else v.withAffinity c.affinity
    let ok := match st, w with
      | _, .null => true
      | .any, _ => true
      | .int, .integer _ | .integer, .integer _ => true
      | .real, .real _ => true
      | .text, .text _ => true
      | .blob, .blob _ => true
      | _, _ => false
    if ok then .ok w
    else .error (.constraint .datatype ("cannot store " ++ w.storageName ++ " value in " ++ st.name ++
      " column " ++ t.name ++ "." ++ c.name))

/-- The values of a row converted towards their columns' affinities; generated columns are
left as they are when `skipGenerated`. -/
def Table.withAffinities (t : Table) (values : List Value) (skipGenerated : Bool) :
    Except SqlError (List Value) :=
  (t.columns.zip values).mapM fun (c, v) =>
    if skipGenerated && c.generated.isSome then .ok v else t.columnValue c v

/-- A row of a table as a binding, under a name. -/
def Table.bindingOf (t : Table) (name : String) (values : List Value) (rowid : Option Int)
    (qualifiedOnly : Bool) : Binding :=
  { name, fields := t.fields, values, rowid, qualifiedOnly, merged := [] }

/-- An environment that sees one row of a table, as checks, generated columns and index
keys do; only deterministic values may be computed in it, and the place is named for the
error when the clock is read. -/
def Table.rowEnv (t : Table) (db : Database) (values : List Value) (rowid : Option Int)
    (place : String) : Env :=
  { db, scopes := [[t.bindingOf t.name values rowid false]], ctes := [], inTrigger := false,
    group := none, parameters := [], pureUse := some place }

/-- The row with its generated columns computed from the others, each converted to its
column's affinity. Columns are computed in order, as often as there are generated columns,
so that one may use another. -/
def Table.withGenerated (t : Table) (db : Database) (values : List Value) (rowid : Option Int) :
    Except Stop (List Value) := do
  let generated := t.columns.filter fun c => c.generated.isSome
  let mut vs := values
  for _ in generated do
    let mut next : List Value := []
    for (c, v) in t.columns.zip vs do
      match c.generated with
      | some (e, _) =>
        let o ← (t.rowEnv db vs rowid "a generated column").eval e
        next := next ++ [o.value.withAffinity c.affinity]
      | none => next := next ++ [v]
    vs := next
  pure vs

/-- The key of a row in an index; none when the row is outside a partial index or its key has
a null. -/
def Index.keyOf (i : Index) (t : Table) (db : Database) (values : List Value) (rowid : Int) :
    Except Stop (Option (List Value)) := do
  let env := t.rowEnv db values (some rowid) "an index"
  if let some f := i.filter then
    let o ← env.eval f
    if o.value.truth != some true then return none
  let mut key : List Value := []
  for term in i.terms do
    let v ← match term.key with
      | .column k => pure (values.getD k .null)
      | .rowid => pure (Value.integer rowid)
      | .expr e => do pure (← env.eval e).value
    if v.isNull then return none
    key := key ++ [v]
  return some key

/-- Whether two keys of an index are equal under its collations. -/
def Index.sameKey (i : Index) (a b : List Value) : Bool :=
  compareRows (i.terms.map (·.collation)) a b == .eq

/-- The rows of a table other than one row id that collide with a key in an index. -/
def Index.collisions (i : Index) (t : Table) (db : Database) (key : List Value) (except : Option Int) :
    Except Stop (List Row) := do
  let mut hits : List Row := []
  for r in t.rows do
    if except == some r.rowid then continue
    match ← i.keyOf t db r.values r.rowid with
    | some k => if i.sameKey k key then hits := hits ++ [r]
    | none => pure ()
  return hits

/-- The message naming an index's columns when a row breaks it. -/
def Index.violation (i : Index) (t : Table) : SqlError :=
  let named := i.terms.mapM fun term =>
    match term.key with
    | .column k => some (t.name ++ "." ++ ((t.columns.getD k default).name))
    | .rowid => some (t.name ++ ".rowid")
    | .expr _ => none
  match named with
  | some names => .unique i.primary (", ".intercalate names)
  | none => .constraint (if i.primary then .primaryKey else .unique) ("UNIQUE constraint failed: index '" ++ i.name ++ "'")

/-- The error of a row id that is taken. -/
def Table.rowidViolation (t : Table) : SqlError :=
  match t.rowidColumn with
  | some k => .unique true (t.name ++ "." ++ (t.columns.getD k default).name)
  | none => .constraint .rowId ("UNIQUE constraint failed: " ++ t.name ++ ".rowid")

/-- What a foreign key refers to in its parent: the row id, or columns of the parent in the
order of the foreign key's own columns. -/
inductive ParentKey where
  | rowid
  | columns (indexes : List Nat) (collations : List Collation)
  deriving Inhabited

/-- The parent key of a foreign key, or none when the parent has no unique key on exactly the
named columns (a mismatch). -/
def ForeignKey.parentKey (fk : ForeignKey) (db : Database) (parent : Table) : Option ParentKey :=
  let n := fk.columns.length
  let named := fk.clause.columns
  let ipkName := parent.rowidColumn.map fun k => (parent.columns.getD k default).name
  if n == 1 && ((named.isEmpty && ipkName.isSome) ||
      (match named, ipkName with
        | [c], some ip => sameName c ip
        | _, _ => false)) then some .rowid
  else
    let candidates := (db.indexesOf parent.name).filter fun i => i.unique && i.filter.isNone
    candidates.findSome? fun i =>
      if i.terms.length != n then none
      else if named.isEmpty then
        if i.primary then
          let cols := i.terms.filterMap fun t => match t.key with
            | .column k => some k
            | _ => none
          if cols.length == n then some (.columns cols (i.terms.map (·.collation))) else none
        else none
      else
        -- every index column must be a named column with its default collation
        let mapped := i.terms.mapM fun t =>
          match t.key with
          | .column k =>
            let c := parent.columns.getD k default
            if t.collation != c.collation then none
            else (named.findIdx? fun nm => sameName nm c.name).map fun j => (j, k, t.collation)
          | _ => none
        match mapped with
        | some triples =>
          if (triples.map (·.1)).eraseDups.length != n then none
          else
            let ordered := (List.range n).filterMap fun j => triples.find? (·.1 == j)
            some (.columns (ordered.map (·.2.1)) (ordered.map (·.2.2)))
        | none => none

/-- The error of a foreign key whose parent has no matching key. -/
def foreignKeyMismatch (child parent : String) : SqlError :=
  .logic ("foreign key mismatch - \"" ++ child ++ "\" referencing \"" ++ parent ++ "\"")

/-- The values of a child row in a foreign key's columns. -/
def ForeignKey.childValues (fk : ForeignKey) (child : Table) (values : List Value) : List Value :=
  fk.columns.map fun c =>
    match child.columnIndex? c with
    | some k => values.getD k .null
    | none => .null

/-- Whether a parent row has the key that child values refer to. -/
def ParentKey.holds (key : ParentKey) (parent : Table) (row : Row) (childValues : List Value) : Bool :=
  match key with
  | .rowid =>
    match childValues with
    | [v] =>
      match v.withAffinity .numeric with
      | .integer n => n == row.rowid
      | _ => false
    | _ => false
  | .columns ks colls =>
    let parentValues := ks.map fun k => row.values.getD k .null
    let converted := (ks.zip childValues).map fun (k, v) =>
      v.withAffinity (parent.columns.getD k default).affinity
    compareRows colls parentValues converted == .eq

/-- Whether some parent row has the key that child values refer to. -/
def ParentKey.found (key : ParentKey) (parent : Table) (childValues : List Value) : Bool :=
  parent.rows.any fun r => key.holds parent r childValues

/-- The child rows of a foreign key that refer to a parent key's values. -/
def ParentKey.children (key : ParentKey) (fk : ForeignKey) (parent child : Table)
    (parentValues : List Value) (parentRowid : Int) : List Row :=
  let keyValues : List Operand := match key with
    | .rowid => [⟨.integer parentRowid, some .integer, none, false, false⟩]
    | .columns ks _ => ks.map fun k =>
      let c := parent.columns.getD k default
      ⟨parentValues.getD k .null, some c.affinity, some c.collation, false, false⟩
  child.rows.filter fun r =>
    let cvs := fk.columns.map fun c =>
      match child.columnIndex? c with
      | some k =>
        let col := child.columns.getD k default
        (⟨r.values.getD k .null, some col.affinity, some col.collation, false, false⟩ : Operand)
      | none => Operand.plain .null
    cvs.length == keyValues.length &&
      (keyValues.zip cvs).all fun (p, c) => (compareOperands .eq p c).truth == some true

/-- Whether an expression names a column of a list, bare or qualified; a subquery is not looked
into. Out of fuel, it is taken to name one. -/
def Expr.mentions (names : List String) : Nat → Expr → Bool
  | 0, _ => true
  | fuel + 1, e =>
    let go := Expr.mentions names fuel
    match e with
    | .column _ n _ => names.any (sameName · n)
    | .unary _ a | .collate a _ | .cast a _ | .isNull _ a => go a
    | .binary _ a b => go a || go b
    | .pattern _ _ a b c => go a || go b || (c.map go).getD false
    | .between _ a b c => go a || go b || go c
    | .inList _ a items => go a || items.any go
    | .inQuery _ a _ | .inTable _ a _ => go a
    | .caseWhen o bs d =>
      (o.map go).getD false || bs.any (fun (x, y) => go x || go y) || (d.map go).getD false
    | .call _ _ args _ f _ _ => args.any go || (f.map go).getD false
    | .vector items => items.any go
    | .raise _ m => (m.map go).getD false
    | _ => false

/-- Whether a change to some columns (by position and name) can change a row's entry in an
index. -/
def Index.touches (i : Index) (changed : List Nat) (names : List String) : Bool :=
  i.terms.any (fun term => match term.key with
    | .column k => changed.contains k
    | .rowid => false
    | .expr e => e.mentions names 64) ||
  (i.filter.map (Expr.mentions names 64)).getD false

/-- The foreign keys, in every table, that refer to a table. -/
def Database.keysReferring (db : Database) (table : String) : List (Table × ForeignKey) :=
  db.objects.flatMap fun o =>
    match o with
    | .table t => (t.foreignKeys.filter fun fk => sameName fk.clause.table table).map fun fk => (t, fk)
    | _ => []

end EnergyModel.Sql
