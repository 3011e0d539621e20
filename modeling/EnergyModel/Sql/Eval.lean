import EnergyModel.Sql.Catalog
import EnergyModel.Sql.Function
import EnergyModel.Sql.Error
import EnergyModel.Sql.Calendar
import EnergyModel.Sql.Json
import EnergyModel.Sql.Window
import EnergyModel.Sql.Plan

/-!
# Evaluating expressions and queries

An expression is evaluated in a scope: the rows of the tables it may name, innermost query
first. Its result is an `Operand`: the value, with the affinity and collation the expression
carries. A column carries its column's affinity and collation, a `CAST` the affinity of its
type, a `COLLATE` its collation (and marks it as explicit, which wins in a comparison), and
other expressions carry none, except that an explicit collation inside them shows through.

A comparison first converts its operands by the affinity `comparisonAffinity` gives for the
two sides, then compares them by the collation of the left side if it is explicit, else of the
right if that is explicit, else of the left, else of the right, else by bytes. A comparison
with null is null, except for `IS` and `IS NOT`.

Queries are evaluated into relations, their rows in the order the query gives them: a table
by row id, joins left to right, groups by their keys, `UNION`, `INTERSECT` and `EXCEPT` in
sorted order, then `ORDER BY` (stable, nulls first when ascending) and `LIMIT`.

Evaluation stops with an error and the way the statement ends (`Stop.error`), or, for
`RAISE(IGNORE)` in a trigger, with `Stop.ignoreRow`. Every evaluating function takes a fuel
that each nested call lowers; it bounds the nesting of expressions and queries.
-/

namespace EnergyModel.Sql

/-- A column of a row source as expressions see it. -/
structure Field where
  name : String
  affinity : Option Affinity
  collation : Collation
  deriving Inhabited

/-- A table or subquery in scope, with the row being looked at. -/
structure Binding where
  name : String
  fields : List Field
  values : List Value
  rowid : Option Int
  /-- Seen only by qualified names, as the `NEW` and `OLD` rows of a trigger. -/
  qualifiedOnly : Bool
  /-- Columns that a `USING` or natural join merged into an earlier table's. -/
  merged : List String
  deriving Inhabited

/-- The columns and rows a query gives. -/
structure Relation where
  fields : List Field
  rows : List (List Value)
  deriving Inhabited

/-- A value with the affinity and collation of the expression that gave it; `explicit` when a
`COLLATE` gave the collation. -/
structure Operand where
  value : Value
  affinity : Option Affinity
  collation : Option Collation
  explicit : Bool
  /-- Whether the value is a text a JSON function made, which other JSON functions take as
  JSON. -/
  json : Bool
  deriving Inhabited

/-- A binding of a row source, with no row yet. -/
def Binding.shape (name : String) (fields : List Field) : Binding :=
  { name, fields, values := [], rowid := none, qualifiedOnly := false, merged := [] }

/-- A value with no affinity or collation. -/
def Operand.plain (v : Value) : Operand := ⟨v, none, none, false, false⟩

/-- A common table as the statement defines it, or as rows already computed. -/
inductive CteValue where
  | query (columns : List String) (query : Query)
  | rows (relation : Relation)
  deriving Inhabited

/-- The options a connection sets with pragmas, which last while it is open. -/
structure Settings where
  /-- Whether `LIKE` tells capital letters from small ones. -/
  caseSensitiveLike : Bool := false
  /-- Whether a trigger may start again while it runs. -/
  recursiveTriggers : Bool := false
  /-- Whether `CHECK` constraints are left unchecked. -/
  ignoreChecks : Bool := false
  deriving Inhabited

/-- Everything an expression is evaluated with. -/
structure Env where
  db : Database
  /-- The options of the connection. -/
  settings : Settings := {}
  /-- The rows in scope, innermost query first. -/
  scopes : List (List Binding)
  ctes : List (String × CteValue)
  inTrigger : Bool
  /-- The rows of the group an aggregate query is evaluating. -/
  group : Option (List (List Binding))
  parameters : List Value
  /-- Whether unqualified tables are those of the main schema, as in a view or a trigger, whose
  missing tables are named with it. -/
  fixedSchema : Bool := false
  /-- The row id of the last row inserted. -/
  lastRowid : Int := 0
  /-- The rows the last finished statement changed. -/
  changes : Int := 0
  /-- The rows changed since the connection opened. -/
  totalChanges : Int := 0
  /-- Where the expression is, when only deterministic values may be computed there: a
  `CHECK` constraint, a generated column or an index. -/
  pureUse : Option String := none
  /-- The values of the query's window calls for the row being looked at. -/
  slots : Array Operand := #[]
  deriving Inhabited

/-- What the functions called in an environment depend on besides their arguments. -/
def Env.callContext (env : Env) : CallContext :=
  { encoding := env.db.encoding, caseSensitiveLike := env.settings.caseSensitiveLike }

/-- Why evaluation stopped: an error with how the statement ends, or a trigger's
`RAISE(IGNORE)` that skips the row. -/
inductive Stop where
  | error (e : SqlError) (action : Conflict)
  | ignoreRow
  deriving Inhabited

/-- Evaluation in an environment. -/
abbrev Eval := ReaderT Env (Except Stop)

/-- Stops with an error that undoes the statement. -/
def Eval.fail {α : Type} (e : SqlError) : Eval α := throw (.error e .abort)

/-- Stops with a logic error. -/
def Eval.failWith {α : Type} (message : String) : Eval α := throw (.error (.logic message) .abort)

/-- The error of running out of fuel. -/
def tooComplex : SqlError := .logic "expression tree is too large (maximum depth 1000)"

/-- The operand a binding gives for a column name, if it has the column. -/
def Binding.lookup (b : Binding) (name : String) : Option Operand :=
  match b.fields.findIdx? (fun f => sameName f.name name) with
  | some i =>
    let f := b.fields.getD i default
    some ⟨b.values.getD i .null, f.affinity, some f.collation, false, false⟩
  | none => none

/-- The row id of a binding as an operand. -/
def Binding.rowidOperand (b : Binding) : Option Operand :=
  b.rowid.map fun r => ⟨.integer r, some .integer, none, false, false⟩

/-- Looks up a column in one scope: `none` when the scope has no such column. -/
def lookupInScope (scope : List Binding) (qualifier : Option String) (name : String) :
    Except SqlError (Option Operand) :=
  match qualifier with
  | some q =>
    let tables := scope.filter fun b => sameName b.name q
    match tables.findSome? (·.lookup name) with
    | some o => .ok (some o)
    | none =>
      if isRowidName name then .ok (tables.findSome? Binding.rowidOperand) else .ok none
  | none =>
    let visible := scope.filter fun b => !b.qualifiedOnly
    let hits := visible.filterMap fun b =>
      if b.merged.any (sameName · name) then none else b.lookup name
    match hits with
    | [o] => .ok (some o)
    | _ :: _ :: _ => .error (.logic ("ambiguous column name: " ++ name))
    | [] =>
      if isRowidName name then
        match visible.filterMap Binding.rowidOperand with
        | [o] => .ok (some o)
        | _ => .ok none
      else .ok none

/-- Resolves a column reference through the scopes, innermost first. An unknown bare `true` or
`false` is that truth value, and an unknown name in double quotes is a text. -/
def resolveColumn (qualifier : Option String) (name : String) (doubleQuoted : Bool) : Eval Operand := do
  let env ← read
  let rec go : List (List Binding) → Eval (Option Operand)
    | [] => pure none
    | s :: rest =>
      match lookupInScope s qualifier name with
      | .ok (some o) => pure (some o)
      | .ok none => go rest
      | .error e => Eval.fail e
  match ← go env.scopes with
  | some o => pure o
  | none =>
    match qualifier with
    | some q => Eval.failWith ("no such column: " ++ q ++ "." ++ name)
    | none =>
      if doubleQuoted then pure (.plain (.text name))
      else if name.toLower == "true" then pure (.plain (.integer 1))
      else if name.toLower == "false" then pure (.plain (.integer 0))
      else Eval.failWith ("no such column: " ++ name)

/-- The value of a numeric literal, negated when a minus stands right before it. -/
def numberValue (text : String) (negated : Bool) : Except SqlError Value :=
  let isHex := text.length > 2 && (text.startsWith "0x" || text.startsWith "0X")
  if !isHex && (text.contains '.' || text.contains 'e' || text.contains 'E') then
    let x := (readReal text).1
    .ok (.real (if negated then -x else x))
  else
    match literalInteger text with
    | .fits n =>
      if isHex && negated && n == minInteger then
        .error (.logic ("hex literal too big: -" ++ text))
      else .ok (.integer (if negated then -n else n))
    | .justOver =>
      if negated then .ok (.integer minInteger)
      else .ok (.real (readReal text).1)
    | .tooBig =>
      if isHex then .error (.logic ("hex literal too big: " ++ (if negated then "-" else "") ++ text))
      else
        let x := (readReal text).1
        .ok (.real (if negated then -x else x))

/-- The collation a comparison of two operands uses. -/
def comparisonCollation (l r : Operand) : Collation :=
  if l.explicit then l.collation.getD .binary
  else if r.explicit then r.collation.getD .binary
  else (l.collation <|> r.collation).getD .binary

/-- The explicit collation an expression shows through from its operands. -/
def shownCollation (ops : List Operand) : Option Collation × Bool :=
  match ops.find? (·.explicit) with
  | some o => (o.collation, true)
  | none => (none, false)

/-- Compares two non-null values for a comparison operator, after the affinity conversion. -/
def compareValues (aff : Option Affinity) (coll : Collation) (a b : Value) : Ordering :=
  let (a, b) := alignOperands aff a b
  a.compare coll b

/-- The outcome of a comparison operator on two operands: 1, 0, or null. -/
def compareOperands (op : BinaryOp) (l r : Operand) : Value :=
  let aff := comparisonAffinity l.affinity r.affinity
  let coll := comparisonCollation l r
  match op with
  | .is | .isNot =>
    let same :=
      match l.value, r.value with
      | .null, .null => true
      | .null, _ | _, .null => false
      | a, b => compareValues aff coll a b == .eq
    truthValue (some (if op == .is then same else !same))
  | _ =>
    match l.value, r.value with
    | .null, _ | _, .null => .null
    | a, b =>
      let o := compareValues aff coll a b
      truthValue (some (match op with
        | .eq => o == .eq
        | .ne => o != .eq
        | .lt => o == .lt
        | .le => o != .gt
        | .gt => o == .gt
        | _ => o != .lt))

/-- Compares two row values in order: the first pair that is not equal decides, and a null
before that makes the outcome null. -/
def lexicographic (op : BinaryOp) : List (Operand × Operand) → Option Bool
  | [] => some true
  | [(l, r)] => (compareOperands op l r).truth
  | (l, r) :: rest =>
    let strict : BinaryOp := if op == .lt || op == .le then .lt else .gt
    match (compareOperands strict l r).truth with
    | some true => some true
    | none => none
    | some false =>
      if (compareOperands .eq l r).truth == some true then lexicographic op rest else some false

/-- Integer arithmetic that stays in 64 bits, or none when it would overflow. -/
def integerArith (op : BinaryOp) (a b : Int) : Option Value :=
  match op with
  | .add => let r := a + b; if fitsInteger r then some (.integer r) else none
  | .sub => let r := a - b; if fitsInteger r then some (.integer r) else none
  | .mul => let r := a * b; if fitsInteger r then some (.integer r) else none
  | .div =>
    if b == 0 then some .null
    else if a == minInteger && b == -1 then none
    else some (.integer (a.tdiv b))
  | _ =>
    if b == 0 then some .null
    else some (.integer (a.tmod (if b == -1 then 1 else b)))

/-- The arithmetic operators on values: integers while they fit, doubles otherwise; division or
remainder by zero and a NaN result are null. -/
def arithmetic (op : BinaryOp) (a b : Value) : Value :=
  match a, b with
  | .null, _ | _, .null => .null
  | _, _ =>
    let x := a.arithmeticNumber
    let y := b.arithmeticNumber
    let real : Value :=
      match op with
      | .rem =>
        let i := a.toInteger
        let j := b.toInteger
        if j == 0 then .null else .real (Float.ofInt (i.tmod (if j == -1 then 1 else j)))
      | _ =>
        let p := x.toReal
        let q := y.toReal
        let r := match op with
          | .add => p + q
          | .sub => p - q
          | .mul => p * q
          | _ => if q == 0.0 then 0.0 / 0.0 else p / q
        if r.isNaN then .null else .real r
    match x, y with
    | .integer i, .integer j => (integerArith op i j).getD real
    | _, _ => real

/-- A 64-bit pattern as a signed integer. -/
def ofBits (n : Nat) : Int := wrapInteger n

/-- The 64-bit pattern of a signed integer. -/
def toBits (i : Int) : Nat := (if i < 0 then i + 18446744073709551616 else i).toNat

/-- The bit operators: `&`, `|`, and shifts, where a negative shift goes the other way and a
shift of 64 or more leaves 0, or -1 for a negative number shifted right. -/
def bitwise (op : BinaryOp) (a b : Value) : Value :=
  match a, b with
  | .null, _ | _, .null => .null
  | _, _ =>
    let x := a.toInteger
    let y := b.toInteger
    match op with
    | .bitAnd => .integer (ofBits (toBits x &&& toBits y))
    | .bitOr => .integer (ofBits (toBits x ||| toBits y))
    | _ =>
      if y == 0 then .integer x
      else
        let (left, amount) : Bool × Int :=
          let left := op == .shiftLeft
          if y < 0 then (!left, if y > -64 then -y else 64) else (left, y)
        if amount ≥ 64 then .integer (if x ≥ 0 || left then 0 else -1)
        else
          let k := amount.toNat
          if left then .integer (ofBits ((toBits x <<< k) % 18446744073709551616))
          else .integer (if x < 0 then -(((-x - 1) >>> k) : Int) - 1 else x >>> k)

/-- A value read as text in a database that keeps its texts in an encoding: a blob's bytes are
read in that encoding. -/
def Value.textIn (e : TextEncoding) : Value → String
  | .blob bs => decodeText e bs
  | v => v.asText

/-- The `||` operator: the texts joined, null if either side is null. -/
def concatenate (e : TextEncoding) (a b : Value) : Value :=
  match a, b with
  | .null, _ | _, .null => .null
  | _, _ => .text (joinTexts [a.textIn e, b.textIn e])

/-- A value converted by `CAST` to a type's affinity, in a database that keeps its texts in an
encoding: a text becomes the bytes of that encoding, and a blob is read in it. -/
def castValue (e : TextEncoding) (typeName : String) (v : Value) : Value :=
  let aff := if typeName.isEmpty then Affinity.numeric else Affinity.ofDeclared typeName
  match v with
  | .null => .null
  | _ =>
    match aff with
    | .blob =>
      match v with
      | .blob _ => v
      | _ => .blob (encodeText e v.asText)
    | .text => .text (v.textIn e)
    | .integer => .integer v.toInteger
    | .real => .real v.toReal
    | .numeric =>
      match v with
      | .integer _ | .real _ => v
      | _ =>
        let s := v.asText
        let (x, shape) := readReal s
        let (n, reading) := readInteger s
        let integerText := (shape == .other || shape == .integer) &&
          (reading == .exact || reading == .leadingDigits || reading == .noDigits)
        if integerText then .integer n
        else
          let i := realToInteger x
          if sameAsInteger x i then .integer i else .real x

/-- Removes the rows equal to an earlier one. -/
def distinctRows (colls : List Collation) (rows : List (List Value)) : List (List Value) :=
  rows.foldl (fun acc r => if acc.any (compareRows colls · r == .eq) then acc else acc ++ [r]) []

/-- Rows without repeats, where a row equal to one kept before takes its place: a compound
query keeps its rows under their values as keys, and a row put under a key already there
replaces the row before. -/
def latestDistinctRows (colls : List Collation) (rows : List (List Value)) : List (List Value) :=
  rows.foldl (fun acc r =>
    if acc.any (compareRows colls · r == .eq) then
      acc.map fun x => if compareRows colls x r == .eq then r else x
    else acc ++ [r]) []

/-- Sorts rows, keeping equal ones in order. -/
def sortRows (colls : List Collation) (rows : List (List Value)) : List (List Value) :=
  rows.mergeSort fun a b => compareRows colls a b != .gt

/-- A sort key of an `ORDER BY` term: a result column, or an expression of the row. -/
inductive SortKey where
  | column (index : Nat)
  | expr (e : Expr)
  deriving Inhabited


/-- Whether an expression contains an aggregate call outside subqueries. -/
def Expr.hasAggregate : Nat → Expr → Bool
  | 0, _ => false
  | fuel + 1, e =>
    let sub (x : Expr) := Expr.hasAggregate fuel x
    let anyOf (xs : List Expr) := xs.any sub
    match e with
    | .call _ _ args _ f _ (some w) =>
      let inWindow := match w with
        | .mk _ partition order _ => anyOf partition || order.any fun ⟨x, _, _⟩ => sub x
        | .named _ => false
      anyOf args || (f.map sub).getD false || inWindow
    | .call n _ args star f _ none =>
      isAggregate n (if star then 0 else args.length) || anyOf args || (f.map sub).getD false
    | .unary _ x | .collate x _ | .cast x _ | .isNull _ x => sub x
    | .binary _ a b => sub a || sub b
    | .pattern _ _ a b c => sub a || sub b || (c.map sub).getD false
    | .between _ a b c => sub a || sub b || sub c
    | .inList _ a items => sub a || anyOf items
    | .inQuery _ a _ | .inTable _ a _ => sub a
    | .caseWhen o bs d =>
      (o.map sub).getD false || bs.any (fun (c, r) => sub c || sub r) || (d.map sub).getD false
    | .vector items => anyOf items
    | .raise _ m => (m.map sub).getD false
    | _ => false

/-- The aggregate calls of an expression outside subqueries, each before the calls inside it;
the arguments of an aggregate are not searched. -/
def Expr.aggregateCalls : Nat → Expr → List Expr
  | 0, _ => []
  | fuel + 1, e =>
    let sub (x : Expr) := Expr.aggregateCalls fuel x
    let allOf (xs : List Expr) := xs.flatMap sub
    match e with
    | .call n _ args star f _ overWindow =>
      if overWindow.isNone && isAggregate n (if star then 0 else args.length) then [e]
      else allOf args ++ ((f.map sub).getD [])
    | .unary _ x | .collate x _ | .cast x _ | .isNull _ x => sub x
    | .binary _ a b => sub a ++ sub b
    | .pattern _ _ a b c => sub a ++ sub b ++ ((c.map sub).getD [])
    | .between _ a b c => sub a ++ sub b ++ sub c
    | .inList _ a items => sub a ++ allOf items
    | .inQuery _ a _ | .inTable _ a _ => sub a
    | .caseWhen o bs d =>
      ((o.map sub).getD []) ++ bs.flatMap (fun (c, r) => sub c ++ sub r) ++ ((d.map sub).getD [])
    | .vector items => allOf items
    | .raise _ m => (m.map sub).getD []
    | _ => []

/-- The name of the first aggregate call in an expression, as written. -/
def Expr.firstAggregate : Nat → Expr → Option String
  | 0, _ => none
  | fuel + 1, e =>
    let sub (x : Expr) := Expr.firstAggregate fuel x
    let firstOf (xs : List Expr) := xs.findSome? sub
    match e with
    | .call n _ args star f _ overWindow =>
      if overWindow.isNone && isAggregate n (if star then 0 else args.length) then some n
      else firstOf args <|> f.bind sub
    | .unary _ x | .collate x _ | .cast x _ | .isNull _ x => sub x
    | .binary _ a b => sub a <|> sub b
    | .pattern _ _ a b c => sub a <|> sub b <|> c.bind sub
    | .between _ a b c => sub a <|> sub b <|> sub c
    | .inList _ a items => sub a <|> firstOf items
    | .inQuery _ a _ | .inTable _ a _ => sub a
    | .caseWhen o bs d =>
      o.bind sub <|> bs.findSome? (fun (c, r) => sub c <|> sub r) <|> d.bind sub
    | .vector items => firstOf items
    | .raise _ m => m.bind sub
    | _ => none

/-- Whether an expression is constant as a list of `VALUES` rows sees it, before names are
resolved: no name (other than `true` and `false`), subquery or `RAISE`, and only known functions
that are not aggregates and whose value does not change by chance or with the connection. -/
def Expr.valuesConstant : Nat → Expr → Bool
  | 0, _ => false
  | fuel + 1, e =>
    let go := Expr.valuesConstant fuel
    match e with
    | .column none n false => n.toLower == "true" || n.toLower == "false"
    | .column .. | .subquery _ | .existsQuery _ | .inQuery .. | .inTable .. | .raise .. => false
    | .call n _ args star f _ overWindow =>
      let count := if star then 0 else args.length
      overWindow.isNone && arityOk n count == some true && !isAggregate n count &&
        !(["random", "randomblob", "last_insert_rowid", "changes", "total_changes"].contains n.toLower) &&
        args.all go && f.isNone
    | .unary _ a | .collate a _ | .cast a _ | .isNull _ a => go a
    | .binary _ a b => go a && go b
    | .pattern _ _ a b c => go a && go b && (c.map go).getD true
    | .between _ a b c => go a && go b && go c
    | .inList _ a items => go a && items.all go
    | .caseWhen o bs d =>
      (o.map go).getD true && bs.all (fun (x, y) => go x && go y) && (d.map go).getD true
    | .vector items => items.all go
    | .literal _ | .number _ | .parameter _ | .slot _ => true

/-- Whether an expression has an affinity of its own before names are resolved: a `CAST`, seen
through `COLLATE` and as the first item of a row value. -/
def Expr.castAffinity : Nat → Expr → Bool
  | 0, _ => false
  | fuel + 1, e =>
    match e with
    | .cast .. => true
    | .collate a _ => Expr.castAffinity fuel a
    | .vector (a :: _) => Expr.castAffinity fuel a
    | _ => false

/-- How a list of several `VALUES` rows is run. Constant rows after a constant row without
affinities are produced one after another as expressions; any other row becomes a query of its
own, joined to the rows before. When no row was ever produced as an expression, the whole list
is run row by row as expressions, and an aggregate in any row is then misused: gives the
aggregate's name in that case. A `WITH` clause makes every row a query. -/
def valuesMisusedAggregate (withSeen : Bool) (rows : List (List Expr)) : Option String :=
  match rows with
  | [] | [_] => none
  | first :: rest =>
    let constantRow (r : List Expr) := r.all (Expr.valuesConstant 200)
    let plainRow (r : List Expr) := constantRow r && !r.any (Expr.castAffinity 200)
    -- the state: whether rows are streamed, and whether every row so far was a query
    let step (state : Bool × Bool × List Expr) (r : List Expr) : Bool × Bool × List Expr :=
      let (streaming, allQueries, last) := state
      if withSeen || !constantRow r || (!streaming && !plainRow last) then (false, allQueries, r)
      else (true, false, r)
    let (_, allQueries, _) := rest.foldl step (false, true, first)
    if allQueries then rows.findSome? (·.findSome? (Expr.firstAggregate 64)) else none

/-- Whether a result column list, `HAVING` or order has an aggregate. -/
def hasAggregateIn (columns : List ResultColumn) (having : Option Expr) (order : List Expr) : Bool :=
  let f := Expr.hasAggregate 10000
  columns.any (fun c => match c with | .expr e _ _ => f e | _ => false) ||
    (having.map f).getD false || order.any f

mutual

/-- Whether a query reads a table of a name in any of its sources. -/
def Query.reads (name : String) : Nat → Query → Bool
  | 0, _ => false
  | fuel + 1, q =>
    match q with
    | .select _ _ src _ _ _ _ => (src.map (Source.reads name fuel)).getD false
    | .values _ => false
    | .compound _ l r => Query.reads name fuel l || Query.reads name fuel r
    | .ordered _ _ b _ _ _ => Query.reads name fuel b

/-- Whether a source reads a table of a name. -/
def Source.reads (name : String) : Nat → Source → Bool
  | 0, _ => false
  | fuel + 1, s =>
    match s with
    | .table n _ => n.schema.isNone && sameName n.name name
    | .query q _ => Query.reads name fuel q
    | .join l _ _ r _ _ => Source.reads name fuel l || Source.reads name fuel r

end

/-- The fields of a table as a binding sees them. -/
def Table.fields (t : Table) : List Field :=
  t.columns.map fun c => { name := c.name, affinity := some c.affinity, collation := c.collation }

/-- The name a result column gets when it has no alias: a column's own name, or its text. -/
def resultName (e : Expr) (text : String) (fields : Option Field) : String :=
  match e, fields with
  | .column _ n _, some f => if isRowidName n && !isRowidName f.name then n else f.name
  | .column _ n _, none => n
  | _, _ => text

/-- The field of the shape a column reference names, for naming a result column. -/
def columnField (shape : List Binding) (e : Expr) : Option Field :=
  match e with
  | .column q n _ =>
    let candidates := match q with
      | some t => shape.filter fun (b : Binding) => sameName b.name t
      | none => shape.filter fun (b : Binding) => !b.qualifiedOnly
    candidates.findSome? fun (b : Binding) => b.fields.find? fun f => sameName f.name n
  | _ => none

/-- The value of an aggregate over the arguments of the rows it takes, in order; rows whose
arguments repeat those of an earlier row are left out when it is `DISTINCT`. -/
def aggregateValue (name : String) (distinct : Bool) (items : List (List Operand)) :
    Except String Operand := do
  let mut acc : Accumulator := {}
  let mut seen : List (List Value) := []
  for os in items do
    let values := os.map (·.value)
    let coll := ((os.head?.bind (·.collation))).getD .binary
    if distinct then
      if seen.any (compareRows [coll] · values == .eq) then continue
      seen := seen ++ [values]
    match jsonAggregatePiece name os (·.value) (·.json) with
    | some (.ok piece) => acc := { acc with pieces := acc.pieces ++ piece.toList }
    | some (.error m) => throw m
    | none => acc := Accumulator.step name coll acc values
  let v ← acc.finish name
  pure ⟨v, none, none, false, isJsonAggregate name⟩

/-- The error of a call over a window where no window function may stand, or of a function
that cannot be computed over a window. -/
def windowMisuse (name : String) (count : Nat) : String :=
  match arityOk name count with
  | none => "no such function: " ++ name
  | some _ =>
    if isWindowOnly name || isAggregate name count || isAggregate name 1 then
      "misuse of window function " ++ name ++ "()"
    else name ++ "() may not be used as a window function"

/-- The window of a window call read against the query's named windows, or the error the call
is refused with: a function that is unknown, that cannot be computed over a window or that is
given the wrong number of arguments; a window that cannot be read; a frame counted by value with
an offset but not exactly one ordering term; or a `FILTER` on a function that is no aggregate. -/
def WindowCall.spec (c : WindowCall) (defined : List (String × WindowSpec)) : Except String WindowSpec := do
  let n := if c.star then 0 else c.args.length
  match arityOk c.name n with
  | none => throw ("no such function: " ++ c.name)
  | some fits =>
    if !(isWindowOnly c.name || isAggregate c.name n) then
      throw (c.name ++ "() may not be used as a window function")
    if !fits then throw ("wrong number of arguments to function " ++ c.name ++ "()")
    let w ← c.window.spec defined
    let offset (b : FrameBound) : Bool := match b with
      | .preceding _ | .following _ => true
      | _ => false
    match w.frame with
    | some (.mk .range start finish _) =>
      if (offset start || offset finish) && w.order.length != 1 then
        throw "RANGE with offset PRECEDING/FOLLOWING requires one ORDER BY expression"
    | _ => pure ()
    if isWindowOnly c.name && c.filter.isSome then
      throw "FILTER clause may only be used with aggregate window functions"
    pure w

/-- The frame of a window with its offsets evaluated in a row's environment. An offset that is
not constant is null; an offset must be a non-negative integer when the frame counts rows or
groups, and a non-negative number when it counts by value. -/
def frameShapeOf (eval : Expr → Eval Operand) (env : Env) (spec : WindowSpec) : Eval FrameShape :=
  match spec.frame with
  | none => pure FrameShape.standard
  | some (.mk unit start finish exclusion) => do
    let byValue := unit == .range
    let amount (x : Expr) (starting : Bool) : Eval Value := do
      let v ← if Expr.offsetConstant 200 x then do pure (← withReader (fun _ => env) (eval x)).value
        else pure .null
      match (if byValue then valueOffset v else countOffset v) with
      | some a => pure a
      | none =>
        Eval.failWith ("frame " ++ (if starting then "starting" else "ending") ++
          " offset must be a non-negative " ++ (if byValue then "number" else "integer"))
    let edge (b : FrameBound) (starting : Bool) : Eval FrameEdge := match b with
      | .unboundedPreceding => pure .unboundedPreceding
      | .preceding x => do pure (.preceding (← amount x starting))
      | .currentRow => pure .currentRow
      | .following x => do pure (.following (← amount x starting))
      | .unboundedFollowing => pure .unboundedFollowing
    let first ← edge start true
    let last ← edge finish false
    pure ⟨unit, first, last, exclusion⟩

/-- The values of one window call for the rows of one partition, given in window order with
their peer groups and the values of the window's first ordering term. The ranking functions
and `lag` and `lead` read the whole partition; the others read each row's frame. -/
def callOverPartition (eval : Expr → Eval Operand) (rows : Array Env) (c : WindowCall)
    (spec : WindowSpec) (part : Array Nat) (peers : Peers) (keys : Array Value) (order : SortOrder) :
    Eval (List Operand) := do
  let evalAt (i : Nat) (x : Expr) : Eval Operand :=
    withReader (fun _ => rows.getD (part.getD i 0) default) (eval x)
  let size := part.size
  let places := List.range size
  let integer (n : Nat) : Operand := .plain (.integer n)
  let real (x : Float) : Operand := .plain (.real x)
  let arg (k : Nat) : Option Expr := c.args[k]?
  if size == 0 then return []
  match c.name.toLower with
  | "row_number" => pure (places.map fun i => integer (i + 1))
  | "rank" => pure (places.map fun i => integer (peers.rank i))
  | "dense_rank" => pure (places.map fun i => integer (peers.denseRank i))
  | "percent_rank" => pure (places.map fun i => real (peers.percentRank i))
  | "cume_dist" => pure (places.map fun i => real (peers.cumeDist i))
  | "ntile" =>
    let buckets := (← evalAt 0 ((arg 0).getD (.literal .null))).value.toInteger
    if buckets ≤ 0 then Eval.failWith "argument of ntile must be a positive integer"
    else pure (places.map fun i => integer (ntileBucket buckets.toNat size i))
  | "lag" | "lead" =>
    let op : BinaryOp := if c.name.toLower == "lead" then .add else .sub
    places.mapM fun i => do
      let offset ← match arg 1 with
        | some x => do pure (← evalAt i x).value
        | none => pure (.integer 1)
      match shiftedPlace size (arithmetic op (.integer (i + 1)) offset) with
      | some j => do pure (.plain (← evalAt j ((arg 0).getD (.literal .null))).value)
      | none =>
        match arg 2 with
        | some d => do pure (.plain (← evalAt i d).value)
        | none => pure (.plain .null)
  | lower => do
    let shape ← frameShapeOf eval (rows.getD (part.getD 0 0) default) spec
    let frame (i : Nat) : List Nat := frameRows shape peers order keys i
    if lower == "first_value" || lower == "last_value" || lower == "nth_value" then
      let values ← places.mapM fun i => do pure (← evalAt i ((arg 0).getD (.literal .null))).value
      places.mapM fun i => do
        let pick : Option Nat ← match lower with
          | "first_value" => pure (frame i).head?
          | "last_value" => pure (frame i).getLast?
          | _ => do
            match nthPlace (← evalAt i ((arg 1).getD (.literal .null))).value with
            | some k => pure (frame i)[k - 1]?
            | none => Eval.failWith "second argument to nth_value must be a positive integer"
        pure (.plain ((pick.map fun j => values.getD j .null).getD .null))
    else
      -- the arguments of each row the call's filter keeps
      let items ← places.mapM fun i => do
        let keep ← match c.filter with
          | some f => do pure ((← evalAt i f).value.truth == some true)
          | none => pure true
        if keep then some <$> (if c.star then pure [] else c.args.mapM (evalAt i)) else pure none
      -- rows enter the sum as the frame's end reaches them and leave it as its start passes
      -- them, and a sum that has taken a real stays real while the partition lasts; a frame
      -- that leaves rows out is summed afresh for each row
      let sticky := lower == "sum" && shape.exclusion == .noOthers
      let ends := (places.map fun i => (frameSpan shape peers order keys i).2).toArray
      places.mapM fun i =>
        match aggregateValue c.name false ((frame i).filterMap fun j => items.getD j none) with
        | .ok o =>
          let reached := ((List.range (i + 1)).map fun k => ends.getD k (-1)).foldl max (-1)
          let entered := (List.range (reached + 1).toNat).filterMap fun j => items.getD j none
          let approximate := sticky && (entered.foldl (fun a os =>
            Accumulator.step "sum" .binary a (os.map (·.value))) ({} : Accumulator)).approximate
          match o.value with
          | .integer n => pure (if approximate then { o with value := .real (Float.ofInt n) } else o)
          | _ => pure o
        | .error m => Eval.failWith m

/-- The values of a query's window calls for each of its rows, given each row's environment,
and the order the rows come out in. Windows that sort alike are taken together, the last one
first: each sorts the rows as the one after it left them, keeping rows that sort alike in that
order, so the rows come out in the order of the first window. A window then splits the rows
into partitions and each call over it is computed partition by partition. -/
def windowSlots (eval : Expr → Eval Operand) (calls : Array (WindowCall × WindowSpec))
    (rows : Array Env) : Eval (Array (Array Operand) × List Nat) := do
  let evalAt (r : Nat) (x : Expr) : Eval Operand := withReader (fun _ => rows.getD r default) (eval x)
  let mut windows : Array (WindowSpec × List Nat) := #[]
  for (c, i) in calls.toList.zipIdx do
    match windows.findIdx? fun (w, _) => w.sortsAlike c.2 with
    | some k => windows := windows.modify k fun (w, is) => (w, is ++ [i])
    | none => windows := windows.push (c.2, [i])
  let mut slots : Array (Array Operand) :=
    Array.replicate rows.size (Array.replicate calls.size (Operand.plain .null))
  let mut order : List Nat := List.range rows.size
  for (w, members) in windows.toList.reverse do
    -- each row's partition key and ordering key
    let mut keys : Array (List Value × List Value) := #[]
    let mut partOrders : List SortOrder := []
    let mut termOrders : List SortOrder := []
    for r in List.range rows.size do
      let ps ← w.partition.mapM (evalAt r)
      let os ← w.order.mapM fun ⟨x, _, _⟩ => evalAt r x
      if r == 0 then
        partOrders := ps.map fun o => SortOrder.of (o.collation.getD .binary) false none
        termOrders := (os.zip w.order).map fun (o, ⟨_, d, n⟩) => SortOrder.of (o.collation.getD .binary) d n
      keys := keys.push (ps.map (·.value), os.map (·.value))
    let key (r : Nat) : List Value × List Value := keys.getD r ([], [])
    order := order.mergeSort fun a b =>
      compareKeys (partOrders ++ termOrders) ((key a).1 ++ (key a).2) ((key b).1 ++ (key b).2) != .gt
    let parts := splitRuns (fun a b => compareKeys partOrders (key a).1 (key b).1 == .eq) order
    for part in parts do
      let peers := Peers.of termOrders (part.map fun r => (key r).2)
      let firstKeys := (part.map fun r => (key r).2.headD .null).toArray
      for i in members do
        let (c, spec) := calls.getD i default
        let values ← callOverPartition eval rows c spec part.toArray peers firstKeys
          (termOrders.headD default)
        for (r, v) in part.zip values do
          slots := slots.modify r fun a => a.modify i fun _ => v
  pure (slots, order)

/-- The table a name in a `FROM` clause reads when it is a table the database keeps rows in:
not a common table of the statement, a view, or one of the tables the database describes
itself in. -/
def Env.storedTable? (env : Env) (n : ObjectName) : Option Table :=
  let cte := n.schema.isNone && env.ctes.any (fun (c, _) => sameName c n.name)
  let (temp, persistent) := match n.schema with
    | some sch => (sch.toLower == "temp", sch.toLower == "main")
    | none => (true, true)
  if cte then none
  else (env.db.table? n.name).filter fun t => ((t.temp && temp) || (!t.temp && persistent)) && !t.withoutRowId

/-- The key of a row of a table in an index; an expression term, which no way of reading
seeks by, counts as null. -/
def indexKey (i : Index) (row : List Binding) : List Value :=
  let b := row.headD default
  i.terms.map fun term => match term.key with
    | .column k => b.values.getD k .null
    | .rowid => (b.rowid.map Value.integer).getD .null
    | .expr _ => .null

/-- Rows of a table in the order of an index's key, then of row id, given them in row id
order. -/
def indexOrder (i : Index) (rows : List (List Binding)) : List (List Binding) :=
  let orders := i.terms.map fun term => SortOrder.of term.collation term.descending none
  rows.mergeSort fun a b => compareKeys orders (indexKey i a) (indexKey i b) != .gt

/-- The rows of a query over one table in the order it reads them, whether that order gives
the groups of its `GROUP BY`, and the sides of an `OR` it reads in turn, if it does. The way of
reading is the one the planner chooses from the terms of the `WHERE` clause, the columns the
query reads, and the order it asks for (`sameOrder` is the `ORDER BY` when it names the terms
of the `GROUP BY`); an index gives its rows in the order of its key, then of row id, except
that the rows with a null in a column whose nulls an order puts at the other end come there. -/
def scanOrder (db : Database) (t : Table) (name : String) (rows : List (List Binding))
    (filter : Option Expr) (readExprs : List Expr) (wishes : List (Expr × Bool × Option Bool))
    (grouping : Bool) (resultColumns : Nat) (sameOrder : List (Expr × Bool × Option Bool)) :
    List (List Binding) × Bool × List (Expr × Option Index) :=
  let s : ScanTable := ⟨t, name⟩
  let terms := (filter.map (Expr.conjuncts 200)).getD []
  let read := (readExprs.mapM (s.columnsRead 200)).map List.flatten
  let wish (w : Expr × Bool × Option Bool) : OrderWish := s.wish w.1 w.2.1 w.2.2
  let choice := s.choose (db.indexesOf t.name) terms read (wishes.map wish) grouping resultColumns
    (sameOrder.map wish)
  let ordered := match choice.index with
    | none => rows
    | some i => indexOrder i rows
  let ordered := if choice.backwards then ordered.reverse else ordered
  -- nulls that the index keeps at one end are read at the other
  let ordered := match choice.index, choice.nullsMoved with
    | some i, some j =>
      let nullAt (row : List Binding) : Bool := ((indexKey i row).getD j .null).isNull
      if (i.terms.getD j default).descending == choice.backwards then
        ordered.filter (fun row => !nullAt row) ++ ordered.filter nullAt
      else ordered.filter nullAt ++ ordered.filter (fun row => !nullAt row)
    | _, _ => ordered
  (ordered, choice.ordered, choice.branches)

/-- "1st", "2nd", "3rd", … -/
def ordinalName (n : Nat) : String :=
  toString n ++ (if n % 100 ≥ 11 && n % 100 ≤ 13 then "th"
    else match n % 10 with
      | 1 => "st"
      | 2 => "nd"
      | 3 => "rd"
      | _ => "th")

mutual

/-- Evaluates an expression. -/
def evalExpr (fuel : Nat) (e : Expr) : Eval Operand :=
  match fuel with
  | 0 => Eval.fail tooComplex
  | fuel + 1 =>
    match e with
    | .literal v => pure (.plain v)
    | .number t =>
      match numberValue t false with
      | .ok v => pure (.plain v)
      | .error err => Eval.fail err
    | .column q n dq => resolveColumn q n dq
    | .parameter p => do
      let env ← read
      let index := (p.drop 1).toNat?.getD 1
      pure (.plain (env.parameters.getD (index - 1) .null))
    | .unary .negate (.number t) =>
      match numberValue t true with
      | .ok v => pure (.plain v)
      | .error err => Eval.fail err
    | .unary op x => do
      let o ← evalExpr fuel x
      let (coll, explicit) := shownCollation [o]
      let v : Value := match op with
        | .negate => arithmetic .sub (.integer 0) o.value
        | .plus => o.value
        | .bitNot =>
          match o.value with
          | .null => .null
          | w => .integer (-(w.toInteger) - 1)
        | .not => truthValue (o.value.truth.map (!·))
      match op with
      | .plus => pure { o with affinity := none }
      | _ => pure ⟨v, none, coll, explicit, false⟩
    | .binary op a b => evalBinary fuel op a b
    | .collate x name => do
      let o ← evalExpr fuel x
      match Collation.ofName? name with
      | some c => pure { o with collation := some c, explicit := true }
      | none => Eval.failWith ("no such collation sequence: " ++ name)
    | .cast x t => do
      let o ← evalExpr fuel x
      let aff := if t.isEmpty then Affinity.numeric else Affinity.ofDeclared t
      pure { o with value := castValue (← read).db.encoding t o.value, affinity := some aff }
    | .isNull negated x => do
      let o ← evalExpr fuel x
      let (coll, explicit) := shownCollation [o]
      pure ⟨truthValue (some (o.value.isNull != negated)), none, coll, explicit, false⟩
    | .pattern op negated subject pat esc => do
      let s ← evalExpr fuel subject
      let p ← evalExpr fuel pat
      let e ← match esc with
        | some x => some <$> evalExpr fuel x
        | none => pure none
      let (coll, explicit) := shownCollation ([s, p] ++ e.toList)
      let result ← match op with
        | .like =>
          match scalarCall "like" ([p.value, s.value] ++ (e.map (·.value)).toList) .binary
              (← read).callContext with
          | .ok v => pure v
          | .error m => Eval.failWith m
        | .glob =>
          match scalarCall "glob" [p.value, s.value] .binary (← read).callContext with
          | .ok v => pure v
          | .error m => Eval.failWith m
        | .regexp => Eval.failWith "no such function: REGEXP"
        | .matchOp => Eval.failWith "unable to use function MATCH in the requested context"
      let result := if negated then truthValue (result.truth.map (!·)) else result
      pure ⟨result, none, coll, explicit, false⟩
    | .between negated subject low high => do
      let s ← evalExpr fuel subject
      let l ← evalExpr fuel low
      let h ← evalExpr fuel high
      let ge := compareOperands .ge s l
      let le := compareOperands .le s h
      let both := match ge.truth, le.truth with
        | some false, _ | _, some false => some false
        | some true, some true => some true
        | _, _ => none
      let (coll, explicit) := shownCollation [s, l, h]
      pure ⟨truthValue (if negated then both.map (!·) else both), none, coll, explicit, false⟩
    | .inList negated subject items => do
      let s ← evalExpr fuel subject
      let os ← evalExprs fuel items
      let coll := s.collation.getD .binary
      let found := os.any fun o =>
        match s.value, o.value with
        | .null, _ | _, .null => false
        | a, b => compareValues s.affinity coll a b == .eq
      let result : Option Bool :=
        if items.isEmpty then some false
        else if found then some true
        else if s.value.isNull || os.any (·.value.isNull) then none
        else some false
      pure (.plain (truthValue (if negated then result.map (!·) else result)))
    | .inQuery negated subject q => do
      let s ← evalExpr fuel subject
      let r ← evalQuery fuel q
      do
        if r.fields.length != 1 then
          Eval.failWith ("sub-select returns " ++ toString r.fields.length ++ " columns - expected 1")
        else
          let f := r.fields.getD 0 default
          let aff := comparisonAffinity f.affinity s.affinity
          let coll := if s.explicit then s.collation.getD .binary
            else (s.collation.getD f.collation)
          let values := r.rows.map fun row => row.getD 0 .null
          let found := values.any fun v =>
            match s.value, v with
            | .null, _ | _, .null => false
            | a, b => compareValues aff coll a b == .eq
          let result : Option Bool :=
            if values.isEmpty then some false
            else if found then some true
            else if s.value.isNull || values.any Value.isNull then none
            else some false
          pure (.plain (truthValue (if negated then result.map (!·) else result)))
    | .inTable negated subject t =>
      evalExpr fuel (.inQuery negated subject
        (.select false [.all] (some (.table t none)) none [] none []))
    | .caseWhen operand branches otherwise => do
      let base ← match operand with
        | some x => some <$> evalExpr fuel x
        | none => pure none
      match ← pickBranch fuel base branches with
      | some r => evalExpr fuel r
      | none =>
        match otherwise with
        | some d => evalExpr fuel d
        | none => pure (.plain .null)
    | .call name distinct args star filter order none => evalCall fuel name distinct args star filter order
    | .call name _ args star _ _ (some _) =>
      Eval.failWith (windowMisuse name (if star then 0 else args.length))
    | .slot i => do pure ((← read).slots.getD i (.plain .null))
    | .existsQuery q => do
      let r ← evalQuery fuel q
      pure (.plain (truthValue (some !r.rows.isEmpty)))
    | .subquery q => do
      let r ← evalQuery fuel q
      if r.fields.length != 1 then
        Eval.failWith ("sub-select returns " ++ toString r.fields.length ++ " columns - expected 1")
      else
        let v := (r.rows.head?.map fun row => row.getD 0 .null).getD .null
        pure ⟨v, (r.fields.head?.map (·.affinity)).getD none, none, false, false⟩
    | .vector _ => Eval.failWith "row value misused"
    | .raise action message => do
      let env ← read
      if !env.inTrigger then Eval.failWith "RAISE() may only be used within a trigger-program"
      else
        match action with
        | .ignore => throw .ignoreRow
        | _ =>
          let m ← match message with
            | some x => do pure ((← evalExpr fuel x).value.asText)
            | none => pure ""
          let how : Conflict := match action with
            | .rollback => .rollback
            | .fail => .fail
            | _ => .abort
          throw (.error (.constraint .trigger m) how)

/-- The first operand of a list that is not null, evaluating no further. -/
def firstNonNull (fuel : Nat) (args : List Expr) : Eval Operand :=
  match fuel with
  | 0 => Eval.fail tooComplex
  | fuel + 1 =>
    match args with
    | [] => pure (.plain .null)
    | x :: rest => do
      let o ← evalExpr fuel x
      if o.value.isNull then firstNonNull fuel rest else pure o

/-- The arguments of `iif`: conditions and results in turn, then an optional default. -/
def chooseBranch (fuel : Nat) (args : List Expr) : Eval Operand :=
  match fuel with
  | 0 => Eval.fail tooComplex
  | fuel + 1 =>
    match args with
    | [] => pure (.plain .null)
    | [d] => evalExpr fuel d
    | c :: r :: rest => do
      let co ← evalExpr fuel c
      if co.value.truth == some true then evalExpr fuel r else chooseBranch fuel rest

/-- The result expression of the first branch of a `CASE` that applies. -/
def pickBranch (fuel : Nat) (base : Option Operand) (branches : List (Expr × Expr)) : Eval (Option Expr) :=
  match fuel with
  | 0 => Eval.fail tooComplex
  | fuel + 1 =>
    match branches with
    | [] => pure none
    | (c, r) :: rest => do
      let co ← evalExpr fuel c
      let hit := match base with
        | some b => (compareOperands .eq b co).truth == some true
        | none => co.value.truth == some true
      if hit then pure (some r) else pickBranch fuel base rest

/-- Evaluates a list of expressions in order. -/
def evalExprs (fuel : Nat) (es : List Expr) : Eval (List Operand) :=
  match fuel with
  | 0 => Eval.fail tooComplex
  | fuel + 1 =>
    match es with
    | [] => pure []
    | e :: rest => do
      let o ← evalExpr fuel e
      return o :: (← evalExprs fuel rest)

/-- Evaluates a binary operator; `AND` and `OR` stop early when the left side decides. -/
def evalBinary (fuel : Nat) (op : BinaryOp) (a b : Expr) : Eval Operand :=
  match fuel with
  | 0 => Eval.fail tooComplex
  | fuel + 1 =>
    match op, a, b with
    | .eq, .vector xs, .vector ys | .ne, .vector xs, .vector ys
    | .lt, .vector xs, .vector ys | .le, .vector xs, .vector ys
    | .gt, .vector xs, .vector ys | .ge, .vector xs, .vector ys
    | .is, .vector xs, .vector ys | .isNot, .vector xs, .vector ys => do
      if xs.length != ys.length then Eval.failWith "row value misused"
      else
        let ls ← evalExprs fuel xs
        let rs ← evalExprs fuel ys
        let pairs := ls.zip rs
        match op with
        | .eq | .ne | .is | .isNot =>
          let inner : BinaryOp := if op == .is || op == .isNot then .is else .eq
          let results := pairs.map fun (l, r) => (compareOperands inner l r).truth
          let all : Option Bool :=
            if results.any (· == some false) then some false
            else if results.all (· == some true) then some true
            else none
          let flip := op == .ne || op == .isNot
          pure (.plain (truthValue (if flip then all.map (!·) else all)))
        | _ =>
          pure (.plain (truthValue (lexicographic op pairs)))
    | .and, _, _ => do
      let l ← evalExpr fuel a
      if l.value.truth == some false then pure (.plain (.integer 0))
      else
        let r ← evalExpr fuel b
        let v : Option Bool := match l.value.truth, r.value.truth with
          | _, some false => some false
          | some true, some true => some true
          | _, _ => none
        pure (.plain (truthValue v))
    | .or, _, _ => do
      let l ← evalExpr fuel a
      if l.value.truth == some true then pure (.plain (.integer 1))
      else
        let r ← evalExpr fuel b
        let v : Option Bool := match l.value.truth, r.value.truth with
          | _, some true => some true
          | some false, some false => some false
          | _, _ => none
        pure (.plain (truthValue v))
    | .is, _, .column none n false | .isNot, _, .column none n false =>
      if n.toLower == "true" || n.toLower == "false" then do
        -- a truth test, unless a column of that name is in scope
        let env ← read
        let known := env.scopes.any fun s =>
          match lookupInScope s none n with
          | .ok (some _) => true
          | _ => false
        if known then evalPlainBinary fuel op a b
        else
          let l ← evalExpr fuel a
          let wanted := n.toLower == "true"
          let holds := match l.value.truth with
            | some t => t == wanted
            | none => false
          pure (.plain (truthValue (some (if op == .is then holds else !holds))))
      else evalPlainBinary fuel op a b
    | _, _, _ => evalPlainBinary fuel op a b

/-- Evaluates a binary operator on both evaluated sides. -/
def evalPlainBinary (fuel : Nat) (op : BinaryOp) (a b : Expr) : Eval Operand :=
  match fuel with
  | 0 => Eval.fail tooComplex
  | fuel + 1 => do
    let l ← evalExpr fuel a
    let r ← evalExpr fuel b
    let (coll, explicit) := shownCollation [l, r]
    let v : Value ← match op with
      | .eq | .ne | .lt | .le | .gt | .ge | .is | .isNot => pure (compareOperands op l r)
      | .add | .sub | .mul | .div | .rem => pure (arithmetic op l.value r.value)
      | .bitAnd | .bitOr | .shiftLeft | .shiftRight => pure (bitwise op l.value r.value)
      | .concat => pure (concatenate (← read).db.encoding l.value r.value)
      | .extract | .extractValue =>
        match jsonCall (if op == .extract then "->" else "->>") [(l.value, l.json), (r.value, r.json)] with
        | .ok (v, json) => return ⟨v, none, none, false, json⟩
        | .error m => Eval.failWith m
      | .and | .or => pure .null
    pure ⟨v, none, coll, explicit, false⟩

/-- Evaluates a function call: an aggregate over the group, in the order it asks for, a
function that evaluates its arguments lazily, or a scalar function. -/
def evalCall (fuel : Nat) (name : String) (distinct : Bool) (args : List Expr) (star : Bool)
    (filter : Option Expr) (order : List OrderingTerm) : Eval Operand :=
  match fuel with
  | 0 => Eval.fail tooComplex
  | fuel + 1 => do
    let n := if star then 0 else args.length
    match arityOk name n with
    | none => Eval.failWith ("no such function: " ++ name)
    | some false => Eval.failWith ("wrong number of arguments to function " ++ name ++ "()")
    | some true =>
      if isWindowOnly name then Eval.failWith ("misuse of window function " ++ name ++ "()")
      else if isAggregate name n then
        let env ← read
        match env.group with
        | none => Eval.failWith ("misuse of aggregate function " ++ name ++ "()")
        | some rows =>
          let outer := env.scopes.drop 1
          let inRow (row : List Binding) (e : Env) : Env := { e with scopes := row :: outer, group := none }
          -- the rows in the order the call asks for, equal ones as they came
          let rows ← if order.isEmpty then pure rows else do
            let mut keyed : List (List Binding × List Value) := []
            let mut orders : List SortOrder := []
            for row in rows do
              let os ← withReader (inRow row) (evalExprs fuel (order.map fun ⟨x, _, _⟩ => x))
              if orders.isEmpty then
                orders := (os.zip order).map fun (o, ⟨_, desc, nulls⟩) =>
                  SortOrder.of (o.collation.getD .binary) desc nulls
              keyed := keyed ++ [(row, os.map (·.value))]
            pure ((keyed.mergeSort fun a b => compareKeys orders a.2 b.2 != .gt).map (·.1))
          let mut items : List (List Operand) := []
          for row in rows do
            let step ← withReader (inRow row) do
              let keep ← match filter with
                | some f => do pure ((← evalExpr fuel f).value.truth == some true)
                | none => pure true
              if keep then
                let os ← evalExprs fuel args
                pure (some os)
              else pure none
            if let some os := step then items := items ++ [os]
          match aggregateValue name distinct items with
          | .ok o => pure o
          | .error m => Eval.failWith m
      else if filter.isSome then
        Eval.failWith ("FILTER may not be used with non-aggregate " ++ name ++ "()")
      else if !order.isEmpty then
        Eval.failWith ("ORDER BY may not be used with non-aggregate " ++ name ++ "()")
      else
        let lower := name.toLower
        if lower == "coalesce" || lower == "ifnull" then
          let o ← firstNonNull fuel args
          pure { o with affinity := none }
        else if lower == "iif" || lower == "if" then
          let o ← chooseBranch fuel args
          pure { o with affinity := none }
        else
        match lower with
        | "random" => do
          -- no source of chance: a number fixed by the connection's counters
          let env ← read
          pure (.plain (.integer (wrapInteger ((env.totalChanges + 7) * 6364136223846793005 + env.lastRowid))))
        | "date" | "time" | "datetime" | "julianday" | "unixepoch" | "strftime" | "timediff"
        | "current_date" | "current_time" | "current_timestamp" => do
          let os ← evalExprs fuel args
          match calendarCall lower (os.map (·.value)) (← read).pureUse with
          | .ok v => pure (.plain v)
          | .error m => Eval.failWith m
        | "last_insert_rowid" => do pure (.plain (.integer (← read).lastRowid))
        | "changes" => do pure (.plain (.integer (← read).changes))
        | "total_changes" => do pure (.plain (.integer (← read).totalChanges))
        | "likely" | "unlikely" | "likelihood" =>
          match args with
          | x :: _ => evalExpr fuel x
          | [] => pure (.plain .null)
        | _ =>
          let os ← evalExprs fuel args
          if isJsonFunction lower then
            match jsonCall lower (os.map fun o => (o.value, o.json)) with
            | .ok (v, json) => return ⟨v, none, none, false, json⟩
            | .error m => Eval.failWith m
          let coll := (os.findSome? (·.collation)).getD .binary
          let (shown, explicit) := shownCollation os
          match scalarCall name (os.map (·.value)) coll (← read).callContext with
          | .ok v => pure ⟨v, none, shown, explicit, false⟩
          | .error m => Eval.failWith m

/-- Evaluates a query into its columns and rows. -/
def evalQuery (fuel : Nat) (q : Query) : Eval Relation :=
  match fuel with
  | 0 => Eval.fail tooComplex
  | fuel + 1 =>
    match q with
    | .ordered ctes _ body orderBy limit offset => do
      let defs := ctes.map fun c => match c with | CommonTable.mk n cols cq => (n, CteValue.query cols cq)
      withReader (fun e => { e with ctes := defs.reverse ++ e.ctes }) do
        let (fields, keyed) ← orderedRows fuel body orderBy
        let rows := keyed.map (·.1)
        let lim ← limitValue fuel limit
        let off ← limitValue fuel offset
        let rows := match off with
          | some k => if k > 0 then rows.drop k.toNat else rows
          | none => rows
        let rows := match lim with
          | some k => if k < 0 then rows else rows.take k.toNat
          | none => rows
        pure ⟨fields, rows⟩
    | _ => do
      let (fields, keyed) ← orderedRows fuel q []
      pure ⟨fields, keyed.map (·.1)⟩

/-- The value of a `LIMIT` or `OFFSET` expression, which must be an integer. -/
def limitValue (fuel : Nat) (e : Option Expr) : Eval (Option Int) :=
  match fuel with
  | 0 => Eval.fail tooComplex
  | fuel + 1 =>
    match e with
    | none => pure none
    | some x => do
      let o ← evalExpr fuel x
      match o.value.withAffinity .numeric with
      | .integer n => pure (some n)
      | .null => pure (some 0)
      | _ => Eval.fail .mismatch

/-- The rows of a query in the order its `ORDER BY` terms give, each with its sort key. -/
def orderedRows (fuel : Nat) (q : Query) (orderBy : List OrderingTerm) :
    Eval (List Field × List (List Value × List Value)) :=
  match fuel with
  | 0 => Eval.fail tooComplex
  | fuel + 1 => do
    match q with
    | .select distinct columns source filter groupBy having windows =>
      let (fields, keyed, orders) ←
        selectCore fuel distinct columns source filter groupBy having windows orderBy
      if orderBy.isEmpty then pure (fields, keyed)
      else pure (fields, keyed.mergeSort fun a b => compareKeys orders a.2 b.2 != .gt)
    | _ =>
      let r ← compoundRelation fuel q
      if orderBy.isEmpty then pure (r.fields, r.rows.map fun row => (row, []))
      else
        let mut keys : List (Nat × SortOrder) := []
        for (t, i) in orderBy.zipIdx do
          let ⟨e, desc, nulls⟩ := t
          let ordinal := match e with
            | .number s => s.toNat?
            | _ => none
          let byName : Option Nat := match e with
            | .column none n _ => r.fields.findIdx? fun f => sameName f.name n
            | .collate (.column none n _) _ => r.fields.findIdx? fun f => sameName f.name n
            | _ => none
          let coll := match e with
            | .collate _ c => (Collation.ofName? c)
            | _ => none
          match ordinal, byName with
          | some k, _ =>
            if k == 0 || k > r.fields.length then
              Eval.failWith (ordinalName (i + 1) ++ " ORDER BY term out of range - should be between 1 and " ++
                toString r.fields.length)
            else
              let f := r.fields.getD (k - 1) default
              keys := keys ++ [(k - 1, SortOrder.of (coll.getD f.collation) desc nulls)]
          | none, some k =>
            let f := r.fields.getD k default
            keys := keys ++ [(k, SortOrder.of (coll.getD f.collation) desc nulls)]
          | none, none =>
            Eval.failWith (ordinalName (i + 1) ++ " ORDER BY term does not match any column in the result set")
        let keyed := r.rows.map fun row => (row, keys.map fun (k, _) => row.getD k .null)
        let orders := keys.map (·.2)
        pure (r.fields, keyed.mergeSort fun a b => compareKeys orders a.2 b.2 != .gt)

/-- Evaluates a `VALUES` list or a compound query. -/
def compoundRelation (fuel : Nat) (q : Query) : Eval Relation :=
  match fuel with
  | 0 => Eval.fail tooComplex
  | fuel + 1 =>
    match q with
    | .values rows => do
      let mut out : List (List Value) := []
      let width := (rows.head?.map List.length).getD 0
      for row in rows do
        if row.length != width then
          Eval.failWith "all VALUES must have the same number of terms"
      if let some n := valuesMisusedAggregate (!(← read).ctes.isEmpty) rows then
        Eval.failWith ("misuse of aggregate: " ++ n ++ "()")
      -- the rows are read from the last to the first, as a compound is, so that the error of
      -- a later row comes first
      for row in rows.reverse do
        -- a single row with an aggregate is a query over one empty row
        let os ← if row.any (Expr.hasAggregate 64) then
            withReader (fun e => { e with scopes := [] :: e.scopes, group := some [[]] }) (evalExprs fuel row)
          else evalExprs fuel row
        out := (os.map (·.value)) :: out
      let fields := (List.range width).map fun i => Field.mk ("column" ++ toString (i + 1)) none .binary
      pure ⟨fields, out⟩
    | .compound op left right => do
      -- the right side is read first: its errors come before those of the left
      let r ← evalQuery fuel right
      let l ← evalQuery fuel left
      if l.fields.length != r.fields.length then
        let opName := match op with
          | .union => "UNION"
          | .unionAll => "UNION ALL"
          | .intersect => "INTERSECT"
          | .except => "EXCEPT"
        Eval.failWith ("SELECTs to the left and right of " ++ opName ++
          " do not have the same number of result columns")
      else
        let fields := (l.fields.zip r.fields).map fun (a, b) =>
          { a with affinity := a.affinity <|> b.affinity }
        let colls := fields.map (·.collation)
        let member (row : List Value) (rows : List (List Value)) : Bool :=
          rows.any (compareRows colls · row == .eq)
        let rows := match op with
          | .unionAll => l.rows ++ r.rows
          | .union => sortRows colls (latestDistinctRows colls (l.rows ++ r.rows))
          | .intersect => sortRows colls ((latestDistinctRows colls l.rows).filter (member · r.rows))
          | .except => sortRows colls ((latestDistinctRows colls l.rows).filter (!member · r.rows))
        pure ⟨fields, rows⟩
    | _ => evalQuery fuel q

/-- Evaluates a `SELECT`: its fields, its rows with their sort keys, and how the keys sort. -/
def selectCore (fuel : Nat) (distinct : Bool) (columns : List ResultColumn) (source : Option Source)
    (filter : Option Expr) (groupBy : List Expr) (having : Option Expr)
    (windows : List (String × Window)) (orderBy : List OrderingTerm) :
    Eval (List Field × List (List Value × List Value) × List SortOrder) :=
  match fuel with
  | 0 => Eval.fail tooComplex
  | fuel + 1 => do
    let env ← read
    let defined ← match defineWindows windows with
      | .ok d => pure d
      | .error m => Eval.failWith m
    let (shape, rows) ← match source with
      | some s => evalSource fuel s
      | none => pure ([], [[]])
    -- the expressions of the result, with `*` expanded
    let mut items : List (Expr × String × Option String) := []
    for c in columns do
      match c with
      | .all =>
        if source.isNone then Eval.failWith "no tables specified"
        for b in shape do
          for f in b.fields do
            if !b.merged.any (sameName · f.name) then
              items := items ++ [(.column (some b.name) f.name false, f.name, some f.name)]
      | .allOf t =>
        match shape.find? fun b => sameName b.name t with
        | some b =>
          for f in b.fields do
            items := items ++ [(.column (some b.name) f.name false, f.name, some f.name)]
        | none => Eval.failWith ("no such table: " ++ t)
      | .expr e aliasName text => items := items ++ [(e, text, aliasName)]
    let exprs := items.map (·.1)
    -- sort keys: a result column by number or alias, or an expression of the row
    let mut keys : List SortKey := []
    for (t, i) in orderBy.zipIdx do
      let ⟨e, _, _⟩ := t
      let key : SortKey ← match e with
        | .number s =>
          match s.toNat? with
          | some k =>
            if k == 0 || k > exprs.length then
              Eval.failWith (ordinalName (i + 1) ++ " ORDER BY term out of range - should be between 1 and " ++
                toString exprs.length)
            else pure (SortKey.column (k - 1))
          | none => pure (SortKey.expr e)
        | .column none n _ =>
          match items.findIdx? fun (_, _, a) => (a.map (sameName · n)).getD false with
          | some k => pure (SortKey.column k)
          | none => pure (SortKey.expr e)
        | _ => pure (SortKey.expr e)
      keys := keys ++ [key]
    let keyExprs := keys.filterMap fun k => match k with
      | .expr x => some x
      | .column _ => none
    let aggregate := !groupBy.isEmpty || hasAggregateIn columns having keyExprs
    -- a query over one stored table reads it in the order the planner chooses
    -- a query whose one aggregate is a `min` or `max` of one argument, with no `GROUP BY` or
    -- `HAVING`, reads only the first row in the order of that argument when a way of reading
    -- gives that order
    let minMaxFirst : Option (Expr × Bool) :=
      if !groupBy.isEmpty || having.isSome then none
      else
        let calls := (exprs ++ keyExprs).flatMap (Expr.aggregateCalls 200)
        let distinctCalls : List Expr := calls.foldl (fun acc c =>
          if acc.any (Expr.alike 200 c) then acc else acc ++ [c]) []
        match distinctCalls with
        | [Expr.call n _ [arg] false none _ _] =>
          if n.toLower == "min" then some (arg, false)
          else if n.toLower == "max" then some (arg, true)
          else none
        | _ => none
    let (rows, byScan, branches) : List (List Binding) × Bool × List (Expr × Option Index) :=
      match source with
      | some (.table n aliasName) =>
        match env.storedTable? n with
        | some t =>
          let resultOf (e : Expr) : Expr := match e with
            | .number k => (k.toNat?.bind fun i => exprs[i - 1]?).getD e
            | _ => e
          let orderWishes : List (Expr × Bool × Option Bool) :=
            (keys.zip orderBy).map fun (k, ⟨_, d, n⟩) => match k with
              | .column i => (exprs.getD i (.literal .null), d, n)
              | .expr x => (x, d, n)
          let bare (e : Expr) : Expr := match e with
            | .column _ n q => .column none n q
            | e => e
          let sameOrder := groupBy.length == orderWishes.length &&
            (groupBy.zip orderWishes).all fun (g, (o, d, n)) =>
              Expr.alike 200 (bare (resultOf g)) (bare o) && (n.map (· != d)).getD true
          let wishes : List (Expr × Bool × Option Bool) :=
            if !groupBy.isEmpty then groupBy.map fun g => (resultOf g, false, none)
            else if exprs.any (fun x => (Expr.takeWindows 200 x #[]).2.size > 0) then []
            else if aggregate then (minMaxFirst.map fun (arg, isMax) =>
              [(arg, isMax, if !isMax && (ScanTable.mk t (aliasName.getD t.name)).canBeNull 200 arg then some false else none)]).getD []
            else orderWishes
          let (read, ordered, branches) := scanOrder env.db t (aliasName.getD t.name) rows filter
            (exprs ++ filter.toList ++ groupBy ++ having.toList ++ keyExprs) wishes
            (!groupBy.isEmpty) exprs.length (if !groupBy.isEmpty && sameOrder then orderWishes else [])
          (read, ordered && (!groupBy.isEmpty || minMaxFirst.isSome), branches)
        | none => (rows, false, [])
      | _ => (rows, false, [])
    -- the window calls of the result and of the order, each replaced by its slot
    let (slotted, found) := exprs.foldl (fun acc x =>
      let (y, f) := Expr.takeWindows 200 x acc.2
      (acc.1 ++ [y], f)) (([] : List Expr), (#[] : Array WindowCall))
    let (slottedKeys, found) := keys.foldl (fun acc k =>
      match k with
      | .expr x => let (y, f) := Expr.takeWindows 200 x acc.2; (acc.1 ++ [SortKey.expr y], f)
      | k => (acc.1 ++ [k], acc.2)) (([] : List SortKey), found)
    let mut calls : Array (WindowCall × WindowSpec) := #[]
    for c in found do
      match c.spec defined with
      | .ok w => calls := calls.push (c, w)
      | .error m => Eval.failWith m
    let inRow (row : List Binding) (e : Env) : Env := { e with scopes := row :: env.scopes, group := none }
    -- the rows that pass the filter
    let mut kept : List (List Binding) := []
    for row in rows do
      match filter with
      | some f =>
        let o ← withReader (inRow row) (evalExpr fuel f)
        if o.value.truth == some true then kept := kept ++ [row]
      | none => kept := kept ++ [row]
    -- the sides of an `OR` read in turn: each row comes with the first side it meets, in the
    -- order of that side's index
    if !branches.isEmpty then
      let mut sides : Array (List (List Binding)) := Array.replicate (branches.length + 1) []
      for row in kept do
        let mut place := branches.length
        for ((side, _), k) in branches.zipIdx do
          if place == branches.length then
            let o ← withReader (inRow row) (evalExpr fuel side)
            if o.value.truth == some true then place := k
        sides := sides.modify place (· ++ [row])
      kept := ((branches.zipIdx.map fun ((_, index), k) =>
        let side := sides.getD k []
        match index with
        | some i => indexOrder i side
        | none => side).flatten) ++ sides.getD branches.length []
    let groupsByScan := !groupBy.isEmpty && byScan
    -- a `min` or `max` read in its own order takes the first row
    if groupBy.isEmpty && minMaxFirst.isSome && byScan then kept := kept.take 1
    -- the groups, each with the row its plain columns are read from
    let nullRow : List Binding := shape.map fun b =>
      { b with values := b.fields.map fun _ => Value.null, rowid := none }
    -- the plain columns of a group are read from its first row; when the query has a `min` or
    -- `max` of one argument, from the row where the last of them took its value
    let minMaxCall : Option (Expr × Bool) :=
      (((exprs ++ keyExprs ++ having.toList).flatMap (Expr.aggregateCalls 200)).filterMap fun c =>
        match c with
        | .call n _ [arg] false _ _ _ =>
          if n.toLower == "min" || n.toLower == "max" then some (arg, n.toLower == "max") else none
        | _ => none).getLast?
    let minMaxArg := minMaxCall.map (·.1)
    let minMaxIsMax := (minMaxCall.map (·.2)).getD false
    let representative (members : List (List Binding)) : Eval (List Binding) := do
      match minMaxArg with
      | none => pure (members.head?.getD nullRow)
      | some arg =>
        let mut best : Option Value := none
        let mut rep := members.head?.getD nullRow
        for row in members do
          let o ← withReader (inRow row) (evalExpr fuel arg)
          let coll := o.collation.getD .binary
          match best, o.value with
          | none, v => rep := row; if !v.isNull then best := some v
          | some _, .null => pure ()
          | some b, v =>
            let c := b.compare coll v
            if (minMaxIsMax && c == .lt) || (!minMaxIsMax && c == .gt) then
              best := some v
              rep := row
        pure rep
    let mut groups : List (List Binding × List (List Binding)) := []
    if aggregate then
      if groupBy.isEmpty then
        groups := [(← representative kept, kept)]
      else
        let mut keyed : List (List Value × List Collation × List (List Binding)) := []
        for row in kept do
          let os ← withReader (inRow row) (evalExprs fuel groupBy)
          let k := os.map (·.value)
          let colls := os.map fun o => o.collation.getD .binary
          match keyed.findIdx? fun (k2, _, _) => compareRows colls k2 k == .eq with
          | some i => keyed := keyed.modify i fun (k2, c, rs) => (k2, c, rs ++ [row])
          | none => keyed := keyed ++ [(k, colls, [row])]
        -- groups come in the order the table is read when that order gives them, else sorted;
        -- a `GROUP BY` of as many terms as the `ORDER BY` sorts in the directions of its terms
        let descending : List Bool := if orderBy.length == groupBy.length then
            orderBy.map fun ⟨_, d, _⟩ => d
          else groupBy.map fun _ => false
        let sorted := if groupsByScan then keyed
          else keyed.mergeSort fun a b =>
            compareKeys ((a.2.1.zip descending).map fun (c, d) => SortOrder.of c d none) a.1 b.1 != .gt
        for (_, _, rs) in sorted do
          groups := groups ++ [(← representative rs, rs)]
    else
      groups := kept.map fun row => (row, [row])
    -- the groups or rows that pass `HAVING`, each with the environment it is read in
    let mut passing : Array Env := #[]
    for (rep, members) in groups do
      let rowEnv : Env :=
        { env with scopes := rep :: env.scopes, group := if aggregate then some members else none }
      let pass ← match having with
        | some h => do
          let o ← withReader (fun _ => rowEnv) (evalExpr fuel h)
          pure (o.value.truth == some true)
        | none => pure true
      if pass then passing := passing.push rowEnv
    let (slots, sequence) ← if calls.isEmpty then pure (#[], List.range passing.size)
      else windowSlots (evalExpr fuel) calls passing
    -- evaluate the result and the keys of every group or row
    let mut out : List (List Value × List Value) := []
    let mut orders : List SortOrder := []
    let mut fields : List Field := []
    let mut first := true
    for r in sequence do
      let ctx : Env → Env := fun _ => { passing.getD r default with slots := slots.getD r #[] }
      do
        let os ← withReader ctx (evalExprs fuel slotted)
        let values := os.map (·.value)
        let mut keyValues : List Value := []
        let mut keyOrders : List SortOrder := []
        for (k, t) in slottedKeys.zip orderBy do
          let ⟨_, desc, nulls⟩ := t
          match k with
          | .column i =>
            let o := os.getD i default
            keyValues := keyValues ++ [o.value]
            keyOrders := keyOrders ++ [SortOrder.of (o.collation.getD .binary) desc nulls]
          | .expr x =>
            let o ← withReader ctx (evalExpr fuel x)
            keyValues := keyValues ++ [o.value]
            keyOrders := keyOrders ++ [SortOrder.of (o.collation.getD .binary) desc nulls]
        if first then
          orders := keyOrders
          fields := (items.zip os).map fun ((e, text, aliasName), o) =>
            Field.mk (aliasName.getD (resultName e text (columnField shape e))) o.affinity
              (o.collation.getD .binary)
          first := false
        out := out ++ [(values, keyValues)]
    if first then
      -- no rows: the fields from the shape alone
      let ctx : Env → Env := fun e =>
        { e with scopes := nullRow :: env.scopes, group := if aggregate then some [] else none }
      let mut fs : List Field := []
      for (e, text, aliasName) in items do
        let shapeOp ← tryCatch (withReader ctx (evalExpr fuel e)) fun _ => pure (Operand.plain .null)
        fs := fs ++ [Field.mk (aliasName.getD (resultName e text (columnField shape e))) shapeOp.affinity
          (shapeOp.collation.getD .binary)]
      fields := fs
      let mut os : List SortOrder := []
      for (k, t) in keys.zip orderBy do
        let ⟨_, desc, nulls⟩ := t
        let coll : Collation ← match k with
          | .column i => pure ((fs.getD i default).collation)
          | .expr x => do
            let shapeOp ← tryCatch (withReader ctx (evalExpr fuel x)) fun _ => pure (Operand.plain .null)
            pure (shapeOp.collation.getD .binary)
        os := os ++ [SortOrder.of coll desc nulls]
      orders := os
    let result := if distinct then
        let colls := fields.map (·.collation)
        out.foldl (fun acc r => if acc.any (compareRows colls ·.1 r.1 == .eq) then acc else acc ++ [r]) []
      else out
    pure (fields, result, orders)

/-- The rows a source gives: the bindings of its tables with no row (its shape), and each of
its rows as bindings. -/
def evalSource (fuel : Nat) (s : Source) : Eval (List Binding × List (List Binding)) :=
  match fuel with
  | 0 => Eval.fail tooComplex
  | fuel + 1 =>
    match s with
    | .table n aliasName => do
      let env ← read
      let cte := if n.schema.isNone then env.ctes.find? (fun (c, _) => sameName c n.name) else none
      match cte with
      | some (cname, value) => do
        let r ← cteRelation fuel cname value
        let b := Binding.shape (aliasName.getD n.name) r.fields
        pure ([b], r.rows.map fun row => [{ b with values := row }])
      | none =>
        let (temp, persistent) := match n.schema with
          | some sch => (sch.toLower == "temp", sch.toLower == "main")
          | none => (true, true)
        let table := ((env.db.table? n.name).filter fun t => (t.temp && temp) || (!t.temp && persistent)) <|>
          env.db.catalog? n.schema n.name
        match table with
        | some t =>
          let b := Binding.shape (aliasName.getD t.name) t.fields
          let rows := if t.withoutRowId then
              let pk := t.columns.zipIdx.filter (·.1.primaryKey)
              let colls := pk.map (·.1.collation)
              t.rows.mergeSort fun a c =>
                compareRows colls (pk.map fun (_, i) => a.values.getD i .null)
                  (pk.map fun (_, i) => c.values.getD i .null) != .gt
            else t.rows
          pure ([b], rows.map fun r =>
            [{ b with values := r.values, rowid := if t.withoutRowId then none else some r.rowid }])
        | none =>
          match (env.db.view? n.name).filter fun v => (v.temp && temp) || (!v.temp && persistent) with
          | some v =>
            let r ← withReader (fun e => { e with scopes := [], ctes := [], group := none, fixedSchema := true })
              (evalQuery fuel v.query)
            let fields := if v.columns.isEmpty then r.fields
              else (r.fields.zip v.columns).map fun (f, c) => { f with name := c }
            if !v.columns.isEmpty && v.columns.length != r.fields.length then
              Eval.failWith ("expected " ++ toString v.columns.length ++ " columns for '" ++ v.name ++
                "' but got " ++ toString r.fields.length)
            else
              let b := Binding.shape (aliasName.getD v.name) fields
              pure ([b], r.rows.map fun row => [{ b with values := row }])
          | none =>
            match n.schema with
            | some sch => Eval.failWith ("no such table: " ++ sch ++ "." ++ n.name)
            | none =>
              if env.fixedSchema || env.inTrigger then Eval.failWith ("no such table: main." ++ n.name)
              else Eval.failWith ("no such table: " ++ n.name)
    | .query q aliasName => do
      let r ← withReader (fun e => { e with group := none }) (evalQuery fuel q)
      let b := Binding.shape (aliasName.getD "") r.fields
      pure ([b], r.rows.map fun row => [{ b with values := row }])
    | .join left kind natural right on usingColumns => do
      let (ls, lrows) ← evalSource fuel left
      let (rs, rrows) ← evalSource fuel right
      -- the columns the two sides share by name, for a natural join
      let common : List String :=
        if natural then
          (rs.flatMap (·.fields)).filterMap fun f =>
            if ls.any (fun b => (b.lookup f.name).isSome) then some f.name else none
        else usingColumns
      let mergeInto (bs : List Binding) : List Binding :=
        bs.map fun b => { b with merged := b.merged ++ common.filter fun c => (b.lookup c).isSome }
      let rs := mergeInto rs
      let nullRight : List Binding := rs.map fun b =>
        { b with values := b.fields.map fun _ => Value.null, rowid := none }
      let nullLeft : List Binding := ls.map fun b =>
        { b with values := b.fields.map fun _ => Value.null, rowid := none }
      let env ← read
      let joined (l r : List Binding) : Eval Bool := do
        let row := l ++ r
        -- shared columns must be equal
        let mut ok := true
        for c in common do
          let lv := (l.findSome? (·.lookup c)).getD (.plain .null)
          let rv := ((r.map fun b => { b with merged := [] }).findSome? (·.lookup c)).getD (.plain .null)
          if (compareOperands .eq lv rv).truth != some true then ok := false
        if !ok then return false
        match on with
        | some cond =>
          let o ← withReader (fun e => { e with scopes := row :: env.scopes, group := none })
            (evalExpr fuel cond)
          return o.value.truth == some true
        | none => return true
      let mut out : List (List Binding) := []
      let mut rightUsed : List Nat := []
      for l in lrows do
        let mut any := false
        for (r, j) in (rrows.map mergeInto).zipIdx do
          if ← joined l r then
            out := out ++ [l ++ r]
            any := true
            rightUsed := j :: rightUsed
        if !any && (kind == .left || kind == .full) then out := out ++ [l ++ nullRight]
      if kind == .right || kind == .full then
        for (r, j) in (rrows.map mergeInto).zipIdx do
          if !rightUsed.contains j then out := out ++ [nullLeft ++ r]
      pure (ls ++ rs, out)

/-- The rows of a common table; a table that reads itself is computed step by step, each step
reading the rows the last one added. -/
def cteRelation (fuel : Nat) (name : String) (value : CteValue) : Eval Relation :=
  match fuel with
  | 0 => Eval.fail tooComplex
  | fuel + 1 =>
    match value with
    | .rows r => pure r
    | .query columns q => do
      let rename (r : Relation) : Eval Relation :=
        if columns.isEmpty then pure r
        else if columns.length != r.fields.length then
          Eval.failWith ("table " ++ name ++ " has " ++ toString r.fields.length ++
            " values for " ++ toString columns.length ++ " columns")
        else pure { r with fields := (r.fields.zip columns).map fun (f, c) => { f with name := c } }
      let (body, recursivePart, op) := match q with
        | .compound op l r => if Query.reads name 1000 r then (l, some r, op) else (q, none, op)
        | _ => (q, none, CompoundOp.unionAll)
      let others := fun (e : Env) => { e with ctes := e.ctes.filter fun (c, _) => !sameName c name }
      match recursivePart with
      | none =>
        let r ← withReader others (evalQuery fuel q)
        rename r
      | some step =>
        let start ← rename (← withReader others (evalQuery fuel body))
        let colls := start.fields.map (·.collation)
        let mut all := if op == .union then distinctRows colls start.rows else start.rows
        let mut working := all
        for _ in [0:1000000] do
          if working.isEmpty then break
          let current : Relation := { start with rows := working }
          let next ← withReader (fun e =>
            { e with ctes := (name, CteValue.rows current) :: e.ctes }) (evalQuery fuel step)
          let fresh := if op == .union then
              (distinctRows colls next.rows).filter fun r => !all.any (compareRows colls · r == .eq)
            else next.rows
          all := all ++ fresh
          working := fresh
        pure { start with rows := all }

end

/-- The fuel evaluation starts with. -/
def evalFuel : Nat := 100000

/-- Evaluates an expression in an environment. -/
def Env.eval (env : Env) (e : Expr) : Except Stop Operand := (evalExpr evalFuel e).run env

/-- Evaluates a query in an environment. -/
def Env.query (env : Env) (q : Query) : Except Stop Relation := (evalQuery evalFuel q).run env

end EnergyModel.Sql
