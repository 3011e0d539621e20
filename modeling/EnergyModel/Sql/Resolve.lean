import EnergyModel.Sql.Function
import EnergyModel.Sql.Schema

/-!
# Resolving the expressions of a definition

The expressions a table or an index is defined with (`CHECK` constraints, generated columns,
index keys and the `WHERE` of a partial index) are checked when the definition is made, before
any row is stored. Each may name only the columns of its table, and each place forbids its own
things:

* every place forbids subqueries and parameters, and aggregates;
* generated columns and index keys forbid naming a column through its table (`t.a`) and naming
  the row id;
* generated columns and indexes forbid functions whose value may change for the same arguments
  (`random()`, the connection's counters, the clock keywords), which a `CHECK` constraint may
  use.

A function must be known, with a number of arguments it takes. A double-quoted name that is no
column is a text, and `true` and `false` are the booleans.

The expression is walked in the order of its tree, each node before its operands. An error is
recorded where it is found and a later one replaces it; a column that is not there ends the
walk, and so does any node other than a column or a function call met once an error is
recorded. A function's arguments are walked after its own checks, and the walk goes on after
the call whatever happened inside it. So `zz(a) + random()` in a generated column reports the
forbidden function, while `x + count(*)` reports the missing column.
-/

namespace EnergyModel.Sql

/-- Where an expression of a definition stands. -/
inductive DefinitionPlace where
  | check
  | generated
  | indexKey
  | indexFilter
  deriving BEq, Inhabited

/-- How the place is named in the errors of things it forbids. -/
def DefinitionPlace.phrase : DefinitionPlace → String
  | .check => "CHECK constraints"
  | .generated => "generated columns"
  | .indexKey => "index expressions"
  | .indexFilter => "partial index WHERE clauses"

/-- Whether the place forbids naming a column through its table. -/
def DefinitionPlace.forbidsQualifier : DefinitionPlace → Bool
  | .generated | .indexKey => true
  | _ => false

/-- Whether the place forbids functions whose value may change. -/
def DefinitionPlace.forbidsVolatile : DefinitionPlace → Bool
  | .check => false
  | _ => true

/-- What a definition's expression may name: its table, the table's columns, and whether the
row id may be named. -/
structure DefinitionScope where
  table : String
  columns : List String
  rowid : Bool
  place : DefinitionPlace

/-- Whether a name, maybe qualified, is a column of the scope. -/
def DefinitionScope.resolves (sc : DefinitionScope) (qualifier : Option String) (name : String)
    (doubleQuoted : Bool) : Bool :=
  let known := sc.columns.any (sameName · name) || (sc.rowid && isRowidName name)
  match qualifier with
  | some q => sameName q sc.table && known
  | none => known || doubleQuoted || name.toLower == "true" || name.toLower == "false"

/-- The text naming a column that is not there. -/
def missingColumnText (qualifier : Option String) (name : String) : String :=
  "no such column: " ++ (match qualifier with
    | some q => q ++ "." ++ name
    | none => name)

/-- Whether an expression is a literal real from 0 to 1, as the second argument of
`likelihood` must be. -/
def isProbability : Expr → Bool
  | .number t =>
    (t.contains '.' || t.contains 'e' || t.contains 'E') &&
      (let x := (readReal t).1; 0.0 ≤ x && x ≤ 1.0)
  | _ => false

/-- The error a function call itself makes in a place, given the error recorded before it. -/
def DefinitionScope.callError (sc : DefinitionScope) (name : String) (args : List Expr)
    (star : Bool) (filter : Option Expr) (order : List OrderingTerm) (overWindow : Option Window)
    (error : Option String) : Option String :=
  let n := if star then 0 else args.length
  let windowCapable := isWindowOnly name || isAggregate name n
  if overWindow.isSome && arityOk name n != none && !windowCapable then
    some (name ++ "() may not be used as a window function")
  else if overWindow.isSome && windowCapable then some ("misuse of window function " ++ name ++ "()")
  else
  match arityOk name n with
  | none => some ("no such function: " ++ name)
  | some false => some ("wrong number of arguments to function " ++ name ++ "()")
  | some true =>
    let error :=
      if name.toLower == "likelihood" && !isProbability (args.getD 1 (.literal .null)) then
        some ("second argument to " ++ name ++ "() must be a constant between 0.0 and 1.0")
      else error
    let error :=
      if sc.place.forbidsVolatile && isVolatile name then
        some ("non-deterministic functions prohibited in " ++ sc.place.phrase)
      else error
    if isWindowOnly name then some ("misuse of window function " ++ name ++ "()")
    else if isAggregate name n then some ("misuse of aggregate function " ++ name ++ "()")
    else if filter.isSome then some ("FILTER may not be used with non-aggregate " ++ name ++ "()")
    else if !order.isEmpty then some ("ORDER BY may not be used with non-aggregate " ++ name ++ "()")
    else error

/-- The name a pattern operator calls. -/
def PatternOp.functionName : PatternOp → String
  | .like => "LIKE"
  | .glob => "GLOB"
  | .regexp => "REGEXP"
  | .matchOp => "MATCH"

mutual

/-- Walks an expression from the error recorded so far: the error recorded after it, and
whether the walk ended. -/
def DefinitionScope.walk (sc : DefinitionScope) (fuel : Nat) (e : Expr) (error : Option String) :
    Option String × Bool :=
  match fuel with
  | 0 => (error, true)
  | fuel + 1 =>
    -- a node other than a column or a call ends the walk once an error is recorded
    let node (operands : List Expr) : Option String × Bool :=
      if error.isSome then (error, true) else sc.walkList fuel operands error
    match e with
    | .column q n dq =>
      let error :=
        if q.isSome && sc.place.forbidsQualifier then
          some ("the \".\" operator prohibited in " ++ sc.place.phrase)
        else error
      if sc.resolves q n dq then (error, false) else (some (missingColumnText q n), true)
    | .call name _ args star filter order overWindow =>
      let error := sc.callError name args star filter order overWindow error
      ((sc.walkList fuel args error).1, false)
    | .pattern op negated subject pat escape =>
      let call := Expr.call op.functionName false ([pat, subject] ++ escape.toList) false none [] none
      if negated then node [call] else sc.walk fuel call error
    | .binary .extract a b => sc.walk fuel (.call "->" false [a, b] false none [] none) error
    | .binary .extractValue a b => sc.walk fuel (.call "->>" false [a, b] false none [] none) error
    | .subquery _ | .existsQuery _ | .inQuery .. | .inTable .. =>
      (some ("subqueries prohibited in " ++ sc.place.phrase), true)
    | .parameter _ => (some ("parameters prohibited in " ++ sc.place.phrase), true)
    | .unary _ a | .collate a _ | .cast a _ | .isNull _ a => node [a]
    | .binary _ a b => node [a, b]
    | .between negated a b c =>
      if negated then node [.between false a b c] else node [a, b, c]
    | .inList negated a items =>
      if negated then node [.inList false a items] else node (a :: items)
    | .caseWhen o bs d => node (o.toList ++ bs.flatMap (fun (x, y) => [x, y]) ++ d.toList)
    | .vector items => node items
    | .raise _ _ | .literal _ | .number _ | .slot _ => node []

/-- Walks expressions in order until the walk ends. -/
def DefinitionScope.walkList (sc : DefinitionScope) (fuel : Nat) (es : List Expr)
    (error : Option String) : Option String × Bool :=
  match fuel, es with
  | 0, _ => (error, true)
  | _, [] => (error, false)
  | fuel + 1, e :: rest =>
    let (error, ended) := sc.walk fuel e error
    if ended then (error, true) else sc.walkList fuel rest error

end

/-- The error of the first of some expressions that has one. -/
def DefinitionScope.firstError (sc : DefinitionScope) (es : List Expr) : Option String :=
  es.findSome? fun e => (sc.walk 10000 e none).1

/-- Whether an expression holds a `RAISE`, which may only run in a trigger. -/
def Expr.hasRaise : Nat → Expr → Bool
  | 0, _ => false
  | fuel + 1, e =>
    let go := Expr.hasRaise fuel
    match e with
    | .raise .. => true
    | .unary _ a | .collate a _ | .cast a _ | .isNull _ a => go a
    | .binary _ a b => go a || go b
    | .pattern _ _ a b c => go a || go b || (c.map go).getD false
    | .between _ a b c => go a || go b || go c
    | .inList _ a items => go a || items.any go
    | .inQuery _ a _ | .inTable _ a _ => go a
    | .caseWhen o bs d =>
      (o.map go).getD false || bs.any (fun (x, y) => go x || go y) || (d.map go).getD false
    | .call _ _ args _ f _ _ => args.any go || (f.map go).getD false
    | .vector items => items.any go
    | _ => false

/-- The error of a `RAISE` outside a trigger. -/
def raiseOutsideTrigger : String := "RAISE() may only be used within a trigger-program"

end EnergyModel.Sql
