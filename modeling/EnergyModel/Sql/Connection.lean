import EnergyModel.Sql.Define
import EnergyModel.Sql.Grammar.Statement

/-!
# Connections

A connection runs statements one at a time against a database, each as a whole: a statement
that fails leaves the database as it found it, unless the broken constraint said otherwise —
`FAIL` keeps the rows changed before it, and `ROLLBACK` undoes the whole transaction and ends
it.

Outside a transaction every statement commits on its own. `BEGIN` opens a transaction, which
`COMMIT` ends keeping its changes and `ROLLBACK` ends undoing them; `SAVEPOINT` marks a point
that `ROLLBACK TO` returns to and `RELEASE` forgets (opening a transaction when there is none,
which releasing it then commits).

Foreign keys are counted while a statement runs (`Sql.Change`). An immediate key still broken
when the statement ends fails it; a deferred one fails the commit, which leaves the
transaction open. Outside a transaction the two are the same.

A script runs statement after statement and stops at the first error, keeping what the
statements before it did. Closing a connection undoes a transaction left open and forgets the
temporary objects.
-/

namespace EnergyModel.Sql

/-- A savepoint: its name, and the database and deferred key count it returns to. -/
structure Savepoint where
  name : String
  db : Database
  deferred : Int
  deriving Inhabited

/-- An open connection: its database, the transaction open (the database as it began), the
savepoints (innermost first), whether a savepoint opened the transaction, the deferred broken
foreign keys, and whether foreign keys are enforced. -/
structure Connection where
  db : Database
  transaction : Option Database
  savepoints : List Savepoint
  bySavepoint : Bool
  deferred : Int
  keysOn : Bool
  /-- The row id of the last row inserted. -/
  lastRowid : Int := 0
  /-- The rows the last statement that changed rows changed. -/
  changes : Int := 0
  /-- The rows changed since the connection opened. -/
  totalChanges : Int := 0
  /-- The options set by pragmas. -/
  settings : Settings := {}
  deriving Inhabited

/-- A connection to a database, outside any transaction, enforcing foreign keys. -/
def Connection.open (db : Database) : Connection :=
  { db, transaction := none, savepoints := [], bySavepoint := false, deferred := 0, keysOn := true }

/-- The connection ended: a transaction left open is undone, and the temporary objects are
gone. -/
def Connection.close (c : Connection) : Database :=
  (c.transaction.getD c.db).withoutTemp

/-- The connection with its transaction undone and ended. -/
def Connection.rolledBack (c : Connection) : Connection :=
  { c with db := c.transaction.getD c.db, transaction := none, savepoints := [], bySavepoint := false,
           deferred := 0 }

/-- Runs a change as one statement: its changes are kept when it succeeds, and undone as the
error says when it fails. -/
def Connection.apply (c : Connection) (counted : Bool) (action : Change Unit) :
    Connection × Option SqlError :=
  let w : Work :=
    { db := c.db, immediate := 0, deferred := c.deferred, keysOn := c.keysOn, running := [],
      lastRowid := c.lastRowid, changes := c.changes, totalChanges := c.totalChanges,
      settings := c.settings }
  let (result, after) := (action.run).run w
  let c := { c with lastRowid := after.lastRowid, totalChanges := after.totalChanges }
  let undone : Connection := if counted then { c with changes := 0 } else c
  let keysBroken := after.immediate > 0 || (c.transaction.isNone && after.deferred > 0)
  let kept : Connection :=
    { c with db := after.db, deferred := if c.transaction.isNone then 0 else after.deferred,
             changes := if counted then after.rowsChanged else c.changes,
             totalChanges := if counted then after.totalChanges + after.rowsChanged else c.totalChanges }
  match result with
  | .ok () | .error .ignoreRow =>
    if keysBroken then (undone, some .foreignKey) else (kept, none)
  | .error (.error e action) =>
    match action with
    | .rollback => (c.rolledBack, some e)
    | .fail => if keysBroken then (undone, some .foreignKey) else (kept, some e)
    | _ => (undone, some e)

/-- The word a pragma value spells: a number, a text or a bare word. -/
def pragmaWord (e : Expr) : Option String :=
  match e with
  | .number t => some t
  | .literal (.text t) => some t
  | .column _ t _ => some t
  | _ => none

/-- The encoding a pragma names. -/
def encodingNamed (n : String) : Option TextEncoding :=
  match n.toLower with
  | "utf8" | "utf-8" => some .utf8
  | "utf-16le" | "utf16le" | "utf-16" | "utf16" => some .utf16le
  | "utf-16be" | "utf16be" => some .utf16be
  | _ => none

/-- Whether a pragma value turns a flag on: `1`, `ON`, `YES`, `TRUE`. -/
def pragmaFlag (e : Expr) : Option Bool :=
  match (pragmaWord e).map String.toLower with
  | some "1" | some "on" | some "yes" | some "true" => some true
  | some "0" | some "off" | some "no" | some "false" => some false
  | _ => none

/-- Runs one statement. -/
def Connection.run (c : Connection) (parameters : List Value) (s : Statement) : Connection × Option SqlError :=
  match s with
  | .begin =>
    if c.transaction.isSome then (c, some (.logic "cannot start a transaction within a transaction"))
    else ({ c with transaction := some c.db, bySavepoint := false }, none)
  | .commit =>
    if c.transaction.isNone then (c, some (.logic "cannot commit - no transaction is active"))
    else if c.deferred > 0 then (c, some .foreignKey)
    else ({ c with transaction := none, savepoints := [], bySavepoint := false }, none)
  | .rollback none =>
    if c.transaction.isNone then (c, some (.logic "cannot rollback - no transaction is active"))
    else (c.rolledBack, none)
  | .rollback (some name) =>
    match c.savepoints.findIdx? (sameName ·.name name) with
    | none => (c, some (.logic ("no such savepoint: " ++ name)))
    | some k =>
      let sp := c.savepoints.getD k default
      ({ c with db := sp.db, deferred := sp.deferred, savepoints := c.savepoints.drop k }, none)
  | .savepoint name =>
    let c := if c.transaction.isNone then { c with transaction := some c.db, bySavepoint := true } else c
    ({ c with savepoints := ⟨name, c.db, c.deferred⟩ :: c.savepoints }, none)
  | .release name =>
    match c.savepoints.findIdx? (sameName ·.name name) with
    | none => (c, some (.logic ("no such savepoint: " ++ name)))
    | some k =>
      if k + 1 == c.savepoints.length && c.bySavepoint then
        if c.deferred > 0 then (c, some .foreignKey)
        else ({ c with transaction := none, savepoints := [], bySavepoint := false }, none)
      else ({ c with savepoints := c.savepoints.drop (k + 1) }, none)
  | .pragma name value =>
    let flag := value.bind pragmaFlag
    let set (f : Settings → Settings) : Connection × Option SqlError :=
      ({ c with settings := f c.settings }, none)
    match name.toLower, flag with
    | "foreign_keys", some on => if c.transaction.isNone then ({ c with keysOn := on }, none) else (c, none)
    | "case_sensitive_like", some on => set fun s => { s with caseSensitiveLike := on }
    | "recursive_triggers", some on => set fun s => { s with recursiveTriggers := on }
    | "ignore_check_constraints", some on => set fun s => { s with ignoreChecks := on }
    | "encoding", _ =>
      match value with
      | some e =>
        let n := (pragmaWord e).getD ""
        if !c.db.objects.isEmpty then (c, none)
        else
          match encodingNamed n with
          | some enc => ({ c with db := { c.db with encoding := enc } }, none)
          | none => (c, some (.logic ("unsupported encoding: " ++ n)))
      | none => (c, none)
    | _, _ => (c, none)
  | .noEffect => (c, none)
  | .insert .. | .update .. | .delete .. =>
    let sc : Scope := { scopes := [], ctes := [], inTrigger := false, parameters, override := none }
    c.apply true (execute changeFuel sc s)
  | .query _ =>
    let sc : Scope := { scopes := [], ctes := [], inTrigger := false, parameters, override := none }
    c.apply false (execute changeFuel sc s)
  | _ => c.apply false (defineStatement s)

/-- What the error of a statement points at: a call of a function by its name, a column by its
qualifiers and name, or the object a statement makes by its name. -/
inductive Culprit where
  | call (name : String)
  | column (parts : List String)
  | object (name : String)

/-- The culprit an error's message names, for the errors that point at a token: a function
that is unknown or misused, a column that is unknown or ambiguous, and a table, view or
trigger that exists already. -/
def Culprit.ofMessage (m : String) : Option Culprit :=
  let after (p : String) : Option String := if m.startsWith p then some (m.drop p.length).copy else none
  let called (rest : String) : Option String :=
    if rest.endsWith "()" then some (rest.dropEnd 2).copy else none
  let calls := ["wrong number of arguments to function ", "misuse of aggregate function ",
    "misuse of window function ", "misuse of aggregate: ", "ORDER BY may not be used with non-aggregate ",
    "FILTER may not be used with non-aggregate "]
  let makers := ["table ", "view ", "trigger "]
  match after "no such function: " with
  | some f => some (.call f)
  | none =>
    match calls.findSome? fun p => (after p).bind called with
    | some f => some (.call f)
    | none =>
      if m.endsWith "() may not be used as a window function" then
        some (.call (m.dropEnd "() may not be used as a window function".length).copy)
      else
        match after "no such column: " <|> after "ambiguous column name: " with
        | some c =>
          -- a renamed column is named in double quotes
          let c := if c.length ≥ 2 && c.startsWith "\"" && c.endsWith "\"" then (c.drop 1).dropEnd 1 |>.copy else c
          some (.column (c.splitOn "."))
        | none =>
          if m.endsWith " already exists" then
            (makers.findSome? after).map fun rest => .object (rest.dropEnd " already exists".length).copy
          else none

/-- The name a lexeme gives where a name may stand. -/
def Lexeme.name? (l : Lexeme) : Option String :=
  match l.token with
  | .word w => some w
  | .quoted q _ => some q
  | .string s => some s
  | _ => none

/-- Whether a lexeme gives a name, ASCII case aside. -/
def Lexeme.names (l : Lexeme) (n : String) : Bool := (l.name?.map (sameName · n)) == some true

/-- Where in the script, among the lexemes of a statement, the token a culprit names starts:
the name of the first call of the function; the first part of the first reference to the
column, a bare name being no qualifier, alias or function; the first mention of the object. -/
def Tokens.culpritOffset (t : Tokens) (first stop : Nat) (c : Culprit) : Option Nat :=
  let at? (i : Nat) : Option Lexeme := if i < stop then t.items[i]? else none
  let symbolAt (i : Nat) (s : String) : Bool := ((at? i).map (·.isSymbol s)) == some true
  let before (i : Nat) (p : Lexeme → Bool) : Bool := i > first && ((at? (i - 1)).map p) == some true
  let hit (i : Nat) : Bool :=
    match at? i with
    | none => false
    | some l =>
      match c with
      | .call f => l.names f && symbolAt (i + 1) "("
      | .object n => l.names n
      | .column [x] =>
        -- a column an `UPDATE` sets is named, not read
        let setTarget := symbolAt (i + 1) "=" && (before i (·.isWord "SET") || before i (·.isSymbol ","))
        l.names x && !symbolAt (i + 1) "(" && !symbolAt (i + 1) "." &&
          !before i (·.isSymbol ".") && !before i (·.isWord "AS") && !setTarget
      | .column parts =>
        !before i (·.isSymbol ".") &&
          (parts.zipIdx.all fun (p, k) =>
            ((at? (i + 2 * k)).map (·.names p)) == some true && (k == 0 || symbolAt (i + 2 * k - 1) "."))
  ((List.range (stop - first)).map (first + ·)).find? hit |>.bind fun i => (at? i).map (·.start)

/-- The error of a statement as its script reports it: an error at a token gets the text of the
script from the end of the statement before (`base`) and the token's offset in it. An object
that exists already is named as the statement writes it. -/
def Tokens.place (t : Tokens) (base first stop : Nat) (e : SqlError) : SqlError :=
  let rest := spanText t.script base t.script.utf8ByteSize
  match e with
  | .located m _ offset => .located m rest (offset - base)
  | .logic m =>
    let culprit := Culprit.ofMessage m
    match culprit.bind (t.culpritOffset first stop) with
    | some offset =>
      let m := match culprit, t.items.find? (·.start == offset) with
        | some (.object _), some l => (m.splitOn " ").headD "" ++ " " ++ spanText t.script l.start l.stop ++ " already exists"
        | _, _ => m
      .located m rest (offset - base)
    | none => e
  | e => e

/-- Runs a script statement by statement from a lexeme position, stopping at the first error;
the fuel bounds the number of statements. The text of a statement runs from `base`, the end of
the statement before it. -/
def Connection.runFrom (tokens : Tokens) : Nat → Connection → Nat → Nat → Connection × Option SqlError
  | 0, c, _, _ => (c, none)
  | fuel + 1, c, base, pos =>
    if pos ≥ tokens.items.size then (c, none)
    else
      let nextBase (next : Nat) : Nat := ((tokens.items[next - 1]?).map (·.stop)).getD base
      match tokens.statementAt pos with
      | .error e => (c, some (tokens.place base pos tokens.items.size e))
      | .ok (none, next) =>
        -- an empty statement belongs to the text of the statement after it
        if next ≤ pos then (c, none) else Connection.runFrom tokens fuel c base next
      | .ok (some s, next) =>
        let (c, err) := c.run [] s
        match err with
        | some e => (c, some (tokens.place base pos next e))
        | none => if next ≤ pos then (c, none) else Connection.runFrom tokens fuel c (nextBase next) next

/-- Runs a script, stopping at the first error. -/
def Connection.runScript (c : Connection) (script : String) : Connection × Option SqlError :=
  let tokens := Tokens.ofScript script
  Connection.runFrom tokens (tokens.items.size + 1) c 0 0

/-- Runs a script on a database and closes the connection: the database as the script left it
(up to its first error), with that error if there was one. -/
def Database.runScript (db : Database) (script : String) : Database × Option SqlError :=
  let (c, err) := (Connection.open db).runScript script
  (c.close, err)

end EnergyModel.Sql
