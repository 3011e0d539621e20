import EnergyModel.Sql.Syntax
import EnergyModel.Sql.Token
import EnergyModel.Sql.Error

/-!
# Reading statements

`readStatement` reads one statement from a position in the lexemes of a script, by recursive
descent. Operators bind, from loosest to tightest: `OR`; `AND`; prefix `NOT`; the equality
level (`=`, `==`, `!=`, `<>`, `IS [NOT] [DISTINCT FROM]`, `IN`, `LIKE`, `GLOB`, `REGEXP`,
`MATCH`, `BETWEEN`, `ISNULL`, `NOTNULL`, `NOT NULL`); `<`, `<=`, `>`, `>=`; `&`, `|`, `<<`, `>>`;
`+`, `-`; `*`, `/`, `%`; `||`, `->`, `->>`; postfix `COLLATE`; prefix `-`, `+`, `~`. All infix
operators group to the left. The low end of a `BETWEEN` is read above `AND`, so that the `AND`
of the `BETWEEN` ends it, and its high end above the equality level; a `LIKE` pattern and its
escape are read above the equality level too.

A word is a name unless it is one of the reserved keywords; texts in single quotes also serve
as names where a name of a schema object is expected.

A failure names the token where reading stopped, with its place in the script:
`near "x": syntax error`, or `incomplete input` at the end of the script.

Every reading function takes a fuel that each call lowers by one; `readStatement` starts with a
multiple of the number of lexemes, which bounds the depth of any reading.
-/

namespace EnergyModel.Sql

/-- The lexemes of a script with the script itself, for cutting spans out of it. -/
structure Tokens where
  script : String
  items : Array Lexeme

/-- A reader: from the lexemes and a position, a result and the position after it. -/
abbrev Grammar := ReaderT Tokens (StateT Nat (Except SqlError))

namespace Grammar

/-- The lexeme `k` places ahead. -/
def peekAt (k : Nat) : Grammar (Option Lexeme) := do
  return (← read).items[(← get) + k]?

/-- The next lexeme. -/
def peek : Grammar (Option Lexeme) := peekAt 0

/-- Moves past the next lexeme. -/
def skip : Grammar Unit := modify (· + 1)

/-- The text of a lexeme as written. -/
def textOf (l : Lexeme) : Grammar String := return spanText (← read).script l.start l.stop

/-- Fails at the next lexeme. -/
def failHere {α : Type} : Grammar α := do
  match ← peek with
  | some l =>
    match l.token with
    | .illegal _ => throw (.located ("unrecognized token: \"" ++ (← textOf l) ++ "\"") (← read).script l.start)
    | _ => throw (.near (← textOf l) (← read).script l.start)
  | none => throw (.logic "incomplete input")

/-- Whether the lexeme `k` places ahead is a keyword. -/
def wordAt (k : Nat) (w : String) : Grammar Bool := do
  return ((← peekAt k).map fun l => l.isWord w) == some true

/-- Whether the next lexeme is a keyword. -/
def atWord (w : String) : Grammar Bool := wordAt 0 w

/-- Whether the lexeme `k` places ahead is a symbol. -/
def symbolAt (k : Nat) (s : String) : Grammar Bool := do
  return ((← peekAt k).map fun l => l.isSymbol s) == some true

/-- Whether the next lexeme is a symbol. -/
def atSymbol (s : String) : Grammar Bool := symbolAt 0 s

/-- Moves past a keyword if it is next. -/
def eatWord (w : String) : Grammar Bool := do
  if ← atWord w then skip; return true else return false

/-- Moves past a symbol if it is next. -/
def eatSymbol (s : String) : Grammar Bool := do
  if ← atSymbol s then skip; return true else return false

/-- Moves past a keyword that must be next. -/
def expectWord (w : String) : Grammar Unit := do
  unless ← eatWord w do failHere

/-- Moves past a symbol that must be next. -/
def expectSymbol (s : String) : Grammar Unit := do
  unless ← eatSymbol s do failHere

/-- The keywords that never serve as names. -/
def reservedWords : List String :=
  ["ADD", "ALL", "ALTER", "AND", "AS", "AUTOINCREMENT", "BETWEEN", "CASE", "CHECK", "COLLATE",
    "COMMIT", "CONSTRAINT", "CREATE", "DEFAULT", "DEFERRABLE", "DELETE", "DISTINCT", "DROP",
    "ELSE", "ESCAPE", "EXCEPT", "EXISTS", "FOREIGN", "FROM", "GROUP", "HAVING", "IN", "INDEX",
    "INDEXED", "INSERT", "INTERSECT", "INTO", "IS", "ISNULL", "JOIN", "LIMIT", "NOT", "NOTHING", "NOTNULL",
    "NULL", "ON", "OR", "ORDER", "PRIMARY", "REFERENCES", "RETURNING", "SELECT",
    "SET", "TABLE", "THEN", "TO", "TRANSACTION", "UNION", "UNIQUE", "UPDATE", "USING", "VALUES",
    "WHEN", "WHERE", "CROSS", "FULL", "INNER", "LEFT", "NATURAL", "OUTER", "RIGHT"]

/-- The keywords of joins, which name objects and columns but are no aliases. -/
def joinWords : List String := ["CROSS", "FULL", "INNER", "LEFT", "NATURAL", "OUTER", "RIGHT"]

/-- Whether a word is reserved. -/
def isReserved (w : String) : Bool := reservedWords.contains w.toUpper

/-- Reads a name if one is next: a word that is not reserved, a quoted name, and, with
`texts`, a text in single quotes; with `joins`, also a join keyword. -/
def name? (texts joins : Bool) : Grammar (Option String) := do
  match ← peek with
  | some l =>
    match l.token with
    | .word w =>
      if !isReserved w || (joins && joinWords.contains w.toUpper) then skip; return some w
      else return none
    | .quoted q _ => skip; return some q
    | .string s => if texts then skip; return some s else return none
    | _ => return none
  | none => return none

/-- Reads the name of a schema object or column, which must be next. -/
def objectName : Grammar String := do
  match ← name? true true with
  | some n => return n
  | none => failHere

/-- Reads a name, possibly qualified by a schema: `name` or `schema.name`. -/
def qualifiedName : Grammar ObjectName := do
  let first ← objectName
  if ← eatSymbol "." then
    let second ← objectName
    return { schema := some first, name := second }
  return { schema := none, name := first }

/-- Reads a list of names in brackets. -/
def nameList : Grammar (List String) := do
  expectSymbol "("
  let mut names : Array String := #[]
  for _ in [0:100000] do
    names := names.push (← objectName)
    unless ← eatSymbol "," do break
  expectSymbol ")"
  return names.toList

/-- Reads a conflict resolution name. -/
def conflictName : Grammar Conflict := do
  if ← eatWord "ROLLBACK" then return .rollback
  if ← eatWord "ABORT" then return .abort
  if ← eatWord "FAIL" then return .fail
  if ← eatWord "IGNORE" then return .ignore
  if ← eatWord "REPLACE" then return .replace
  failHere

/-- Reads an optional `ON CONFLICT` clause of a constraint. -/
def onConflict : Grammar (Option Conflict) := do
  if (← atWord "ON") && (← wordAt 1 "CONFLICT") then
    skip; skip
    return some (← conflictName)
  return none

/-- Reads a type name: words and texts, then maybe one or two signed numbers in brackets. The
result is its text as written, empty when there is none. -/
def typeName : Grammar String := do
  let startPos ← get
  let mut count := 0
  for _ in [0:100000] do
    match ← peek with
    | some l =>
      match l.token with
      | .word w => if isReserved w then break else skip; count := count + 1
      | .quoted _ _ | .string _ => skip; count := count + 1
      | _ => break
    | none => break
  if count == 0 then return ""
  if ← atSymbol "(" then
    skip
    for _ in [0:2] do
      if !(← eatSymbol "+") then
        let _ ← eatSymbol "-"
      match ← peek with
      | some l =>
        match l.token with
        | .number _ => skip
        | _ => failHere
      | none => failHere
      unless ← eatSymbol "," do break
    expectSymbol ")"
  let r ← read
  let endPos ← get
  match r.items[startPos]?, r.items[endPos - 1]? with
  | some a, some b => return spanText r.script a.start b.stop
  | _, _ => return ""

/-- The operator of the equality level that the next lexemes spell, with how many lexemes. -/
def equalityOp : Grammar (Option (BinaryOp × Nat)) := do
  match ← peek with
  | some l =>
    match l.token with
    | .symbol "=" | .symbol "==" => return some (.eq, 1)
    | .symbol "!=" | .symbol "<>" => return some (.ne, 1)
    | .word _ =>
      if l.isWord "IS" then
        if ← wordAt 1 "NOT" then
          if (← wordAt 2 "DISTINCT") && (← wordAt 3 "FROM") then return some (.is, 4)
          return some (.isNot, 2)
        if (← wordAt 1 "DISTINCT") && (← wordAt 2 "FROM") then return some (.isNot, 3)
        return some (.is, 1)
      return none
    | _ => return none
  | none => return none

/-- The pattern operator a word names. -/
def patternOp? (l : Lexeme) : Option PatternOp :=
  if l.isWord "LIKE" then some .like
  else if l.isWord "GLOB" then some .glob
  else if l.isWord "REGEXP" then some .regexp
  else if l.isWord "MATCH" then some .matchOp
  else none

/-- The comparison operator a symbol names. -/
def comparisonOp? (l : Lexeme) : Option BinaryOp :=
  if l.isSymbol "<" then some .lt
  else if l.isSymbol "<=" then some .le
  else if l.isSymbol ">" then some .gt
  else if l.isSymbol ">=" then some .ge
  else none

/-- The operators of the tighter binary levels: bits, sums, products, concatenation. -/
def tightOp? (level : Nat) (l : Lexeme) : Option BinaryOp :=
  match level with
  | 5 =>
    if l.isSymbol "&" then some .bitAnd
    else if l.isSymbol "|" then some .bitOr
    else if l.isSymbol "<<" then some .shiftLeft
    else if l.isSymbol ">>" then some .shiftRight
    else none
  | 6 => if l.isSymbol "+" then some .add else if l.isSymbol "-" then some .sub else none
  | 7 =>
    if l.isSymbol "*" then some .mul
    else if l.isSymbol "/" then some .div
    else if l.isSymbol "%" then some .rem
    else none
  | 8 =>
    if l.isSymbol "||" then some .concat
    else if l.isSymbol "->" then some .extract
    else if l.isSymbol "->>" then some .extractValue
    else none
  | _ => none

/-- The action of a `RAISE`. -/
def raiseAction : Grammar RaiseAction := do
  if ← eatWord "IGNORE" then return .ignore
  if ← eatWord "ROLLBACK" then return .rollback
  if ← eatWord "ABORT" then return .abort
  if ← eatWord "FAIL" then return .fail
  failHere

/-- Whether a query starts at the next lexeme. -/
def atQuery : Grammar Bool := do
  return (← atWord "SELECT") || (← atWord "VALUES") || (← atWord "WITH")

/-- The error of reading too deeply nested text. -/
def tooDeep : SqlError := .logic "parser stack overflow"

/-- The text from a lexeme position up to the start of the next lexeme, blanks trimmed. -/
def spanFrom (startPos : Nat) : Grammar String := do
  let r ← read
  let endPos ← get
  let start := (r.items[startPos]?.map (·.start)).getD r.script.utf8ByteSize
  let stop := (r.items[endPos]?.map (·.start)).getD r.script.utf8ByteSize
  return (spanText r.script start stop).trimAscii.toString

/-- An alias after a table or result column: `AS name`, or a name that is not a keyword of
what may follow. -/
def alias? : Grammar (Option String) := do
  if ← eatWord "AS" then return some (← objectName)
  -- `WINDOW name AS` starts the named windows of a `SELECT`
  if (← atWord "WINDOW") && (← wordAt 2 "AS") then return none
  name? true false

mutual

/-- Reads an expression. -/
def expr (fuel : Nat) : Grammar Expr :=
  match fuel with
  | 0 => throw tooDeep
  | fuel + 1 => level fuel 0

/-- Reads an expression whose operators all bind at least as tightly as a level. -/
def level (fuel : Nat) (k : Nat) : Grammar Expr :=
  match fuel with
  | 0 => throw tooDeep
  | fuel + 1 => do
    if k == 2 then
      if ← eatWord "NOT" then return .unary .not (← level fuel 2)
      level fuel 3
    else if k ≥ 9 then
      let e ← unaryExpr fuel
      collateTail fuel e
    else
      let left ← level fuel (k + 1)
      levelTail fuel k left

/-- Reads the operators of a level after its first operand. -/
def levelTail (fuel : Nat) (k : Nat) (left : Expr) : Grammar Expr :=
  match fuel with
  | 0 => throw tooDeep
  | fuel + 1 => do
    match k with
    | 0 =>
      if ← eatWord "OR" then levelTail fuel 0 (.binary .or left (← level fuel 1)) else return left
    | 1 =>
      if ← eatWord "AND" then levelTail fuel 1 (.binary .and left (← level fuel 2)) else return left
    | 3 => equalityTail fuel left
    | 4 =>
      match ← peek with
      | some l =>
        match comparisonOp? l with
        | some op => skip; levelTail fuel 4 (.binary op left (← level fuel 5))
        | none => return left
      | none => return left
    | _ =>
      match ← peek with
      | some l =>
        match tightOp? k l with
        | some op => skip; levelTail fuel k (.binary op left (← level fuel (k + 1)))
        | none => return left
      | none => return left

/-- Reads the operators of the equality level after a first operand. -/
def equalityTail (fuel : Nat) (left : Expr) : Grammar Expr :=
  match fuel with
  | 0 => throw tooDeep
  | fuel + 1 => do
    match ← equalityOp with
    | some (op, n) =>
      for _ in [0:n] do skip
      equalityTail fuel (.binary op left (← level fuel 4))
    | none =>
      if ← eatWord "ISNULL" then return ← equalityTail fuel (.isNull false left)
      if ← eatWord "NOTNULL" then return ← equalityTail fuel (.isNull true left)
      if (← atWord "NOT") && (← wordAt 1 "NULL") then
        skip; skip
        return ← equalityTail fuel (.isNull true left)
      let negated ← if (← atWord "NOT") then
          match ← peekAt 1 with
          | some l =>
            if (patternOp? l).isSome || l.isWord "BETWEEN" || l.isWord "IN" then skip; pure true
            else pure false
          | none => pure false
        else pure false
      match ← peek with
      | some l =>
        match patternOp? l with
        | some op =>
          skip
          let pat ← level fuel 4
          let esc ← if ← eatWord "ESCAPE" then some <$> level fuel 4 else pure none
          equalityTail fuel (.pattern op negated left pat esc)
        | none =>
          if l.isWord "BETWEEN" then
            skip
            let low ← level fuel 2
            expectWord "AND"
            let high ← level fuel 4
            equalityTail fuel (.between negated left low high)
          else if l.isWord "IN" then
            skip
            if ← eatSymbol "(" then
              if ← atQuery then
                let q ← query fuel
                expectSymbol ")"
                equalityTail fuel (.inQuery negated left q)
              else if ← eatSymbol ")" then
                equalityTail fuel (.inList negated left [])
              else
                let items ← exprList fuel
                expectSymbol ")"
                equalityTail fuel (.inList negated left items)
            else
              let t ← qualifiedName
              if ← atSymbol "(" then failHere
              equalityTail fuel (.inTable negated left t)
          else if negated then failHere
          else return left
      | none => return left

/-- Reads postfix `COLLATE` clauses. -/
def collateTail (fuel : Nat) (e : Expr) : Grammar Expr :=
  match fuel with
  | 0 => throw tooDeep
  | fuel + 1 => do
    if ← eatWord "COLLATE" then
      match ← name? true true with
      | some c => collateTail fuel (.collate e c)
      | none => failHere
    else return e

/-- Reads a prefix operator and its operand, or a primary expression. -/
def unaryExpr (fuel : Nat) : Grammar Expr :=
  match fuel with
  | 0 => throw tooDeep
  | fuel + 1 => do
    if ← eatSymbol "-" then return .unary .negate (← unaryExpr fuel)
    if ← eatSymbol "+" then return .unary .plus (← unaryExpr fuel)
    if ← eatSymbol "~" then return .unary .bitNot (← unaryExpr fuel)
    primary fuel

/-- Reads a comma-separated list of expressions. -/
def exprList (fuel : Nat) : Grammar (List Expr) :=
  match fuel with
  | 0 => throw tooDeep
  | fuel + 1 => do
    let e ← expr fuel
    if ← eatSymbol "," then return e :: (← exprList fuel) else return [e]

/-- Reads the branches of a `CASE`. -/
def caseBranches (fuel : Nat) : Grammar (List (Expr × Expr)) :=
  match fuel with
  | 0 => throw tooDeep
  | fuel + 1 => do
    if ← eatWord "WHEN" then
      let c ← expr fuel
      expectWord "THEN"
      let r ← expr fuel
      return (c, r) :: (← caseBranches fuel)
    else return []

/-- Reads a primary expression: a literal, a name, a call, a bracketed expression or query, a
`CAST`, a `CASE`, `EXISTS` or `RAISE`. -/
def primary (fuel : Nat) : Grammar Expr :=
  match fuel with
  | 0 => throw tooDeep
  | fuel + 1 => do
    let some l ← peek | failHere
    match l.token with
    | .number t => skip; return .number t
    | .string s => skip; return .literal (.text s)
    | .blob bs => skip; return .literal (.blob bs)
    | .parameter p => skip; return .parameter p
    | .symbol "(" =>
      skip
      if ← atQuery then
        let q ← query fuel
        expectSymbol ")"
        return .subquery q
      let items ← exprList fuel
      expectSymbol ")"
      match items with
      | [e] => return e
      | _ => return .vector items
    | .quoted q dq =>
      skip
      columnRest fuel q dq
    | .word w =>
      if l.isWord "NULL" then skip; return .literal .null
      if l.isWord "CAST" && (← symbolAt 1 "(") then
        skip; skip
        let e ← expr fuel
        expectWord "AS"
        let t ← typeName
        expectSymbol ")"
        return .cast e t
      if l.isWord "CASE" then
        skip
        let operand ← if ← atWord "WHEN" then pure none else some <$> expr fuel
        let branches ← caseBranches fuel
        if branches.isEmpty then failHere
        let otherwise ← if ← eatWord "ELSE" then some <$> expr fuel else pure none
        expectWord "END"
        return .caseWhen operand branches otherwise
      if l.isWord "EXISTS" && (← symbolAt 1 "(") then
        skip; skip
        let q ← query fuel
        expectSymbol ")"
        return .existsQuery q
      if l.isWord "RAISE" && (← symbolAt 1 "(") then
        skip; skip
        let action ← raiseAction
        let message ← if action == .ignore then pure none
          else do expectSymbol ","; pure (some (← expr fuel))
        expectSymbol ")"
        return .raise action message
      -- a join keyword names a column in an expression
      if isReserved w && !joinWords.contains w.toUpper then failHere
      skip
      -- the clock keywords are calls without parentheses
      if ["CURRENT_DATE", "CURRENT_TIME", "CURRENT_TIMESTAMP"].contains w.toUpper then
        return .call w.toLower false [] false none [] none
      if ← atSymbol "(" then
        skip
        if ← eatSymbol "*" then
          expectSymbol ")"
          let f ← filterClause fuel
          return .call w false [] true f [] (← overClause fuel)
        if ← eatSymbol ")" then
          let f ← filterClause fuel
          return .call w false [] false f [] (← overClause fuel)
        let distinct ← eatWord "DISTINCT"
        let args ← exprList fuel
        let order ← if (← atWord "ORDER") && (← wordAt 1 "BY") then
            skip; skip
            orderingTerms fuel
          else pure []
        expectSymbol ")"
        let f ← filterClause fuel
        let overWindow ← overClause fuel
        if distinct && overWindow.isSome then
          throw (.logic "DISTINCT is not supported for window functions")
        return .call w distinct args false f order overWindow
      columnRest fuel w false
    | _ => failHere

/-- Reads an optional `FILTER (WHERE …)` after a call. -/
def filterClause (fuel : Nat) : Grammar (Option Expr) :=
  match fuel with
  | 0 => throw tooDeep
  | fuel + 1 => do
    if (← atWord "FILTER") && (← symbolAt 1 "(") then
      skip; skip
      expectWord "WHERE"
      let e ← expr fuel
      expectSymbol ")"
      return some e
    return none

/-- Reads an optional `OVER` after a call: a window in brackets, or the name of one. `OVER` is
a keyword only before a bracket or a name. -/
def overClause (fuel : Nat) : Grammar (Option Window) :=
  match fuel with
  | 0 => throw tooDeep
  | fuel + 1 => do
    if !(← atWord "OVER") then return none
    if ← symbolAt 1 "(" then
      skip; skip
      let w ← windowBody fuel
      expectSymbol ")"
      return some w
    match ← peekAt 1 with
    | some l =>
      match l.token with
      | .word n =>
        if isReserved n then return none
        skip; skip
        return some (.named n)
      | .quoted n _ =>
        skip; skip
        return some (.named n)
      | _ => return none
    | none => return none

/-- Reads the inside of a window's brackets: a window it builds on, `PARTITION BY`, `ORDER BY`
and a frame, each optional. -/
def windowBody (fuel : Nat) : Grammar Window :=
  match fuel with
  | 0 => throw tooDeep
  | fuel + 1 => do
    let startsClause : Grammar Bool := do
      if (← atWord "PARTITION") && (← wordAt 1 "BY") then return true
      if (← atWord "ORDER") && (← wordAt 1 "BY") then return true
      return (← atWord "ROWS") || (← atWord "RANGE") || (← atWord "GROUPS")
    let base ← if (← atSymbol ")") || (← startsClause) then pure none else some <$> objectName
    let partition ← if (← atWord "PARTITION") && (← wordAt 1 "BY") then
        skip; skip
        exprList fuel
      else pure []
    let order ← if (← atWord "ORDER") && (← wordAt 1 "BY") then
        skip; skip
        orderingTerms fuel
      else pure []
    let frame ← frameSpec fuel
    return .mk base partition order frame

/-- Reads an optional window frame: its unit, its bounds (one bound ends at the current row),
and what it leaves out. -/
def frameSpec (fuel : Nat) : Grammar (Option Frame) :=
  match fuel with
  | 0 => throw tooDeep
  | fuel + 1 => do
    let unit ← if ← eatWord "ROWS" then pure (some FrameUnit.rows)
      else if ← eatWord "RANGE" then pure (some FrameUnit.range)
      else if ← eatWord "GROUPS" then pure (some FrameUnit.groups)
      else pure none
    match unit with
    | none => return none
    | some u =>
      let (start, finish) ← if ← eatWord "BETWEEN" then
          let a ← frameBound fuel true
          expectWord "AND"
          let b ← frameBound fuel false
          pure (a, b)
        else pure (← frameBound fuel true, FrameBound.currentRow)
      let exclusion ← if ← eatWord "EXCLUDE" then
          if ← eatWord "NO" then do expectWord "OTHERS"; pure FrameExclusion.noOthers
          else if ← eatWord "CURRENT" then do expectWord "ROW"; pure FrameExclusion.currentRow
          else if ← eatWord "GROUP" then pure FrameExclusion.group
          else do expectWord "TIES"; pure FrameExclusion.ties
        else pure FrameExclusion.noOthers
      -- a frame may not end before it starts
      let unsupported := match start, finish with
        | .currentRow, .preceding _ => true
        | .following _, .preceding _ => true
        | .following _, .currentRow => true
        | _, _ => false
      if unsupported then throw (.logic "unsupported frame specification")
      return some (.mk u start finish exclusion)

/-- Reads a bound of a window frame; `UNBOUNDED` is followed by `PRECEDING` in the first bound
and by `FOLLOWING` in the second. -/
def frameBound (fuel : Nat) (first : Bool) : Grammar FrameBound :=
  match fuel with
  | 0 => throw tooDeep
  | fuel + 1 => do
    if ← eatWord "UNBOUNDED" then
      if first then do expectWord "PRECEDING"; return .unboundedPreceding
      else do expectWord "FOLLOWING"; return .unboundedFollowing
    if ← eatWord "CURRENT" then
      expectWord "ROW"
      return .currentRow
    let e ← expr fuel
    if ← eatWord "PRECEDING" then return .preceding e
    expectWord "FOLLOWING"
    return .following e

/-- Reads the named windows of a `WINDOW` clause. -/
def windowDefinitions (fuel : Nat) : Grammar (List (String × Window)) :=
  match fuel with
  | 0 => throw tooDeep
  | fuel + 1 => do
    let n ← objectName
    expectWord "AS"
    expectSymbol "("
    let w ← windowBody fuel
    expectSymbol ")"
    if ← eatSymbol "," then return (n, w) :: (← windowDefinitions fuel) else return [(n, w)]

/-- Reads the rest of a column reference after its first name: `.column` or
`.table.column`. -/
def columnRest (fuel : Nat) (first : String) (doubleQuoted : Bool) : Grammar Expr :=
  match fuel with
  | 0 => throw tooDeep
  | _ + 1 => do
    if ← eatSymbol "." then
      let second ← objectName
      if ← eatSymbol "." then
        let third ← objectName
        return .column (some second) third false
      return .column (some first) second false
    return .column none first doubleQuoted

/-- Reads a query: common tables, then a compound of selects, then an order and a limit. -/
def query (fuel : Nat) : Grammar Query :=
  match fuel with
  | 0 => throw tooDeep
  | fuel + 1 => do
    let (ctes, recursive) ← withClause fuel
    let body ← compound fuel
    let orderBy ← if (← atWord "ORDER") && (← wordAt 1 "BY") then
        skip; skip
        orderingTerms fuel
      else pure []
    let (limit, offset) ← limitClause fuel
    if ctes.isEmpty && orderBy.isEmpty && limit.isNone then return body
    return .ordered ctes recursive body orderBy limit offset

/-- Reads an optional `WITH` clause. -/
def withClause (fuel : Nat) : Grammar (List CommonTable × Bool) :=
  match fuel with
  | 0 => throw tooDeep
  | fuel + 1 => do
    if ← eatWord "WITH" then
      let recursive ← eatWord "RECURSIVE"
      return (← commonTables fuel, recursive)
    return ([], false)

/-- Reads the common tables of a `WITH` clause. -/
def commonTables (fuel : Nat) : Grammar (List CommonTable) :=
  match fuel with
  | 0 => throw tooDeep
  | fuel + 1 => do
    let n ← objectName
    let columns ← if ← atSymbol "(" then nameList else pure []
    expectWord "AS"
    if ← eatWord "NOT" then expectWord "MATERIALIZED"
    else
      let _ ← eatWord "MATERIALIZED"
    expectSymbol "("
    let q ← query fuel
    expectSymbol ")"
    let c := CommonTable.mk n columns q
    if ← eatSymbol "," then return c :: (← commonTables fuel) else return [c]

/-- Reads an optional `LIMIT` clause: `LIMIT n`, `LIMIT n OFFSET m` or `LIMIT m, n`. -/
def limitClause (fuel : Nat) : Grammar (Option Expr × Option Expr) :=
  match fuel with
  | 0 => throw tooDeep
  | fuel + 1 => do
    if ← eatWord "LIMIT" then
      let a ← expr fuel
      if ← eatWord "OFFSET" then return (some a, some (← expr fuel))
      if ← eatSymbol "," then return (some (← expr fuel), some a)
      return (some a, none)
    return (none, none)

/-- Reads the terms of an `ORDER BY`. -/
def orderingTerms (fuel : Nat) : Grammar (List OrderingTerm) :=
  match fuel with
  | 0 => throw tooDeep
  | fuel + 1 => do
    let e ← expr fuel
    let descending ← if ← eatWord "DESC" then pure true else do let _ ← eatWord "ASC"; pure false
    let nulls ← if ← eatWord "NULLS" then
        if ← eatWord "FIRST" then pure (some true)
        else do expectWord "LAST"; pure (some false)
      else pure none
    let t := OrderingTerm.mk e descending nulls
    if ← eatSymbol "," then return t :: (← orderingTerms fuel) else return [t]

/-- Reads selects joined by `UNION`, `UNION ALL`, `INTERSECT` and `EXCEPT`, grouping to the
left. -/
def compound (fuel : Nat) : Grammar Query :=
  match fuel with
  | 0 => throw tooDeep
  | fuel + 1 => do
    let first ← simpleQuery fuel
    compoundTail fuel first

/-- Reads the rest of a compound query after its first part. -/
def compoundTail (fuel : Nat) (left : Query) : Grammar Query :=
  match fuel with
  | 0 => throw tooDeep
  | fuel + 1 => do
    let op? ← if ← eatWord "UNION" then
        if ← eatWord "ALL" then pure (some CompoundOp.unionAll) else pure (some CompoundOp.union)
      else if ← eatWord "INTERSECT" then pure (some CompoundOp.intersect)
      else if ← eatWord "EXCEPT" then pure (some CompoundOp.except)
      else pure none
    match op? with
    | some op => compoundTail fuel (.compound op left (← simpleQuery fuel))
    | none => return left

/-- Reads one `SELECT` or `VALUES`. -/
def simpleQuery (fuel : Nat) : Grammar Query :=
  match fuel with
  | 0 => throw tooDeep
  | fuel + 1 => do
    if ← eatWord "VALUES" then return .values (← valueRows fuel)
    expectWord "SELECT"
    let distinct ← if ← eatWord "DISTINCT" then pure true else do let _ ← eatWord "ALL"; pure false
    let columns ← resultColumns fuel
    let source ← if ← eatWord "FROM" then some <$> source fuel else pure none
    let filter ← if ← eatWord "WHERE" then some <$> expr fuel else pure none
    let groupBy ← if (← atWord "GROUP") && (← wordAt 1 "BY") then
        skip; skip
        exprList fuel
      else pure []
    let having ← if ← eatWord "HAVING" then some <$> expr fuel else pure none
    let windows ← if ← eatWord "WINDOW" then windowDefinitions fuel else pure []
    return .select distinct columns source filter groupBy having windows

/-- Reads the rows of a `VALUES` list. -/
def valueRows (fuel : Nat) : Grammar (List (List Expr)) :=
  match fuel with
  | 0 => throw tooDeep
  | fuel + 1 => do
    expectSymbol "("
    let row ← exprList fuel
    expectSymbol ")"
    if ← eatSymbol "," then return row :: (← valueRows fuel) else return [row]

/-- Reads the result columns of a `SELECT`. -/
def resultColumns (fuel : Nat) : Grammar (List ResultColumn) :=
  match fuel with
  | 0 => throw tooDeep
  | fuel + 1 => do
    let c ← resultColumn fuel
    if ← eatSymbol "," then return c :: (← resultColumns fuel) else return [c]

/-- Reads one result column: `*`, `t.*`, or an expression with an optional alias. -/
def resultColumn (fuel : Nat) : Grammar ResultColumn :=
  match fuel with
  | 0 => throw tooDeep
  | fuel + 1 => do
    if ← eatSymbol "*" then return .all
    let isAllOf ← match ← peek with
      | some l =>
        match l.token with
        | .word _ | .quoted _ _ | .string _ => do
          pure ((← symbolAt 1 ".") && (← symbolAt 2 "*"))
        | _ => pure false
      | none => pure false
    if isAllOf then
      let t ← objectName
      skip; skip
      return .allOf t
    let startPos ← get
    let e ← expr fuel
    let text ← spanFrom startPos
    let a ← alias?
    return .expr e a text

/-- Reads what a `SELECT` reads from: tables and subqueries joined. -/
def source (fuel : Nat) : Grammar Source :=
  match fuel with
  | 0 => throw tooDeep
  | fuel + 1 => do
    let first ← singleSource fuel
    joinTail fuel first

/-- The kind of join the next lexemes spell, if any, moving past them. -/
def joinOperator : Grammar (Option (JoinKind × Bool)) := do
  if ← eatSymbol "," then return some (.inner, false)
  let natural ← eatWord "NATURAL"
  let kind ←
    if ← eatWord "LEFT" then do let _ ← eatWord "OUTER"; pure (some JoinKind.left)
    else if ← eatWord "RIGHT" then do let _ ← eatWord "OUTER"; pure (some JoinKind.right)
    else if ← eatWord "FULL" then do let _ ← eatWord "OUTER"; pure (some JoinKind.full)
    else if ← eatWord "INNER" then pure (some JoinKind.inner)
    else if ← eatWord "CROSS" then pure (some JoinKind.cross)
    else pure none
  if ← eatWord "JOIN" then return some (kind.getD .inner, natural)
  if natural || kind.isSome then failHere
  return none

/-- Reads joins after a first source. -/
def joinTail (fuel : Nat) (left : Source) : Grammar Source :=
  match fuel with
  | 0 => throw tooDeep
  | fuel + 1 => do
    match ← joinOperator with
    | some (kind, natural) =>
      let right ← singleSource fuel
      let on ← if ← eatWord "ON" then some <$> expr fuel else pure none
      let columns ← if on.isNone && (← eatWord "USING") then nameList else pure []
      joinTail fuel (.join left kind natural right on columns)
    | none => return left

/-- Reads one table, subquery or bracketed join. -/
def singleSource (fuel : Nat) : Grammar Source :=
  match fuel with
  | 0 => throw tooDeep
  | fuel + 1 => do
    if ← eatSymbol "(" then
      if ← atQuery then
        let q ← query fuel
        expectSymbol ")"
        return .query q (← alias?)
      let s ← source fuel
      expectSymbol ")"
      let _ ← alias?
      return s
    let n ← qualifiedName
    if ← atSymbol "(" then failHere
    let a ← alias?
    if ← eatWord "INDEXED" then
      expectWord "BY"
      let _ ← objectName
    else if (← atWord "NOT") && (← wordAt 1 "INDEXED") then
      skip; skip
    return .table n a

end

end Grammar

end EnergyModel.Sql
