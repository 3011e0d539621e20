import EnergyModel.Sql.Grammar

/-!
# Reading statements and scripts

`readStatement` reads the statement at a position in a script, up to and including its `;`;
`Script.statementAt` does so for a script given as text. An empty statement (a lone `;`) reads
as none.

A column's declared type is its type words as written, brackets included; a type that ends in
`GENERATED ALWAYS` loses those two words, which belong to the generated-column clause after
it. A check is labelled by its constraint name, or else by its text between the brackets,
trimmed of blanks and, when it starts with a quote, read as the quoted text. A constraint name
holds for the constraints after it up to the next column or the next comma between table
constraints.
-/

namespace EnergyModel.Sql

namespace Grammar

/-- Reads an action of a foreign key: `SET NULL`, `SET DEFAULT`, `CASCADE`, `RESTRICT` or
`NO ACTION`. -/
def keyAction : Grammar KeyAction := do
  if ← eatWord "SET" then
    if ← eatWord "NULL" then return .setNull
    expectWord "DEFAULT"
    return .setDefault
  if ← eatWord "CASCADE" then return .cascade
  if ← eatWord "RESTRICT" then return .restrict
  expectWord "NO"
  expectWord "ACTION"
  return .noAction

/-- Reads the clauses after `REFERENCES table (columns)`: actions, `MATCH`, and whether checking
waits for the commit. -/
def referenceTail (clause : ForeignKeyClause) : Grammar ForeignKeyClause := do
  let mut c := clause
  for _ in [0:1000] do
    if (← atWord "ON") && ((← wordAt 1 "DELETE") || (← wordAt 1 "UPDATE") || (← wordAt 1 "INSERT")) then
      skip
      if ← eatWord "DELETE" then c := { c with onDelete := ← keyAction }
      else if ← eatWord "UPDATE" then c := { c with onUpdate := ← keyAction }
      else
        skip
        let _ ← keyAction
    else if ← eatWord "MATCH" then
      let _ ← objectName
    else if (← atWord "DEFERRABLE") || ((← atWord "NOT") && (← wordAt 1 "DEFERRABLE")) then
      let negated ← eatWord "NOT"
      skip
      let mut deferred := false
      if ← eatWord "INITIALLY" then
        if ← eatWord "DEFERRED" then deferred := true
        else expectWord "IMMEDIATE"
      c := { c with deferred := deferred && !negated }
    else break
  return c

/-- Reads `REFERENCES` and the rest of a foreign key clause. -/
def references : Grammar ForeignKeyClause := do
  expectWord "REFERENCES"
  let table ← objectName
  let columns ← if ← atSymbol "(" then nameList else pure []
  referenceTail { table, columns, onDelete := .noAction, onUpdate := .noAction, deferred := false }

/-- Reads a bracketed condition, with its text between the brackets. -/
def bracketedCondition (fuel : Nat) : Grammar (Expr × String) := do
  let r ← read
  let openPos ← get
  expectSymbol "("
  let e ← expr fuel
  let closePos ← get
  expectSymbol ")"
  let start := (r.items[openPos]?.map (·.stop)).getD 0
  let stop := (r.items[closePos]?.map (·.start)).getD start
  return (e, (spanText r.script start stop).trimAscii.toString)

/-- A check's label: its text, read as the quoted text when it starts with a quote. -/
def checkLabel (text : String) : String :=
  match text.toList with
  | q :: rest =>
    if q == '\'' || q == '"' || q == '`' || q == '[' then
      let close := if q == '[' then ']' else q
      let rec unquote : List Char → List Char
        | c :: d :: more =>
          if c == close then (if d == close then c :: unquote more else [])
          else c :: unquote (d :: more)
        | [c] => if c == close then [] else [c]
        | [] => []
      String.ofList (unquote rest)
    else text
  | [] => text

/-- Reads a term that `DEFAULT` takes without brackets: a literal or a name, maybe signed. -/
def defaultTerm (fuel : Nat) : Grammar Expr := do
  if ← eatSymbol "(" then
    let e ← expr fuel
    expectSymbol ")"
    return e
  let sign ← if ← eatSymbol "-" then pure (some true)
    else if ← eatSymbol "+" then pure (some false) else pure none
  let some l ← peek | failHere
  let e ← match l.token with
    | .number t => skip; pure (Expr.number t)
    | .string s => skip; pure (Expr.literal (.text s))
    | .blob bs => skip; pure (Expr.literal (.blob bs))
    | .word w =>
      if l.isWord "NULL" then do skip; pure (Expr.literal .null)
      else if sign.isSome then failHere
      else if w.toUpper == "TRUE" then do skip; pure (Expr.number "1")
      else if w.toUpper == "FALSE" then do skip; pure (Expr.number "0")
      else if ["CURRENT_TIME", "CURRENT_DATE", "CURRENT_TIMESTAMP"].contains w.toUpper then do
        skip; pure (Expr.call w.toLower false [] false none [] none)
      else if isReserved w then failHere
      else do skip; pure (Expr.literal (.text w))
    | .quoted q _ => if sign.isSome then failHere else do skip; pure (Expr.literal (.text q))
    | _ => failHere
  match sign with
  | some true => return .unary .negate e
  | some false => return .unary .plus e
  | none => return e

/-- Reads the constraints after a column's type, with the constraint name in force. -/
def columnConstraints (fuel : Nat) (name : Option String) :
    Grammar (List ColumnConstraint × Option String) := do
  let mut cs : Array ColumnConstraint := #[]
  let mut current := name
  for _ in [0:100000] do
    if ← eatWord "CONSTRAINT" then
      current := some (← objectName)
    else if ← eatWord "PRIMARY" then
      expectWord "KEY"
      let descending ← if ← eatWord "DESC" then pure true else do let _ ← eatWord "ASC"; pure false
      let conflict ← onConflict
      let autoincrement ← eatWord "AUTOINCREMENT"
      cs := cs.push (.primaryKey descending conflict autoincrement)
    else if (← atWord "NOT") && (← wordAt 1 "NULL") then
      skip; skip
      cs := cs.push (.notNull (← onConflict))
    else if ← eatWord "NULL" then
      let _ ← onConflict
      cs := cs.push .nullable
    else if ← eatWord "UNIQUE" then
      cs := cs.push (.unique (← onConflict))
    else if ← eatWord "CHECK" then
      let (e, text) ← bracketedCondition fuel
      cs := cs.push (.check current e (checkLabel text))
    else if ← eatWord "DEFAULT" then
      cs := cs.push (.defaultValue (← defaultTerm fuel))
    else if ← eatWord "COLLATE" then
      cs := cs.push (.collate (← objectName))
    else if ← atWord "REFERENCES" then
      cs := cs.push (.references (← references))
    else if (← atWord "DEFERRABLE") || ((← atWord "NOT") && (← wordAt 1 "DEFERRABLE")) then
      -- a deferral clause after the foreign key it belongs to
      let negated ← eatWord "NOT"
      skip
      let mut deferred := false
      if ← eatWord "INITIALLY" then
        if ← eatWord "DEFERRED" then deferred := true
        else expectWord "IMMEDIATE"
      cs := cs.modify (cs.size - 1) fun c =>
        match c with
        | .references clause => .references { clause with deferred := deferred && !negated }
        | other => other
    else if (← atWord "GENERATED") || (← atWord "AS") then
      if ← eatWord "GENERATED" then expectWord "ALWAYS"
      expectWord "AS"
      expectSymbol "("
      let e ← expr fuel
      expectSymbol ")"
      let stored ← if ← eatWord "STORED" then pure true
        else do let _ ← eatWord "VIRTUAL"; pure false
      cs := cs.push (.generated e stored)
    else break
  return (cs.toList, current)

/-- A declared type without a trailing `GENERATED ALWAYS`. -/
def withoutGeneratedWords (declared : String) : String :=
  let words := declared.splitOn " " |>.filter (· ≠ "")
  match words.reverse with
  | a :: g :: rest =>
    if a.toUpper == "ALWAYS" && g.toUpper == "GENERATED" then " ".intercalate rest.reverse
    else declared
  | [a] => if a.toUpper == "ALWAYS" then "" else declared
  | [] => declared

/-- A declared type of three characters or more written in quotes (or brackets) without quotes
inside: the quotes are dropped, so that `"INTEGER"` is the type `INTEGER`. -/
def unquotedType (declared : String) : String :=
  let cs := declared.toList
  let isQuote (c : Char) := c == '"' || c == '\'' || c == '`' || c == '['
  if cs.length < 3 then declared
  else if !isQuote (cs.headD ' ') then declared
  else if ((cs.drop 1).dropLast).any isQuote then declared
  else String.ofList ((cs.drop 1).dropLast)

/-- Reads a column definition: its name, type and constraints. -/
def columnDefinition (fuel : Nat) (name : Option String) : Grammar (ColumnDefinition × Option String) := do
  let n ← objectName
  let declared ← typeName
  let (cs, current) ← columnConstraints fuel name
  return ({ name := n, declared := unquotedType (withoutGeneratedWords declared), constraints := cs },
    current)

/-- Reads the terms of a key or index: expressions with an optional order. -/
def indexedTerms (fuel : Nat) : Grammar (List IndexedTerm) := do
  expectSymbol "("
  let mut terms : Array IndexedTerm := #[]
  for _ in [0:100000] do
    let e ← expr fuel
    let descending ← if ← eatWord "DESC" then pure true else do let _ ← eatWord "ASC"; pure false
    if ← eatWord "NULLS" then
      if !(← eatWord "FIRST") then expectWord "LAST"
    let (value, collation) := match e with
      | .collate inner c => (inner, some c)
      | other => (other, none)
    terms := terms.push { value, collation, descending }
    unless ← eatSymbol "," do break
  let _ ← eatWord "AUTOINCREMENT"
  expectSymbol ")"
  return terms.toList

/-- Whether a key's term list said `AUTOINCREMENT` before its closing bracket. -/
def keyTerms (fuel : Nat) : Grammar (List IndexedTerm × Bool) := do
  expectSymbol "("
  let mut terms : Array IndexedTerm := #[]
  let mut autoincrement := false
  for _ in [0:100000] do
    let e ← expr fuel
    let descending ← if ← eatWord "DESC" then pure true else do let _ ← eatWord "ASC"; pure false
    let (value, collation) := match e with
      | .collate inner c => (inner, some c)
      | other => (other, none)
    terms := terms.push { value, collation, descending }
    unless ← eatSymbol "," do break
  if ← eatWord "AUTOINCREMENT" then autoincrement := true
  expectSymbol ")"
  return (terms.toList, autoincrement)

/-- Reads the table constraints after the columns, with the constraint name in force. -/
def tableConstraints (fuel : Nat) (name : Option String) : Grammar (List TableConstraint) := do
  let mut cs : Array TableConstraint := #[]
  let mut current := name
  for _ in [0:100000] do
    if ← eatWord "CONSTRAINT" then
      current := some (← objectName)
    if ← eatWord "PRIMARY" then
      expectWord "KEY"
      let (terms, autoincrement) ← keyTerms fuel
      cs := cs.push (.primaryKey terms (← onConflict) autoincrement)
    else if ← eatWord "UNIQUE" then
      let (terms, _) ← keyTerms fuel
      cs := cs.push (.unique terms (← onConflict))
    else if ← eatWord "CHECK" then
      let (e, text) ← bracketedCondition fuel
      let _ ← onConflict
      cs := cs.push (.check current e (checkLabel text))
    else if ← eatWord "FOREIGN" then
      expectWord "KEY"
      let columns ← nameList
      cs := cs.push (.foreignKey columns (← references))
    else failHere
    if ← eatSymbol "," then
      current := none
    else if (← atSymbol ")") then break
  return cs.toList

/-- Whether a table constraint starts at the next lexeme. -/
def atTableConstraint : Grammar Bool := do
  return (← atWord "CONSTRAINT") || (← atWord "PRIMARY") || (← atWord "UNIQUE") ||
    (← atWord "CHECK") || (← atWord "FOREIGN")

/-- Reads the bracketed body of a `CREATE TABLE`: columns, then table constraints. -/
def tableBody (fuel : Nat) : Grammar (List ColumnDefinition × List TableConstraint) := do
  expectSymbol "("
  let mut columns : Array ColumnDefinition := #[]
  let mut name : Option String := none
  let mut constraints : List TableConstraint := []
  for _ in [0:100000] do
    let (c, current) ← columnDefinition fuel none
    columns := columns.push c
    name := current
    if ← eatSymbol "," then
      if ← atTableConstraint then
        constraints ← tableConstraints fuel name
        break
    else break
  expectSymbol ")"
  return (columns.toList, constraints)

/-- Reads the options after a table body: `WITHOUT ROWID` and `STRICT`, separated by commas. -/
def tableOptions : Grammar (Bool × Bool) := do
  let mut withoutRowId := false
  let mut strict := false
  for _ in [0:100] do
    if ← eatWord "WITHOUT" then
      match ← peek with
      | some l =>
        if l.isWord "ROWID" then skip; withoutRowId := true
        else throw (.logic ("unknown table option: " ++ (← textOf l)))
      | none => failHere
    else if ← eatWord "STRICT" then strict := true
    else
      match ← peek with
      | some l =>
        match l.token with
        | .word _ =>
          if !isReserved (← textOf l) then throw (.logic ("unknown table option: " ++ (← textOf l)))
          else break
        | _ => break
      | none => break
    unless ← eatSymbol "," do break
  return (withoutRowId, strict)

/-- Reads `IF NOT EXISTS` if it is next. -/
def ifNotExists : Grammar Bool := do
  if (← atWord "IF") && (← wordAt 1 "NOT") && (← wordAt 2 "EXISTS") then
    skip; skip; skip
    return true
  return false

/-- Reads the assignments of an `UPDATE` or upsert: `column = expr` or
`(column, …) = expr`. -/
def assignments (fuel : Nat) : Grammar (List (List String × Expr)) := do
  let mut items : Array (List String × Expr) := #[]
  for _ in [0:100000] do
    let columns ← if ← atSymbol "(" then nameList else do pure [← objectName]
    expectSymbol "="
    items := items.push (columns, ← expr fuel)
    unless ← eatSymbol "," do break
  return items.toList

/-- Reads the `ON CONFLICT` clauses of an `INSERT`. -/
def upserts (fuel : Nat) : Grammar (List Upsert) := do
  let mut items : Array Upsert := #[]
  for _ in [0:1000] do
    unless (← atWord "ON") && (← wordAt 1 "CONFLICT") do break
    skip; skip
    let target ← if ← atSymbol "(" then indexedTerms fuel else pure []
    let targetFilter ← if !target.isEmpty && (← eatWord "WHERE") then some <$> expr fuel else pure none
    expectWord "DO"
    if ← eatWord "NOTHING" then
      items := items.push { target, targetFilter, assignments := none, filter := none }
    else
      expectWord "UPDATE"
      expectWord "SET"
      let sets ← assignments fuel
      let filter ← if ← eatWord "WHERE" then some <$> expr fuel else pure none
      items := items.push { target, targetFilter, assignments := some sets, filter }
  return items.toList

/-- Reads an optional `RETURNING` clause, which changes nothing a database holds. -/
def returningClause (fuel : Nat) : Grammar Unit := do
  if ← eatWord "RETURNING" then
    let _ ← resultColumns fuel

/-- Reads an `INSERT` or `REPLACE` after its common tables. -/
def insertStatement (fuel : Nat) (ctes : List CommonTable) : Grammar Statement := do
  let conflict ← if ← eatWord "REPLACE" then pure (some Conflict.replace)
    else do
      expectWord "INSERT"
      if ← eatWord "OR" then pure (some (← conflictName)) else pure none
  expectWord "INTO"
  let table ← qualifiedName
  let aliasName ← if ← eatWord "AS" then some <$> objectName else pure none
  let columns ← if ← atSymbol "(" then some <$> nameList else pure none
  if ← eatWord "DEFAULT" then
    expectWord "VALUES"
    returningClause fuel
    return .insert ctes conflict table aliasName columns .defaults []
  let q ← query fuel
  let ups ← upserts fuel
  returningClause fuel
  return .insert ctes conflict table aliasName columns (.rows q) ups

/-- Reads an `UPDATE` after its common tables. -/
def updateStatement (fuel : Nat) (ctes : List CommonTable) : Grammar Statement := do
  expectWord "UPDATE"
  let conflict ← if ← eatWord "OR" then pure (some (← conflictName)) else pure none
  let table ← qualifiedName
  let _ ← alias?
  if ← eatWord "INDEXED" then
    expectWord "BY"
    let _ ← objectName
  else if (← atWord "NOT") && (← wordAt 1 "INDEXED") then
    skip; skip
  expectWord "SET"
  let sets ← assignments fuel
  let src ← if ← eatWord "FROM" then some <$> source fuel else pure none
  let filter ← if ← eatWord "WHERE" then some <$> expr fuel else pure none
  returningClause fuel
  return .update ctes conflict table sets src filter

/-- Reads a `DELETE` after its common tables. -/
def deleteStatement (fuel : Nat) (ctes : List CommonTable) : Grammar Statement := do
  expectWord "DELETE"
  expectWord "FROM"
  let table ← qualifiedName
  let _ ← alias?
  if ← eatWord "INDEXED" then
    expectWord "BY"
    let _ ← objectName
  else if (← atWord "NOT") && (← wordAt 1 "INDEXED") then
    skip; skip
  let filter ← if ← eatWord "WHERE" then some <$> expr fuel else pure none
  returningClause fuel
  return .delete ctes table filter

/-- Reads a statement of a trigger's body, up to its `;`. -/
def triggerStep (fuel : Nat) : Grammar Statement := do
  let s ← if (← atWord "INSERT") || (← atWord "REPLACE") then insertStatement fuel []
    else if ← atWord "UPDATE" then updateStatement fuel []
    else if ← atWord "DELETE" then deleteStatement fuel []
    else if ← atQuery then
      let q ← query fuel
      pure (Statement.query q)
    else failHere
  expectSymbol ";"
  return s

/-- The text of the statement from a lexeme position to the current one. -/
def statementText (startPos : Nat) : Grammar String := do
  let r ← read
  let endPos ← get
  match r.items[startPos]?, r.items[endPos - 1]? with
  | some a, some b => return spanText r.script a.start b.stop
  | _, _ => return ""

/-- The text the schema keeps for a created object: its kind in capitals, then the statement as
written from the token of the object's name, at position namePos, to its end. -/
def createdText (kind : String) (namePos : Nat) : Grammar String := do
  let r ← read
  let endPos ← get
  match r.items[namePos]?, r.items[endPos - 1]? with
  | some a, some b => return "CREATE " ++ kind ++ " " ++ spanText r.script a.start b.stop
  | _, _ => return ""

/-- Reads a `CREATE` statement after `CREATE`. -/
def createStatement (fuel : Nat) : Grammar Statement := do
  let temp ← if (← eatWord "TEMP") || (← eatWord "TEMPORARY") then pure true else pure false
  if ← eatWord "TABLE" then
    let ine ← ifNotExists
    let name ← qualifiedName
    let namePos := (← get) - 1
    if ← eatWord "AS" then
      let q ← query fuel
      return .createTableAs temp ine name q
    let (columns, constraints) ← tableBody fuel
    let (withoutRowId, strict) ← tableOptions
    return .createTable temp ine name columns constraints withoutRowId strict (← createdText "TABLE" namePos)
  if ← eatWord "VIEW" then
    let ine ← ifNotExists
    let name ← qualifiedName
    let namePos := (← get) - 1
    let columns ← if ← atSymbol "(" then nameList else pure []
    expectWord "AS"
    let q ← query fuel
    return .createView temp ine name columns q (← createdText "VIEW" namePos)
  if ← eatWord "TRIGGER" then
    let ine ← ifNotExists
    let name ← qualifiedName
    let namePos := (← get) - 1
    let timing ← if ← eatWord "BEFORE" then pure TriggerTiming.before
      else if ← eatWord "AFTER" then pure TriggerTiming.after
      else if ← eatWord "INSTEAD" then do expectWord "OF"; pure TriggerTiming.insteadOf
      else pure TriggerTiming.before
    let event ← if ← eatWord "INSERT" then pure TriggerEvent.insert
      else if ← eatWord "DELETE" then pure TriggerEvent.delete
      else do
        expectWord "UPDATE"
        if ← eatWord "OF" then
          let mut cols : Array String := #[]
          for _ in [0:100000] do
            cols := cols.push (← objectName)
            unless ← eatSymbol "," do break
          pure (TriggerEvent.update cols.toList)
        else pure (TriggerEvent.update [])
    expectWord "ON"
    let table ← objectName
    if ← eatWord "FOR" then
      expectWord "EACH"
      expectWord "ROW"
    let condition ← if ← eatWord "WHEN" then some <$> expr fuel else pure none
    expectWord "BEGIN"
    let mut body : Array Statement := #[]
    for _ in [0:100000] do
      body := body.push (← triggerStep fuel)
      if ← eatWord "END" then break
    return .createTrigger temp ine name timing event table condition body.toList (← createdText "TRIGGER" namePos)
  if temp then failHere
  let unique ← eatWord "UNIQUE"
  expectWord "INDEX"
  let ine ← ifNotExists
  let name ← qualifiedName
  let namePos := (← get) - 1
  expectWord "ON"
  let table ← objectName
  let terms ← indexedTerms fuel
  let filter ← if ← eatWord "WHERE" then some <$> expr fuel else pure none
  return .createIndex unique ine name table terms filter (← createdText (if unique then "UNIQUE INDEX" else "INDEX") namePos)

/-- Reads an `ALTER TABLE` statement after `ALTER`. -/
def alterStatement (fuel : Nat) : Grammar Statement := do
  expectWord "TABLE"
  let table ← qualifiedName
  if ← eatWord "RENAME" then
    if ← eatWord "TO" then return .renameTable table (← objectName)
    let _ ← eatWord "COLUMN"
    let old ← objectName
    expectWord "TO"
    return .renameColumn table old (← objectName)
  if ← eatWord "ADD" then
    let _ ← eatWord "COLUMN"
    let columnPos ← get
    let (c, _) ← columnDefinition fuel none
    return .addColumn table c (← statementText columnPos)
  expectWord "DROP"
  let _ ← eatWord "COLUMN"
  return .dropColumn table (← objectName)

/-- Reads the statement that starts at the current position, without its `;`. -/
def statement (fuel : Nat) : Grammar Statement := do
  if ← eatWord "EXPLAIN" then
    if ← eatWord "QUERY" then expectWord "PLAN"
    let _ ← statement0 fuel
    return .noEffect
  statement0 fuel
where
  /-- The statement itself, after any `EXPLAIN`. -/
  statement0 (fuel : Nat) : Grammar Statement := do
    if ← eatWord "CREATE" then return ← createStatement fuel
    if ← eatWord "DROP" then
      let kind ← if ← eatWord "TABLE" then pure ObjectKind.table
        else if ← eatWord "VIEW" then pure ObjectKind.view
        else if ← eatWord "INDEX" then pure ObjectKind.index
        else do expectWord "TRIGGER"; pure ObjectKind.trigger
      let ifExists ← if (← atWord "IF") && (← wordAt 1 "EXISTS") then do skip; skip; pure true
        else pure false
      return .drop kind ifExists (← qualifiedName)
    if ← eatWord "ALTER" then return ← alterStatement fuel
    if ← eatWord "BEGIN" then
      if !(← eatWord "DEFERRED") then
        if !(← eatWord "IMMEDIATE") then
          let _ ← eatWord "EXCLUSIVE"
      if ← eatWord "TRANSACTION" then
        let _ ← name? false false
      return .begin
    if (← eatWord "COMMIT") || (← eatWord "END") then
      if ← eatWord "TRANSACTION" then
        let _ ← name? false false
      return .commit
    if ← eatWord "ROLLBACK" then
      if ← eatWord "TRANSACTION" then
        if ← atWord "TO" then pure () else
          let _ ← name? false false
      if ← eatWord "TO" then
        let _ ← eatWord "SAVEPOINT"
        return .rollback (some (← objectName))
      return .rollback none
    if ← eatWord "SAVEPOINT" then return .savepoint (← objectName)
    if ← eatWord "RELEASE" then
      let _ ← eatWord "SAVEPOINT"
      return .release (← objectName)
    if ← eatWord "PRAGMA" then
      let n ← qualifiedName
      if ← eatSymbol "=" then
        return .pragma n.name (some (← pragmaValue))
      if ← eatSymbol "(" then
        let v ← pragmaValue
        expectSymbol ")"
        return .pragma n.name (some v)
      return .pragma n.name none
    if (← atWord "VACUUM") || (← atWord "ANALYZE") || (← atWord "REINDEX") then
      skip
      for _ in [0:100000] do
        match ← peek with
        | some l => if l.isSymbol ";" then break else skip
        | none => break
      return .noEffect
    let (ctes, _) ← withClause fuel
    if (← atWord "INSERT") || (← atWord "REPLACE") then return ← insertStatement fuel ctes
    if ← atWord "UPDATE" then return ← updateStatement fuel ctes
    if ← atWord "DELETE" then return ← deleteStatement fuel ctes
    if ctes.isEmpty then
      if (← atWord "SELECT") || (← atWord "VALUES") then return .query (← query fuel)
      failHere
    let body ← compound fuel
    let orderBy ← if (← atWord "ORDER") && (← wordAt 1 "BY") then
        skip; skip
        orderingTerms fuel
      else pure []
    let (limit, offset) ← limitClause fuel
    return .query (.ordered ctes false body orderBy limit offset)
  /-- The value of a `PRAGMA`: a signed number, a name or a text. -/
  pragmaValue : Grammar Expr := do
    let negative ← eatSymbol "-"
    if !negative then
      let _ ← eatSymbol "+"
    let some l ← peek | failHere
    skip
    match l.token with
    | .number t => return (if negative then .unary .negate (.number t) else .number t)
    | .string s => return .literal (.text s)
    | .word w => return .literal (.text w)
    | .quoted q _ => return .literal (.text q)
    | _ => failHere

/-- Reads the statement at the current position up to its `;` or the end of the script; none
for an empty statement. -/
def readStatement : Grammar (Option Statement) := do
  if ← eatSymbol ";" then return none
  let r ← read
  let fuel := 16 * (r.items.size + 2)
  let s ← statement fuel
  match ← peek with
  | none => return some s
  | some l => if l.isSymbol ";" then skip; return some s else failHere

end Grammar

/-- A script as lexemes. -/
def Tokens.ofScript (script : String) : Tokens := ⟨script, lexemes script⟩

/-- Reads the statement at a lexeme position: the statement (none if empty) and the position
after it. -/
def Tokens.statementAt (t : Tokens) (pos : Nat) : Except SqlError (Option Statement × Nat) :=
  (Grammar.readStatement.run t).run pos

end EnergyModel.Sql
