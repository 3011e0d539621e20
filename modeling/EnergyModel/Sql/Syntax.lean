import EnergyModel.Sql.Value

/-!
# The statements of the database language

The abstract syntax that `Sql.Grammar` reads scripts into: expressions, queries, and the
statements that define a schema (tables, indexes, views, triggers) and change its rows.

An expression keeps what later stages need from its text: a number as written (so that a
minus in front of `9223372036854775808` can still make it an integer), whether a name was
written in double quotes (an unknown one is then a text), and the text of every result column
(which names the column when it has no alias).
-/

namespace EnergyModel.Sql

/-- How a statement resolves a broken constraint: undo the transaction, undo the statement,
stop the statement keeping its earlier changes, skip the row, or delete the rows in the way. -/
inductive Conflict where
  | rollback
  | abort
  | fail
  | ignore
  | replace
  deriving BEq, Repr, Inhabited

/-- The prefix operators. -/
inductive UnaryOp where
  | negate
  | plus
  | bitNot
  | not
  deriving BEq, Repr, Inhabited

/-- The infix operators. -/
inductive BinaryOp where
  | or
  | and
  | eq
  | ne
  | lt
  | le
  | gt
  | ge
  | is
  | isNot
  | bitAnd
  | bitOr
  | shiftLeft
  | shiftRight
  | add
  | sub
  | mul
  | div
  | rem
  | concat
  | extract
  | extractValue
  deriving BEq, Repr, Inhabited

/-- The pattern-matching operators. -/
inductive PatternOp where
  | like
  | glob
  | regexp
  | matchOp
  deriving BEq, Repr, Inhabited

/-- What `RAISE` does to the statement that runs the trigger. -/
inductive RaiseAction where
  | ignore
  | rollback
  | abort
  | fail
  deriving BEq, Repr, Inhabited

/-- The kinds of join. -/
inductive JoinKind where
  | inner
  | left
  | right
  | full
  | cross
  deriving BEq, Repr, Inhabited

/-- The ways two queries combine. -/
inductive CompoundOp where
  | union
  | unionAll
  | intersect
  | except
  deriving BEq, Repr, Inhabited

/-- How a window frame counts its extent: by rows, by values of the ordering, or by groups of
rows that order alike. -/
inductive FrameUnit where
  | rows
  | range
  | groups
  deriving BEq, Repr, Inhabited

/-- The rows a window frame leaves out around the current one. -/
inductive FrameExclusion where
  | noOthers
  | currentRow
  | group
  | ties
  deriving BEq, Repr, Inhabited

/-- A schema object's name, with the schema it was qualified by, if any. -/
structure ObjectName where
  schema : Option String
  name : String
  deriving BEq, Repr, Inhabited

mutual

/-- An expression. -/
inductive Expr where
  /-- A constant: a text, a blob or null. -/
  | literal (value : Value)
  /-- A numeric literal, as written. -/
  | number (text : String)
  /-- A column, maybe qualified by a table; `doubleQuoted` when written in double quotes. -/
  | column (qualifier : Option String) (name : String) (doubleQuoted : Bool)
  /-- A parameter such as `?1`. -/
  | parameter (name : String)
  | unary (op : UnaryOp) (operand : Expr)
  | binary (op : BinaryOp) (left right : Expr)
  | collate (operand : Expr) (collation : String)
  | cast (operand : Expr) (typeName : String)
  /-- `x ISNULL` or, negated, `x NOTNULL`. -/
  | isNull (negated : Bool) (operand : Expr)
  | pattern (op : PatternOp) (negated : Bool) (subject pattern : Expr) (escape : Option Expr)
  | between (negated : Bool) (subject low high : Expr)
  | inList (negated : Bool) (subject : Expr) (items : List Expr)
  | inQuery (negated : Bool) (subject : Expr) (query : Query)
  /-- `x IN t`: a table or view standing for `SELECT * FROM t`. -/
  | inTable (negated : Bool) (subject : Expr) (table : ObjectName)
  | caseWhen (operand : Option Expr) (branches : List (Expr × Expr)) (otherwise : Option Expr)
  /-- A function call; `star` for `count(*)`, with the order an aggregate takes its rows in and
  the window it is computed over, if any. -/
  | call (name : String) (distinct : Bool) (args : List Expr) (star : Bool) (filter : Option Expr)
      (order : List OrderingTerm) (overWindow : Option Window)
  | existsQuery (query : Query)
  | subquery (query : Query)
  /-- A row value `(a, b, …)`. -/
  | vector (items : List Expr)
  | raise (action : RaiseAction) (message : Option Expr)
  /-- A value computed for the current row before the expression is evaluated: the value of the
  query's window call of this place. -/
  | slot (index : Nat)

/-- A query: a `SELECT`, a `VALUES` list, two queries combined, or a query with common tables,
an order and a limit. -/
inductive Query where
  | select (distinct : Bool) (columns : List ResultColumn) (source : Option Source)
      (filter : Option Expr) (groupBy : List Expr) (having : Option Expr)
      (windows : List (String × Window))
  | values (rows : List (List Expr))
  | compound (op : CompoundOp) (left right : Query)
  | ordered (ctes : List CommonTable) (recursive : Bool) (body : Query) (orderBy : List OrderingTerm)
      (limit offset : Option Expr)

/-- A column of a `SELECT` list. -/
inductive ResultColumn where
  /-- `*` -/
  | all
  /-- `t.*` -/
  | allOf (table : String)
  /-- An expression with its alias and its text as written. -/
  | expr (value : Expr) (aliasName : Option String) (text : String)

/-- What a `SELECT` reads from. -/
inductive Source where
  | table (name : ObjectName) (aliasName : Option String)
  | query (query : Query) (aliasName : Option String)
  | join (left : Source) (kind : JoinKind) (natural : Bool) (right : Source) (on : Option Expr)
      (columns : List String)

/-- A term of `ORDER BY`; `nullsFirst` when said. -/
inductive OrderingTerm where
  | mk (value : Expr) (descending : Bool) (nullsFirst : Option Bool)

/-- A common table of `WITH`: its name, column names and query. -/
inductive CommonTable where
  | mk (name : String) (columns : List String) (query : Query)

/-- A bound of a window frame. -/
inductive FrameBound where
  | unboundedPreceding
  | preceding (amount : Expr)
  | currentRow
  | following (amount : Expr)
  | unboundedFollowing

/-- A window frame: its unit, its two bounds, and the rows it leaves out. -/
inductive Frame where
  | mk (unit : FrameUnit) (start finish : FrameBound) (exclusion : FrameExclusion)

/-- A window: the named window it builds on, the expressions that split rows into partitions,
the order within a partition, and the frame; or a window of the `WINDOW` clause taken whole
by its name. -/
inductive Window where
  | mk (base : Option String) (partition : List Expr) (order : List OrderingTerm)
      (frame : Option Frame)
  | named (name : String)

end

instance : Inhabited Expr := ⟨.literal .null⟩
instance : Inhabited Query := ⟨.values []⟩
instance : Inhabited Window := ⟨.named ""⟩

/-- What happens to the children of a parent row that is deleted or whose key changes. -/
inductive KeyAction where
  | noAction
  | restrict
  | setNull
  | setDefault
  | cascade
  deriving BEq, Repr, Inhabited

/-- The `REFERENCES` part of a foreign key. -/
structure ForeignKeyClause where
  table : String
  columns : List String
  onDelete : KeyAction
  onUpdate : KeyAction
  deferred : Bool
  deriving Inhabited

/-- A column of an index or key: a column name or an expression, with a collation. -/
structure IndexedTerm where
  value : Expr
  collation : Option String
  descending : Bool
  deriving Inhabited

/-- A constraint written after a column's type. -/
inductive ColumnConstraint where
  | primaryKey (descending : Bool) (conflict : Option Conflict) (autoincrement : Bool)
  | notNull (conflict : Option Conflict)
  | nullable
  | unique (conflict : Option Conflict)
  /-- A check, with its constraint name if given and the text between its brackets. -/
  | check (name : Option String) (condition : Expr) (text : String)
  | defaultValue (value : Expr)
  | collate (name : String)
  | references (clause : ForeignKeyClause)
  | generated (value : Expr) (stored : Bool)
  deriving Inhabited

/-- A column of a `CREATE TABLE`. -/
structure ColumnDefinition where
  name : String
  declared : String
  constraints : List ColumnConstraint
  deriving Inhabited

/-- A constraint written after the columns of a `CREATE TABLE`. -/
inductive TableConstraint where
  | primaryKey (terms : List IndexedTerm) (conflict : Option Conflict) (autoincrement : Bool)
  | unique (terms : List IndexedTerm) (conflict : Option Conflict)
  | check (name : Option String) (condition : Expr) (text : String)
  | foreignKey (columns : List String) (clause : ForeignKeyClause)
  deriving Inhabited

/-- When a trigger runs. -/
inductive TriggerTiming where
  | before
  | after
  | insteadOf
  deriving BEq, Repr, Inhabited

/-- The change a trigger runs on; an update trigger may name the columns it watches. -/
inductive TriggerEvent where
  | insert
  | delete
  | update (columns : List String)
  deriving BEq, Repr, Inhabited

/-- The kinds of schema object. -/
inductive ObjectKind where
  | table
  | index
  | view
  | trigger
  deriving BEq, Repr, Inhabited

/-- The rows an `INSERT` adds. -/
inductive InsertSource where
  | rows (query : Query)
  | defaults
  deriving Inhabited

/-- An `ON CONFLICT` clause of an `INSERT`: its target columns and what it does. -/
structure Upsert where
  target : List IndexedTerm
  targetFilter : Option Expr
  assignments : Option (List (List String × Expr))
  filter : Option Expr
  deriving Inhabited

/-- A statement. -/
inductive Statement where
  | createTable (temp ifNotExists : Bool) (name : ObjectName) (columns : List ColumnDefinition)
      (constraints : List TableConstraint) (withoutRowId strict : Bool) (text : String)
  | createTableAs (temp ifNotExists : Bool) (name : ObjectName) (query : Query)
  | createIndex (unique ifNotExists : Bool) (name : ObjectName) (table : String)
      (terms : List IndexedTerm) (filter : Option Expr) (text : String)
  | createView (temp ifNotExists : Bool) (name : ObjectName) (columns : List String) (query : Query)
      (text : String)
  | createTrigger (temp ifNotExists : Bool) (name : ObjectName) (timing : TriggerTiming)
      (event : TriggerEvent) (table : String) (condition : Option Expr) (body : List Statement)
      (text : String)
  | drop (kind : ObjectKind) (ifExists : Bool) (name : ObjectName)
  | renameTable (table : ObjectName) (newName : String)
  | renameColumn (table : ObjectName) (column newName : String)
  | addColumn (table : ObjectName) (column : ColumnDefinition) (text : String)
  | dropColumn (table : ObjectName) (column : String)
  | insert (ctes : List CommonTable) (conflict : Option Conflict) (table : ObjectName)
      (aliasName : Option String) (columns : Option (List String)) (source : InsertSource)
      (upserts : List Upsert)
  | update (ctes : List CommonTable) (conflict : Option Conflict) (table : ObjectName)
      (assignments : List (List String × Expr)) (source : Option Source) (filter : Option Expr)
  | delete (ctes : List CommonTable) (table : ObjectName) (filter : Option Expr)
  | query (query : Query)
  | begin
  | commit
  | rollback (savepoint : Option String)
  | savepoint (name : String)
  | release (name : String)
  | pragma (name : String) (value : Option Expr)
  /-- A statement with no effect on what a database holds, such as `VACUUM`. -/
  | noEffect
  deriving Inhabited

end EnergyModel.Sql
