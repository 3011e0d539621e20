/-!
# Database errors

The ways a statement on a database can fail, each with the message the database engine gives
for it and its result code. A code's low byte is its primary code, which names its class:
1 "SQL logic error", 19 "constraint failed", 20 "datatype mismatch", 26 "file is not a
database"; the higher bits tell constraints apart (787 a foreign key, 2067 a unique key, …).
-/

namespace EnergyModel.Sql

/-- The kind of constraint a row broke. -/
inductive ConstraintKind where
  | check
  | foreignKey
  | notNull
  | primaryKey
  | trigger
  | unique
  | rowId
  | datatype
  deriving BEq, Repr, Inhabited

/-- The extended result code of a constraint kind. -/
def ConstraintKind.code : ConstraintKind → Nat
  | .check => 275
  | .foreignKey => 787
  | .notNull => 1299
  | .primaryKey => 1555
  | .trigger => 1811
  | .unique => 2067
  | .rowId => 2579
  | .datatype => 3091

/-- Why a statement on a database failed. -/
inductive SqlError where
  /-- A row broke a constraint; the message names it. -/
  | constraint (kind : ConstraintKind) (message : String)
  /-- A statement could not be read or does not make sense; the message says why. -/
  | logic (message : String)
  /-- A statement could not be read or does not make sense because of one of its tokens: the
  message, a text that holds the statement, and the byte offset of the token in that text. -/
  | located (message : String) (text : String) (offset : Nat)
  /-- A row id is not an integer. -/
  | mismatch
  /-- The file does not hold a database. -/
  | notADatabase
  /-- The database file cannot be opened. -/
  | cannotOpen (message : String)
  /-- A text or blob grew too large. -/
  | tooBig
  deriving BEq, Repr, Inhabited

/-- The engine's message for an error. -/
def SqlError.message : SqlError → String
  | .constraint _ m => m
  | .logic m => m
  | .located m _ _ => m
  | .mismatch => "datatype mismatch"
  | .notADatabase => "file is not a database"
  | .cannotOpen m => m
  | .tooBig => "string or blob too big"

/-- The extended result code of an error. -/
def SqlError.code : SqlError → Nat
  | .constraint kind _ => kind.code
  | .logic _ => 1
  | .located _ _ _ => 1
  | .mismatch => 20
  | .notADatabase => 26
  | .cannotOpen _ => 14
  | .tooBig => 18

/-- The description of a result code, named by its primary code. -/
def codeDescription (code : Nat) : String :=
  match code % 256 with
  | 1 => "SQL logic error"
  | 14 => "unable to open database file"
  | 18 => "string or blob too big"
  | 19 => "constraint failed"
  | 20 => "datatype mismatch"
  | 26 => "file is not a database"
  | _ => "unknown error"

/-- The line that reports an error's code: `Error code 787: constraint failed`. -/
def SqlError.codeLine (e : SqlError) : String :=
  "Error code " ++ toString e.code ++ ": " ++ codeDescription e.code

/-- The error of a broken unique key, naming its columns as `table.column`. -/
def SqlError.unique (primary : Bool) (columns : String) : SqlError :=
  .constraint (if primary then .primaryKey else .unique) ("UNIQUE constraint failed: " ++ columns)

/-- The error of a broken check, named by its constraint name or its text. -/
def SqlError.check (name : String) : SqlError :=
  .constraint .check ("CHECK constraint failed: " ++ name)

/-- The error of a null in a not-null column, named as `table.column`. -/
def SqlError.notNull (column : String) : SqlError :=
  .constraint .notNull ("NOT NULL constraint failed: " ++ column)

/-- The error of a broken foreign key. -/
def SqlError.foreignKey : SqlError :=
  .constraint .foreignKey "FOREIGN KEY constraint failed"

/-- The error of a statement naming a table that does not exist. -/
def SqlError.noSuchTable (name : String) : SqlError := .logic ("no such table: " ++ name)

/-- The error of a statement naming a column that does not exist. -/
def SqlError.noSuchColumn (name : String) : SqlError := .logic ("no such column: " ++ name)

/-- The error of a syntax error near a token, which starts at a byte offset of a text. -/
def SqlError.near (token text : String) (offset : Nat) : SqlError :=
  .located ("near \"" ++ token ++ "\": syntax error") text offset

/-- An error as a client reports it: the message, and for an error at a token, the text that
holds the statement and where in it the token starts. -/
def SqlError.report : SqlError → String
  | .located m text offset => m ++ " in " ++ text ++ " at offset " ++ toString offset
  | e => e.message

end EnergyModel.Sql
