import EnergyModel.Input.Cell
import EnergyModel.Session

/-!
# Rows of the input tables

An input table is a CSV file whose columns are found by their header, so their order does not
matter and columns nobody asks for are ignored. A table's layout is a list of `Field`s: a
field has a name (and maybe other names it answers to), a kind that says how its text is read,
and a value to take when the table lacks the column; a field without one is required.

A record is decoded column by column in the order of the header:

* a column that two fields, or one field twice, would take is refused as a duplicate when the
  second one is reached;
* a cell that does not read is refused; a malformed whole number or number names its column
  by index, the other refusals do not;
* after the last column, the first field in the layout's order that got no column and has no
  fallback is reported missing.

Records are decoded in file order, and a record of the wrong length stops the reading only
after the records before it were decoded.
-/

namespace EnergyModel.Input

/-- How the text of a column is read. -/
inductive FieldKind where
  /-- Any text. -/
  | text
  /-- A whole number below 2^32, in decimal or after `0x` in hexadecimal. -/
  | count
  /-- A number. -/
  | number
  /-- A number, or no value (`parseValue`). -/
  | optionalNumber
  /-- Text, or no value (`optionalText`). -/
  | optionalText
  /-- A yes/no flag (`isYes`). -/
  | flag
  /-- One of the given names. -/
  | choice (names : List String)
  deriving Inhabited

/-- The value read from a cell. -/
inductive FieldValue where
  | text (s : String)
  | count (n : Nat)
  | number (x : Float)
  | optionalNumber (x : Option Float)
  | optionalText (s : Option String)
  | flag (b : Bool)
  deriving Inhabited

/-- A field of a table's layout. -/
structure Field where
  name : String
  kind : FieldKind
  /-- Other headers that name this field. -/
  aliases : List String := []
  /-- The value when the table has no column for the field; none makes the column required. -/
  fallback : Option FieldValue := none
  deriving Inhabited

/-- A required field. -/
def Field.required (name : String) (kind : FieldKind) : Field := { name, kind }

/-- A numeric field that may be left out, and then has no value. -/
def Field.optionalNumber (name : String) : Field :=
  { name, kind := .optionalNumber, fallback := some (.optionalNumber none) }

/-- A text field that may be left out, and then has no value. -/
def Field.optionalText (name : String) : Field :=
  { name, kind := .optionalText, fallback := some (.optionalText none) }

/-- A text field that may be left out, and then is empty. -/
def Field.textOrEmpty (name : String) : Field :=
  { name, kind := .text, fallback := some (.text "") }

/-- Whether a header names the field. -/
def Field.answers (f : Field) (header : String) : Bool :=
  f.name == header || f.aliases.contains header

/-- Reads a whole number below 2^32; a `0x` prefix makes the rest hexadecimal. -/
def readCount (s : String) : Except Decimal.CountSyntaxError Nat :=
  if s.startsWith "0x" then Decimal.readUnsigned 16 4294967295 (String.ofList (s.toList.drop 2))
  else Decimal.readNat32 s

/-- Reads a cell as a field of the given kind. -/
def FieldKind.read (k : FieldKind) (cell : String) : Except DecodeProblem FieldValue :=
  match k with
  | .text => .ok (.text cell)
  | .count =>
    match readCount cell with
    | .ok n => .ok (.count n)
    | .error e => .error (.count e)
  | .number =>
    match Decimal.readFloat cell with
    | .ok x => .ok (.number x)
    | .error e => .error (.number e)
  | .optionalNumber =>
    match parseValue cell with
    | .ok v => .ok (.optionalNumber v)
    | .error _ => .error (.invalidValue (Csv.trimBlank cell))
  | .optionalText => .ok (.optionalText (Input.optionalText cell))
  | .flag => .ok (.flag (isYes cell))
  | .choice names =>
    if names.contains cell then .ok (.text cell) else .error (.unknownVariant cell names)

/-- Whether a refusal names the column: only malformed whole numbers and numbers do. -/
def namesColumn : DecodeProblem → Bool
  | .count _ => true
  | .number _ => true
  | _ => false

/-- A decoded record: the value of every field of the layout, by field name. -/
structure Row where
  values : List (String × FieldValue)
  deriving Inhabited

/-- Decodes a record under a header, following the rules at the top of this module. -/
def decodeRecord (fields : List Field) (header : List String) (r : Csv.Record) :
    Except CsvError Row := do
  let step (found : List (String × FieldValue)) (column : (String × String) × Nat) :
      Except CsvError (List (String × FieldValue)) :=
    let ((name, cell), index) := column
    match fields.find? (·.answers name) with
    | none => pure found
    | some f =>
      if found.any (·.1 == f.name) then throw (.decode r.position none (.duplicateField f.name))
      else
        match f.kind.read cell with
        | .ok v => pure (found ++ [(f.name, v)])
        | .error p => throw (.decode r.position (if namesColumn p then some index else none) p)
  let found ← (header.zip r.fields).zipIdx.foldlM step []
  let complete ← fields.mapM fun f =>
    match found.find? (·.1 == f.name), f.fallback with
    | some (_, v), _ => pure (f.name, v)
    | none, some v => pure (f.name, v)
    | none, none => throw (.decode r.position none (.missingField f.name))
  pure ⟨complete⟩

/-- The value of a field. -/
def Row.get? (r : Row) (name : String) : Option FieldValue :=
  (r.values.find? (·.1 == name)).map (·.2)

/-- The value of a text field. -/
def Row.text (r : Row) (name : String) : String :=
  match r.get? name with
  | some (.text s) => s
  | _ => ""

/-- The value of a whole-number field. -/
def Row.count (r : Row) (name : String) : Nat :=
  match r.get? name with
  | some (.count n) => n
  | _ => 0

/-- The value of a numeric field. -/
def Row.number (r : Row) (name : String) : Float :=
  match r.get? name with
  | some (.number x) => x
  | _ => 0

/-- The value of an optional numeric field. -/
def Row.optionalNumber (r : Row) (name : String) : Option Float :=
  match r.get? name with
  | some (.optionalNumber x) => x
  | _ => none

/-- The value of an optional text field. -/
def Row.optionalText (r : Row) (name : String) : Option String :=
  match r.get? name with
  | some (.optionalText s) => s
  | _ => none

/-- The value of a flag field. -/
def Row.flag (r : Row) (name : String) : Bool :=
  match r.get? name with
  | some (.flag b) => b
  | _ => false

/-- The context every failure to read an input file is given. -/
def readingContext (path : String) : String := "Error reading " ++ path

/-- The text of a file, as a reader of text sees it. -/
def readText (files : FileTree Content) (path : String) : Except FileError String :=
  (files.read path).map Content.asText

/-- A failure of a CSV reader, in the context of its file. -/
def tableFailure (path : String) (e : CsvError) : Failure :=
  (Failure.of (.table e)).within (readingContext path)

/-- Reads the rows of a table file with the given layout; the file must exist, and it may hold
no rows. -/
def readRows (files : FileTree Content) (path : String) (fields : List Field) :
    Except Failure (List Row) :=
  match readText files path with
  | .error e => .error (tableFailure path (.file e))
  | .ok text =>
    let table := Csv.read text
    match table.records.mapM (decodeRecord fields table.header) with
    | .error e => .error (tableFailure path e)
    | .ok rows =>
      match table.mismatch with
      | some m => .error (tableFailure path (.lengths (some m.position) m.expected m.found))
      | none => .ok rows

/-- Reads the rows of a table file that must hold at least one row. -/
def readSomeRows (files : FileTree Content) (path : String) (fields : List Field) :
    Except Failure (List Row) := do
  let rows ← readRows files path fields
  if rows.isEmpty then throw (Failure.rule (.emptyTable path)) else pure rows

/-- A table kept as text: its header and its records, every cell trimmed. -/
structure RawTable where
  header : List String := []
  rows : List (List String) := []
  deriving Inhabited

/-- Reads a table file as text. -/
def readRawTable (files : FileTree Content) (path : String) : Except Failure RawTable :=
  match readText files path with
  | .error e => .error (tableFailure path (.file e))
  | .ok text =>
    let table := Csv.read text
    match table.mismatch with
    | some m => .error (tableFailure path (.lengths (some m.position) m.expected m.found))
    | none => .ok ⟨table.header, table.records.map (·.fields)⟩

end EnergyModel.Input
