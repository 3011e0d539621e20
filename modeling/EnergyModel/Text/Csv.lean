/-!
# Comma-separated tables

The table format read and written by the program: records end at a line feed, a carriage return
or both, fields are separated by commas, and a field that starts with a double quote runs to the
closing quote, a doubled quote standing for one quote. Lines with no characters at all are
skipped. Every record must have as many fields as the first one, the header.

`Csv.read` turns a text into its header and records, each record with its position (its index
counting the header as record 0, its line and its byte offset), and stops at the first record
whose length differs from the header's. Every field and header is trimmed of white space.
`Csv.writeRecord` writes a record back, quoting only the fields that need it.
-/

namespace EnergyModel.Csv

/-- White space as the Unicode `White_Space` property defines it. -/
def isBlank (c : Char) : Bool :=
  let n := c.toNat
  (0x09 ≤ n && n ≤ 0x0D) || n == 0x20 || n == 0x85 || n == 0xA0 || n == 0x1680 ||
  (0x2000 ≤ n && n ≤ 0x200A) || n == 0x2028 || n == 0x2029 || n == 0x202F || n == 0x205F ||
  n == 0x3000

/-- A text without the white space at either end. -/
def trimBlank (s : String) : String :=
  String.ofList ((s.toList.dropWhile isBlank).reverse.dropWhile isBlank).reverse

/-- Where a record starts: its index (the header is record 0), its line and its byte offset. -/
structure Position where
  record : Nat
  line : Nat
  byte : Nat
  deriving Repr, BEq, Inhabited

/-- The text of a position inside an error message. -/
def Position.describe (p : Position) : String :=
  "record " ++ toString p.record ++ " (line: " ++ toString p.line ++ ", byte: " ++
    toString p.byte ++ ")"

/-- A record and where it starts. -/
structure Record where
  fields : List String
  position : Position
  deriving Repr, Inhabited

/-- A record whose length differs from the header's. -/
structure LengthMismatch where
  position : Position
  expected : Nat
  found : Nat
  deriving Repr

/-- The records of a text: the header, the records that were read, and the mismatch that
stopped the reading, if any. -/
structure Table where
  header : List String
  records : List Record
  mismatch : Option LengthMismatch
  deriving Repr

/-- Where the scanner is inside a field. -/
inductive FieldState where
  /-- Nothing of the field read yet. -/
  | fresh
  /-- Inside a field without quotes. -/
  | plain
  /-- Inside quotes. -/
  | quoted
  /-- Just after a quote that closed or doubled. -/
  | afterQuote

/-- The scanner's place in the text. -/
structure Cursor where
  rest : List Char
  byte : Nat
  line : Nat

/-- Moves past one character. -/
def Cursor.advance (cur : Cursor) (c : Char) (rest : List Char) : Cursor :=
  { rest := rest, byte := cur.byte + c.utf8Size, line := if c == '\n' then cur.line + 1 else cur.line }

/-- Moves past the character that ends a record, a line feed or a carriage return. A line feed
after a carriage return is not part of the record: the next record skips it, so that record
starts at the line feed, still on the line of the carriage return. -/
def Cursor.endRecord (cur : Cursor) (c : Char) (rest : List Char) : Cursor :=
  cur.advance c rest

/-- Skips line terminators at the start of a record. -/
def skipEmptyLines (cur : Cursor) : Nat → Cursor
  | 0 => cur
  | fuel + 1 =>
    match cur.rest with
    | c :: rest => if c == '\n' || c == '\r' then skipEmptyLines (cur.advance c rest) fuel else cur
    | [] => cur

/-- Reads the fields of one record from a cursor that is not at the end of the text. The
field being read is kept reversed in `field`, and the finished fields reversed in `done`. -/
def scanRecord (state : FieldState) (field : List Char) (done : List String) (cur : Cursor) :
    Nat → List String × Cursor
  | 0 => ((String.ofList field.reverse :: done).reverse, cur)
  | fuel + 1 =>
    let finish := String.ofList field.reverse
    match cur.rest with
    | [] => ((finish :: done).reverse, cur)
    | c :: rest =>
      match state with
      | .quoted =>
        if c == '"' then scanRecord .afterQuote field done (cur.advance c rest) fuel
        else scanRecord .quoted (c :: field) done (cur.advance c rest) fuel
      | .afterQuote =>
        if c == '"' then scanRecord .quoted (c :: field) done (cur.advance c rest) fuel
        else if c == ',' then scanRecord .fresh [] (finish :: done) (cur.advance c rest) fuel
        else if c == '\n' || c == '\r' then ((finish :: done).reverse, cur.endRecord c rest)
        else scanRecord .plain (c :: field) done (cur.advance c rest) fuel
      | .fresh =>
        if c == '"' then scanRecord .quoted field done (cur.advance c rest) fuel
        else if c == ',' then scanRecord .fresh [] (finish :: done) (cur.advance c rest) fuel
        else if c == '\n' || c == '\r' then ((finish :: done).reverse, cur.endRecord c rest)
        else scanRecord .plain (c :: field) done (cur.advance c rest) fuel
      | .plain =>
        if c == ',' then scanRecord .fresh [] (finish :: done) (cur.advance c rest) fuel
        else if c == '\n' || c == '\r' then ((finish :: done).reverse, cur.endRecord c rest)
        else scanRecord .plain (c :: field) done (cur.advance c rest) fuel

/-- The next record and the cursor after it, or `none` at the end of the text. -/
def nextRecord (cur : Cursor) : Option (List String × Cursor) :=
  let cur := skipEmptyLines cur cur.rest.length
  match cur.rest with
  | [] => none
  | _ => some (scanRecord .fresh [] [] cur (cur.rest.length + 1))

/-- Reads the records after the header. `expected` is the header's length and `index` the
index of the next record. -/
def readRecords (expected index : Nat) (cur : Cursor) :
    Nat → List Record × Option LengthMismatch
  | 0 => ([], none)
  | fuel + 1 =>
    let position : Position := ⟨index, cur.line, cur.byte⟩
    match nextRecord cur with
    | none => ([], none)
    | some (fields, next) =>
      if fields.length != expected then ([], some ⟨position, expected, fields.length⟩)
      else
        let (more, mismatch) := readRecords expected (index + 1) next fuel
        (⟨fields.map trimBlank, position⟩ :: more, mismatch)

/-- Reads a whole text: a byte order mark at the very start is skipped, the first record is the
header, and the rest are records. -/
def read (text : String) : Table :=
  let chars := text.toList
  let start : Cursor :=
    match chars with
    | '\uFEFF' :: rest => ⟨rest, 3, 1⟩
    | _ => ⟨chars, 0, 1⟩
  match nextRecord start with
  | none => ⟨[], [], none⟩
  | some (header, next) =>
    let (records, mismatch) := readRecords header.length 1 next (next.rest.length + 1)
    ⟨header.map trimBlank, records, mismatch⟩

/-! ## Writing -/

/-- Whether a field must be quoted: it holds a comma, a quote or a line terminator. -/
def needsQuotes (field : String) : Bool :=
  field.any fun c => c == ',' || c == '"' || c == '\n' || c == '\r'

/-- A field as written: quoted, with its quotes doubled, when it needs quotes. -/
def writeField (field : String) : String :=
  if needsQuotes field then
    "\"" ++ String.join (field.toList.map fun c => if c == '"' then "\"\"" else c.toString) ++ "\""
  else field

/-- The fields of a record joined by commas, without the line terminator. A record of one
empty field is written as a pair of quotes, so that it does not read back as an empty line. -/
def writeFields (fields : List String) : String :=
  match fields with
  | [""] => "\"\""
  | _ => ",".intercalate (fields.map writeField)

/-- A record as written, with its line feed. -/
def writeRecord (fields : List String) : String := writeFields fields ++ "\n"

/-- A record whose length differs from the first record's, met while writing. -/
structure WriteMismatch where
  expected : Nat
  found : Nat
  deriving Repr

/-- Writes records one after the other, each as long as the first. A record of another length
stops the writing: its fields are written without a line terminator, and the mismatch is
given with the text. -/
def writeTable (records : List (List String)) : String × Option WriteMismatch :=
  match records with
  | [] => ("", none)
  | first :: _ =>
    let rec go : List (List String) → String × Option WriteMismatch
      | [] => ("", none)
      | r :: rest =>
        if r.length != first.length then (writeFields r, some ⟨first.length, r.length⟩)
        else
          let (text, mismatch) := go rest
          (writeRecord r ++ text, mismatch)
    go records

end EnergyModel.Csv
