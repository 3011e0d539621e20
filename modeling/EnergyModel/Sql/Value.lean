import EnergyModel.Sql.Encoding

/-!
# Database values

A value stored in a database cell is a null, a 64-bit integer, a double, a text or a blob. A
column declares a type, and the type gives the column an affinity: the kind of value the
column prefers. A value stored in a column is converted towards its affinity when that loses
nothing: text that reads as a number becomes a number in a numeric column, a number becomes
text in a text column, and an integral double becomes an integer in an integer or numeric
column. A real column keeps reals.

Every value also reads as an integer, a real and a text when an operator needs one: a text
gives the number at its front (`readReal`, `readInteger`), a double is truncated towards zero,
and a real is written with fifteen significant digits.

`Value.compare` is the order of values: null below numbers, numbers (integers and doubles
together, compared exactly) below texts, texts below blobs. Texts are compared by a collation:
by their bytes, by their bytes with ASCII letters folded to lower case, or by their bytes with
trailing spaces ignored.
-/

namespace EnergyModel.Sql

/-- A value in a database cell. -/
inductive Value where
  | null
  | integer (value : Int)
  | real (value : Float)
  | text (value : String)
  | blob (bytes : List UInt8)
  deriving Inhabited

/-- The kind of value a column prefers. A column with no preference has blob affinity. -/
inductive Affinity where
  | blob
  | text
  | numeric
  | integer
  | real
  deriving Repr, BEq, Inhabited

/-- Whether an affinity is one of the numeric ones. -/
def Affinity.isNumeric : Affinity → Bool
  | .numeric | .integer | .real => true
  | _ => false

/-- Whether `needle` occurs in `hay`. -/
def containsText (hay needle : String) : Bool :=
  (hay.splitOn needle).length > 1

/-- The affinity of a declared column type, read from the words in it, case aside: `INT`
anywhere makes it integer; otherwise `CHAR`, `CLOB` or `TEXT` make it text; otherwise `BLOB` or
no type at all leave it without preference; otherwise `REAL`, `FLOA` or `DOUB` make it real;
anything else is numeric. -/
def Affinity.ofDeclared (declared : String) : Affinity :=
  let t := declared.toUpper
  if containsText t "INT" then .integer
  else if containsText t "CHAR" || containsText t "CLOB" || containsText t "TEXT" then .text
  else if containsText t "BLOB" || declared.isEmpty then .blob
  else if containsText t "REAL" || containsText t "FLOA" || containsText t "DOUB" then .real
  else .numeric

/-- The name of a value's type, as `typeof` gives it. -/
def Value.typeName : Value → String
  | .null => "null"
  | .integer _ => "integer"
  | .real _ => "real"
  | .text _ => "text"
  | .blob _ => "blob"

/-- Whether a value is null. -/
def Value.isNull : Value → Bool
  | .null => true
  | _ => false

/-- A double written the way the database writes reals as text: fifteen significant digits,
positional for decimal exponents from -4 to 14 and with an exponent otherwise, always with a
point. -/
def realText (x : Float) : String :=
  formatReal { form := .general, precision := some 15, exact := true } x

/-- The text of a value; a null has none. -/
def Value.text? : Value → Option String
  | .null => none
  | .integer n => some (toString n)
  | .real x => some (realText x)
  | .text s => some s
  | .blob bs => some (bytesText bs)

/-- The text of a value, empty for a null. -/
def Value.asText (v : Value) : String := v.text?.getD ""

/-- The bytes of a value, as a blob operation sees them; a null has none. -/
def Value.bytes? : Value → Option (List UInt8)
  | .blob bs => some bs
  | .null => none
  | v => some (textBytes v.asText)

/-- The value as a 64-bit integer: a double truncated, a text's leading integer, zero for a
null. -/
def Value.toInteger : Value → Int
  | .null => 0
  | .integer n => n
  | .real x => truncateReal x
  | .text s => (readInteger s).1
  | .blob bs => (readInteger (bytesText bs)).1

/-- The value as a double: a text's leading number, zero for a null. -/
def Value.toReal : Value → Float
  | .null => 0.0
  | .integer n => Float.ofInt n
  | .real x => x
  | .text s => (readReal s).1
  | .blob bs => (readReal (bytesText bs)).1

/-- A double as an integer when it is one exactly and lies strictly inside the 64-bit range;
otherwise the double itself. -/
def integralReal (x : Float) : Value :=
  let i := realToInteger x
  if compareIntReal i x == .eq && minInteger < i && i < maxInteger then .integer i else .real x

/-- The number a text reads as when the whole text is one: an integer when it is written as one
and fits, a real otherwise. With `preferInteger`, an integral real becomes an integer too. A
text that is no number is kept. -/
def numericOfText (preferInteger : Bool) (s : String) : Value :=
  let (x, shape) := readReal s
  match shape with
  | .integer =>
    let i := realToInteger x
    if sameAsInteger x i then .integer i
    else
      match readInteger s with
      | (n, .exact) => .integer n
      | _ => if preferInteger then integralReal x else .real x
  | .real => if preferInteger then integralReal x else .real x
  | _ => .text s

/-- A value converted towards an affinity, as it is stored in a column of that affinity. -/
def Value.withAffinity (aff : Affinity) (v : Value) : Value :=
  match aff, v with
  | .text, .integer _ | .text, .real _ => .text v.asText
  | .numeric, .text s | .integer, .text s => numericOfText true s
  | .numeric, .real x | .integer, .real x => integralReal x
  | .real, .text s =>
    match numericOfText true s with
    | .integer n => .real (Float.ofInt n)
    | w => w
  | .real, .integer n => .real (Float.ofInt n)
  | _, _ => v

/-- A value converted towards a numeric affinity for a comparison: a text that is a number
becomes one, an integer when written as one. -/
def Value.toNumericForComparison : Value → Value
  | .text s => numericOfText false s
  | v => v

/-- The number an arithmetic operator takes a value as: numbers as they are, a text or blob as
its leading number, an integer when that reads as one. -/
def Value.arithmeticNumber : Value → Value
  | .integer n => .integer n
  | .real x => .real x
  | .null => .null
  | v =>
    let s := v.asText
    let (x, shape) := readReal s
    match shape with
    | .integer =>
      match readInteger s with
      | (n, .exact) => .integer n
      | _ => .real x
    | .other =>
      match readInteger s with
      | (n, .exact) | (n, .leadingDigits) | (n, .noDigits) => .integer n
      | _ => .real x
    | _ => .real x

/-- Whether a value counts as true, false or unknown: a number is true when it is not zero, a
text or blob when its leading number is not zero, and a null is unknown. -/
def Value.truth : Value → Option Bool
  | .null => none
  | .integer n => some (n != 0)
  | .real x => some (x != 0.0)
  | v => some (v.toReal != 0.0)

/-- A truth value as the database stores it: 1, 0, or null when unknown. -/
def truthValue : Option Bool → Value
  | some true => .integer 1
  | some false => .integer 0
  | none => .null

/-- How texts are compared. -/
inductive Collation where
  /-- By their bytes. -/
  | binary
  /-- By their bytes, ASCII upper-case letters taken as lower-case. -/
  | nocase
  /-- By their bytes, trailing spaces ignored. -/
  | rtrim
  deriving BEq, Inhabited, Repr

/-- The collation of a name, case aside. -/
def Collation.ofName? (name : String) : Option Collation :=
  match name.toUpper with
  | "BINARY" => some .binary
  | "NOCASE" => some .nocase
  | "RTRIM" => some .rtrim
  | _ => none

/-- An ASCII upper-case byte taken as lower case. -/
def lowerByte (b : UInt8) : UInt8 := if 65 ≤ b && b ≤ 90 then b + 32 else b

/-- Compares two byte lists, a shorter prefix first. -/
def compareBytes : List UInt8 → List UInt8 → Ordering
  | [], [] => .eq
  | [], _ :: _ => .lt
  | _ :: _, [] => .gt
  | a :: as, b :: bs => if a < b then .lt else if b < a then .gt else compareBytes as bs

/-- Drops the spaces at the end of some bytes. -/
def dropTrailingSpaces (bs : List UInt8) : List UInt8 :=
  (bs.reverse.dropWhile (· == 32)).reverse

/-- Compares two texts by a collation. -/
def Collation.compare (c : Collation) (a b : String) : Ordering :=
  match c with
  | .binary => compareBytes (textBytes a) (textBytes b)
  | .nocase => compareBytes ((textBytes a).map lowerByte) ((textBytes b).map lowerByte)
  | .rtrim => compareBytes (dropTrailingSpaces (textBytes a)) (dropTrailingSpaces (textBytes b))

/-- Compares two doubles; a NaN is equal to everything. -/
def compareReals (x y : Float) : Ordering :=
  if x < y then .lt else if y < x then .gt else .eq

/-- The class of a value in the order of values: null, number, text, blob. -/
def Value.rank : Value → Nat
  | .null => 0
  | .integer _ | .real _ => 1
  | .text _ => 2
  | .blob _ => 3

/-- The order of values: null below numbers below texts below blobs. Numbers compare by value,
exactly between an integer and a double; texts by the collation; blobs by their bytes. -/
def Value.compare (coll : Collation) : Value → Value → Ordering
  | .integer a, .integer b => Ord.compare a b
  | .integer a, .real y => compareIntReal a y
  | .real x, .integer b => (compareIntReal b x).swap
  | .real x, .real y => compareReals x y
  | .text a, .text b => coll.compare a b
  | .blob a, .blob b => compareBytes a b
  | a, b => Ord.compare a.rank b.rank

/-- Whether two values are the same for `IS`: both null, or equal by the collation. -/
def Value.same (coll : Collation) (a b : Value) : Bool :=
  match a, b with
  | .null, .null => true
  | .null, _ | _, .null => false
  | _, _ => a.compare coll b == .eq

/-- The affinity a comparison applies to its operands, from the affinities of the two sides:
numeric if either side is a numeric column or expression, the column's when only one side has
one, and none between two non-numeric columns. -/
def comparisonAffinity : Option Affinity → Option Affinity → Option Affinity
  | some a, some b => if a.isNumeric || b.isNumeric then some .numeric else some .blob
  | some a, none => some a
  | none, some b => some b
  | none, none => none

/-- The operands of a comparison after the comparison's affinity: under a numeric affinity a
text that is a number becomes one; under text affinity a number becomes text when the other
side is text. -/
def alignOperands (aff : Option Affinity) (a b : Value) : Value × Value :=
  match aff with
  | some .numeric | some .integer | some .real =>
    (a.toNumericForComparison, b.toNumericForComparison)
  | some .text =>
    let hasText := match a, b with
      | .text _, _ | _, .text _ => true
      | _, _ => false
    if hasText then
      let toText (v : Value) : Value :=
        match v with
        | .integer _ | .real _ => .text v.asText
        | _ => v
      (toText a, toText b)
    else (a, b)
  | _ => (a, b)

end EnergyModel.Sql
