import EnergyModel.Text.Toml.Token
import EnergyModel.Text.Toml.Datetime

/-!
# Reading keys and scalars

A key piece or scalar token is read into what it says, or refused with a problem at the place
it goes wrong; the first problem from the left is reported.

*Strings.* A basic string may hold escapes (`\b`, `\e`, `\f`, `\n`, `\r`, `\t`, `\\`, `\"`, and
`\x`, `\u`, `\U` with two, four or eight hexadecimal digits of a Unicode scalar value) and
otherwise tabs and visible characters. A literal string holds tabs and visible characters and
no escapes. Multi-line strings may also hold line ends; a line end right after the opening
quotes is dropped, and in a basic one a backslash at the end of a line removes the line end and
the blanks after it. A string whose closing quote is missing is refused at its end.

*Keys.* An unquoted key piece holds ASCII letters, digits, `-` and `_`, and may not be empty.
Quoted pieces are read as strings; multi-line strings are no keys.

*Scalars.* An unquoted scalar is a boolean (`true`, `false`), a float word (`inf`, `nan`, with an
optional sign), a number or a date-time. Numbers are decimal, or hexadecimal, octal or binary
after `0x`, `0o`, `0b` (lower case, unsigned). A decimal number may carry a sign and has no
leading zero; a float has a fraction after a point or an exponent after `e` or `E`, each with at
least one digit. An underscore must stand between two digits. A number is kept as its digits
with the underscores taken out: its size is judged when it is used. A run that starts like
nothing of these is a string without quotes, refused as such.
-/

namespace EnergyModel.Toml

/-- What a scalar says. -/
inductive Scalar where
  | string (text : String)
  | boolean (value : Bool)
  /-- An integer: its digits, perhaps after a sign, and its radix. -/
  | integer (digits : String) (radix : Nat)
  /-- A float: its text without underscores, or a float word. -/
  | float (text : String)
  | datetime (text : String)
  deriving Inhabited, BEq

/-- Characters with their byte offsets in the document. -/
abbrev Located := List (Char × Nat)

/-- The characters of a token with their offsets in the document. -/
def Token.located (t : Token) : Located := (indexed t.text).map fun p => (p.1, t.start + p.2)

/-- The offset of the first character, or `stop` when there is none. -/
def offsetOf (cs : Located) (stop : Nat) : Nat :=
  match cs with
  | (_, i) :: _ => i
  | [] => stop

/-- The byte size of some characters. -/
def byteSize (cs : Located) : Nat := cs.foldl (fun n p => n + p.1.utf8Size) 0

/-- The value of a hexadecimal digit. -/
def hexValue (c : Char) : Nat :=
  if c.isDigit then c.toNat - '0'.toNat
  else if 'a' ≤ c && c ≤ 'f' then c.toNat - 'a'.toNat + 10
  else c.toNat - 'A'.toNat + 10

/-- Whether a character is a hexadecimal digit. -/
def isHexDigit (c : Char) : Bool := c.isDigit || ('a' ≤ c && c ≤ 'f') || ('A' ≤ c && c ≤ 'F')

/-- The escapes a backslash may start. -/
def escapeLetters : List Expected :=
  ["b", "e", "f", "n", "r", "t", "\\", "\"", "x", "u", "U"].map Expected.literal

/-- What a hexadecimal escape expected. -/
def hexExpected : List Expected := [.description "unicode hexadecimal value"]

/-- Reads the `n` hexadecimal digits of an escape. Gives the character and how many characters
were read. -/
def hexEscape (n : Nat) (cs : Located) (stop : Nat) : Except Diagnostic (Char × Nat) :=
  let here := offsetOf cs stop
  let digits := (cs.takeWhile fun p => isHexDigit p.1).take n
  if digits.length < n then .error (.make here here "too few unicode value digits" (some hexExpected))
  else
    let value := digits.foldl (fun acc p => 16 * acc + hexValue p.1) 0
    if value < 0xd800 || (0xdfff < value && value < 0x110000) then .ok (Char.ofNat value, n)
    else .error (.make here here "invalid value" (some hexExpected))

/-- Reads an escape after its backslash. Gives the character and how many characters were read
after the backslash. -/
def escape (cs : Located) (stop : Nat) : Except Diagnostic (Char × Nat) :=
  match cs with
  | [] => .error (.make stop stop "missing escaped value" (some escapeLetters))
  | (e, i) :: rest =>
    match e with
    | 'b' => .ok ('\x08', 1)
    | 'e' => .ok ('\x1b', 1)
    | 'f' => .ok ('\x0c', 1)
    | 'n' => .ok ('\n', 1)
    | 'r' => .ok ('\r', 1)
    | 't' => .ok ('\t', 1)
    | '\\' => .ok ('\\', 1)
    | '"' => .ok ('"', 1)
    | 'x' => (hexEscape 2 rest stop).map fun (c, k) => (c, k + 1)
    | 'u' => (hexEscape 4 rest stop).map fun (c, k) => (c, k + 1)
    | 'U' => (hexEscape 8 rest stop).map fun (c, k) => (c, k + 1)
    | _ => .error (.make i i "missing escaped value" (some escapeLetters))

/-- Characters a basic string holds as they are: blanks and visible characters other than the
quote and the backslash. -/
def plainInBasic (c : Char) : Bool :=
  c == ' ' || c == '\t' || c == '!' || (0x23 ≤ c.toNat && c.toNat ≤ 0x5b) ||
  (0x5d ≤ c.toNat && c.toNat ≤ 0x7e) || 0x80 ≤ c.toNat

/-- Characters a literal string holds: tabs and visible characters other than the apostrophe. -/
def plainInLiteral (c : Char) : Bool :=
  c == '\t' || (0x20 ≤ c.toNat && c.toNat ≤ 0x26) || (0x28 ≤ c.toNat && c.toNat ≤ 0x7e) ||
  0x80 ≤ c.toNat

/-- Drops the blanks and line ends at the front. -/
def dropBlankLines (cs : Located) : Located :=
  cs.dropWhile fun p => p.1 == ' ' || p.1 == '\t' || p.1 == '\n' || p.1 == '\r'

theorem length_dropBlankLines_le (cs : Located) : (dropBlankLines cs).length ≤ cs.length :=
  (List.dropWhile_suffix _).length_le

/-- Whether the front holds a line end. -/
def startsLine : Located → Bool
  | ('\n', _) :: _ => true
  | ('\r', _) :: ('\n', _) :: _ => true
  | _ => false

/-- Reads the body of a basic string, one-line or multi-line, up to `stop`, where its closing
quotes begin. -/
def basicBody (multi : Bool) (what : String) (stop : Nat) (acc : List Char) (cs : Located) :
    Except Diagnostic String :=
  match cs with
  | [] => .ok (String.ofList acc.reverse)
  | (c, i) :: rest =>
    if c == '\\' then
      let blanks := rest.takeWhile fun p => p.1 == ' ' || p.1 == '\t'
      if multi && startsLine (rest.drop blanks.length) then
        basicBody multi what stop acc (dropBlankLines rest)
      else
        match escape rest stop with
        | .ok (ch, k) => basicBody multi what stop (ch :: acc) (rest.drop k)
        | .error e => .error e
    else if plainInBasic c || (multi && (c == '"' || c == '\n')) then
      basicBody multi what stop (c :: acc) rest
    else if multi && c == '\r' && startsLine rest then
      basicBody multi what stop (c :: acc) rest
    else
      let bad := ((c, i) :: rest).takeWhile fun p =>
        p.1 != '\\' && !(plainInBasic p.1 || (multi && (p.1 == '"' || p.1 == '\n')))
      .error (.make i (i + byteSize bad) what
        (some [.description "non-double-quote visible characters", .literal "\\"]))
termination_by cs.length
decreasing_by
  all_goals simp only [List.length_cons, List.length_drop]
  all_goals
    have := length_dropBlankLines_le rest
    omega

/-- Drops a line end right after the opening quotes of a multi-line string. -/
def dropFirstLine : Located → Located
  | ('\n', _) :: rest => rest
  | ('\r', _) :: ('\n', _) :: rest => rest
  | cs => cs

/-- The closing delimiter at the end of a string's characters, taken off; `none` when it is not
there. -/
def withoutClosing (delimiter : List Char) (cs : Located) : Option Located :=
  if (cs.map (·.1)).reverse.take delimiter.length == delimiter.reverse && cs.length ≥ delimiter.length
  then some (cs.take (cs.length - delimiter.length))
  else none

/-- Reads a basic string token. -/
def readBasic (t : Token) : Except Diagnostic String :=
  let what := "invalid basic string"
  match t.located with
  | ('"', _) :: body =>
    match withoutClosing ['"'] body with
    | some content => basicBody false what (t.stop - 1) [] content
    | none => .error (.make t.stop t.stop what (some [.literal "\""]))
  | _ => .error (.make t.start t.start what (some [.literal "\""]))

/-- Reads a multi-line basic string token. -/
def readMultiBasic (t : Token) : Except Diagnostic String :=
  let what := "invalid multi-line basic string"
  match t.located with
  | ('"', _) :: ('"', _) :: ('"', _) :: body =>
    match withoutClosing ['"', '"', '"'] (dropFirstLine body) with
    | some content => basicBody true what (t.stop - 3) [] content
    | none => .error (.make t.stop t.stop what (some [.literal "\""]))
  | _ => .error (.make t.start t.start what (some [.literal "\""]))

/-- The first character of a literal string's body that it may not hold, in a one-line or a
multi-line string. -/
def badInLiteral (multi : Bool) : Located → Option Nat
  | [] => none
  | (c, i) :: rest =>
    if plainInLiteral c || (multi && (c == '\'' || c == '\n')) then badInLiteral multi rest
    else if multi && c == '\r' && startsLine rest then badInLiteral multi rest
    else some i

/-- Reads a literal string token, one-line or multi-line. -/
def readLiteral (multi : Bool) (t : Token) : Except Diagnostic String :=
  let what := if multi then "invalid multi-line literal string" else "invalid literal string"
  let delimiter := if multi then ['\'', '\'', '\''] else ['\'']
  let cs := t.located
  if (cs.map (·.1)).take delimiter.length != delimiter then
    .error (.make t.start t.start what (some [.literal "'"]))
  else
    let body := cs.drop delimiter.length
    let body := if multi then dropFirstLine body else body
    match withoutClosing delimiter body with
    | none => .error (.make t.stop t.stop what (some [.literal "'"]))
    | some content =>
      match badInLiteral multi content with
      | some i => .error (.make i i what (some [.description "non-single-quote visible characters"]))
      | none => .ok (String.ofList (content.map (·.1)))

/-- What an unquoted key piece may hold. -/
def keyExpected : List Expected :=
  [.description "letters", .description "numbers", .literal "-", .literal "_"]

/-- Whether a character may stand in an unquoted key. -/
def allowedInKey (c : Char) : Bool := c.isAlphanum || c == '-' || c == '_'

/-- Reads a key piece: its text and span. -/
def readKeyPiece (t : Token) : Except Diagnostic (String × Nat × Nat) :=
  let text : Except Diagnostic String :=
    match t.kind with
    | .basicString => readBasic t
    | .literalString => readLiteral false t
    | .multiBasicString =>
      .error (.make t.start t.stop "multi-line basic strings are not allowed for keys"
        (some [.description "basic string", .description "literal string"]))
    | .multiLiteralString =>
      .error (.make t.start t.stop "multi-line literal strings are not allowed for keys"
        (some [.description "basic string", .description "literal string"]))
    | _ =>
      if t.text.isEmpty then .error (.make t.start t.start "unquoted keys cannot be empty" (some keyExpected))
      else
        match t.located.find? (fun p => !allowedInKey p.1) with
        | some (c, i) => .error (.make i (i + c.utf8Size) "invalid unquoted key" (some keyExpected))
        | none => .ok t.text
  text.map fun s => (s, t.start, t.stop)

/-- The problem of an unquoted run that is no value: a quote missing at its front, or a string
without quotes. -/
def unquotedString (t : Token) : Diagnostic :=
  let s := t.text
  let opening := Diagnostic.make t.start t.start "missing opening quote"
  if s.endsWith "'''" then opening (some [.literal "'''"])
  else if s.endsWith "\"\"\"" then opening (some [.description "multi-line basic string"])
  else if s.endsWith "'" then opening (some [.literal "'"])
  else if s.endsWith "\"" then opening (some [.literal "\""])
  else .make t.start t.stop "string values must be quoted" (some [.description "literal string"])

/-- Whether a character is a digit of a radix. -/
def isDigitOf (radix : Nat) (c : Char) : Bool :=
  if radix == 16 then isHexDigit c
  else if radix == 8 then '0' ≤ c && c ≤ '7'
  else if radix == 2 then c == '0' || c == '1'
  else c.isDigit

/-- The problem of a misplaced underscore. -/
def underscoreAt (i : Nat) : Diagnostic :=
  .make i (i + 1) "`_` may only go between digits" (some [])

/-- The first underscore that does not stand between two digits, from the left. -/
def badUnderscore (radix : Nat) (previous : Option Char) : Located → Option Nat
  | [] => none
  | (c, i) :: rest =>
    if c == '_' then
      let before := previous.any (isDigitOf radix)
      let after := rest.head?.any fun p => isDigitOf radix p.1
      if before && after then badUnderscore radix (some c) rest else some i
    else badUnderscore radix (some c) rest

/-- Checks the underscores of a number: not first, not last, and each between two digits. -/
def checkUnderscores (radix : Nat) (cs : Located) : Except Diagnostic Unit :=
  match cs.head?, cs.getLast? with
  | some ('_', i), _ => .error (underscoreAt i)
  | _, some ('_', i) => .error (underscoreAt i)
  | _, _ =>
    match badUnderscore radix none cs with
    | some i => .error (underscoreAt i)
    | none => .ok ()

/-- The text of some characters without their underscores. -/
def withoutUnderscores (cs : Located) : String := String.ofList ((cs.map (·.1)).filter (· != '_'))

/-- An integer from its characters, after checking their underscores. -/
def integerOf (radix : Nat) (cs : Located) : Except Diagnostic Scalar := do
  checkUnderscores radix cs
  pure (.integer (withoutUnderscores cs) radix)

/-- A float from its characters, after checking their underscores. -/
def floatOf (cs : Located) : Except Diagnostic Scalar := do
  checkUnderscores 10 cs
  pure (.float (withoutUnderscores cs))

/-- Checks the digits of one part of a decimal number (digits and underscores, at least one
digit, no leading zero unless allowed) and gives the characters after them. -/
def checkPart (zeroAllowed : Bool) (description : String) (stop : Nat) (cs : Located) :
    Except Diagnostic Located :=
  let run := cs.takeWhile fun p => p.1.isDigit || p.1 == '_'
  let count := (run.filter fun p => p.1.isDigit).length
  let here := offsetOf cs stop
  if count == 0 then .error (.make here here description (some [.description "digits"]))
  else if 2 ≤ count && (cs.head?.map (·.1)) == some '0' && !zeroAllowed then
    .error (.make here (here + 1) "unexpected leading zero" (some []))
  else .ok (cs.drop run.length)

/-- Checks the parts of a float: a whole part, then a fraction after a point and an exponent
after `e` or `E`, as they are there, and nothing else. -/
def checkFloat (stop : Nat) (cs : Located) : Except Diagnostic Unit := do
  let rest ← checkPart false "invalid mantissa" stop cs
  let rest ← match rest with
    | ('.', _) :: more => checkPart true "invalid fraction" stop more
    | _ => pure rest
  let rest ← match rest with
    | (e, _) :: more =>
      if e == 'e' || e == 'E' then
        let digits := match more with
          | (s, _) :: m => if s == '+' || s == '-' then m else more
          | [] => []
        checkPart true "invalid exponent" stop digits
      else pure rest
    | [] => pure []
  match rest with
  | [] => pure ()
  | (_, i) :: _ => throw (.make i stop "invalid float" none)

/-- Reads a run that starts with digits (after a sign, if any): a date-time when the digits are
followed by `-` or `:`, a float when by a point or an exponent, an integer when by nothing. -/
def numberOrDatetime (t : Token) (value : Located) : Except Diagnostic Scalar :=
  match value.dropWhile fun p => p.1.isDigit || p.1 == '_' with
  | [] =>
    match value with
    | ('0', i) :: _ => .error (.make i (i + 1) "unexpected leading zero" (some []))
    | _ => integerOf 10 t.located
  | (c, _) :: rest =>
    if c == '-' || c == ':' then .ok (.datetime t.text)
    else if rest.any (·.1 == ' ') then .error (unquotedString t)
    else if c == '.' || c == 'e' || c == 'E' then do
      checkFloat t.stop value
      floatOf t.located
    else .error (unquotedString t)

/-- The wording of a bad digit in a radix. -/
def radixDescription (radix : Nat) : String :=
  if radix == 16 then "invalid hexadecimal number"
  else if radix == 8 then "invalid octal number"
  else "invalid binary number"

/-- Reads a run that starts with a zero: a number with a radix prefix, or else a decimal number
or date-time. -/
def zeroPrefixed (t : Token) (signed : Bool) (value : Located) : Except Diagnostic Scalar :=
  match value with
  | [_] => integerOf 10 t.located
  | (_, zi) :: (r, _) :: rest =>
    let radix :=
      if r == 'x' || r == 'X' then 16 else if r == 'o' || r == 'O' then 8
      else if r == 'b' || r == 'B' then 2 else 0
    if radix == 0 then numberOrDatetime t value
    else do
      if signed then throw (.make t.start (t.start + 1) "integers with a radix cannot be signed" (some []))
      if r.isUpper then
        throw (.make zi (zi + 2) "radix must be lowercase" (some [.literal ("0" ++ r.toLower.toString)]))
      let digits := match rest with
        | (s, _) :: more => if s == '+' || s == '-' then more else rest
        | [] => []
      match rest with
      | (s, si) :: _ =>
        if s == '+' || s == '-' then throw (.make si (si + 1) "unexpected sign" (some []))
      | [] => pure ()
      match digits.find? fun p => !(isDigitOf radix p.1 || p.1 == '_') with
      | some (_, i) => throw (.make i i (radixDescription radix) none)
      | none => pure ()
      integerOf radix rest
  | [] => .error (unquotedString t)

/-- Reads a word: it must be exactly the word. -/
def word (t : Token) (w : String) (value : Scalar) (description : String) : Except Diagnostic Scalar :=
  if t.text == w then .ok value
  else if t.text.contains ' ' then .error (unquotedString t)
  else .error (.make t.start t.stop description (some [.literal w]))

/-- Reads what follows the sign of a signed run. -/
def afterSign (t : Token) (value : Located) : Except Diagnostic Scalar :=
  match value with
  | [] => .error (unquotedString t)
  | (c, i) :: _ =>
    if c == '+' || c == '-' then .error (.make i (i + 1) "redundant numeric sign" (some []))
    else if c == '0' then zeroPrefixed t true value
    else if c.isDigit || c == '_' then numberOrDatetime t value
    else if c == '.' then do
      checkFloat t.stop t.located
      floatOf t.located
    else if c == 'i' || c == 'I' || c == 'n' || c == 'N' then
      let w := if c == 'i' || c == 'I' then "inf" else "nan"
      if String.ofList (value.map (·.1)) == w then .ok (.float t.text)
      else .error (.make i t.stop "invalid float" (some [.literal w]))
    else .error (unquotedString t)

/-- Reads an unquoted scalar. -/
def readUnquoted (t : Token) : Except Diagnostic Scalar :=
  match t.located with
  | [] => .error (unquotedString t)
  | (c, _) :: rest =>
    if c == '+' || c == '-' then afterSign t rest
    else if c == '0' then zeroPrefixed t false t.located
    else if c.isDigit || c == '_' then numberOrDatetime t t.located
    else if c == '.' then do
      checkFloat t.stop t.located
      floatOf t.located
    else if c == 't' || c == 'T' then word t "true" (.boolean true) "invalid boolean"
    else if c == 'f' || c == 'F' then word t "false" (.boolean false) "invalid boolean"
    else if c == 'i' || c == 'I' then word t "inf" (.float "inf") "invalid float"
    else if c == 'n' || c == 'N' then word t "nan" (.float "nan") "invalid float"
    else .error (unquotedString t)

/-- Reads a scalar token; a date-time must be a valid one. -/
def readScalar (t : Token) : Except Diagnostic Scalar :=
  match t.kind with
  | .basicString => .string <$> readBasic t
  | .multiBasicString => .string <$> readMultiBasic t
  | .literalString => .string <$> readLiteral false t
  | .multiLiteralString => .string <$> readLiteral true t
  | _ => do
    let s ← readUnquoted t
    match s with
    | .datetime text =>
      match Datetime.check text with
      | .ok () => pure s
      | .error p => throw (.make t.start t.stop p.message none)
    | _ => pure s

end EnergyModel.Toml
