import EnergyModel.Sql.Printf

/-!
# JSON in the database

The JSON functions read a JSON text (or its binary form) into a tree, look things up in it or
change it along a path, and write it back. The tree keeps what the text said: a number keeps
the digits it was written with and a string the escapes it was written with, so that a value
read and written back is the same text, only without blanks.

The reader takes standard JSON and also JSON5: comments, single-quoted strings, keys without
quotes, trailing commas, hexadecimal integers, numbers with a bare point or a plus sign,
`Infinity` and `NaN`, and more kinds of blanks. A JSON5 form is written back as standard JSON:
a hexadecimal integer in decimal, `.5` as `0.5`, a JSON5 escape as a standard one, infinity as
`9e999`. The reader also remembers the position of the last closing mark or error, which
`json_error_position` reports.

A text that a JSON function made is marked as JSON: given to another JSON function, it is
taken as JSON and not as a string. Any other text becomes a string.

A path is `$` followed by steps: `.key`, `."key"`, `[n]`, `[#]` (one past the end) or `[#-n]`.
Steps are read one at a time while the tree is walked, so a path that goes wrong only after a
step that finds nothing is not an error.
-/

namespace EnergyModel.Sql

/-- How a JSON string keeps its text. -/
inductive JsonText where
  /-- As it stands, with nothing escaped. -/
  | plain
  /-- With the escapes of standard JSON. -/
  | escaped
  /-- With the escapes or characters only JSON5 allows, rewritten when written out. -/
  | extended
  /-- A text of the database, escaped when written out. -/
  | raw
  deriving BEq, Inhabited

/-- A JSON value, keeping the text its numbers and strings were written with. -/
inductive JsonNode where
  | null
  | bool (value : Bool)
  | integer (text : List UInt8)
  /-- A JSON5 hexadecimal integer, maybe signed. -/
  | hexInteger (text : List UInt8)
  | real (text : List UInt8)
  /-- A JSON5 real with no digit on one side of its point. -/
  | shortReal (text : List UInt8)
  | string (form : JsonText) (text : List UInt8)
  | array (items : List JsonNode)
  | object (members : List (JsonNode × JsonNode))
  deriving Inhabited

/-! ## Reading JSON text -/

/-- The state of a reader: the text, where the last closing mark or error was, whether
anything only JSON5 allows was met, and how deep the containers are. -/
structure JsonReader where
  input : Array UInt8
  errorAt : Nat := 0
  nonstandard : Bool := false
  depth : Nat := 0

/-- What reading at a position met: a value and the position after it, a closing or separating
mark (its position is the reader's `errorAt`), the end of the text, or an error. -/
inductive JsonMark where
  | value (node : JsonNode) (next : Nat)
  | closeObject
  | closeArray
  | comma
  | colon
  | finished
  | failed

/-- The byte at a position, zero past the end. -/
def JsonReader.byteAt (r : JsonReader) (i : Nat) : UInt8 := r.input.getD i 0

/-- The bytes from one position up to another. -/
def JsonReader.slice (r : JsonReader) (i j : Nat) : List UInt8 := (r.input.extract i j).toList

/-- Whether a byte is a blank of standard JSON. -/
def isJsonSpace (b : UInt8) : Bool := b == 32 || b == 9 || b == 10 || b == 13

/-- Whether a byte is an ASCII digit. -/
def isDigitAscii (b : UInt8) : Bool := 48 ≤ b.toNat && b.toNat ≤ 57

/-- Whether a byte is an ASCII hexadecimal digit. -/
def isHexAscii (b : UInt8) : Bool :=
  isDigitAscii b || (65 ≤ b.toNat && b.toNat ≤ 70) || (97 ≤ b.toNat && b.toNat ≤ 102)

/-- Whether a byte is an ASCII letter or digit. -/
def isAlnumAscii (b : UInt8) : Bool :=
  isDigitAscii b || (65 ≤ b.toNat && b.toNat ≤ 90) || (97 ≤ b.toNat && b.toNat ≤ 122)

/-- The value of a hexadecimal digit. -/
def hexValue (b : UInt8) : Nat :=
  let n := b.toNat
  if n ≤ 57 then n - 48 else if n ≤ 70 then n - 55 else n - 87

/-- The bytes of JSON5 blanks and comments from a position: none when there are none. A block
comment without its end is no blank. The fuel bounds the steps. -/
def JsonReader.blanks (r : JsonReader) : Nat → Nat → Nat
  | 0, n => n
  | fuel + 1, n =>
    let b := r.byteAt n
    let b1 := (r.byteAt (n + 1)).toNat
    let b2 := (r.byteAt (n + 2)).toNat
    match b.toNat with
    | 9 | 10 | 11 | 12 | 13 | 32 => r.blanks fuel (n + 1)
    | 47 =>
      if b1 == 42 && b2 != 0 then
        -- a block comment, ended by the first "*/" after its start
        let rec close : Nat → Nat → Option Nat
          | 0, _ => none
          | k + 1, j =>
            if (r.byteAt j).toNat == 0 then none
            else if (r.byteAt j).toNat == 47 && (r.byteAt (j - 1)).toNat == 42 then some (j + 1)
            else close k (j + 1)
        match close (r.input.size + 1) (n + 3) with
        | some e => r.blanks fuel e
        | none => n
      else if b1 == 47 then
        -- a line comment, ended by a line break or a line or paragraph separator
        let rec lineEnd : Nat → Nat → Nat
          | 0, j => j
          | k + 1, j =>
            let c := (r.byteAt j).toNat
            if c == 0 then j
            else if c == 10 || c == 13 then j + 1
            else if c == 0xE2 && (r.byteAt (j + 1)).toNat == 0x80 &&
                ((r.byteAt (j + 2)).toNat == 0xA8 || (r.byteAt (j + 2)).toNat == 0xA9) then j + 3
            else lineEnd k (j + 1)
        r.blanks fuel (lineEnd (r.input.size + 1) (n + 2))
      else n
    | 0xC2 => if b1 == 0xA0 then r.blanks fuel (n + 2) else n
    | 0xE1 => if b1 == 0x9A && b2 == 0x80 then r.blanks fuel (n + 3) else n
    | 0xE2 =>
      if b1 == 0x80 then
        if b2 < 0x80 then n
        else if b2 ≤ 0x8A || b2 == 0xA8 || b2 == 0xA9 || b2 == 0xAF then r.blanks fuel (n + 3)
        else n
      else if b1 == 0x81 && b2 == 0x9F then r.blanks fuel (n + 3)
      else n
    | 0xE3 => if b1 == 0x80 && b2 == 0x80 then r.blanks fuel (n + 3) else n
    | 0xEF => if b1 == 0xBB && b2 == 0xBF then r.blanks fuel (n + 3) else n
    | _ => n

/-- The bytes of JSON5 blanks and comments at a position. -/
def JsonReader.blankLength (r : JsonReader) (i : Nat) : Nat :=
  r.blanks (r.input.size + 1) i - i

/-- The position after the standard blanks at a position. -/
def JsonReader.skipSpaces (r : JsonReader) (i : Nat) : Nat :=
  i + ((r.input.extract i r.input.size).toList.takeWhile isJsonSpace).length

/-- Whether a byte may start a JSON5 key without quotes. -/
def isKeyStart (b : UInt8) : Bool :=
  let n := b.toNat
  (65 ≤ n && n ≤ 90) || (97 ≤ n && n ≤ 122) || n == 95 || n == 36 || n ≥ 0x80

/-- Whether a byte may continue a JSON5 key without quotes. -/
def isKeyPart (b : UInt8) : Bool := isKeyStart b || isDigitAscii b

/-- The names of infinity and not-a-number the reader knows, any case, and whether each is
infinity. -/
def specialNumberNames : List (String × Bool) :=
  [("inf", true), ("infinity", true), ("nan", false), ("qnan", false), ("snan", false)]

/-- Whether the bytes at a position spell a word, any case. -/
def JsonReader.spells (r : JsonReader) (i : Nat) (word : String) : Bool :=
  (word.toList.zipIdx.all fun (c, k) =>
    let b := (r.byteAt (i + k)).toNat
    let lower := if 65 ≤ b && b ≤ 90 then b + 32 else b
    lower == c.toNat)

/-- Whether the bytes at a position are exactly a word. -/
def JsonReader.hasWord (r : JsonReader) (i : Nat) (word : String) : Bool :=
  (word.toList.zipIdx.all fun (c, k) => (r.byteAt (i + k)).toNat == c.toNat)

/-- Reads a string from its opening quote: the string node and the position after it, or the
position of the error. -/
def JsonReader.readString (r : JsonReader) (i : Nat) : Except Nat (JsonNode × Bool × Nat) :=
  let delim := r.byteAt i
  let rec scan : Nat → Nat → JsonText → Bool → Except Nat (JsonText × Bool × Nat)
    | 0, j, _, _ => .error j
    | fuel + 1, j, form, odd =>
      let c := r.byteAt j
      let n := c.toNat
      if c == delim then .ok (form, odd, j)
      else if n == 92 then
        let e := r.byteAt (j + 1)
        let en := e.toNat
        let hex4 := (List.range 4).all fun k => isHexAscii (r.byteAt (j + 2 + k))
        if en == 34 || en == 92 || en == 47 || en == 98 || en == 102 || en == 110 || en == 114 ||
            en == 116 || (en == 117 && hex4) then
          scan fuel (j + 2) (if form == .plain then .escaped else form) odd
        else if en == 39 || en == 118 || en == 10 || (en == 48 && !isDigitAscii (r.byteAt (j + 2))) ||
            (en == 0xE2 && (r.byteAt (j + 2)).toNat == 0x80 &&
              ((r.byteAt (j + 3)).toNat == 0xA8 || (r.byteAt (j + 3)).toNat == 0xA9)) ||
            (en == 120 && isHexAscii (r.byteAt (j + 2)) && isHexAscii (r.byteAt (j + 3))) then
          scan fuel (j + 2) .extended true
        else if en == 13 then
          scan fuel (if (r.byteAt (j + 2)).toNat == 10 then j + 3 else j + 2) .extended true
        else .error (j + 1)
      else if n ≤ 0x1F then
        if n == 0 then .error j else scan fuel (j + 1) .extended true
      else if n == 34 then scan fuel (j + 1) .extended odd
      else scan fuel (j + 1) form odd
  match scan (r.input.size + 1) (i + 1) .plain (delim.toNat == 39) with
  | .ok (form, odd, j) => .ok (.string form (r.slice (i + 1) j), odd, j + 1)
  | .error e => .error e

/-- Reads a number from its first byte (a sign, a digit or a point): the number node, whether it
is a JSON5 form, and the position after it; or the position of the error. -/
def JsonReader.readNumber (r : JsonReader) (i : Nat) : Except Nat (JsonNode × Bool × Nat) :=
  let c := (r.byteAt i).toNat
  let nextIs (k : Nat) (p : UInt8 → Bool) : Bool := p (r.byteAt k)
  -- the end of a run of hexadecimal digits
  let hexEnd (j : Nat) : Nat :=
    j + ((r.input.extract j r.input.size).toList.takeWhile isHexAscii).length
  -- the node for the text from `start` to `j`, a plus sign dropped
  let finish (start j : Nat) (json5 isReal : Bool) : JsonNode × Bool × Nat :=
    let start := if (r.byteAt start).toNat == 43 then start + 1 else start
    let text := r.slice start j
    let node := match json5, isReal with
      | false, false => JsonNode.integer text
      | true, false => .hexInteger text
      | false, true => .real text
      | true, true => .shortReal text
    (node, json5, j)
  -- digits, a point and an exponent after the first byte
  let rec body : Nat → Nat → Bool → Bool → Bool → Except Nat (JsonNode × Bool × Nat)
    | 0, j, _, _, _ => .error j
    | fuel + 1, j, json5, seenPoint, seenE =>
      let b := r.byteAt j
      if isDigitAscii b then body fuel (j + 1) json5 seenPoint seenE
      else if b.toNat == 46 then
        if seenPoint then .error j else body fuel (j + 1) json5 true seenE
      else if b.toNat == 101 || b.toNat == 69 then
        let prev := (r.byteAt (j - 1)).toNat
        let json5' := if prev < 48 then true else json5
        if prev < 48 && !(prev == 46 && j ≥ i + 2 && isDigitAscii (r.byteAt (j - 2))) then .error j
        else if seenE then .error j
        else
          let j' := if (r.byteAt (j + 1)).toNat == 43 || (r.byteAt (j + 1)).toNat == 45 then j + 1 else j
          if !isDigitAscii (r.byteAt (j' + 1)) then .error j'
          else body fuel (j' + 1) json5' true true
      else
        let prev := (r.byteAt (j - 1)).toNat
        if prev < 48 then
          if prev == 46 && j ≥ i + 2 && isDigitAscii (r.byteAt (j - 2)) then .ok (finish i j true true)
          else .error j
        else .ok (finish i j json5 (seenPoint || seenE))
  let fuel := r.input.size + 2
  if c == 46 then
    if nextIs (i + 1) isDigitAscii then body fuel (i + 1) true true false else .error i
  else if c == 48 then
    if ((r.byteAt (i + 1)).toNat == 120 || (r.byteAt (i + 1)).toNat == 88) && nextIs (i + 2) isHexAscii then
      .ok (finish i (hexEnd (i + 3)) true false)
    else if nextIs (i + 1) isDigitAscii then .error (i + 1)
    else body fuel (i + 1) false false false
  else if c == 43 || c == 45 then
    let b1 := r.byteAt (i + 1)
    if !isDigitAscii b1 then
      if (b1.toNat == 73 || b1.toNat == 105) && r.spells (i + 1) "inf" then
        let text := if c == 45 then "-9e999" else "9e999"
        let len := if r.spells (i + 4) "inity" then 9 else 4
        .ok (.real text.toUTF8.toList, true, i + len)
      else if b1.toNat == 46 then body fuel (i + 1) true false false
      else .error i
    else if b1.toNat == 48 then
      if nextIs (i + 2) isDigitAscii then .error (i + 1)
      else if ((r.byteAt (i + 2)).toNat == 120 || (r.byteAt (i + 2)).toNat == 88) && nextIs (i + 3) isHexAscii then
        .ok (finish i (hexEnd (i + 4)) true false)
      else body fuel (i + 1) false false false
    else body fuel (i + 1) false false false
  else body fuel (i + 1) false false false

mutual

/-- Reads one value at a position, after blanks: what was met. The fuel bounds the steps. -/
def JsonReader.readValue (fuel : Nat) (i : Nat) : StateM JsonReader JsonMark := do
  match fuel with
  | 0 => pure .failed
  | fuel + 1 =>
    let r ← get
    let fail (pos : Nat) : StateM JsonReader JsonMark := do
      modify fun r => { r with errorAt := pos }
      pure .failed
    let mark (pos : Nat) (m : JsonMark) : StateM JsonReader JsonMark := do
      modify fun r => { r with errorAt := pos }
      pure m
    let b := r.byteAt i
    match b.toNat with
    | 123 => JsonReader.readObject fuel i
    | 91 => JsonReader.readArray fuel i
    | 39 | 34 =>
      match r.readString i with
      | .ok (node, odd, next) =>
        if odd || (match node with | .string .extended _ => true | _ => false) then
          modify fun r => { r with nonstandard := true }
        pure (.value node next)
      | .error e => fail e
    | 116 =>
      if r.hasWord i "true" && !isAlnumAscii (r.byteAt (i + 4)) then pure (.value (.bool true) (i + 4))
      else fail i
    | 102 =>
      if r.hasWord i "false" && !isAlnumAscii (r.byteAt (i + 5)) then pure (.value (.bool false) (i + 5))
      else fail i
    | 43 | 45 | 46 | 48 | 49 | 50 | 51 | 52 | 53 | 54 | 55 | 56 | 57 =>
      match r.readNumber i with
      | .ok (node, json5, next) =>
        if json5 || b.toNat == 43 then modify fun r => { r with nonstandard := true }
        pure (.value node next)
      | .error e => fail e
    | 125 => mark i .closeObject
    | 93 => mark i .closeArray
    | 44 => mark i .comma
    | 58 => mark i .colon
    | 0 => pure .finished
    | 9 | 10 | 13 | 32 => JsonReader.readValue fuel (r.skipSpaces i)
    | 11 | 12 | 47 | 0xC2 | 0xE1 | 0xE2 | 0xE3 | 0xEF =>
      let n := r.blankLength i
      if n > 0 then
        modify fun r => { r with nonstandard := true }
        JsonReader.readValue fuel (i + n)
      else fail i
    | _ =>
      if b.toNat == 110 && r.hasWord i "null" && !isAlnumAscii (r.byteAt (i + 4)) then
        pure (.value .null (i + 4))
      else
        match specialNumberNames.find? fun (w, _) => r.spells i w && !isAlnumAscii (r.byteAt (i + w.length)) with
        | some (w, infinite) =>
          modify fun r => { r with nonstandard := true }
          pure (.value (if infinite then .real "9e999".toUTF8.toList else .null) (i + w.length))
        | none => fail i

/-- Reads an array from its opening bracket. -/
def JsonReader.readArray (fuel : Nat) (i : Nat) : StateM JsonReader JsonMark := do
  match fuel with
  | 0 => pure .failed
  | fuel + 1 =>
    let r ← get
    if r.depth + 1 > 1000 then
      set { r with errorAt := i }
      return .failed
    set { r with depth := r.depth + 1 }
    match ← JsonReader.arrayItems fuel (i + 1) [] with
    | some (items, close) =>
      modify fun r => { r with depth := r.depth - 1 }
      pure (.value (.array items) (close + 1))
    | none => pure .failed

/-- Reads the items of an array from a position: the items and the position of the closing
bracket. -/
def JsonReader.arrayItems (fuel : Nat) (j : Nat) (acc : List JsonNode) :
    StateM JsonReader (Option (List JsonNode × Nat)) := do
  match fuel with
  | 0 => pure none
  | fuel + 1 =>
    match ← JsonReader.readValue fuel j with
    | .closeArray =>
      let r ← get
      if !acc.isEmpty then set { r with nonstandard := true }
      pure (some (acc.reverse, r.errorAt))
    | .value node x =>
      let r ← get
      let acc := node :: acc
      let c := (r.byteAt x).toNat
      if c == 44 then JsonReader.arrayItems fuel (x + 1) acc
      else if c == 93 then pure (some (acc.reverse, x))
      else
        let x' := if isJsonSpace (r.byteAt x) then r.skipSpaces x else x
        let c' := (r.byteAt x').toNat
        if isJsonSpace (r.byteAt x) && c' == 44 then JsonReader.arrayItems fuel (x' + 1) acc
        else if isJsonSpace (r.byteAt x) && c' == 93 then pure (some (acc.reverse, x'))
        else
          match ← JsonReader.readValue fuel x' with
          | .comma => JsonReader.arrayItems fuel ((← get).errorAt + 1) acc
          | .closeArray => pure (some (acc.reverse, (← get).errorAt))
          | _ =>
            modify fun r => { r with errorAt := x' }
            pure none
    | .failed => pure none
    | _ =>
      modify fun r => { r with errorAt := j }
      pure none

/-- Reads an object from its opening brace. -/
def JsonReader.readObject (fuel : Nat) (i : Nat) : StateM JsonReader JsonMark := do
  match fuel with
  | 0 => pure .failed
  | fuel + 1 =>
    let r ← get
    if r.depth + 1 > 1000 then
      set { r with errorAt := i }
      return .failed
    set { r with depth := r.depth + 1 }
    match ← JsonReader.objectMembers fuel (i + 1) [] with
    | some (members, close) =>
      modify fun r => { r with depth := r.depth - 1 }
      pure (.value (.object members) (close + 1))
    | none => pure .failed

/-- Reads the members of an object from a position: the members and the position of the
closing brace. -/
def JsonReader.objectMembers (fuel : Nat) (j : Nat) (acc : List (JsonNode × JsonNode)) :
    StateM JsonReader (Option (List (JsonNode × JsonNode) × Nat)) := do
  match fuel with
  | 0 => pure none
  | fuel + 1 =>
    let fail (pos : Nat) : StateM JsonReader (Option (List (JsonNode × JsonNode) × Nat)) := do
      modify fun r => { r with errorAt := pos }
      pure none
    match ← JsonReader.readValue fuel j with
    | .closeObject =>
      -- a closing brace right away, or after a trailing comma
      let r ← get
      if !acc.isEmpty then set { r with nonstandard := true }
      pure (some (acc.reverse, r.errorAt))
    | mark =>
      -- the key: a string, or a JSON5 name without quotes
      let key : Option (JsonNode × Nat) ← match mark with
        | .value node x => pure (some (node, x))
        | _ =>
          let r ← get
          let k := j + r.blankLength j
          if isKeyStart (r.byteAt k) then
            let rest := (r.input.extract (k + 1) r.input.size).toList
            let len := (rest.takeWhile fun b => isKeyPart b).length
            -- a name ends at a blank of JSON5
            let len := (List.range (len + 1)).find? (fun m => m == len ||
              r.blankLength (k + 1 + m) > 0) |>.getD len
            modify fun r => { r with nonstandard := true }
            pure (some (.string .plain (r.slice k (k + 1 + len)), k + 1 + len))
          else
            match mark with
            | .failed => pure none
            | _ =>
              modify fun r => { r with errorAt := k }
              pure none
      match key with
      | none => pure none
      | some (keyNode, x) =>
        match keyNode with
        | .string _ _ =>
          let r ← get
          -- the colon, maybe after blanks
          let afterColon : Option Nat ← do
            if (r.byteAt x).toNat == 58 then pure (some (x + 1))
            else
              let x' := r.skipSpaces x
              if isJsonSpace (r.byteAt x) && (r.byteAt x').toNat == 58 then pure (some (x' + 1))
              else
                match ← JsonReader.readValue fuel x' with
                | .colon => pure (some ((← get).errorAt + 1))
                | .failed => pure none
                | _ =>
                  modify fun r => { r with errorAt := x' }
                  pure none
          match afterColon with
          | none => pure none
          | some v =>
            match ← JsonReader.readValue fuel v with
            | .value node y =>
              let acc := (keyNode, node) :: acc
              let r ← get
              let c := (r.byteAt y).toNat
              if c == 44 then JsonReader.objectMembers fuel (y + 1) acc
              else if c == 125 then pure (some (acc.reverse, y))
              else
                let y' := if isJsonSpace (r.byteAt y) then r.skipSpaces y else y
                let c' := (r.byteAt y').toNat
                if isJsonSpace (r.byteAt y) && c' == 44 then JsonReader.objectMembers fuel (y' + 1) acc
                else if isJsonSpace (r.byteAt y) && c' == 125 then pure (some (acc.reverse, y'))
                else
                  match ← JsonReader.readValue fuel y' with
                  | .comma => JsonReader.objectMembers fuel ((← get).errorAt + 1) acc
                  | .closeObject => pure (some (acc.reverse, (← get).errorAt))
                  | _ => fail y'
            | .failed => pure none
            | _ => fail v
        | _ => fail j

end

/-- The result of reading a whole JSON text: the value, or the reader at the error. -/
def readJsonText (bs : List UInt8) : Except JsonReader (JsonNode × Bool) :=
  let r : JsonReader := { input := bs.toArray }
  let fuel := 4 * bs.length + 8
  match (JsonReader.readValue fuel 0).run r with
  | (.value node i, r) =>
    let i := r.skipSpaces i
    if (r.byteAt i).toNat == 0 then .ok (node, r.nonstandard)
    else
      let i := i + r.blankLength i
      if (r.byteAt i).toNat == 0 then .ok (node, true) else .error r
  | (_, r) => .error r

/-! ## Writing JSON text -/

/-- Some ASCII text as bytes. -/
def asciiBytes (s : String) : List UInt8 := s.toUTF8.toList

/-- The hexadecimal digit of a number below sixteen, lower case. -/
def lowerHexDigit (n : Nat) : UInt8 := (if n < 10 then 48 + n else 87 + n).toUInt8

/-- A control character as a JSON escape. -/
def controlEscape (b : UInt8) : List UInt8 :=
  match b.toNat with
  | 8 => asciiBytes "\\b"
  | 9 => asciiBytes "\\t"
  | 10 => asciiBytes "\\n"
  | 12 => asciiBytes "\\f"
  | 13 => asciiBytes "\\r"
  | n => asciiBytes "\\u00" ++ [lowerHexDigit (n / 16), lowerHexDigit (n % 16)]

/-- Text written as a JSON string: quotes and backslashes escaped, control characters as
escapes. -/
def quoteJsonBytes (bs : List UInt8) : List UInt8 :=
  [34] ++ bs.flatMap (fun b =>
    if b.toNat == 34 || b.toNat == 92 then [92, b]
    else if b.toNat < 32 then controlEscape b
    else [b]) ++ [34]

/-- A JSON5 hexadecimal integer in decimal; one too large for 64 bits as `9.0e999`. -/
def hexIntegerText (text : List UInt8) : List UInt8 :=
  let (sign, digits) : List UInt8 × List UInt8 := match text with
    | 45 :: rest => ([45], rest.drop 2)
    | 43 :: rest => ([], rest.drop 2)
    | rest => ([], rest.drop 2)
  let (value, overflow) := digits.foldl (fun (acc : Nat × Bool) d =>
    if acc.2 then acc
    else if acc.1 / Nat.pow 2 60 != 0 then (acc.1, true)
    else (acc.1 * 16 + hexValue d, false)) (0, false)
  sign ++ (if overflow then asciiBytes "9.0e999" else asciiBytes (toString value))

/-- A JSON5 real with a bare point, with a zero put on the empty side. -/
def shortRealText (text : List UInt8) : List UInt8 :=
  let (sign, rest) : List UInt8 × List UInt8 := match text with
    | 45 :: rest => ([45], rest)
    | rest => ([], rest)
  let front := match rest with
    | 46 :: _ => [48]
    | _ => []
  let rec go : List UInt8 → List UInt8
    | [] => []
    | 46 :: more =>
      match more with
      | d :: _ => if isDigitAscii d then 46 :: go more else [46, 48] ++ go more
      | [] => [46, 48]
    | b :: more => b :: go more
  sign ++ front ++ go rest

/-- The text of a JSON5 string written as standard JSON: its JSON5 escapes made standard, its
line continuations dropped, its bare control characters and double quotes escaped. -/
def extendedStringText (text : List UInt8) : List UInt8 :=
  let rec go : Nat → List UInt8 → List UInt8
    | 0, _ => []
    | _, [] => []
    | fuel + 1, b :: rest =>
      let n := b.toNat
      if n == 34 then [92, 34] ++ go fuel rest
      else if n < 32 then controlEscape b ++ go fuel rest
      else if n != 92 then b :: go fuel rest
      else
        match rest with
        | [] => []
        | e :: more =>
          match e.toNat with
          | 39 => 39 :: go fuel more
          | 118 => asciiBytes "\\u0009" ++ go fuel more
          | 120 =>
            match more with
            | h1 :: h2 :: after => asciiBytes "\\u00" ++ [h1, h2] ++ go fuel after
            | _ => []
          | 48 => asciiBytes "\\u0000" ++ go fuel more
          | 13 =>
            match more with
            | 10 :: after => go fuel after
            | _ => go fuel more
          | 10 => go fuel more
          | 0xE2 => go fuel (more.drop 2)
          | _ => [92, e] ++ go fuel more
  [34] ++ go (text.length + 1) text ++ [34]

/-- A string node written as JSON. -/
def stringNodeText (form : JsonText) (text : List UInt8) : List UInt8 :=
  match form with
  | .plain | .escaped => [34] ++ text ++ [34]
  | .extended => extendedStringText text
  | .raw => quoteJsonBytes text

mutual

/-- A JSON value written as JSON text without blanks. The fuel bounds the depth. -/
def JsonNode.write : Nat → JsonNode → List UInt8
  | 0, _ => []
  | fuel + 1, n =>
    match n with
    | .null => asciiBytes "null"
    | .bool true => asciiBytes "true"
    | .bool false => asciiBytes "false"
    | .integer t | .real t => t
    | .hexInteger t => hexIntegerText t
    | .shortReal t => shortRealText t
    | .string form t => stringNodeText form t
    | .array items => [91] ++ JsonNode.writeItems fuel items ++ [93]
    | .object members => [123] ++ JsonNode.writeMembers fuel members ++ [125]

/-- Array items written as JSON, with commas between. -/
def JsonNode.writeItems : Nat → List JsonNode → List UInt8
  | 0, _ => []
  | _, [] => []
  | fuel + 1, [x] => JsonNode.write fuel x
  | fuel + 1, x :: rest => JsonNode.write fuel x ++ [44] ++ JsonNode.writeItems fuel rest

/-- Object members written as JSON, with commas between. -/
def JsonNode.writeMembers : Nat → List (JsonNode × JsonNode) → List UInt8
  | 0, _ => []
  | _, [] => []
  | fuel + 1, [(k, v)] => JsonNode.write fuel k ++ [58] ++ JsonNode.write fuel v
  | fuel + 1, (k, v) :: rest =>
    JsonNode.write fuel k ++ [58] ++ JsonNode.write fuel v ++ [44] ++ JsonNode.writeMembers fuel rest

end

/-- A JSON value written as JSON text. -/
def JsonNode.text (n : JsonNode) : List UInt8 := n.write 2000

mutual

/-- A JSON value written with one member or item a line, indented by a text for each level. -/
def JsonNode.pretty (indent : List UInt8) : Nat → Nat → JsonNode → List UInt8
  | 0, _, _ => []
  | fuel + 1, level, n =>
    let pad (k : Nat) : List UInt8 := (List.replicate k indent).flatten
    match n with
    | .array [] => [91, 93]
    | .object [] => [123, 125]
    | .array items =>
      [91, 10] ++ JsonNode.prettyItems indent fuel (level + 1) items ++ [10] ++ pad level ++ [93]
    | .object members =>
      [123, 10] ++ JsonNode.prettyMembers indent fuel (level + 1) members ++ [10] ++ pad level ++ [125]
    | _ => n.write fuel

/-- Array items written one a line. -/
def JsonNode.prettyItems (indent : List UInt8) : Nat → Nat → List JsonNode → List UInt8
  | 0, _, _ => []
  | _, _, [] => []
  | fuel + 1, level, x :: rest =>
    let line := (List.replicate level indent).flatten ++ JsonNode.pretty indent fuel level x
    if rest.isEmpty then line else line ++ [44, 10] ++ JsonNode.prettyItems indent fuel level rest

/-- Object members written one a line. -/
def JsonNode.prettyMembers (indent : List UInt8) : Nat → Nat → List (JsonNode × JsonNode) → List UInt8
  | 0, _, _ => []
  | _, _, [] => []
  | fuel + 1, level, (k, v) :: rest =>
    let line := (List.replicate level indent).flatten ++ k.write fuel ++ [58, 32] ++
      JsonNode.pretty indent fuel level v
    if rest.isEmpty then line else line ++ [44, 10] ++ JsonNode.prettyMembers indent fuel level rest

end

/-! ## The binary form -/

/-- The type code of a node in the binary form. -/
def JsonNode.code : JsonNode → Nat
  | .null => 0
  | .bool true => 1
  | .bool false => 2
  | .integer _ => 3
  | .hexInteger _ => 4
  | .real _ => 5
  | .shortReal _ => 6
  | .string .plain _ => 7
  | .string .escaped _ => 8
  | .string .extended _ => 9
  | .string .raw _ => 10
  | .array _ => 11
  | .object _ => 12

/-- The header of a node in the binary form: its type and the size of its payload, in the
fewest bytes. -/
def binaryHeader (code size : Nat) : List UInt8 :=
  if size ≤ 11 then [(code + size * 16).toUInt8]
  else if size ≤ 0xFF then [(code + 0xC0).toUInt8, size.toUInt8]
  else if size ≤ 0xFFFF then [(code + 0xD0).toUInt8, (size / 256).toUInt8, (size % 256).toUInt8]
  else
    [(code + 0xE0).toUInt8, (size / 16777216 % 256).toUInt8, (size / 65536 % 256).toUInt8,
     (size / 256 % 256).toUInt8, (size % 256).toUInt8]

mutual

/-- A JSON value in the binary form. The fuel bounds the depth. -/
def JsonNode.binary : Nat → JsonNode → List UInt8
  | 0, _ => []
  | fuel + 1, n =>
    let payload : List UInt8 := match n with
      | .integer t | .hexInteger t | .real t | .shortReal t | .string _ t => t
      | .array items => JsonNode.binaryItems fuel items
      | .object members => JsonNode.binaryItems fuel (members.flatMap fun (k, v) => [k, v])
      | _ => []
    binaryHeader n.code payload.length ++ payload

/-- Nodes in the binary form, one after another. -/
def JsonNode.binaryItems : Nat → List JsonNode → List UInt8
  | 0, _ => []
  | _, [] => []
  | fuel + 1, x :: rest => JsonNode.binary fuel x ++ JsonNode.binaryItems fuel rest

end

/-- The type code, header length and payload size of the node at the front of some bytes. -/
def binaryHeaderAt (bs : List UInt8) : Option (Nat × Nat × Nat) :=
  match bs with
  | [] => none
  | b :: rest =>
    let code := b.toNat % 16
    let sizeClass := b.toNat / 16
    let number (k : Nat) : Option Nat :=
      if rest.length < k then none else some ((rest.take k).foldl (fun n x => n * 256 + x.toNat) 0)
    if sizeClass ≤ 11 then some (code, 1, sizeClass)
    else if sizeClass == 12 then (number 1).map fun s => (code, 2, s)
    else if sizeClass == 13 then (number 2).map fun s => (code, 3, s)
    else if sizeClass == 14 then (number 4).map fun s => (code, 5, s)
    else (number 8).map fun s => (code, 9, s)

mutual

/-- Reads the node at the front of some bytes of the binary form: the node and the bytes after
it. The fuel bounds the depth. -/
def readBinaryNode : Nat → List UInt8 → Option (JsonNode × List UInt8)
  | 0, _ => none
  | fuel + 1, bs => do
    let (code, headerLength, size) ← binaryHeaderAt bs
    let body := bs.drop headerLength
    if body.length < size then none
    else
      let payload := body.take size
      let rest := body.drop size
      let node ← match code with
        | 0 => if size == 0 then some JsonNode.null else none
        | 1 => if size == 0 then some (.bool true) else none
        | 2 => if size == 0 then some (.bool false) else none
        | 3 => some (.integer payload)
        | 4 => some (.hexInteger payload)
        | 5 => some (.real payload)
        | 6 => some (.shortReal payload)
        | 7 => some (.string .plain payload)
        | 8 => some (.string .escaped payload)
        | 9 => some (.string .extended payload)
        | 10 => some (.string .raw payload)
        | 11 => (readBinaryItems fuel payload).map .array
        | 12 => do
          let items ← readBinaryItems fuel payload
          let rec pairs : List JsonNode → Option (List (JsonNode × JsonNode))
            | [] => some []
            | k :: v :: more =>
              match k with
              | .string _ _ => (pairs more).map ((k, v) :: ·)
              | _ => none
            | [_] => none
          (pairs items).map .object
        | _ => none
      some (node, rest)

/-- Reads nodes of the binary form until the bytes end. -/
def readBinaryItems : Nat → List UInt8 → Option (List JsonNode)
  | 0, _ => none
  | _, [] => some []
  | fuel + 1, bs => do
    let (node, rest) ← readBinaryNode fuel bs
    if rest.length ≥ bs.length then none
    else (readBinaryItems fuel rest).map (node :: ·)

end

/-- Whether a blob looks like the binary form of JSON at first sight: one node that fills it,
of a known type, and, when it is short and could be text, one that reads in full. -/
def looksBinary (bs : List UInt8) : Bool :=
  match bs, binaryHeaderAt bs with
  | c :: _, some (code, headerLength, size) =>
    code ≤ 12 && headerLength + size == bs.length && (code > 2 || size == 0) &&
      (size > 7 || (c.toNat != 0x7B && c.toNat != 0x5B && !isDigitAscii c) ||
        (readBinaryNode 2000 bs).isSome)
  | _, _ => false

/-- The binary form of JSON read from a blob, when it is one. -/
def binaryJson? (bs : List UInt8) : Option JsonNode :=
  if looksBinary bs then
    match readBinaryNode 2000 bs with
    | some (node, []) => some node
    | _ => none
  else none

/-! ## Strings and numbers as database values -/

/-- The code point of one escape at the front of a string's text, and the bytes after it;
`none` for an escape that spells no character. -/
def unescapeOne (bs : List UInt8) : Option Nat × List UInt8 :=
  match bs with
  | 92 :: e :: rest =>
    match e.toNat with
    | 117 =>
      if rest.length < 4 then (none, [])
      else
        let v := (rest.take 4).foldl (fun n d => n * 16 + hexValue d) 0
        let after := rest.drop 4
        match after with
        | 92 :: 117 :: more =>
          if v / 1024 == 0xD800 / 1024 && more.length ≥ 4 then
            let lo := (more.take 4).foldl (fun n d => n * 16 + hexValue d) 0
            if lo / 1024 == 0xDC00 / 1024 then
              (some ((v % 1024) * 1024 + lo % 1024 + 0x10000), more.drop 4)
            else (some v, after)
          else (some v, after)
        | _ => (some v, after)
    | 98 => (some 8, rest)
    | 102 => (some 12, rest)
    | 110 => (some 10, rest)
    | 114 => (some 13, rest)
    | 116 => (some 9, rest)
    | 118 => (some 11, rest)
    | 48 =>
      match rest with
      | d :: _ => (if isDigitAscii d then none else some 0, rest)
      | [] => (some 0, rest)
    | 39 | 34 | 47 | 92 => (some e.toNat, rest)
    | 120 =>
      match rest with
      | h1 :: h2 :: more => (some (hexValue h1 * 16 + hexValue h2), more)
      | _ => (none, [])
    | 13 => (none, match rest with | 10 :: more => more | _ => rest)
    | 10 => (none, rest)
    | 0xE2 => (none, rest.drop 2)
    | _ => (none, rest)
  | _ :: rest => (none, rest)
  | [] => (none, [])

/-- The bytes a string's text stands for, its escapes read. -/
def unescapeJson (text : List UInt8) : List UInt8 :=
  let rec go : Nat → List UInt8 → List UInt8
    | 0, _ => []
    | _, [] => []
    | fuel + 1, b :: rest =>
      if b.toNat != 92 then b :: go fuel rest
      else
        let (code, after) := unescapeOne (b :: rest)
        (match code with
          | some c => utf8OfCode c
          | none => []) ++ go fuel after
  go (text.length + 1) text

/-- The bytes a string node stands for. -/
def stringBytes (form : JsonText) (text : List UInt8) : List UInt8 :=
  match form with
  | .plain | .raw => text
  | .escaped | .extended => unescapeJson text

/-- A JSON integer as a database value: a 64-bit integer, or a real when it is too large. -/
def jsonIntegerValue (text : List UInt8) : Value :=
  let (negative, digits) : Bool × List UInt8 := match text with
    | 45 :: rest => (true, rest)
    | rest => (false, rest)
  let magnitude : Option Nat :=
    match digits with
    | 48 :: x :: hex =>
      if x.toNat == 120 || x.toNat == 88 then
        if hex.length > 16 then none else some (hex.foldl (fun n d => n * 16 + hexValue d) 0)
      else some (digits.foldl (fun n d => n * 10 + (d.toNat - 48)) 0)
    | _ => some (digits.foldl (fun n d => n * 10 + (d.toNat - 48)) 0)
  let isHex := match digits with
    | 48 :: x :: _ => x.toNat == 120 || x.toNat == 88
    | _ => false
  match magnitude with
  | some m =>
    if isHex && m ≥ Nat.pow 2 63 then .real (if negative then -(Float.ofNat m) else Float.ofNat m)
    else if !isHex && negative && m == Nat.pow 2 63 then .integer minInteger
    else if m < Nat.pow 2 63 then .integer (if negative then -(m : Int) else m)
    else .real (readReal (bytesText text)).1
  | none => .real (readReal (bytesText text)).1

/-- A JSON value as a database value: a string as its text, a number as a number, true and
false as 1 and 0, and an array or object as its JSON text. -/
def JsonNode.value (n : JsonNode) : Value :=
  match n with
  | .null => .null
  | .bool b => .integer (if b then 1 else 0)
  | .integer t | .hexInteger t => jsonIntegerValue t
  | .real t | .shortReal t => .real (readReal (bytesText t)).1
  | .string form t => .text (bytesText (stringBytes form t))
  | .array _ | .object _ => .text (bytesText n.text)

/-- The name `json_type` gives a JSON value. -/
def JsonNode.typeName : JsonNode → String
  | .null => "null"
  | .bool true => "true"
  | .bool false => "false"
  | .integer _ | .hexInteger _ => "integer"
  | .real _ | .shortReal _ => "real"
  | .string .. => "text"
  | .array _ => "array"
  | .object _ => "object"

/-- A real written as the JSON functions write it: as the database writes reals, with infinity
as `9e999` or `-9e999`. -/
def jsonRealText (x : Float) : List UInt8 :=
  if x.isInf then asciiBytes (if x > 0 then "9e999" else "-9e999")
  else textBytes (realText x)

/-- A database value given to a JSON function as a value to put in: a text marked as JSON is
read as JSON, any other text is a string, a number keeps its text, and a blob must be the
binary form. -/
def jsonNodeOfValue (v : Value) (isJson : Bool) : Except String JsonNode :=
  match v with
  | .null => .ok .null
  | .integer n => .ok (.integer (asciiBytes (toString n)))
  | .real x => if x.isNaN then .ok .null else .ok (.real (jsonRealText x))
  | .text s =>
    if isJson then
      match readJsonText (textBytes s) with
      | .ok (node, _) => .ok node
      | .error _ => .error "malformed JSON"
    else .ok (.string .raw (textBytes s))
  | .blob bs =>
    match binaryJson? bs with
    | some node => .ok node
    | none => .error "JSON cannot hold BLOB values"

/-- A database value written into JSON text as the building functions write it: a text marked
as JSON as it stands, any other text as a string, a real with fifteen digits. -/
def jsonTextOfValue (v : Value) (isJson : Bool) : Except String (List UInt8) :=
  match v with
  | .null => .ok (asciiBytes "null")
  | .integer n => .ok (asciiBytes (toString n))
  | .real _ => .ok (textBytes (printfText "%!0.15g" [v]))
  | .text s => .ok (if isJson then textBytes s else quoteJsonBytes (textBytes s))
  | .blob bs =>
    match binaryJson? bs with
    | some node => .ok node.text
    | none => .error "JSON cannot hold BLOB values"

/-- The JSON value a function works on: its first argument read as JSON text, or the binary
form of a blob; `none` for a null. -/
def jsonArgument (v : Value) : Except String (Option JsonNode) :=
  match v with
  | .null => .ok none
  | .blob bs =>
    match binaryJson? bs with
    | some node => .ok (some node)
    | none =>
      match readJsonText (beforeZero bs) with
      | .ok (node, _) => if bs.isEmpty then .error "malformed JSON" else .ok (some node)
      | .error _ => .error "malformed JSON"
  | _ =>
    let bs := beforeZero (textBytes v.asText)
    if bs.isEmpty then .error "malformed JSON"
    else
      match readJsonText bs with
      | .ok (node, _) => .ok (some node)
      | .error _ => .error "malformed JSON"

/-! ## Paths -/

/-- How a walk along a path ended: the value found (and the rest of the walk's work done), no
value there, or a path that cannot be read. -/
inductive PathEnd where
  | found
  | missing
  | badPath
  deriving BEq, Inhabited

/-- What a walk does where its path ends: only look, remove what is there, replace it, add it
when it is missing, or both. -/
inductive PathEdit where
  | look
  | remove
  | replace
  | insert
  | set
  deriving BEq, Inhabited

/-- Whether an edit adds what is missing. -/
def PathEdit.adds : PathEdit → Bool
  | .insert | .set => true
  | _ => false

/-- The key of a `.key` step at the front of a path (after its dot): the key's bytes, whether
it stands as it is, and the path after it; `none` when the step cannot be read. -/
def pathKey (path : List UInt8) : Option (List UInt8 × Bool × List UInt8) :=
  match path with
  | 34 :: rest =>
    let key := rest.takeWhile (·.toNat != 34)
    if key.length == rest.length then none
    else some (key, !key.contains 92, rest.drop (key.length + 1))
  | _ =>
    let key := path.takeWhile fun b => b.toNat != 46 && b.toNat != 91
    if key.isEmpty then none else some (key, true, path.drop key.length)

/-- Whether a member's label matches a path key. -/
def labelMatches (key : List UInt8) (keyPlain : Bool) (label : JsonNode) : Bool :=
  match label with
  | .string form t =>
    let k := if keyPlain then key else unescapeJson key
    k == stringBytes form t
  | _ => false

/-- The index of a `[n]` step at the front of a path (after its bracket) in an array of some
length: the index and the path after the step; a missing value for `[#-n]` past the start;
`none` when the step cannot be read. -/
def pathIndex (path : List UInt8) (count : Nat) : Option (Option Nat × List UInt8) :=
  let digits := path.takeWhile isDigitAscii
  let after := path.drop digits.length
  let number (ds : List UInt8) : Nat := ds.foldl (fun n d => n * 10 + (d.toNat - 48)) 0
  match digits, after with
  | _ :: _, 93 :: rest => some (some (number digits), rest)
  | _, _ =>
    match path with
    | 35 :: 45 :: d :: more =>
      if isDigitAscii d then
        let ds := (d :: more).takeWhile isDigitAscii
        match (d :: more).drop ds.length with
        | 93 :: rest => some (if number ds > count then none else some (count - number ds), rest)
        | _ => if number ds > count then some (none, []) else none
      else
        match 45 :: d :: more with
        | 93 :: rest => some (some count, rest)
        | _ => none
    | 35 :: 93 :: rest => some (some count, rest)
    | _ => none

/-- Walks a path from a value, doing an edit where it ends: the value after the edit, and how
the walk ended. Removing is done by the container of what is removed. The fuel bounds the
depth. -/
def walkPath : Nat → PathEdit → List UInt8 → JsonNode → JsonNode → JsonNode × PathEnd
  | 0, _, _, _, node => (node, .missing)
  | fuel + 1, edit, path, value, node =>
    -- what is added where the path goes on past something missing: the value itself when the
    -- path ends there, or an empty object or array with the rest of the path added into it
    let build (after : List UInt8) : Option JsonNode × PathEnd :=
      match after with
      | [] => (some value, .found)
      | b :: _ =>
        let start : JsonNode := if b.toNat == 46 then .object [] else .array []
        let (built, result) := walkPath fuel edit after value start
        if result == .found then (some built, .found) else (none, result)
    match path with
    | [] =>
      match edit with
      | .replace | .set => (value, .found)
      | _ => (node, .found)
    | 46 :: rest =>
      match pathKey rest with
      | none => (node, .badPath)
      | some (key, keyPlain, after) =>
        match node with
        | .object members =>
          match members.findIdx? (fun (k, _) => labelMatches key keyPlain k) with
          | some idx =>
            let (label, child) := members.getD idx (.null, .null)
            if after.isEmpty && edit == .remove then (.object (members.eraseIdx idx), .found)
            else
              let (child', result) := walkPath fuel edit after value child
              (.object (members.set idx (label, child')), result)
          | none =>
            if edit.adds then
              match build after with
              | (some built, _) =>
                let label := JsonNode.string (if keyPlain then .raw else .extended) key
                (.object (members ++ [(label, built)]), .found)
              | (none, result) => (node, result)
            else (node, .missing)
        | _ => (node, .missing)
    | 91 :: rest =>
      match node with
      | .array items =>
        match pathIndex rest items.length with
        | none => (node, .badPath)
        | some (none, _) => (node, .missing)
        | some (some k, after) =>
          if k < items.length then
            if after.isEmpty && edit == .remove then (.array (items.eraseIdx k), .found)
            else
              let (child', result) := walkPath fuel edit after value (items.getD k .null)
              (.array (items.set k child'), result)
          else if k == items.length && edit.adds then
            match build after with
            | (some built, _) => (.array (items ++ [built]), .found)
            | (none, result) => (node, result)
          else (node, .missing)
      | _ => (node, .missing)
    | _ => (node, .badPath)

/-- Finds the value a path (after its `$`) leads to. -/
def lookupPath (node : JsonNode) (path : List UInt8) : Option JsonNode × PathEnd :=
  let rec find : Nat → List UInt8 → JsonNode → Option JsonNode × PathEnd
    | 0, _, _ => (none, .missing)
    | fuel + 1, path, node =>
      match path with
      | [] => (some node, .found)
      | 46 :: rest =>
        match pathKey rest with
        | none => (none, .badPath)
        | some (key, keyPlain, after) =>
          match node with
          | .object members =>
            match members.find? (fun (k, _) => labelMatches key keyPlain k) with
            | some (_, child) => find fuel after child
            | none => (none, .missing)
          | _ => (none, .missing)
      | 91 :: rest =>
        match node with
        | .array items =>
          match pathIndex rest items.length with
          | none => (none, .badPath)
          | some (none, _) => (none, .missing)
          | some (some k, after) =>
            if k < items.length then find fuel after (items.getD k .null) else (none, .missing)
        | _ => (none, .missing)
      | _ => (none, .badPath)
  find 2000 path node

/-- The error of a path that cannot be read. -/
def badPathMessage (path : String) : String :=
  "bad JSON path: " ++ printfText "%Q" [.text path]

/-! ## The functions -/

/-- A merge patch applied to a value: a patch that is no object replaces the value; an
object's members are merged in turn, a null member removing the member of that name. -/
def mergePatch : Nat → JsonNode → JsonNode → JsonNode
  | 0, target, _ => target
  | fuel + 1, target, patch =>
    match patch with
    | .object patchMembers =>
      let start : List (JsonNode × JsonNode) := match target with
        | .object ms => ms
        | _ => []
      let step (ms : List (JsonNode × JsonNode)) (member : JsonNode × JsonNode) :=
        let (label, value) := member
        let key := match label with
          | .string form t => stringBytes form t
          | _ => []
        match ms.findIdx? (fun (k, _) => labelMatches key true k) with
        | some idx =>
          match value with
          | .null => ms.eraseIdx idx
          | _ =>
            let (l, old) := ms.getD idx (.null, .null)
            ms.set idx (l, mergePatch fuel old value)
        | none =>
          match value with
          | .null => ms
          | .object _ => ms ++ [(label, mergePatch fuel (.object []) value)]
          | _ => ms ++ [(label, value)]
      .object (patchMembers.foldl step start)
    | _ => patch

/-- A JSON function's result: a value, and whether it is marked as JSON. -/
abbrev JsonResult := Except String (Value × Bool)

/-- A value that a JSON function returns as JSON text, as text or, for the binary functions,
as a blob. -/
def jsonOut (binary : Bool) (node : JsonNode) : Value × Bool :=
  if binary then (.blob (node.binary 2000), false) else (.text (bytesText node.text), true)

/-- The JSON text a building function made, as text marked as JSON or, for the binary
functions, read back into the binary form. -/
def builtJson (binary : Bool) (text : List UInt8) : JsonResult :=
  if binary then
    match readJsonText text with
    | .ok (node, _) => .ok (jsonOut true node)
    | .error _ => .error "malformed JSON"
  else .ok (.text (bytesText text), true)

/-- Reads the path arguments of a function as texts. -/
def pathText (v : Value) : Option String := v.text?

/-- `json_extract` and the arrow operators: the value at each path. With one path the value
itself (as a database value, or as JSON for `->`); with several, a JSON array of them. The
arrows also take a path without `$`: a name, a number for an array index, or `[n]`. -/
def jsonExtract (mode : String) (binary : Bool) (args : List (Value × Bool)) : JsonResult := do
  match args with
  | [] | [_] => pure (.null, false)
  | (doc, _) :: paths =>
    match ← jsonArgument doc with
    | none => pure (.null, false)
    | some root =>
      let arrow := mode != "extract"
      let several := paths.length > 1
      let mut found : List JsonNode := []
      for (p, _) in paths do
        match pathText p with
        | none => return (.null, false)
        | some path =>
          let bs := textBytes path
          let full : Option (List UInt8) :=
            match bs with
            | 36 :: rest => some rest
            | _ =>
              if !arrow then none
              else match p with
                | .integer n =>
                  some ([91] ++ (if n < 0 then [35] else []) ++ asciiBytes (toString n) ++ [93])
                | _ =>
                  if bs.all (fun b => isAlnumAscii b || b.toNat == 95) then some (46 :: bs)
                  else if bs.head? == some 91 && bs.length ≥ 3 && bs.getLast? == some 93 then some bs
                  else some ([46, 34] ++ bs ++ [34])
          match full with
          | none => throw (badPathMessage path)
          | some rel =>
            match lookupPath root rel with
            | (some node, _) => found := found ++ [node]
            | (none, .missing) =>
              if several then found := found ++ [.null] else return (.null, false)
            | (none, _) => throw (badPathMessage path)
      if several then pure (jsonOut binary (.array found))
      else
        match found with
        | [node] =>
          if mode == "json" then pure (jsonOut binary node)
          else
            match node with
            | .array _ | .object _ =>
              if binary then pure (jsonOut true node)
              else pure (.text (bytesText node.text), mode == "extract")
            | _ => pure (node.value, false)
        | _ => pure (.null, false)

/-- `json_insert`, `json_replace` and `json_set`: each path and value in turn. -/
def jsonEditValues (edit : PathEdit) (name : String) (binary : Bool) (args : List (Value × Bool)) :
    JsonResult := do
  match args with
  | [] => pure (.null, false)
  | (doc, _) :: rest =>
    if rest.length % 2 == 1 then
      throw ("json_" ++ name ++ "() needs an odd number of arguments")
    match ← jsonArgument doc with
    | none => pure (.null, false)
    | some root =>
      let mut node := root
      let mut pending := rest
      for _ in [0:rest.length] do
        match pending with
        | (p, _) :: (v, vj) :: more =>
          pending := more
          if p.isNull then continue
          let path := p.asText
          match textBytes path with
          | 36 :: rel =>
            let value ← jsonNodeOfValue v vj
            if rel.isEmpty then
              if edit == .replace || edit == .set then node := value
            else
              let (node', result) := walkPath 2000 edit rel value node
              if result == .badPath then throw (badPathMessage path)
              node := node'
          | _ => throw (badPathMessage path)
        | _ => pending := []
      pure (jsonOut binary node)

/-- `json_remove`: removes what each path leads to; removing the whole value gives null. -/
def jsonRemove (binary : Bool) (args : List (Value × Bool)) : JsonResult := do
  match args with
  | [] => pure (.null, false)
  | (doc, _) :: paths =>
    match ← jsonArgument doc with
    | none => pure (.null, false)
    | some root =>
      let mut node := root
      for (p, _) in paths do
        match p.text? with
        | none => return (.null, false)
        | some path =>
          match textBytes path with
          | [36] => return (.null, false)
          | 36 :: rel =>
            let (node', result) := walkPath 2000 .remove rel .null node
            if result == .badPath then throw (badPathMessage path)
            node := node'
          | _ => throw (badPathMessage path)
      pure (jsonOut binary node)

/-- The value a path argument of `json_type` or `json_array_length` leads to; none when it
leads nowhere. -/
def jsonAt (root : JsonNode) (path : String) (dollarOnly : Bool) : Except String (Option JsonNode) :=
  match textBytes path with
  | 36 :: rel =>
    match lookupPath root rel with
    | (some node, _) => .ok (some node)
    | (none, .missing) => .ok none
    | (none, _) => .error (badPathMessage path)
  | _ =>
    if dollarOnly then .error (badPathMessage path)
    else
      match lookupPath root [64] with
      | (_, .badPath) => .error (badPathMessage path)
      | _ => .ok none

/-- The position `json_error_position` gives for a text: zero when it reads as JSON, or the
character where reading stopped, counted from one. -/
def jsonErrorPosition (bs : List UInt8) : Nat :=
  match readJsonText bs with
  | .ok _ => 0
  | .error r => ((bs.take r.errorAt).filter (fun b => !isContinuation b)).length + 1

/-- Calls a JSON function on its arguments, each with whether it is marked as JSON. -/
def jsonCall (name : String) (args : List (Value × Bool)) : JsonResult := do
  let lower := name.toLower
  let binary := lower.startsWith "jsonb"
  let base := if binary then "json" ++ lower.drop 5 else lower
  match base, args with
  | "json", [(v, _)] =>
    match ← jsonArgument v with
    | none => pure (.null, false)
    | some node => pure (jsonOut binary node)
  | "json_array", _ =>
    let parts ← args.mapM fun (v, j) => jsonTextOfValue v j
    builtJson binary ([91] ++ (List.intersperse [44] parts).flatten ++ [93])
  | "json_object", _ =>
    if args.length % 2 == 1 then throw "json_object() requires an even number of arguments"
    let rec pairs : List (Value × Bool) → Except String (List (List UInt8 × (Value × Bool)))
      | (k, _) :: v :: more =>
        match k with
        | .text s => do pure ((textBytes s, v) :: (← pairs more))
        | _ => throw "json_object() labels must be TEXT"
      | _ => pure []
    let ps ← pairs args
    let parts ← ps.mapM fun (k, (v, j)) => do
      pure (quoteJsonBytes k ++ [58] ++ (← jsonTextOfValue v j))
    builtJson binary ([123] ++ (List.intersperse [44] parts).flatten ++ [125])
  | "json_quote", [(v, j)] =>
    let t ← jsonTextOfValue v j
    pure (.text (bytesText t), true)
  | "json_extract", _ => jsonExtract "extract" binary args
  | "->", _ => jsonExtract "json" false args
  | "->>", _ => jsonExtract "sql" false args
  | "json_insert", _ => jsonEditValues .insert "insert" binary args
  | "json_replace", _ => jsonEditValues .replace "replace" binary args
  | "json_set", _ => jsonEditValues .set "set" binary args
  | "json_remove", _ => jsonRemove binary args
  | "json_patch", [(t, _), (p, _)] =>
    match ← jsonArgument t with
    | none => pure (.null, false)
    | some target =>
      match ← jsonArgument p with
      | none => pure (.null, false)
      | some patch => pure (jsonOut binary (mergePatch 2000 target patch))
  | "json_type", (v, _) :: rest =>
    match ← jsonArgument v with
    | none => pure (.null, false)
    | some root =>
      match rest with
      | [] => pure (.text root.typeName, false)
      | (p, _) :: _ =>
        match p.text? with
        | none => pure (.null, false)
        | some path =>
          match ← jsonAt root path true with
          | some node => pure (.text node.typeName, false)
          | none => pure (.null, false)
  | "json_array_length", (v, _) :: rest =>
    match ← jsonArgument v with
    | none => pure (.null, false)
    | some root =>
      let target ← match rest with
        | [] => pure (some root)
        | (p, _) :: _ =>
          match p.text? with
          | none => return (.null, false)
          | some path => jsonAt root path false
      match target with
      | some (.array items) => pure (.integer items.length, false)
      | some _ => pure (.integer 0, false)
      | none => pure (.null, false)
  | "json_valid", (v, _) :: rest =>
    let flags ← match rest with
      | [] => pure 1
      | (f, _) :: _ =>
        let n := f.toInteger
        if n < 1 || n > 15 then throw "FLAGS parameter to json_valid() must be between 1 and 15"
        else pure n.toNat
    match v with
    | .null => pure (.null, false)
    | .blob bs =>
      if looksBinary bs then
        if flags % 8 ≥ 4 then pure (.integer 1, false)
        else if flags ≥ 8 then pure (.integer (if (binaryJson? bs).isSome then 1 else 0), false)
        else pure (.integer 0, false)
      else
        if flags % 4 == 0 then pure (.integer 0, false)
        else
          match readJsonText (beforeZero bs) with
          | .ok (_, nonstd) =>
            pure (.integer (if !bs.isEmpty && (flags % 4 ≥ 2 || !nonstd) then 1 else 0), false)
          | .error _ => pure (.integer 0, false)
    | _ =>
      if flags % 4 == 0 then pure (.integer 0, false)
      else
        let bs := beforeZero (textBytes v.asText)
        match readJsonText bs with
        | .ok (_, nonstd) =>
          pure (.integer (if !bs.isEmpty && (flags % 4 ≥ 2 || !nonstd) then 1 else 0), false)
        | .error _ => pure (.integer 0, false)
  | "json_error_position", [(v, _)] =>
    match v with
    | .null => pure (.null, false)
    | .blob bs =>
      if looksBinary bs then pure (.integer (if (binaryJson? bs).isSome then 0 else 1), false)
      else pure (.integer (jsonErrorPosition (beforeZero bs)), false)
    | _ => pure (.integer (jsonErrorPosition (beforeZero (textBytes v.asText))), false)
  | "json_pretty", (v, _) :: rest =>
    match ← jsonArgument v with
    | none => pure (.null, false)
    | some root =>
      let indent := match rest with
        | (i, _) :: _ => (i.text?.map textBytes).getD (asciiBytes "    ")
        | [] => asciiBytes "    "
      pure (.text (bytesText (root.pretty indent 2000 0)), true)
  | _, _ => throw ("no such function: " ++ name)

/-- The piece of text one row adds to `json_group_array`. -/
def jsonArrayPiece (v : Value) (isJson : Bool) : Except String (List UInt8) :=
  jsonTextOfValue v isJson

/-- The piece of text one row adds to `json_group_object`; none for a null label. -/
def jsonObjectPiece (label : Value) (v : Value) (isJson : Bool) : Except String (Option (List UInt8)) :=
  match label.text? with
  | none => .ok none
  | some s => do
    let t ← jsonTextOfValue v isJson
    pure (some (quoteJsonBytes (beforeZero (textBytes s)) ++ [58] ++ t))

/-- Whether a function is one of the JSON aggregates. -/
def isJsonAggregate (name : String) : Bool :=
  ["json_group_array", "jsonb_group_array", "json_group_object", "jsonb_group_object"].contains
    name.toLower

/-- The piece of JSON text one row adds to a JSON aggregate, from the row's arguments with
whether each is marked as JSON; none for a function that is no JSON aggregate. -/
def jsonAggregatePiece {α : Type} (name : String) (args : List α) (value : α → Value)
    (isJson : α → Bool) : Option (Except String (Option (List UInt8))) :=
  match name.toLower, args with
  | "json_group_array", [a] | "jsonb_group_array", [a] =>
    some ((jsonArrayPiece (value a) (isJson a)).map some)
  | "json_group_object", [k, a] | "jsonb_group_object", [k, a] =>
    some (jsonObjectPiece (value k) (value a) (isJson a))
  | _, _ => none

/-- The value of a JSON aggregate after its rows, from the pieces the rows added: a JSON array
or object, as text or, for the binary forms, as a blob. -/
def jsonAggregateValue (name : String) (pieces : List (List UInt8)) : Except String Value :=
  let lower := name.toLower
  let (openB, closeB) : UInt8 × UInt8 := if lower.endsWith "object" then (123, 125) else (91, 93)
  let text := [openB] ++ (List.intersperse [44] pieces).flatten ++ [closeB]
  match builtJson (lower.startsWith "jsonb") text with
  | .ok (v, _) => .ok v
  | .error m => .error m

/-- The functions this module answers for. -/
def isJsonFunction (name : String) : Bool :=
  let lower := name.toLower
  (lower.startsWith "json" && lower != "json_group_array" && lower != "json_group_object" &&
    lower != "jsonb_group_array" && lower != "jsonb_group_object" && lower != "json_each" &&
    lower != "json_tree") || lower == "->" || lower == "->>"

end EnergyModel.Sql
