import EnergyModel.Decimal.Read

/-!
# Numbers in database text

A database reads numbers out of text in three ways, and each keeps to its own rule.

* `readReal` reads the longest front part of a text that is a real number: blanks, a sign,
  digits with an optional point and an optional exponent, blanks. It reports how much of the
  text that was (`RealShape`): the whole text as an integer, the whole text as a real, only a
  front part with a point or an exponent, or something else. The significand keeps at most the
  digits that fit in 64 bits; later digits only move the decimal point.
* `readInteger` reads the longest front part that is an integer (`IntegerReading`), clamped to
  64 bits, and says whether the text ended there, went on with other characters, or overflowed.
* `literalInteger` reads an integer literal of a statement: decimal or hexadecimal, where a
  hexadecimal literal is taken as the 64 bits it spells.

`FloatDigits.ofFloat` gives the decimal digits of a double that the formatter prints: the
value scaled to 18 or 19 digits, rounded half away from zero to the digits asked for, at most
`maxDigits` significant ones, with trailing zeros dropped. `formatReal` lays them out as
`%f`, `%e` or `%g` do.
-/

namespace EnergyModel.Sql

/-- The smallest 64-bit integer. -/
def minInteger : Int := -9223372036854775808

/-- The largest 64-bit integer. -/
def maxInteger : Int := 9223372036854775807

/-- Whether an integer fits in 64 bits. -/
def fitsInteger (n : Int) : Bool := minInteger ≤ n && n ≤ maxInteger

/-- An integer taken modulo 2^64 into the signed 64-bit range. -/
def wrapInteger (n : Int) : Int :=
  let m := n % 18446744073709551616
  if m > maxInteger then m - 18446744073709551616 else m

/-- The blanks that may surround a number: space, tab, line feed, vertical tab, form feed and
carriage return. -/
def isSpace (c : Char) : Bool :=
  c == ' ' || c == '\t' || c == '\n' || c == '\x0b' || c == '\x0c' || c == '\r'

/-- The value of a decimal digit. -/
def digitOf (c : Char) : Nat := c.toNat - '0'.toNat

/-- How much of a text is a real number. -/
inductive RealShape where
  /-- The whole text, blanks aside, is an integer. -/
  | integer
  /-- The whole text, blanks aside, is a real with a point or an exponent. -/
  | real
  /-- A front part of the text is a real with a point or an exponent, and more follows. -/
  | realPrefix
  /-- The text is no number, or it starts with an integer that more follows. -/
  | other
  deriving BEq, Inhabited, Repr

/-- Whether a shape is a whole number text, integer or real. -/
def RealShape.isWhole : RealShape → Bool
  | .integer | .real => true
  | _ => false

/-- The significand limit: past it, further digits only shift the decimal point. -/
def significandLimit : Nat := 1844674407370955160

/-- Reads the digits before the point into a significand, counting the digits taken and the
ones only shifted. -/
def scanWhole : List Char → Nat → Int → Nat → Nat × Int × Nat × List Char
  | [], s, d, n => (s, d, n, [])
  | c :: cs, s, d, n =>
    if c.isDigit then
      if s ≥ significandLimit then scanWhole cs s (d + 1) n
      else scanWhole cs (s * 10 + digitOf c) d (n + 1)
    else (s, d, n, c :: cs)

/-- Reads the digits after the point: each one that still fits joins the significand and moves
the point one place. -/
def scanFraction : List Char → Nat → Int → Nat → Nat × Int × Nat × List Char
  | [], s, d, n => (s, d, n, [])
  | c :: cs, s, d, n =>
    if c.isDigit then
      if s < significandLimit then scanFraction cs (s * 10 + digitOf c) (d - 1) (n + 1)
      else scanFraction cs s d n
    else (s, d, n, c :: cs)

/-- Reads the digits of an exponent, holding it at 10000 once it gets that large. -/
def scanExponent : List Char → Nat → Bool → Nat × Bool × List Char
  | [], e, seen => (e, seen, [])
  | c :: cs, e, seen =>
    if c.isDigit then scanExponent cs (if e < 10000 then e * 10 + digitOf c else 10000) true
    else (e, seen, c :: cs)

/-- The double nearest to `±s · 10^e`. -/
def realOfParts (negative : Bool) (s : Nat) (e : Int) : Float :=
  if s == 0 then (if negative then -0.0 else 0.0)
  else Decimal.Scientific.toFloat ⟨negative, s, e⟩

/-- The real number at the front of a list of characters, and how much of the list it is. -/
def readRealChars (cs : List Char) : Float × RealShape :=
  let cs := cs.dropWhile isSpace
  if cs.isEmpty then (0.0, .other)
  else
    let (negative, cs) : Bool × List Char :=
      match cs with
      | '-' :: rest => (true, rest)
      | '+' :: rest => (false, rest)
      | _ => (false, cs)
    let (s, d, n, cs) := scanWhole cs 0 0 0
    let (s, d, n, cs, kind) : Nat × Int × Nat × List Char × Nat :=
      match cs with
      | '.' :: rest =>
        let (s, d, n, rest) := scanFraction rest s d n
        (s, d, n, rest, 2)
      | _ => (s, d, n, cs, 1)
    let (e, valid, cs, kind) : Int × Bool × List Char × Nat :=
      match cs with
      | c :: rest =>
        if c == 'e' || c == 'E' then
          let (negativeExponent, rest) : Bool × List Char :=
            match rest with
            | '-' :: more => (true, more)
            | '+' :: more => (false, more)
            | _ => (false, rest)
          let (e, seen, rest) := scanExponent rest 0 false
          ((if negativeExponent then -(e : Int) else e), seen, rest, kind + 1)
        else (0, true, cs, kind)
      | [] => (0, true, [], kind)
    let cs := cs.dropWhile isSpace
    let value := realOfParts negative s (e + d)
    let shape :=
      if cs.isEmpty && n > 0 && valid then (if kind == 1 then .integer else .real)
      else if kind ≥ 2 && (kind == 3 || valid) && n > 0 then .realPrefix
      else .other
    (value, shape)

/-- The real number at the front of a text, and how much of the text it is. -/
def readReal (s : String) : Float × RealShape := readRealChars s.toList

/-- How an integer was read from the front of a text. -/
inductive IntegerReading where
  /-- The whole text, blanks aside, is an integer within 64 bits. -/
  | exact
  /-- An integer within 64 bits is followed by other characters. -/
  | leadingDigits
  /-- The text starts with no digits. -/
  | noDigits
  /-- The integer does not fit in 64 bits and was clamped. -/
  | overflow
  /-- The text is exactly `9223372036854775808`, one past the largest integer. -/
  | justOver
  deriving BEq, Inhabited, Repr

/-- The digits at the front of a list, as a number and a count. -/
def takeDecimal : List Char → Nat → Nat → Nat × Nat × List Char
  | [], v, k => (v, k, [])
  | c :: cs, v, k => if c.isDigit then takeDecimal cs (v * 10 + digitOf c) (k + 1) else (v, k, c :: cs)

/-- The integer at the front of a list of characters, clamped to 64 bits. -/
def readIntegerChars (cs : List Char) : Int × IntegerReading :=
  let cs := cs.dropWhile isSpace
  let (negative, cs) : Bool × List Char :=
    match cs with
    | '-' :: rest => (true, rest)
    | '+' :: rest => (false, rest)
    | _ => (false, cs)
  let hadZeros := cs.head? == some '0'
  let cs := cs.dropWhile (· == '0')
  let (u, count, rest) := takeDecimal cs 0 0
  let clamped : Int := if negative then minInteger else maxInteger
  let value : Int := if u > 9223372036854775807 then clamped else if negative then -(u : Int) else u
  let extra := !(rest.all isSpace)
  let base : IntegerReading :=
    if count == 0 && !hadZeros then .noDigits
    else if extra then .leadingDigits else .exact
  if u < 9223372036854775808 then (value, base)
  else if u == 9223372036854775808 && count == 19 then
    if negative then (minInteger, base) else (maxInteger, .justOver)
  else (clamped, .overflow)

/-- The integer at the front of a text, clamped to 64 bits. -/
def readInteger (s : String) : Int × IntegerReading := readIntegerChars s.toList

/-- The value of a hexadecimal digit. -/
def hexDigitValue (c : Char) : Option Nat :=
  if c.isDigit then some (digitOf c)
  else if 'a' ≤ c && c ≤ 'f' then some (c.toNat - 'a'.toNat + 10)
  else if 'A' ≤ c && c ≤ 'F' then some (c.toNat - 'A'.toNat + 10)
  else none

/-- Reads hexadecimal digits into a number, with their count. -/
def takeHex : List Char → Nat → Nat → Nat × Nat
  | [], v, k => (v, k)
  | c :: cs, v, k =>
    match hexDigitValue c with
    | some d => takeHex cs (v * 16 + d) (k + 1)
    | none => (v, k)

/-- What an integer literal of a statement stands for. -/
inductive LiteralInteger where
  /-- A 64-bit integer. -/
  | fits (value : Int)
  /-- Exactly `9223372036854775808`: the smallest integer once negated, a real otherwise. -/
  | justOver
  /-- More than 64 bits: a decimal literal then reads as a real, a hexadecimal one is refused. -/
  | tooBig
  deriving BEq, Inhabited

/-- Reads an integer literal of a statement, decimal or hexadecimal. A hexadecimal literal is
the 64 bits it spells, so `0xFFFFFFFFFFFFFFFF` is `-1`; more than sixteen significant digits are
too many. -/
def literalInteger (text : String) : LiteralInteger :=
  let decimal : LiteralInteger :=
    match readInteger text with
    | (n, .exact) => .fits n
    | (_, .justOver) => .justOver
    | _ => .tooBig
  match text.toList with
  | '0' :: x :: rest =>
    if x == 'x' || x == 'X' then
      let rest := rest.dropWhile (· == '0')
      let (v, k) := takeHex rest 0 0
      if k > 16 then .tooBig else .fits (wrapInteger v)
    else decimal
  | _ => decimal

/-- The integer a double truncates to, held within 64 bits; NaN gives the smallest integer. -/
def truncateReal (x : Float) : Int :=
  match Decimal.FloatKind.ofFloat x with
  | .nan => minInteger
  | .infinite negative => if negative then minInteger else maxInteger
  | .finite b =>
    let magnitude : Nat :=
      if b.exponent ≥ 0 then b.significand * Nat.pow 2 b.exponent.toNat
      else b.significand / Nat.pow 2 (-b.exponent).toNat
    let n : Int := if b.negative then -(magnitude : Int) else magnitude
    if n < minInteger then minInteger else if n > maxInteger then maxInteger else n

/-- The integer a double converts to for storing: values beyond `±9223372036854774784` are held
at the ends of the 64-bit range, others are truncated. -/
def realToInteger (x : Float) : Int :=
  if x < -9223372036854774784.0 then minInteger
  else if x > 9223372036854774784.0 then maxInteger
  else truncateReal x

/-- Compares an integer with a double exactly. A NaN counts as below every integer. -/
def compareIntReal (i : Int) (x : Float) : Ordering :=
  match Decimal.FloatKind.ofFloat x with
  | .nan => .gt
  | .infinite negative => if negative then .gt else .lt
  | .finite b =>
    let m : Int := if b.negative then -(b.significand : Int) else b.significand
    let q := b.exponent
    if q ≥ 0 then compare i (m * (Nat.pow 2 q.toNat : Nat))
    else compare (i * (Nat.pow 2 (-q).toNat : Nat)) m

/-- Whether a double equals an integer exactly, within `±2^51`, or is zero. -/
def sameAsInteger (x : Float) (i : Int) : Bool :=
  x == 0.0 || (compareIntReal i x == .eq && -2251799813685248 ≤ i && i < 2251799813685248)

/-- The digits of a double that the formatter works with: the sign, the significant digits
(without trailing zeros) and the place of the decimal point, so that the value is
`0.d₁d₂… · 10^point`. -/
structure FloatDigits where
  negative : Bool
  digits : List Nat
  point : Int
  deriving Inhabited, Repr

/-- The decimal digits of a natural number, most significant first. -/
def natDigits (n : Nat) : List Nat := (Nat.toDigits 10 n).map digitOf

/-- Adds one to a list of digits read as a number, most significant first; the flag says
whether a carry ran out of the front. -/
def incrementDigits (ds : List Nat) : List Nat × Bool :=
  let (rev, carry) := ds.reverse.foldl (fun (acc : List Nat × Bool) d =>
    if acc.2 then (if d == 9 then (0 :: acc.1, true) else ((d + 1) :: acc.1, false))
    else (d :: acc.1, false)) ([], true)
  (rev, carry)

/-- Keeps the first `k` digits, rounding half away from zero on the digit after them. -/
def roundDigits (ds : List Nat) (point : Int) (k : Nat) : List Nat × Int :=
  let kept := ds.take k
  match ds.drop k with
  | d :: _ =>
    if d ≥ 5 then
      let (up, carry) := incrementDigits kept
      if carry then (1 :: up, point + 1) else (up, point)
    else (kept, point)
  | [] => (kept, point)

/-- Drops the zeros at the end of a digit list, keeping at least one digit. -/
def trimDigits (ds : List Nat) : List Nat :=
  match (ds.reverse.dropWhile (· == 0)).reverse with
  | [] => [0]
  | t => t

/-- The digits of a positive finite double scaled to lie between `9.22·10^17` and
`9.22·10^18`, truncated, with the place of the point. -/
def scaledDigits (b : Decimal.Binary) : List Nat × Int :=
  let (num, den) := Decimal.scaled b.significand b.exponent
  let e := Decimal.decimalExponent num den
  -- `x · 10^(17-e)` lies in `[10^17, 10^18)`
  let (a, c) := Decimal.onGrid num den (e - 17)
  let k : Int := if a / c ≥ 922337203685477478 then 17 - e else 18 - e
  let (a, c) := Decimal.onGrid num den (-k)
  let v := a / c
  let ds := natDigits v
  (ds, (ds.length : Int) - k)

/-- A double's digits for the formatter. `round` asks for that many significant digits when
positive, and for digits down to the `-round`-th place after the point otherwise; at most
`maxDigits` significant digits are kept. Infinities and NaN give `none`. -/
def FloatDigits.ofFloat (x : Float) (round : Int) (maxDigits : Nat) : Option FloatDigits :=
  match Decimal.FloatKind.ofFloat x with
  | .nan => none
  | .infinite _ => none
  | .finite b =>
    if b.significand == 0 then some ⟨false, [0], 1⟩
    else
      let (ds, point) := scaledDigits b
      -- a place after the point becomes a count of significant digits
      let (ds, point, round) : List Nat × Int × Int :=
        if round ≤ 0 then
          let r := point - round
          if r == 0 && ds.head?.getD 0 ≥ 5 then (0 :: ds, point + 1, 1) else (ds, point, r)
        else (ds, point, round)
      let (ds, point) :=
        if round > 0 && (round < ds.length || ds.length > maxDigits) then
          roundDigits ds point (min round.toNat maxDigits)
        else (ds, point)
      some ⟨b.negative, trimDigits ds, point⟩

/-- The three layouts of a real: fixed point, with an exponent, or whichever suits the
value. -/
inductive RealForm where
  | fixed
  | exponent
  | general
  deriving BEq, Inhabited

/-- How a real is laid out: its form, the letter of the exponent, the precision, the sign
shown before a non-negative value, the alternate forms (`#` and `!`), zero padding to the
width, and a comma between thousands. -/
structure RealLayout where
  form : RealForm
  upper : Bool := false
  precision : Option Nat := none
  width : Nat := 0
  sign : Option Char := none
  alternate : Bool := false
  exact : Bool := false
  zeroPad : Bool := false
  leftJustify : Bool := false
  thousands : Bool := false
  deriving Inhabited

/-- A digit as a character. -/
def digitChar (d : Nat) : Char := Char.ofNat (d + '0'.toNat)

/-- The digit at a place of a digit list, zero past its end. -/
def digitAt (ds : List Nat) (i : Nat) : Char := digitChar (ds.getD i 0)

/-- The integer part of a fixed layout: the digits before the point, with a comma between
thousands when asked for. -/
def wholePart (ds : List Nat) (count : Nat) (thousands : Bool) : List Char :=
  (List.range count).flatMap fun j =>
    let place := count - 1 - j
    let c := digitAt ds j
    if thousands && place % 3 == 0 && place > 1 then [c, ','] else [c]

/-- A real laid out as the formatter does, before padding to a width. -/
def formatReal (layout : RealLayout) (x : Float) : String :=
  let precision := layout.precision.getD 6
  let round : Int :=
    match layout.form with
    | .fixed => -(precision : Int)
    | .general => if precision == 0 then 1 else precision
    | .exponent => precision + 1
  let decoded : Option FloatDigits :=
    match FloatDigits.ofFloat x round (if layout.exact then 26 else 16) with
    | some fd => some fd
    | none =>
      -- a zero-padded infinity is laid out as a nine at the thousandth place
      if layout.zeroPad && !x.isNaN then some ⟨x < 0, [9], 1000⟩ else none
  match decoded with
  | none =>
    if x.isNaN then (if layout.zeroPad then "null" else "NaN")
    else if x < 0 then "-Inf"
    else match layout.sign with
      | some c => String.ofList [c] ++ "Inf"
      | none => "Inf"
  | some fd =>
    let prefixChar : Option Char := if fd.negative then some '-' else layout.sign
    let exp := fd.point - 1
    let precision0 := if layout.form == .general && precision == 0 then 1 else precision
    let (form, precision, removeZeros) : RealForm × Nat × Bool :=
      match layout.form with
      | .general =>
        let p := precision0 - 1
        if exp < -4 || exp > p then (.exponent, p, !layout.alternate)
        else (.fixed, (p - exp).toNat, !layout.alternate)
      | f => (f, precision, layout.exact)
    let e2 : Int := if form == .exponent then 0 else fd.point - 1
    let showPoint := precision > 0 || layout.alternate || layout.exact
    let whole : List Char :=
      if e2 < 0 then ['0'] else wholePart fd.digits (e2.toNat + 1) layout.thousands
    let used := if e2 < 0 then 0 else e2.toNat + 1
    -- zeros after the point before the first significant digit
    let leading := if e2 < 0 then min ((-(e2 + 1)).toNat) precision else 0
    let rest := precision - leading
    let fraction : List Char :=
      List.replicate leading '0' ++ (List.range rest).map fun j => digitAt fd.digits (used + j)
    let body := whole ++ (if showPoint then ['.'] else []) ++ fraction
    let body :=
      if removeZeros && showPoint then
        let trimmed := (body.reverse.dropWhile (· == '0')).reverse
        if trimmed.getLast? == some '.' then
          if layout.exact then trimmed ++ ['0'] else trimmed.dropLast
        else trimmed
      else body
    let body :=
      if form == .exponent then
        let e := fd.point - 1
        let mag := e.natAbs
        let expDigits := if mag ≥ 100 then natDigits mag else [mag / 10, mag % 10]
        body ++ [if layout.upper then 'E' else 'e', if e < 0 then '-' else '+'] ++ expDigits.map digitChar
      else body
    let signed := (match prefixChar with | some c => [c] | none => []) ++ body
    let signed :=
      if layout.zeroPad && !layout.leftJustify && signed.length < layout.width then
        let pad := List.replicate (layout.width - signed.length) '0'
        match prefixChar with
        | some c => c :: pad ++ body
        | none => pad ++ body
      else signed
    String.ofList signed

end EnergyModel.Sql
