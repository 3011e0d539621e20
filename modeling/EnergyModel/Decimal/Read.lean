import EnergyModel.Decimal.Shortest

/-!
# Reading numbers from text

`Scientific.toFloat` rounds a decimal to the nearest double, ties to even, in exact arithmetic.
`readFloat` accepts the usual decimal notation of a floating-point literal: an optional sign,
digits with an optional point and an optional exponent, or the words `inf`, `infinity` and `nan`
in any case. `readNat32` reads an unsigned 32-bit count in decimal, reporting the first problem
from the left.
-/

namespace EnergyModel.Decimal

/-- The double with the given sign, biased exponent and fraction bits. -/
def floatOfParts (negative : Bool) (biased fraction : Nat) : Float :=
  Float.ofBits (UInt64.ofNat ((if negative then Nat.pow 2 63 else 0) + biased * Nat.pow 2 52 + fraction))

/-- The quotient `numerator / (denominator · 2^k)` rounded to the nearest integer, ties to
even. -/
def roundedQuotient (numerator denominator : Nat) (k : Int) : Nat :=
  let (a, b) :=
    if 0 ≤ k then (numerator, denominator * Nat.pow 2 k.toNat)
    else (numerator * Nat.pow 2 (-k).toNat, denominator)
  let q := a / b
  let r := a % b
  if 2 * r > b then q + 1
  else if 2 * r == b && q % 2 == 1 then q + 1
  else q

/-- The double nearest to the positive rational `numerator / denominator`, ties to even. -/
def nearestFloat (negative : Bool) (numerator denominator : Nat) : Float :=
  if numerator == 0 then floatOfParts negative 0 0
  else
    -- `k0` makes the quotient lie in `[2^51, 2^53)`
    let k0 : Int := (Nat.log2 numerator : Int) - Nat.log2 denominator - 52
    let exact (k : Int) : Nat :=
      if 0 ≤ k then numerator / (denominator * Nat.pow 2 k.toNat)
      else numerator * Nat.pow 2 (-k).toNat / denominator
    let k := if exact k0 < Nat.pow 2 52 then k0 - 1 else k0
    if k < -1074 then
      -- below the normal range: the grid is fixed at `2^-1074`
      let q := roundedQuotient numerator denominator (-1074)
      if q < Nat.pow 2 52 then floatOfParts negative 0 q
      else floatOfParts negative 1 (q - Nat.pow 2 52)
    else
      let q := roundedQuotient numerator denominator k
      let (q, k) := if q == Nat.pow 2 53 then (Nat.pow 2 52, k + 1) else (q, k)
      if k + 52 > 1023 then floatOfParts negative 2047 0
      else floatOfParts negative (k + 1075).toNat (q - Nat.pow 2 52)

/-- The double nearest to a decimal. Exponents far outside the range of doubles give zero or
infinity without building their powers of ten. -/
def Scientific.toFloat (d : Scientific) : Float :=
  if d.digits == 0 then floatOfParts d.negative 0 0
  else
    let magnitude := d.exponent + decimalLength d.digits
    if magnitude > 310 then floatOfParts d.negative 2047 0
    else if magnitude < -330 then floatOfParts d.negative 0 0
    else if 0 ≤ d.exponent then nearestFloat d.negative (d.digits * Nat.pow 10 d.exponent.toNat) 1
    else nearestFloat d.negative d.digits (Nat.pow 10 (-d.exponent).toNat)

/-- The digits at the front of a character list, as a number and a count. -/
def takeDigits : List Char → Nat → Nat → Nat × Nat × List Char
  | c :: rest, value, count =>
    if c.isDigit then takeDigits rest (10 * value + (c.toNat - '0'.toNat)) (count + 1)
    else (value, count, c :: rest)
  | [], value, count => (value, count, [])

/-- Why a text is not a floating-point literal. -/
inductive FloatSyntaxError where
  | empty
  | invalid
  deriving Repr, BEq

/-- The standard wording of a float syntax error. -/
def FloatSyntaxError.message : FloatSyntaxError → String
  | .empty => "cannot parse float from empty string"
  | .invalid => "invalid float literal"

/-- Reads the magnitude of a decimal literal: digits, an optional point with more digits, and an
optional exponent. At least one digit must stand before the exponent. -/
def readMagnitude (cs : List Char) : Option (Nat × Int) :=
  let (whole, wholeCount, rest) := takeDigits cs 0 0
  let (fraction, fractionCount, rest) :=
    match rest with
    | '.' :: more => takeDigits more 0 0
    | _ => (0, 0, rest)
  if wholeCount + fractionCount == 0 then none
  else
    let significand := whole * Nat.pow 10 fractionCount + fraction
    let base : Int := -(fractionCount : Int)
    match rest with
    | [] => some (significand, base)
    | e :: more =>
      if e == 'e' || e == 'E' then
        let (negative, digitsPart) :=
          match more with
          | '-' :: ds => (true, ds)
          | '+' :: ds => (false, ds)
          | ds => (false, ds)
        let (power, powerCount, tail) := takeDigits digitsPart 0 0
        if powerCount == 0 || !tail.isEmpty then none
        else some (significand, if negative then base - power else base + power)
      else none

/-- Reads a floating-point literal. The text must hold nothing else: no blanks, no digit
separators. -/
def readFloat (s : String) : Except FloatSyntaxError Float :=
  if s.isEmpty then .error .empty
  else
    let cs := s.toList
    let (negative, body) :=
      match cs with
      | '-' :: rest => (true, rest)
      | '+' :: rest => (false, rest)
      | _ => (false, cs)
    let word := (String.ofList body).toLower
    if word == "inf" || word == "infinity" then
      .ok (floatOfParts negative 2047 0)
    else if word == "nan" then
      .ok (floatOfParts negative 2047 (Nat.pow 2 51))
    else
      match readMagnitude body with
      | some (digits, exponent) => .ok (Scientific.toFloat ⟨negative, digits, exponent⟩)
      | none => .error .invalid

/-- Why a text is not an unsigned count. -/
inductive CountSyntaxError where
  | empty
  | invalidDigit
  | tooLarge
  deriving Repr, BEq

/-- The standard wording of a count syntax error. -/
def CountSyntaxError.message : CountSyntaxError → String
  | .empty => "cannot parse integer from empty string"
  | .invalidDigit => "invalid digit found in string"
  | .tooLarge => "number too large to fit in target type"

/-- The value of a digit in the given radix (up to 36). -/
def digitValue (radix : Nat) (c : Char) : Option Nat :=
  let v :=
    if c.isDigit then some (c.toNat - '0'.toNat)
    else if 'a' ≤ c && c ≤ 'z' then some (c.toNat - 'a'.toNat + 10)
    else if 'A' ≤ c && c ≤ 'Z' then some (c.toNat - 'A'.toNat + 10)
    else none
  match v with
  | some d => if d < radix then some d else none
  | none => none

/-- Accumulates digits from the left below `limit`; the first bad digit or the first overflow
ends the scan. -/
def accumulateDigits (radix limit : Nat) : List Char → Nat → Except CountSyntaxError Nat
  | [], value => .ok value
  | c :: rest, value =>
    match digitValue radix c with
    | none => .error .invalidDigit
    | some d =>
      let next := value * radix + d
      if next > limit then .error .tooLarge else accumulateDigits radix limit rest next

/-- Reads an unsigned number of at most `limit` in the given radix, with an optional plus sign. -/
def readUnsigned (radix limit : Nat) (s : String) : Except CountSyntaxError Nat :=
  match s.toList with
  | [] => .error .empty
  | ['+'] => .error .invalidDigit
  | '+' :: rest => accumulateDigits radix limit rest 0
  | cs => accumulateDigits radix limit cs 0

/-- Reads a year or other unsigned 32-bit count in decimal. -/
def readNat32 (s : String) : Except CountSyntaxError Nat := readUnsigned 10 4294967295 s

end EnergyModel.Decimal
