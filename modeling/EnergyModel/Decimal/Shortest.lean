/-!
# Shortest decimal digits of a binary64 value

A finite double is `m · 2^q` for a natural significand `m` and an integer exponent `q`. The reals
that round to it form an interval around it, closed when `m` is even (ties round to even) and open
otherwise. Its shortest decimal is the decimal with the fewest significant digits in that
interval; of the two neighbours of the value on that decimal grid the nearer one wins, and an
exact tie goes to the even significand.

Everything here is exact `Nat` arithmetic on the interval, so the result does not depend on any
floating-point operation. The main definitions are `FloatKind.ofFloat`, which decodes the bits, and
`Binary.shortest`, which finds the digits.
-/

namespace EnergyModel.Decimal

/-- A decimal number `(-1)^negative · digits · 10^exponent`. Zero has `digits = 0`. -/
structure Scientific where
  negative : Bool
  digits : Nat
  exponent : Int
  deriving Repr, BEq, Inhabited

/-- A finite double as sign, significand and binary exponent, together with whether its lower
neighbour is closer than its upper one (the significand is the smallest normal one). -/
structure Binary where
  negative : Bool
  significand : Nat
  exponent : Int
  narrowBelow : Bool
  deriving Repr, BEq

/-- What the bits of a double hold. -/
inductive FloatKind where
  | nan
  | infinite (negative : Bool)
  | finite (value : Binary)
  deriving Repr, BEq

/-- Splits the 64 bits of a double into its kind, sign, significand and exponent. -/
def FloatKind.ofBits (bits : UInt64) : FloatKind :=
  let n := bits.toNat
  let negative := n / Nat.pow 2 63 % 2 == 1
  let biased : Nat := n / Nat.pow 2 52 % Nat.pow 2 11
  let fraction : Nat := n % Nat.pow 2 52
  if biased == 2047 then
    if fraction == 0 then .infinite negative else .nan
  else if biased == 0 then
    .finite ⟨negative, fraction, -1074, false⟩
  else
    .finite ⟨negative, fraction + Nat.pow 2 52, (biased : Int) - 1075, fraction == 0 && biased > 1⟩

/-- The kind of a double. -/
def FloatKind.ofFloat (x : Float) : FloatKind := FloatKind.ofBits x.toBits

/-- The number of decimal digits of a positive natural number (and `1` for zero). -/
def decimalLength (n : Nat) : Nat := (Nat.toDigits 10 n).length

/-- A non-negative rational `numerator / denominator` measured on the decimal grid of spacing
`10^k`: the returned pair `(a, b)` satisfies `a / b = (numerator / denominator) / 10^k`. -/
def onGrid (numerator denominator : Nat) (k : Int) : Nat × Nat :=
  if 0 ≤ k then (numerator, denominator * Nat.pow 10 k.toNat)
  else (numerator * Nat.pow 10 (-k).toNat, denominator)

/-- The decimal exponent `E` with `10^E ≤ numerator / denominator < 10^(E+1)`, for a positive
numerator. -/
def decimalExponent (numerator denominator : Nat) : Int :=
  if denominator ≤ numerator then
    (decimalLength (numerator / denominator) : Int) - 1
  else
    let t := decimalLength (denominator / numerator)
    -- `10^(t-1) ≤ denominator / numerator < 10^t`, so the value lies in `(10^-t, 10^(1-t)]`
    if denominator ≤ numerator * Nat.pow 10 (t - 1) then -((t : Int) - 1) else -(t : Int)

/-- The reals that round to a finite double, scaled: with `unit = 2^(q-2)` the value is
`centre · unit`, and the interval runs from `low · unit` to `high · unit`. -/
structure RoundingInterval where
  low : Nat
  centre : Nat
  high : Nat
  /-- The binary scale `q - 2` of the unit. -/
  scale : Int
  /-- Whether the ends belong to the interval. -/
  closed : Bool

/-- The rounding interval of a positive finite double. -/
def Binary.interval (b : Binary) : RoundingInterval :=
  { low := 4 * b.significand - (if b.narrowBelow then 1 else 2)
    centre := 4 * b.significand
    high := 4 * b.significand + 2
    scale := b.exponent - 2
    closed := b.significand % 2 == 0 }

/-- The numerator and denominator of `x · 2^scale`. -/
def scaled (x : Nat) (scale : Int) : Nat × Nat :=
  if 0 ≤ scale then (x * Nat.pow 2 scale.toNat, 1) else (x, Nat.pow 2 (-scale).toNat)

/-- Whether `g · 10^k` lies in the rounding interval. -/
def RoundingInterval.holds (r : RoundingInterval) (k : Int) (g : Nat) : Bool :=
  let (lo, den) := scaled r.low r.scale
  let (hi, _) := scaled r.high r.scale
  let (loA, loB) := onGrid lo den k
  let (hiA, _) := onGrid hi den k
  -- both ends share the denominator `loB`
  let point := g * loB
  if r.closed then loA ≤ point && point ≤ hiA else loA < point && point < hiA

/-- The candidate with `n` significant digits, if one of the two grid neighbours of the value
lies in the interval: the nearer one, and of two at the same distance the even one. -/
def RoundingInterval.candidate (r : RoundingInterval) (e : Int) (n : Nat) : Option (Nat × Int) :=
  let k := e - (n : Int) + 1
  let (num, den) := scaled r.centre r.scale
  let (a, b) := onGrid num den k
  let below := a / b
  let above := below + 1
  let belowIn := r.holds k below
  let aboveIn := a % b != 0 && r.holds k above
  if belowIn && aboveIn then
    -- distances `a - below·b` and `above·b - a`
    let dBelow := a - below * b
    let dAbove := above * b - a
    if dBelow < dAbove then some (below, k)
    else if dAbove < dBelow then some (above, k)
    else if below % 2 == 0 then some (below, k) else some (above, k)
  else if belowIn then some (below, k)
  else if aboveIn then some (above, k)
  else none

/-- Removes trailing zeros from a significand, moving them into the exponent. -/
def stripZeros (digits : Nat) (exponent : Int) : Nat × Int :=
  go digits exponent (decimalLength digits)
where
  /-- At most `fuel` zeros are removed, and a number has fewer zeros than digits. -/
  go (digits : Nat) (exponent : Int) : Nat → Nat × Int
    | 0 => (digits, exponent)
    | fuel + 1 =>
      if digits != 0 && digits % 10 == 0 then go (digits / 10) (exponent + 1) fuel
      else (digits, exponent)

/-- The first digit count from `n` up to 17 with a candidate, or the value itself when none is
found (which cannot happen for a double: 17 digits always suffice). -/
def RoundingInterval.search (r : RoundingInterval) (e : Int) : Nat → Nat → Option (Nat × Int)
  | _, 0 => none
  | n, fuel + 1 =>
    match r.candidate e n with
    | some c => some c
    | none => r.search e (n + 1) fuel

/-- The shortest decimal of a finite double. -/
def Binary.shortest (b : Binary) : Scientific :=
  if b.significand == 0 then ⟨b.negative, 0, 0⟩
  else
    let r := b.interval
    let (num, den) := scaled r.centre r.scale
    let e := decimalExponent num den
    match r.search e 1 17 with
    | some (g, k) =>
      let (g, k) := stripZeros g k
      ⟨b.negative, g, k⟩
    | none =>
      -- unreachable for doubles; keep the exact value's leading 17 digits
      let (a, bb) := onGrid num den (e - 16)
      let (g, k) := stripZeros (a / bb) (e - 16)
      ⟨b.negative, g, k⟩

end EnergyModel.Decimal
