import EnergyModel.Decimal.Shortest

/-!
# Writing doubles as text

A double is written from its shortest decimal (`Binary.shortest`). Two layouts are used by the
program's outputs, and both are values of `FloatStyle`:

* `FloatStyle.plain`, for numbers inside messages and the Monte Carlo case files: never an
  exponent, whole numbers without a point (`120`, `0.0000001`, `-0`).
* `FloatStyle.compact`, for the sensitivity case files and machine-readable numbers: positional
  while the point stays within sixteen places of the first digit and five places after the
  decimal point, with `.0` on whole numbers (`0.0`, `-10.0`, `1e-7`, `1e21`).
-/

namespace EnergyModel.Decimal

/-- The layout decisions of a double's text. The point position `p` of a decimal is where the
point falls relative to its digits: the value is `0.d₁d₂… · 10^p`. -/
structure FloatStyle where
  /-- Point positions written without an exponent: `p` with `above < p ∧ p ≤ upTo`; `none` on
  either side means no bound. -/
  above : Option Int
  upTo : Option Int
  /-- Appended to a whole number written positionally. -/
  wholeSuffix : String
  nanText : String
  infinityText : String

/-- Never an exponent; whole numbers bare. -/
def FloatStyle.plain : FloatStyle := ⟨none, none, "", "NaN", "inf"⟩

/-- Positional for point positions in `(-5, 16]`, whole numbers with `.0`. -/
def FloatStyle.compact : FloatStyle := ⟨some (-5), some 16, ".0", "NaN", "inf"⟩

/-- Whether a point position is written positionally. -/
def FloatStyle.positional (style : FloatStyle) (p : Int) : Bool :=
  (match style.above with | some a => a < p | none => true) &&
  (match style.upTo with | some u => p ≤ u | none => true)

/-- A run of zeros. -/
def zeros (n : Nat) : String := String.ofList (List.replicate n '0')

/-- The text of a decimal's magnitude in a style. -/
def Scientific.layout (style : FloatStyle) (d : Scientific) : String :=
  let text := toString d.digits
  let len := text.length
  let exponent := if d.digits == 0 then 0 else d.exponent
  let p : Int := len + exponent
  if style.positional p then
    if 0 ≤ exponent then text ++ zeros exponent.toNat ++ style.wholeSuffix
    else if 0 < p then
      String.ofList (text.toList.take p.toNat) ++ "." ++ String.ofList (text.toList.drop p.toNat)
    else "0." ++ zeros (-p).toNat ++ text
  else
    let first := String.ofList (text.toList.take 1)
    let rest := String.ofList (text.toList.drop 1)
    let mark := if rest.isEmpty then first else first ++ "." ++ rest
    mark ++ "e" ++ toString (p - 1)

/-- The text of a double in a style. -/
def FloatStyle.render (style : FloatStyle) (x : Float) : String :=
  match FloatKind.ofFloat x with
  | .nan => style.nanText
  | .infinite negative => (if negative then "-" else "") ++ style.infinityText
  | .finite b =>
    let d := b.shortest
    (if d.negative then "-" else "") ++ d.layout style

/-- A double as it appears inside a message: never an exponent. -/
def plainText (x : Float) : String := FloatStyle.plain.render x

/-- A double in its compact text. -/
def compactText (x : Float) : String := FloatStyle.compact.render x

end EnergyModel.Decimal
