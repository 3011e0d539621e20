import EnergyModel.Sql.Value

/-!
# The `printf` function of the database

`printf(format, …)` (also called `format`) writes its arguments into a format text, byte by
byte. A conversion is `%`, then flags (`-` left-justify, `+` or space for the sign, `#`
alternate form, `!` exact form, `0` zero padding, `,` thousands), a width, a precision after `.`
(`*` takes either from the arguments), at most two length letters `l` that change nothing, and
a conversion letter:

* `d` `i` signed decimal, `u` unsigned decimal, `x` `X` `o` `p` hexadecimal and octal of the
  64-bit pattern, `r` an ordinal, `c` the first character of the text of the argument;
* `f` `e` `E` `g` `G` reals, laid out by `formatReal`;
* `s` `z` the text of the argument, `q` with single quotes doubled, `Q` the same inside single
  quotes (and `NULL` for a null), `w` with double quotes doubled;
* `%` a percent sign, and `n` nothing.

An argument is read as the conversion needs it (`Value.toInteger`, `Value.toReal`, its text up
to a zero byte), and a missing argument counts as zero or as no text. An unknown conversion
letter ends the output where it stands; a lone `%` at the end is written as it is. Widths and
precisions count bytes, or characters with `!`, so a precision may cut a character in two.

The result is null when nothing at all was written: an empty format, or one that starts with
an unknown conversion. A conversion that writes nothing still counts as writing.
-/

namespace EnergyModel.Sql

/-- The conversion letters of the formatter. -/
inductive Conversion where
  | signed
  | unsigned
  | radix (base : Nat) (upper : Bool) (pre : String)
  | real (form : RealForm) (upper : Bool)
  | string
  | character
  | quoted (quote : Char) (enclose : Bool)
  | percent
  | nothing
  | ordinal
  deriving Inhabited

/-- The conversion of a letter, if it is one. -/
def Conversion.ofChar? : Char → Option Conversion
  | 'd' | 'i' => some .signed
  | 'u' => some .unsigned
  | 'x' => some (.radix 16 false "0x")
  | 'X' => some (.radix 16 true "0X")
  | 'o' => some (.radix 8 false "0")
  | 'p' => some (.radix 16 true "0x")
  | 'f' => some (.real .fixed false)
  | 'e' => some (.real .exponent false)
  | 'E' => some (.real .exponent true)
  | 'g' => some (.real .general false)
  | 'G' => some (.real .general true)
  | 's' | 'z' => some .string
  | 'c' => some .character
  | 'q' => some (.quoted '\'' false)
  | 'Q' => some (.quoted '\'' true)
  | 'w' => some (.quoted '"' false)
  | '%' => some .percent
  | 'n' => some .nothing
  | 'r' => some .ordinal
  | _ => none

/-- The flags, width and precision of one conversion. -/
structure Spec where
  leftJustify : Bool := false
  sign : Option Char := none
  alternate : Bool := false
  exact : Bool := false
  zeroPad : Bool := false
  thousands : Bool := false
  width : Nat := 0
  precision : Option Nat := none
  deriving Inhabited

/-- The arguments not yet used. -/
abbrev Arguments := List Value

/-- Takes the next argument; none when they have run out. -/
def nextArgument : Arguments → Option Value × Arguments
  | [] => (none, [])
  | v :: rest => (some v, rest)

/-- The digits of a natural number in a base, upper- or lower-case. -/
def radixDigits (base : Nat) (upper : Bool) (n : Nat) : List Char :=
  let ds := Nat.toDigits base n
  if upper then ds.map Char.toUpper else ds

/-- Puts a comma between every three digits, counting from the right. -/
def groupThousands (ds : List Char) : List Char :=
  let n := ds.length
  (ds.zipIdx.flatMap fun (c, i) =>
    let after := n - 1 - i
    if after > 0 && after % 3 == 0 then [c, ','] else [c])

/-- The English ordinal suffix of a number. -/
def ordinalSuffix (n : Nat) : String :=
  let x := n % 10
  if x ≥ 4 || (n / 10) % 10 == 1 || x == 0 then "th"
  else if x == 1 then "st" else if x == 2 then "nd" else "rd"

/-- An integer conversion: its digits (with an ordinal's suffix), zero-extended to the
precision, grouped, signed and prefixed. -/
def formatInteger (spec : Spec) (conv : Conversion) (v : Int) : String :=
  let (magnitude, prefixChar) : Nat × Option Char :=
    match conv with
    | .signed | .ordinal => if v < 0 then (v.natAbs, some '-') else (v.toNat, spec.sign)
    | _ => ((if v < 0 then v + 18446744073709551616 else v).toNat, none)
  let (base, upper, pre, thousands) : Nat × Bool × String × Bool :=
    match conv with
    | .radix b u p => (b, u, p, false)
    | .ordinal => (10, false, "", false)
    | _ => (10, false, "", spec.thousands)
  let alternate := spec.alternate && magnitude != 0
  let precision := spec.precision.getD 0
  let precision :=
    if spec.zeroPad && precision + (if prefixChar.isSome then 1 else 0) < spec.width then
      spec.width - (if prefixChar.isSome then 1 else 0)
    else precision
  let suffix := match conv with
    | .ordinal => (ordinalSuffix magnitude).toList
    | _ => []
  let digits := radixDigits base upper magnitude ++ suffix
  let digits := List.replicate (precision - digits.length) '0' ++ digits
  let digits := if thousands then groupThousands digits else digits
  let signText := match prefixChar with
    | some c => String.ofList [c]
    | none => ""
  let preText := if alternate then pre else ""
  preText ++ signText ++ String.ofList digits

/-- The bytes of an argument's text up to its first zero byte; none for a null or a missing
argument. -/
def argumentBytes (arg : Option Value) : Option (List UInt8) :=
  (arg.bind Value.text?).map fun s => beforeZero (textBytes s)

/-- The front of some bytes a precision keeps: that many bytes, or with `!` that many of the
database's characters. -/
def keepFront (spec : Spec) (bs : List UInt8) : List UInt8 :=
  match spec.precision with
  | none => bs
  | some k => if spec.exact then ((characterRuns bs).take k).flatten else bs.take k

/-- Pads bytes with spaces to a width, on the left or, when left-justified, on the right. -/
def padBytes (width : Int) (leftJustify : Bool) (bs : List UInt8) : List UInt8 :=
  if width > bs.length then
    let pad := List.replicate (width - bs.length).toNat (32 : UInt8)
    if leftJustify then bs ++ pad else pad ++ bs
  else bs

/-- The width of a text padded with `!`: it grows by the continuation bytes in the text, so
that it counts characters. -/
def exactWidth (spec : Spec) (width : Int) (bs : List UInt8) : Int :=
  if spec.exact && width > 0 then width + (bs.filter isContinuation).length else width

/-- The bytes `%c` writes: the first character of the argument (a zero byte when there is
none) as many times as the precision says, at least once. Spaces that pad on the left are
written before the copies; the last copy is padded to what is left of the width. -/
def characterBytes (spec : Spec) (arg : Option Value) : List UInt8 :=
  let one : List UInt8 := match (argumentBytes arg).getD [] with
    | [] => [0]
    | b :: rest => if isLead b then b :: (rest.takeWhile isContinuation).take 3 else [b]
  let times := spec.precision.getD 1
  if times > 1 then
    let width : Int := spec.width - (times - 1 : Nat)
    let (front, width) : List UInt8 × Int :=
      if width > 1 && !spec.leftJustify then (List.replicate (width - 1).toNat 32, 0)
      else ([], width)
    front ++ (List.replicate (times - 1) one).flatten ++
      padBytes (exactWidth { spec with exact := true } width one) spec.leftJustify one
  else padBytes (exactWidth { spec with exact := true } spec.width one) spec.leftJustify one

/-- The bytes of one conversion, padded to its width. -/
def conversionBytes (spec : Spec) (conv : Conversion) (arg : Option Value) : List UInt8 :=
  let forText (bs : List UInt8) : List UInt8 :=
    padBytes (exactWidth spec spec.width bs) spec.leftJustify bs
  match conv with
  | .signed | .unsigned | .radix .. | .ordinal =>
    padBytes spec.width spec.leftJustify
      (formatInteger spec conv ((arg.map Value.toInteger).getD 0)).toUTF8.toList
  | .real form upper =>
    let layout : RealLayout :=
      { form, upper, precision := spec.precision, width := spec.width, sign := spec.sign
        alternate := spec.alternate, exact := spec.exact, zeroPad := spec.zeroPad
        leftJustify := spec.leftJustify, thousands := spec.thousands }
    padBytes spec.width spec.leftJustify
      (formatReal layout ((arg.map Value.toReal).getD 0.0)).toUTF8.toList
  | .string => forText (keepFront spec ((argumentBytes arg).getD []))
  | .character => characterBytes spec arg
  | .quoted q enclose =>
    let text := argumentBytes arg
    let body := keepFront spec (text.getD (if enclose then "NULL" else "(NULL)").toUTF8.toList)
    let qb := q.toNat.toUInt8
    let escaped := body.flatMap fun b => if b == qb then [b, b] else [b]
    forText (if enclose && text.isSome then qb :: escaped ++ [qb] else escaped)
  | .percent => padBytes spec.width spec.leftJustify [37]
  | .nothing => []

/-- Whether a byte is a decimal digit. -/
def isDigitByte (b : UInt8) : Bool := 48 ≤ b.toNat && b.toNat ≤ 57

/-- Reads a run of decimal digits as a number, counted in 32 bits without sign and kept to
its low 31 bits. -/
def readDigits (bs : List UInt8) : Nat × List UInt8 :=
  let ds := bs.takeWhile isDigitByte
  (ds.foldl (fun n d => (n * 10 + (d.toNat - 48)) % 4294967296) 0 % 2147483648, bs.drop ds.length)

/-- A width or precision taken from the next argument, cut to a 32-bit signed integer: its
magnitude (zero for the most negative one) and whether it was negative. -/
def argumentAmount (args : Arguments) : Nat × Bool × Arguments :=
  let (v, args) := nextArgument args
  let n := ((v.map Value.toInteger).getD 0) % 4294967296
  let n := if n ≥ 2147483648 then n - 4294967296 else n
  (if n == -2147483648 then 0 else n.natAbs, n < 0, args)

/-- Reads the flags, width, precision and length letters of a conversion, from the byte `c`
after `%` and the bytes after it: the conversion byte (none at the end of the format), the
bytes after it, the conversion's settings and the arguments left. The fuel bounds the steps. -/
def readSpec : Nat → UInt8 → List UInt8 → Spec → Arguments →
    Option UInt8 × List UInt8 × Spec × Arguments
  | 0, c, rest, spec, args => (some c, rest, spec, args)
  | fuel + 1, c, rest, spec, args =>
    -- the next byte, as the loop reads it
    let next (spec : Spec) (args : Arguments) : Option UInt8 × List UInt8 × Spec × Arguments :=
      match rest with
      | d :: more => readSpec fuel d more spec args
      | [] => (none, [], spec, args)
    let lengthLetters (bs : List UInt8) : Option UInt8 × List UInt8 :=
      match bs with
      | 108 :: d :: more => (some d, more)
      | d :: more => (some d, more)
      | [] => (none, [])
    match c.toNat with
    | 45 => next { spec with leftJustify := true } args
    | 43 => next { spec with sign := some '+' } args
    | 32 => next { spec with sign := some ' ' } args
    | 35 => next { spec with alternate := true } args
    | 33 => next { spec with exact := true } args
    | 48 => next { spec with zeroPad := true } args
    | 44 => next { spec with thousands := true } args
    | 108 =>
      let (d, more) := lengthLetters rest
      (d, more, spec, args)
    | 42 =>
      let (w, negative, args) := argumentAmount args
      let spec := { spec with width := w, leftJustify := spec.leftJustify || negative }
      match rest with
      | d :: more => if d.toNat == 46 || d.toNat == 108 then readSpec fuel d more spec args else (some d, more, spec, args)
      | [] => (none, [], spec, args)
    | 46 =>
      let (p, spec, after, args) : Option Nat × Spec × List UInt8 × Arguments :=
        match rest with
        | 42 :: more =>
          let (p, negative, args) := argumentAmount args
          -- the most negative amount leaves the precision unset
          (if negative && p == 0 then none else some p, spec, more, args)
        | _ =>
          let (p, after) := readDigits rest
          (some p, spec, after, args)
      let spec := { spec with precision := p }
      match after with
      | d :: more => if d.toNat == 108 then readSpec fuel d more spec args else (some d, more, spec, args)
      | [] => (none, [], spec, args)
    | n =>
      if 49 ≤ n && n ≤ 57 then
        let (w, after) := readDigits (c :: rest)
        let spec := { spec with width := w }
        match after with
        | d :: more =>
          if d.toNat == 46 || d.toNat == 108 then readSpec fuel d more spec args
          else (some d, more, spec, args)
        | [] => (none, [], spec, args)
      else (some c, rest, spec, args)

/-- The most bytes a text may hold. -/
def maxTextLength : Nat := 1000000000

/-- The most digits a real is written with after its point. -/
def maxRealPrecision : Nat := 100000000

/-- The decimal exponent of a finite real other than zero, and zero otherwise. -/
def decimalExponent (x : Float) : Nat :=
  if x.isNaN || x.isInf || x == 0 then 0 else (Float.floor (Float.log10 x.abs)).toUInt64.toNat

/-- About how many bytes a conversion writes, counting its padding: no fewer than it does. -/
def conversionSize (spec : Spec) (conv : Conversion) (arg : Option Value) : Nat :=
  let content : Nat := match conv with
    | .signed | .unsigned | .radix .. | .ordinal => spec.precision.getD 0
    | .real _ _ => decimalExponent ((arg.map Value.toReal).getD 0.0) + min (spec.precision.getD 6) maxRealPrecision
    | .character => spec.precision.getD 1
    | _ => 0
  max spec.width content

/-- Whether a conversion needs more room than a text may have: a temporary buffer for the
digits of a number larger than a text may be, or an output, with the bytes written before,
that reaches the limit. -/
def conversionTooBig (spec : Spec) (conv : Conversion) (arg : Option Value) (written : Nat) : Bool :=
  let buffer : Nat := match conv with
    | .signed | .unsigned | .radix .. | .ordinal =>
      let v := (arg.map Value.toInteger).getD 0
      let signed := match conv with
        | .signed | .ordinal => v < 0 || spec.sign.isSome
        | _ => false
      let precision := spec.precision.getD 0
      let precision := if spec.zeroPad && precision + (if signed then 1 else 0) < spec.width then
          spec.width - (if signed then 1 else 0)
        else precision
      precision + 10 + (if spec.thousands then precision / 3 else 0)
    | .real _ _ =>
      decimalExponent ((arg.map Value.toReal).getD 0.0) + min (spec.precision.getD 6) maxRealPrecision +
        spec.width + 15
    | _ => 0
  buffer > maxTextLength || written + conversionSize spec conv arg ≥ maxTextLength

/-- Writes a format with its arguments: the bytes written, in reverse chunks, and whether
anything was written at all; none when the text grows too large. Every step takes at least one
byte of the format, so a fuel of its length suffices. -/
def formatBytes : Nat → List UInt8 → Arguments → List (List UInt8) → Bool → Nat →
    Option (List (List UInt8) × Bool)
  | 0, _, _, out, wrote, _ => some (out, wrote)
  | _, [], _, out, wrote, _ => some (out, wrote)
  | fuel + 1, b :: bs, args, out, wrote, written =>
    if b.toNat != 37 then
      let run := (b :: bs).takeWhile (·.toNat != 37)
      formatBytes fuel ((b :: bs).drop run.length) args (run :: out) true (written + run.length)
    else
      match bs with
      | [] => some ([37] :: out, true)
      | c :: rest =>
        match readSpec (rest.length + 1) c rest {} args with
        | (none, _, _, _) => some (out, wrote)
        | (some k, rest, spec, args) =>
          match Conversion.ofChar? (Char.ofNat k.toNat) with
          | none => some (out, wrote)
          | some conv =>
            let (arg, args) := match conv with
              | .percent | .nothing => (none, args)
              | _ => nextArgument args
            let spec := match conv with
              | .real _ _ => { spec with precision := spec.precision.map (min maxRealPrecision) }
              | _ => spec
            if conversionTooBig spec conv arg written then none
            else
              let piece := conversionBytes spec conv arg
              formatBytes fuel rest args (piece :: out) true (written + piece.length)

/-- The text of a format with its arguments; empty when nothing was written or the text grows
too large. -/
def printfText (format : String) (args : List Value) : String :=
  let fmt := beforeZero (textBytes format)
  match formatBytes (fmt.length + 1) fmt args [] false 0 with
  | some (out, _) => bytesText out.reverse.flatten
  | none => ""

/-- The value of `printf(format, args…)`: the text written, or null when nothing was or the
text grows too large. -/
def printfValue (format : String) (args : List Value) : Value :=
  let fmt := beforeZero (textBytes format)
  match formatBytes (fmt.length + 1) fmt args [] false 0 with
  | some (out, true) => .text (bytesText out.reverse.flatten)
  | _ => .null

end EnergyModel.Sql
