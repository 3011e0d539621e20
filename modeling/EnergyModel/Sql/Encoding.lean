import EnergyModel.Sql.Number

/-!
# The bytes of texts

The database keeps a text as the bytes of an encoding and never asks them to be valid: a blob
read as text keeps its bytes, and cutting a text by bytes may split a character. Here a text is
a `String`, and a byte that belongs to no valid UTF-8 sequence of it stands in the string as a
character of its own from the end of the last private-use plane: byte `b` (128 or more) is
`U+10FF00 + b`. `textBytes` gives a text's bytes back and `bytesText` reads bytes as a text;
reading bytes and taking the bytes back gives them unchanged, since each valid sequence becomes
its character and each other byte its stand-in.

Bytes are read as characters in three ways:

* the database's own, which `length`, `substr` and `instr` count with: a byte from `0xC0` up
  starts a character that takes every continuation byte (`0x80` to `0xBF`) after it, and any
  other byte is a character alone (`characterRuns`); `unicode` decodes such a run without
  asking it to be valid (`runCode`);
* the strict one, where a character is a valid UTF-8 sequence: shortest form, no surrogate,
  at most `U+10FFFF` (`bytesText`);
* the one of a reader that wants valid text: each longest start of a valid sequence that is
  not completed, and each stray byte, becomes one replacement character (`readBackText`).

A database may also keep its texts in UTF-16, little- or big-endian. Its blobs then read as
UTF-16 text, a unit from `0xD800` to `0xDFFF` joined with the unit after it whatever that
is, and an odd last byte is dropped (`decodeText`).
-/

namespace EnergyModel.Sql

/-- The character a byte that is no part of a valid sequence stands as. -/
def rawByteChar (b : UInt8) : Char := Char.ofNat (0x10FF00 + b.toNat)

/-- The byte a character stands for, if it is the stand-in of one. -/
def standInByte? (c : Char) : Option UInt8 :=
  if 0x10FF80 ≤ c.toNat then some (c.toNat - 0x10FF00).toUInt8 else none

/-- A code point written in UTF-8, as the database writes it: by its size alone, so that a
surrogate takes three bytes. -/
def utf8OfCode (n : Nat) : List UInt8 :=
  if n < 0x80 then [n.toUInt8]
  else if n < 0x800 then [(0xC0 + n / 64 % 32).toUInt8, (0x80 + n % 64).toUInt8]
  else if n < 0x10000 then
    [(0xE0 + n / 4096 % 16).toUInt8, (0x80 + n / 64 % 64).toUInt8, (0x80 + n % 64).toUInt8]
  else
    [(0xF0 + n / 262144 % 8).toUInt8, (0x80 + n / 4096 % 64).toUInt8,
     (0x80 + n / 64 % 64).toUInt8, (0x80 + n % 64).toUInt8]

/-- Whether a text holds the stand-in of a byte. -/
def hasRawBytes (s : String) : Bool := s.toList.any fun (c : Char) => c.toNat ≥ 0x10FF80

/-- The bytes of a text: its characters in UTF-8, each stand-in as its byte. -/
def textBytes (s : String) : List UInt8 :=
  if hasRawBytes s then
    s.toList.flatMap fun c => match standInByte? c with
      | some b => [b]
      | none => utf8OfCode c.toNat
  else s.toUTF8.toList

/-- Whether a byte starts one of the database's characters of more than one byte. -/
def isLead (b : UInt8) : Bool := b.toNat ≥ 0xC0

/-- Whether a byte continues a sequence. -/
def isContinuation (b : UInt8) : Bool := 0x80 ≤ b.toNat && b.toNat < 0xC0

/-- The number of bytes of the sequence a byte starts, when it starts a valid one. -/
def sequenceWidth (b : UInt8) : Nat :=
  let n := b.toNat
  if n < 0x80 then 1
  else if 0xC2 ≤ n && n ≤ 0xDF then 2
  else if 0xE0 ≤ n && n ≤ 0xEF then 3
  else if 0xF0 ≤ n && n ≤ 0xF4 then 4
  else 0

/-- Whether the second byte of a sequence fits its first: this rules out long forms,
surrogates and code points past `U+10FFFF`. -/
def secondFits (first second : UInt8) : Bool :=
  let f := first.toNat
  let s := second.toNat
  match sequenceWidth first with
  | 2 => isContinuation second
  | 3 =>
    if f == 0xE0 then 0xA0 ≤ s && s ≤ 0xBF
    else if f == 0xED then 0x80 ≤ s && s ≤ 0x9F
    else isContinuation second
  | 4 =>
    if f == 0xF0 then 0x90 ≤ s && s ≤ 0xBF
    else if f == 0xF4 then 0x80 ≤ s && s ≤ 0x8F
    else isContinuation second
  | _ => false

/-- The valid sequence at the front of some bytes: its character and the bytes after it. -/
def validSequence : List UInt8 → Option (Char × List UInt8)
  | [] => none
  | b :: rest =>
    let low (x : UInt8) := x.toNat % 64
    match sequenceWidth b, rest with
    | 1, _ => some (Char.ofNat b.toNat, rest)
    | 2, c :: r => if secondFits b c then some (Char.ofNat ((b.toNat % 32) * 64 + low c), r) else none
    | 3, c :: d :: r =>
      if secondFits b c && isContinuation d then
        some (Char.ofNat ((b.toNat % 16) * 4096 + low c * 64 + low d), r)
      else none
    | 4, c :: d :: e :: r =>
      if secondFits b c && isContinuation d && isContinuation e then
        some (Char.ofNat ((b.toNat % 8) * 262144 + low c * 4096 + low d * 64 + low e), r)
      else none
    | _, _ => none

/-- Reads bytes as characters: each valid sequence as its character, each other byte as its
stand-in. The fuel bounds the number of characters. -/
def decodeBytes : Nat → List UInt8 → List Char
  | 0, _ => []
  | _, [] => []
  | fuel + 1, b :: rest =>
    match validSequence (b :: rest) with
    | some (c, after) => c :: decodeBytes fuel after
    | none => rawByteChar b :: decodeBytes fuel rest

/-- Some bytes read as a text, keeping every byte. -/
def bytesText (bs : List UInt8) : String :=
  match String.fromUTF8? (ByteArray.mk bs.toArray) with
  | some s => s
  | none => String.ofList (decodeBytes bs.length bs)

/-- Texts joined end to end, as their bytes are: stand-ins that meet may make a valid
sequence together. -/
def joinTexts (parts : List String) : String :=
  if parts.any hasRawBytes then bytesText (parts.flatMap textBytes) else String.join parts

/-- How many bytes at the front of some bytes that start no valid sequence a reader replaces
with one character: the first byte, and the bytes after it that could still begin the
sequence it starts. -/
def invalidRun : List UInt8 → Nat
  | b :: c :: d :: _ =>
    if sequenceWidth b ≥ 3 && secondFits b c then
      if sequenceWidth b == 4 && isContinuation d then 3 else 2
    else 1
  | [b, c] => if sequenceWidth b ≥ 3 && secondFits b c then 2 else 1
  | _ => 1

/-- Reads bytes as a reader that wants valid text does. The fuel bounds the number of
characters. -/
def replaceInvalid : Nat → List UInt8 → List Char
  | 0, _ => []
  | _, [] => []
  | fuel + 1, b :: rest =>
    match validSequence (b :: rest) with
    | some (c, after) => c :: replaceInvalid fuel after
    | none => '�' :: replaceInvalid fuel ((b :: rest).drop (invalidRun (b :: rest)))

/-- A text as a reader that wants valid UTF-8 reads it back: every stretch of bytes that
starts no valid sequence replaced. -/
def readBackText (s : String) : String :=
  if hasRawBytes s then
    let bs := textBytes s
    String.ofList (replaceInvalid bs.length bs)
  else s

/-- Splits bytes into the database's characters: a byte from `0xC0` up with the continuation
bytes after it, or any other byte alone. -/
def characterRuns (bs : List UInt8) : List (List UInt8) :=
  let step (acc : List (List UInt8)) (b : UInt8) : List (List UInt8) :=
    match acc with
    | run :: done =>
      if isContinuation b && (run.head?.map isLead).getD false then
        (run ++ [b]) :: done
      else [b] :: acc
    | [] => [[b]]
  (bs.foldl step []).reverse

/-- The bytes of a text before its first zero byte, which ends a text for the functions that
walk it. -/
def beforeZero (bs : List UInt8) : List UInt8 := bs.takeWhile (· != 0)

/-- The code point the database reads from one of its characters: a leading byte's low bits,
then six bits from each continuation byte, kept to 32 bits; a value below `0x80` from more
than one byte, a surrogate, `0xFFFE` or `0xFFFF` reads as the replacement character. -/
def runCode : List UInt8 → Nat
  | [] => 0
  | b :: rest =>
    let n := b.toNat
    if n < 0xC0 then n
    else
      let lead :=
        if n < 0xE0 then n % 32 else if n < 0xF0 then n % 16 else if n < 0xF8 then n % 8
        else if n < 0xFC then n % 4 else if n < 0xFE then n % 2 else 0
      let c := rest.foldl (fun c x => (c * 64 + x.toNat % 64) % 4294967296) lead
      if c < 0x80 || (0xD800 ≤ c && c ≤ 0xDFFF) || c == 0xFFFE || c == 0xFFFF then 0xFFFD else c

/-- The encoding a database keeps its texts in. -/
inductive TextEncoding where
  | utf8
  | utf16le
  | utf16be
  deriving BEq, Inhabited, Repr

/-- A text's characters as UTF-16 units: a stand-in byte as the replacement character. -/
def utf16Units (s : String) : List Nat :=
  s.toList.flatMap fun c =>
    let n := if (standInByte? c).isSome then 0xFFFD else c.toNat
    if n < 0x10000 then [n]
    else [0xD800 + (n - 0x10000) / 1024, 0xDC00 + (n - 0x10000) % 1024]

/-- The bytes of a text in an encoding. -/
def encodeText (e : TextEncoding) (s : String) : List UInt8 :=
  match e with
  | .utf8 => textBytes s
  | .utf16le => (utf16Units s).flatMap fun u => [(u % 256).toUInt8, (u / 256).toUInt8]
  | .utf16be => (utf16Units s).flatMap fun u => [(u / 256).toUInt8, (u % 256).toUInt8]

/-- Reads UTF-16 units as code points the way the database does: a unit from `0xD800` to
`0xDFFF` is joined with the unit after it, when there is one, whatever that unit is. The fuel
bounds the number of code points. -/
def utf16Codes : Nat → List Nat → List Nat
  | 0, _ => []
  | _, [] => []
  | _ + 1, [u] => [u]
  | fuel + 1, u :: v :: rest =>
    if 0xD800 ≤ u && u < 0xE000 then
      let c := v % 1024 + (u % 64) * 1024 + ((u % 1024 / 64 * 64 + 64) * 1024)
      c :: utf16Codes fuel rest
    else u :: utf16Codes fuel (v :: rest)

/-- Pairs bytes into UTF-16 units, dropping an odd last byte. -/
def utf16Pairs (bigEndian : Bool) : List UInt8 → List Nat
  | a :: b :: rest =>
    (if bigEndian then a.toNat * 256 + b.toNat else b.toNat * 256 + a.toNat) :: utf16Pairs bigEndian rest
  | _ => []

/-- Bytes in an encoding read as a text. -/
def decodeText (e : TextEncoding) (bs : List UInt8) : String :=
  match e with
  | .utf8 => bytesText bs
  | .utf16le | .utf16be =>
    let units := utf16Pairs (e == .utf16be) bs
    bytesText ((utf16Codes units.length units).flatMap utf8OfCode)

end EnergyModel.Sql
