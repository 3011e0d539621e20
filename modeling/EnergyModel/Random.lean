/-!
# Reproducible random draws

Draws come from the ChaCha stream cipher with twelve rounds (six double rounds), used as a
generator: its keystream, taken as 32-bit words, block after block in counter order, with the
64-bit block counter starting at zero and the stream number zero.

A 64-bit seed gives the 256-bit key through the PCG32 generator: the state steps by
`state * 6364136223846793005 + 11634580027462260723` (modulo 2^64), and each step's output word,
the state's high bits shifted, folded and rotated, is the next key word.

A uniform draw in [0, 1) takes two keystream words as a 64-bit number (the first the low half)
and keeps its top 52 bits as the fraction: every multiple of 2^-52 below 1 is equally likely.
-/

namespace EnergyModel.Random

/-- Rotates a word left. -/
def rotateLeft (x : UInt32) (n : UInt32) : UInt32 := (x <<< n) ||| (x >>> (32 - n))

/-- The state of a block: sixteen words. -/
abbrev BlockState := Vector UInt32 16

/-- The quarter round on four words of the state. -/
def quarterRound (s : BlockState) (a b c d : Fin 16) : BlockState :=
  let va := s[a] + s[b]
  let vd := rotateLeft (s[d] ^^^ va) 16
  let vc := s[c] + vd
  let vb := rotateLeft (s[b] ^^^ vc) 12
  let va := va + vb
  let vd := rotateLeft (vd ^^^ va) 8
  let vc := vc + vd
  let vb := rotateLeft (vb ^^^ vc) 7
  ((((s.set a.val va a.isLt).set b.val vb b.isLt).set c.val vc c.isLt).set d.val vd d.isLt)

/-- A column round and then a diagonal round. -/
def doubleRound (s : BlockState) : BlockState :=
  let s := quarterRound s 0 4 8 12
  let s := quarterRound s 1 5 9 13
  let s := quarterRound s 2 6 10 14
  let s := quarterRound s 3 7 11 15
  let s := quarterRound s 0 5 10 15
  let s := quarterRound s 1 6 11 12
  let s := quarterRound s 2 7 8 13
  quarterRound s 3 4 9 14

/-- The words "expand 32-byte k" that open every block. -/
def constants : List UInt32 := [0x61707865, 0x3320646e, 0x79622d32, 0x6b206574]

/-- The first state of a block: constants, key, the 64-bit counter and a zero stream number. -/
def initialState (key : Vector UInt32 8) (counter : UInt64) : BlockState :=
  let words := constants ++ key.toList ++
    [counter.toUInt32, (counter >>> 32).toUInt32, 0, 0]
  Vector.ofFn fun i => words.getD i.val 0

/-- The keystream words of a block: the state after the rounds, added to the first state. -/
def block (rounds : Nat) (key : Vector UInt32 8) (counter : UInt64) : List UInt32 :=
  let start := initialState key counter
  let mixed := (List.range (rounds / 2)).foldl (fun s _ => doubleRound s) start
  (List.finRange 16).map fun i => mixed[i] + start[i]

/-- One step of PCG32: the next state and its output word. -/
def pcgStep (state : UInt64) : UInt64 × UInt32 :=
  let state := state * 6364136223846793005 + 11634580027462260723
  let folded := (((state >>> 18) ^^^ state) >>> 27).toUInt32
  let rot := (state >>> 59).toUInt32
  (state, (folded >>> rot) ||| (folded <<< (32 - rot)))

/-- The key a seed gives: eight PCG32 outputs. -/
def keyOfSeed (seed : UInt64) : Vector UInt32 8 :=
  let words := ((List.range 8).foldl (fun (acc : List UInt32 × UInt64) _ =>
    let (state, w) := pcgStep acc.2
    (acc.1 ++ [w], state)) ([], seed)).1
  Vector.ofFn fun i => words.getD i.val 0

/-- A generator: the key, the next block's counter and the words left of the current block. -/
structure Generator where
  key : Vector UInt32 8
  counter : UInt64 := 0
  buffered : List UInt32 := []

/-- The generator of a seed. -/
def Generator.ofSeed (seed : UInt64) : Generator := { key := keyOfSeed seed }

/-- The next keystream word. -/
def Generator.nextWord (g : Generator) : UInt32 × Generator :=
  match g.buffered with
  | w :: rest => (w, { g with buffered := rest })
  | [] =>
    match block 12 g.key g.counter with
    | w :: rest => (w, { g with counter := g.counter + 1, buffered := rest })
    | [] => (0, g)

/-- The next 64-bit number: two keystream words, the first the low half. -/
def Generator.nextU64 (g : Generator) : UInt64 × Generator :=
  let (low, g) := g.nextWord
  let (high, g) := g.nextWord
  ((high.toUInt64 <<< 32) ||| low.toUInt64, g)

/-- A uniform draw in [0, 1): the top 52 bits of a 64-bit number as a binary fraction. -/
def Generator.uniform (g : Generator) : Float × Generator :=
  let (x, g) := g.nextU64
  ((x >>> 12).toFloat / 4503599627370496.0, g)

/-- The inverse of the distribution function of the triangular distribution over [low, high]
with its peak at `mode`, at `u`: the rising piece below the mode's share `(mode - low) / width`
of the range, the falling piece from it on. The steps are written once for any arithmetic with a
square root: the program runs them on floats, and on exact reals they invert the distribution
function. -/
def triangularInverse {α : Type} [Add α] [Sub α] [Mul α] [Div α] [OfNat α 1] [LT α]
    [DecidableLT α] (sqrt : α → α) (low mode high u : α) : α :=
  let width := high - low
  let split := (mode - low) / width
  if u < split then low + sqrt (u * width * (mode - low))
  else high - sqrt ((1 - u) * width * (high - mode))

/-- A draw from the triangular distribution over [low, high] with its peak at `mode`, by the
inverse of its distribution function at one uniform draw; an empty or reversed range gives the
mode and draws nothing. -/
def sampleTriangular {α : Type} {m : Type → Type} [Monad m] [Add α] [Sub α] [Mul α] [Div α]
    [OfNat α 0] [OfNat α 1] [LE α] [LT α] [DecidableLE α] [DecidableLT α]
    (sqrt : α → α) (uniform : m α) (low mode high : α) : m α :=
  if high - low ≤ 0 then pure mode
  else (triangularInverse sqrt low mode high ·) <$> uniform

/-- A float draw from the triangular distribution with the generator's next uniform draw. -/
def Generator.triangular (g : Generator) (low mode high : Float) : Float × Generator :=
  let uniform : StateM Generator Float := fun g => g.uniform
  (sampleTriangular Float.sqrt uniform low mode high).run g

end EnergyModel.Random
