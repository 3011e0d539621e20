/-!
# Similar names

A mistyped name is answered with the known names that resemble it. Resemblance is the Jaro
similarity of the two character sequences: characters match when they are equal and no further
apart than half the longer length less one, each character matching at most once, left to
right; with `m` matches and `t` half the number of matched characters out of order, the
similarity of `a` and `b` is `(m/|a| + m/|b| + (m-t)/m) / 3`, and 0 without matches. Two empty
texts are fully similar.

A known name is suggested when its similarity exceeds 0.7; suggestions come from the least to
the most similar, and among equally similar names in the order they were given.
-/

namespace EnergyModel.CommandLine

/-- Marks the first unmarked position of `b` within `[low, high)` that holds `c`; `none` when
there is none. -/
def claimMatch (c : Char) (b : List Char) (taken : List Bool) (low high : Nat) :
    Option (List Bool) :=
  let rec go : List Char → List Bool → Nat → Option (List Bool)
    | d :: ds, t :: ts, j =>
      if j ≥ high then none
      else if low ≤ j && c == d && !t then some (true :: ts)
      else (go ds ts (j + 1)).map (t :: ·)
    | _, _, _ => none
  go b taken 0

/-- The matches of `a` in `b`: which positions of each are matched. -/
def matchFlags (a b : List Char) : List Bool × List Bool :=
  let range := (max a.length b.length / 2) - 1
  let step (acc : List Bool × List Bool) (entry : Char × Nat) :=
    let (aFlags, bFlags) := acc
    let (c, i) := entry
    let low := i - range
    let high := min b.length (i + range + 1)
    match claimMatch c b bFlags low high with
    | some bFlags' => (aFlags ++ [true], bFlags')
    | none => (aFlags ++ [false], bFlags)
  a.zipIdx.foldl step ([], List.replicate b.length false)

/-- The matched characters of a text, in order. -/
def matchedChars (cs : List Char) (flags : List Bool) : List Char :=
  (List.zip cs flags).filterMap fun (c, f) => if f then some c else none

/-- The Jaro similarity of two texts. -/
def jaro (a b : String) : Float :=
  let a := a.toList
  let b := b.toList
  if a.isEmpty && b.isEmpty then 1.0
  else if a.isEmpty || b.isEmpty then 0.0
  else
    let (aFlags, bFlags) := matchFlags a b
    let fromA := matchedChars a aFlags
    let fromB := matchedChars b bFlags
    let m := fromA.length
    if m == 0 then 0.0
    else
      let outOfOrder := ((List.zip fromA fromB).filter fun (x, y) => x != y).length
      let t := outOfOrder / 2
      let mf := m.toFloat
      (mf / a.length.toFloat + mf / b.length.toFloat + (m - t).toFloat / mf) / 3.0

/-- Inserts a scored name after every name scored no higher. -/
def insertByScore (entry : Float × String) : List (Float × String) → List (Float × String)
  | [] => [entry]
  | e :: rest => if entry.1 < e.1 then entry :: e :: rest else e :: insertByScore entry rest

/-- The known names similar to a text, from the least to the most similar. -/
def similarNames (text : String) (known : List String) : List String :=
  let scored := known.filterMap fun name =>
    let score := jaro text name
    if score > 0.7 then some (score, name) else none
  (scored.foldl (fun acc e => insertByScore e acc) []).map (·.2)

/-- The known name most similar to a text, if any is similar enough. -/
def closestName (text : String) (known : List String) : Option String :=
  (similarNames text known).getLast?

end EnergyModel.CommandLine
