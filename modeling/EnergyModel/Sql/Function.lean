import EnergyModel.Sql.Json

/-!
# Functions of the database language

The built-in scalar functions, the pattern matching of `LIKE` and `GLOB`, and the aggregate
functions, each on values already evaluated. `scalarCall` applies a scalar function by its
name, which any case spells; `arityOk` says whether a function takes a number of arguments,
and knows no function it answers none for.

`patternMatch` is the matcher of both `LIKE` and `GLOB`: `%` and `*` match any run of
characters, `_` and `?` any one character; `LIKE` folds ASCII letters and may take an escape
character, and `GLOB` has character sets `[…]` with ranges and `^` for the complement.

Arguments are read as the functions need them: `Value.toInteger`, `Value.toReal`, the text of a
value, or the value as a number when its whole text is one (`Value.asNumber`).
-/

namespace EnergyModel.Sql

/-- How a pattern matched: it did, it did not, or it cannot match at any later start either
(which ends the search after a `*`). -/
inductive MatchResult where
  | matched
  | noMatch
  | noWildcardMatch
  deriving BEq, Inhabited, Repr

/-- The wildcards and rules of a pattern language. -/
structure PatternRules where
  matchAll : Option Char
  matchOne : Option Char
  /-- Whether `[` starts a character set. -/
  sets : Bool
  /-- Whether ASCII letters match regardless of case. -/
  noCase : Bool
  /-- The escape character of `LIKE`, or `[` for `GLOB`. -/
  other : Option Char
  deriving Inhabited

/-- The rules of `GLOB`. -/
def globRules : PatternRules :=
  { matchAll := some '*', matchOne := some '?', sets := true, noCase := false, other := some '[' }

/-- The rules of `LIKE`, with its escape character; an escape that is itself a wildcard stops
being one. -/
def likeRules (escape : Option Char) : PatternRules :=
  { matchAll := if escape == some '%' then none else some '%'
    matchOne := if escape == some '_' then none else some '_'
    sets := false, noCase := true, other := escape }

/-- Whether two characters match as literals under the rules. -/
def PatternRules.same (r : PatternRules) (c d : Char) : Bool :=
  c == d || (r.noCase && c.toNat < 128 && d.toNat < 128 && c.toLower == d.toLower)

/-- Skips the wildcards after a `*`: more `*`s, and `?`s that each take a character of the
text. None when the text runs out at a `?`. -/
def skipWildcards (r : PatternRules) : List Char → List Char → Option (List Char × List Char)
  | c :: p, s =>
    if some c == r.matchAll then skipWildcards r p s
    else if some c == r.matchOne then
      match s with
      | _ :: s' => skipWildcards r p s'
      | [] => none
    else some (c :: p, s)
  | [], s => some ([], s)

/-- Reads a character set of `GLOB` after its `[`, for the character `c`: whether `c` is in it,
and the pattern after its `]`; none when the set is not closed. -/
def readSet (c : Char) : List Char → Option (Bool × List Char)
  | p =>
    let (invert, p) : Bool × List Char :=
      match p with
      | '^' :: rest => (true, rest)
      | _ => (false, p)
    let (seen, p) : Bool × List Char :=
      match p with
      | ']' :: rest => (c == ']', rest)
      | _ => (false, p)
    let rec go : List Char → Nat → Bool → Option (Bool × List Char)
      | [], _, _ => none
      | ']' :: rest, _, seen => some (seen, rest)
      | '-' :: d :: rest, prior, seen =>
        if d != ']' && prior > 0 then
          go rest 0 (seen || (prior ≤ c.toNat && c.toNat ≤ d.toNat))
        else go (d :: rest) '-'.toNat (seen || c == '-')
      | d :: rest, _, seen => go rest d.toNat (seen || c == d)
    match go p 0 seen with
    | some (s, rest) => some (s != invert, rest)
    | none => none

mutual

/-- Matches a pattern against a text. The fuel bounds the depth of the search; the product of
the two lengths suffices. -/
def patternCompare (r : PatternRules) : Nat → List Char → List Char → MatchResult
  | 0, _, _ => .noMatch
  | fuel + 1, p, s =>
    match p with
    | [] => if s.isEmpty then .matched else .noMatch
    | c :: pr =>
      if some c == r.matchAll then
        match skipWildcards r pr s with
        | none => .noWildcardMatch
        | some ([], _) => .matched
        | some (c :: pr, s) =>
          if some c == r.other && r.sets then
            -- a set right after the star: try it at every start
            setAtEachStart r fuel (c :: pr) s
          else if some c == r.other then
            match pr with
            | e :: rest => literalAtEachStart r fuel e rest s
            | [] => .noWildcardMatch
          else literalAtEachStart r fuel c pr s
      else if some c == r.other then
        if r.sets then
          match s with
          | [] => .noMatch
          | t :: ts =>
            match readSet t pr with
            | some (true, rest) => patternCompare r fuel rest ts
            | _ => .noMatch
        else
          match pr, s with
          | e :: rest, t :: ts => if r.same e t then patternCompare r fuel rest ts else .noMatch
          | _, _ => .noMatch
      else
        match s with
        | t :: ts =>
          if r.same c t || some c == r.matchOne then patternCompare r fuel pr ts else .noMatch
        | [] => .noMatch

/-- Tries a pattern that starts with a character set at every start in a text. -/
def setAtEachStart (r : PatternRules) : Nat → List Char → List Char → MatchResult
  | 0, _, _ => .noWildcardMatch
  | _, _, [] => .noWildcardMatch
  | fuel + 1, p, t :: ts =>
    match patternCompare r fuel p (t :: ts) with
    | .noMatch => setAtEachStart r fuel p ts
    | m => m

/-- Finds each occurrence of a literal character in a text and matches the rest of the pattern
after it. -/
def literalAtEachStart (r : PatternRules) : Nat → Char → List Char → List Char → MatchResult
  | 0, _, _, _ => .noWildcardMatch
  | _, _, _, [] => .noWildcardMatch
  | fuel + 1, c, pr, t :: ts =>
    let hit := if c.toNat < 128 then r.same c t else c == t
    if hit then
      match patternCompare r fuel pr ts with
      | .noMatch => literalAtEachStart r fuel c pr ts
      | m => m
    else literalAtEachStart r fuel c pr ts

end

/-- Whether a text matches a pattern under the rules. -/
def patternMatch (r : PatternRules) (pattern text : String) : Bool :=
  let p := pattern.toList
  let s := text.toList
  patternCompare r ((p.length + 2) * (s.length + 2)) p s == .matched

/-- A value as a number when it is one, or a text whose whole text is one; otherwise the value
itself. -/
def Value.asNumber : Value → Value
  | .text s => numericOfText false s
  | v => v

/-- The text of a value as a text function reads it. -/
def Value.textArg : Value → Option String := Value.text?

/-- Upper-case hexadecimal digits of some bytes. -/
def hexText (bs : List UInt8) : String :=
  let digit (n : Nat) : Char := if n < 10 then Char.ofNat (48 + n) else Char.ofNat (55 + n)
  String.ofList (bs.flatMap fun b => [digit (b.toNat / 16), digit (b.toNat % 16)])

/-- A value as a literal of the language, as `quote` gives it. -/
def Value.quoted : Value → String
  | .null => "NULL"
  | .integer n => toString n
  | .real x =>
    let t := formatReal { form := .general, precision := some 15, exact := true, zeroPad := true } x
    if (readReal t).1 == x then t
    else formatReal { form := .exponent, precision := some 20, exact := true, zeroPad := true } x
  | .text s => "'" ++ s.replace "'" "''" ++ "'"
  | .blob bs => "X'" ++ hexText bs ++ "'"

/-- Whether a character is one of those `trim` takes by default. -/
def trimSet (set : Option String) (c : Char) : Bool :=
  match set with
  | some s => s.toList.contains c
  | none => c == ' '

/-- `trim`, `ltrim` and `rtrim`: the text without the characters of a set at its ends. -/
def trimText (left right : Bool) (set : Option String) (s : String) : String :=
  let cs := s.toList
  let cs := if left then cs.dropWhile (trimSet set) else cs
  let cs := if right then (cs.reverse.dropWhile (trimSet set)).reverse else cs
  String.ofList cs

/-- `substr(x, start, count)` on a list of items (characters or bytes): the SQL positions count
from one, a negative start counts from the end, and a negative count takes the items before
the start. -/
def substrItems {α : Type} (items : List α) (p1 : Int) (p2 : Option Int) : List α :=
  let len : Int := items.length
  let (p2, negative) : Int × Bool :=
    match p2 with
    | some n => if n < 0 then (-n, true) else (n, false)
    | none => (1000000000, false)
  let (p1, p2) : Int × Int :=
    if p1 < 0 then
      let p1 := p1 + len
      if p1 < 0 then (0, max 0 (p2 + p1)) else (p1, p2)
    else if p1 > 0 then (p1 - 1, p2)
    else if p2 > 0 then (p1, p2 - 1)
    else (p1, p2)
  let (p1, p2) : Int × Int :=
    if negative then
      let p1' := p1 - p2
      if p1' < 0 then (0, p2 + p1') else (p1', p2)
    else (p1, p2)
  (items.drop p1.toNat).take p2.toNat

/-- The Soundex code of a text: its first letter and three digits, or `?000` without letters. -/
def soundex (s : String) : String :=
  let code (c : Char) : Nat :=
    match c.toUpper with
    | 'B' | 'F' | 'P' | 'V' => 1
    | 'C' | 'G' | 'J' | 'K' | 'Q' | 'S' | 'X' | 'Z' => 2
    | 'D' | 'T' => 3
    | 'L' => 4
    | 'M' | 'N' => 5
    | 'R' => 6
    | _ => 0
  let cs := (s.toList.dropWhile fun c => !(c.toNat < 128 && c.isAlpha))
  match cs with
  | [] => "?000"
  | first :: rest =>
    let (digits, _) := rest.foldl (fun (acc : List Nat × Nat) c =>
      let (ds, prev) := acc
      if !(c.toNat < 128 && c.isAlpha) then acc
      else
        let k := code c
        if k > 0 then (if k != prev && ds.length < 3 then (ds ++ [k], k) else (ds, k))
        else (ds, 0)) ([], code first)
    let digits := digits ++ List.replicate (3 - digits.length) 0
    String.ofList (first.toUpper :: digits.map fun d => Char.ofNat (48 + d))

/-- The code point `char` writes for an argument: one outside Unicode is the replacement
character. -/
def charCode (n : Int) : Nat :=
  if n < 0 || n > 0x10ffff then 0xFFFD else n.toNat

/-- The number of argument counts a function is known with; `none` for an unknown function. -/
def arityOk (name : String) (n : Nat) : Option Bool :=
  match name.toLower with
  | "abs" | "hex" | "length" | "likely" | "unlikely" | "lower" | "upper" | "octet_length"
  | "quote" | "randomblob" | "sign" | "soundex" | "typeof" | "unicode" | "zeroblob"
  | "avg" | "sum" | "total" => some (n == 1)
  | "changes" | "last_insert_rowid" | "random" | "total_changes" | "sqlite_version"
  | "current_date" | "current_time" | "current_timestamp" =>
    some (n == 0)
  | "date" | "time" | "datetime" | "julianday" | "unixepoch" | "strftime" => some true
  | "timediff" => some (n == 2)
  | "char" | "printf" | "format" => some true
  | "coalesce" => some (n ≥ 2)
  | "concat" => some (n ≥ 1)
  | "concat_ws" => some (n ≥ 2)
  | "glob" | "ifnull" | "instr" | "likelihood" | "nullif" | "string_agg" => some (n == 2)
  | "iif" | "if" => some (n ≥ 2)
  | "like" => some (n == 2 || n == 3)
  | "ltrim" | "rtrim" | "trim" | "round" | "unhex" => some (n == 1 || n == 2)
  | "max" | "min" => some (n ≥ 1)
  | "replace" => some (n == 3)
  | "substr" | "substring" => some (n == 2 || n == 3)
  | "count" => some (n ≤ 1)
  | "group_concat" => some (n == 1 || n == 2)
  | "json" | "jsonb" | "json_quote" | "json_error_position" | "json_group_array"
  | "jsonb_group_array" | "subtype" | "sqlite_compileoption_used" | "sqlite_compileoption_get"
  | "unistr" | "ntile" | "first_value" | "last_value" => some (n == 1)
  | "sqlite_source_id" | "row_number" | "rank" | "dense_rank" | "percent_rank" | "cume_dist" =>
    some (n == 0)
  | "json_array" | "jsonb_array" | "json_object" | "jsonb_object" | "json_extract"
  | "jsonb_extract" | "json_insert" | "jsonb_insert" | "json_replace" | "jsonb_replace"
  | "json_set" | "jsonb_set" | "json_remove" | "jsonb_remove" => some true
  | "json_array_length" | "json_type" | "json_valid" | "json_pretty" | "load_extension" =>
    some (n == 1 || n == 2)
  | "json_patch" | "jsonb_patch" | "json_group_object" | "jsonb_group_object" | "nth_value"
  | "sqlite_log" | "->" | "->>" => some (n == 2)
  | "lag" | "lead" => some (1 ≤ n && n ≤ 3)
  | _ => none

/-- Whether a function, called with a number of arguments, is an aggregate. -/
def isAggregate (name : String) (n : Nat) : Bool :=
  match name.toLower with
  | "avg" | "sum" | "total" | "count" | "group_concat" | "string_agg" | "json_group_array"
  | "jsonb_group_array" | "json_group_object" | "jsonb_group_object" => true
  | "max" | "min" => n == 1
  | _ => false

/-- Whether a function may only be called over a window. -/
def isWindowOnly (name : String) : Bool :=
  ["row_number", "rank", "dense_rank", "percent_rank", "cume_dist", "ntile", "lag", "lead",
   "first_value", "last_value", "nth_value"].contains name.toLower

/-- Whether a function may give different values for the same arguments: one that reads the
clock, chance, the connection or the library's version. Such a function may not be used in a
generated column or an index. -/
def isVolatile (name : String) : Bool :=
  ["random", "randomblob", "sqlite_version", "sqlite_source_id", "last_insert_rowid", "changes",
   "total_changes", "current_date", "current_time", "current_timestamp", "load_extension"].contains
    name.toLower

/-- `round(x, digits)`: a real, rounded half away from zero. -/
def roundValue (v : Value) (digits : Int) : Value :=
  let r := v.toReal
  let n := if digits > 30 then 30 else if digits < 0 then 0 else digits.toNat
  if r < -4503599627370496.0 || r > 4503599627370496.0 then .real r
  else if n == 0 then
    .real (Float.ofInt (truncateReal (r + (if r < 0 then -0.5 else 0.5))))
  else
    let t := formatReal { form := .fixed, precision := some n, exact := true } r
    .real (readReal t).1

/-- `instr(haystack, needle)`: the position of the first occurrence, one-based, zero when
there is none. The bytes are searched; for texts a position counts the bytes passed over that
do not continue a sequence, which are the characters of a valid text. -/
def instrValue (h n : Value) : Value :=
  match h, n with
  | .null, _ | _, .null => .null
  | _, _ =>
    let (hb, nb, isText) : List UInt8 × List UInt8 × Bool :=
      match h, n with
      | .blob hb, .blob nb => (hb, nb, false)
      | _, _ => (textBytes h.asText, textBytes n.asText, true)
    -- each step passes one position: its first byte and the continuation bytes after it
    let rec find : Nat → List UInt8 → Nat → Nat
      | 0, _, _ => 0
      | fuel + 1, bs, i =>
        if nb.length > bs.length then 0
        else if bs.take nb.length == nb then i
        else
          let rest := bs.drop 1
          let rest := if isText then rest.dropWhile isContinuation else rest
          find fuel rest (i + 1)
    .integer (find (hb.length + 1) hb 1)

/-- The database's characters of a text up to its first zero byte. -/
def textRuns (s : String) : List (List UInt8) := characterRuns (beforeZero (textBytes s))

/-- The length of a value: characters of a text up to its first zero byte, bytes of a blob or
of a number's text. -/
def lengthValue : Value → Value
  | .null => .null
  | .text s =>
    if hasRawBytes s then .integer (textRuns s).length
    else .integer (s.toList.takeWhile (· != '\x00')).length
  | .blob bs => .integer bs.length
  | v => .integer v.asText.utf8ByteSize

/-- `unhex(text, ignore)`: the bytes a text of hexadecimal digit pairs spells, the characters of
`ignore` allowed between pairs; null when anything else is there. -/
def unhexValue (v : Value) (ignore : Option String) : Value :=
  match v.text? with
  | none => .null
  | some s =>
    let skipSet := (ignore.getD "").toList
    let rec go : List Char → List UInt8 → Option (List UInt8)
      | [], acc => some acc.reverse
      | c :: rest, acc =>
        if skipSet.contains c then go rest acc
        else
          match rest, hexDigitValue c with
          | d :: rest2, some hi =>
            match hexDigitValue d with
            | some lo => go rest2 (UInt8.ofNat (hi * 16 + lo) :: acc)
            | none => none
          | _, _ => none
    match go s.toList [] with
    | some bs => .blob bs
    | none => .null

/-- What a function call depends on besides its arguments: the encoding the database keeps its
texts in, and whether `LIKE` tells capital letters from small ones. -/
structure CallContext where
  encoding : TextEncoding := .utf8
  caseSensitiveLike : Bool := false
  deriving Inhabited

/-- The functions that read a blob argument as text: in a database that keeps its texts in
UTF-16 they read its bytes as UTF-16. -/
def readsBlobAsText (name : String) : Bool :=
  ["lower", "upper", "ltrim", "rtrim", "trim", "replace", "unicode", "soundex", "like", "glob",
   "concat", "concat_ws", "printf", "format"].contains name

/-- Applies a scalar function, not one of those that evaluate their arguments lazily, to its
arguments; `coll` is the collation of the first argument that has one, for `min`, `max` and
`nullif`. An error is the function's message. -/
def scalarCall (name : String) (args : List Value) (coll : Collation) (ctx : CallContext := {}) :
    Except String Value :=
  let args := if ctx.encoding != .utf8 && readsBlobAsText name.toLower then
      args.map fun v => match v with
        | .blob bs => .text (decodeText ctx.encoding bs)
        | _ => v
    else args
  let arg (i : Nat) : Value := args.getD i .null
  let anyNull := args.any Value.isNull
  match name.toLower, args with
  | "abs", [v] =>
    match v with
    | .null => .ok .null
    | .integer n =>
      if n == minInteger then .error "integer overflow" else .ok (.integer n.natAbs)
    | _ => let x := v.toReal; .ok (.real (if x < 0 then -x else x))
  | "char", _ => .ok (.text (bytesText (args.flatMap fun v => utf8OfCode (charCode v.toInteger))))
  | "concat", _ => .ok (.text (joinTexts (args.filterMap Value.text?)))
  | "concat_ws", sep :: rest =>
    match sep.text? with
    | none => .ok .null
    | some s => .ok (.text (joinTexts (List.intersperse s (rest.filterMap Value.text?))))
  | "hex", [v] =>
    match v with
    | .blob bs => .ok (.text (hexText bs))
    | .null => .ok (.text "")
    | .text t => .ok (.text (hexText (encodeText ctx.encoding t)))
    | _ => .ok (.text (hexText (textBytes v.asText)))
  | "instr", [h, n] => .ok (instrValue h n)
  | "length", [v] => .ok (lengthValue v)
  | "octet_length", [v] =>
    match v with
    | .null => .ok .null
    | .blob bs => .ok (.integer bs.length)
    | _ => .ok (.integer (encodeText ctx.encoding v.asText).length)
  | "lower", [v] => .ok ((v.text?.map fun s => Value.text (s.map Char.toLower)).getD .null)
  | "upper", [v] => .ok ((v.text?.map fun s => Value.text (s.map Char.toUpper)).getD .null)
  | "ltrim", _ => .ok (trimOp true false)
  | "rtrim", _ => .ok (trimOp false true)
  | "trim", _ => .ok (trimOp true true)
  | "max", _ =>
    if anyNull then .ok .null
    else .ok (args.foldl (fun best v => if best.compare coll v == .lt then v else best) (arg 0))
  | "min", _ =>
    if anyNull then .ok .null
    else .ok ((args.drop 1).foldl (fun best v => if best.compare coll v != .lt then v else best) (arg 0))
  | "nullif", [a, b] => .ok (if a.compare coll b == .eq && !a.isNull then .null else a)
  | "printf", f :: rest | "format", f :: rest =>
    match f.text? with
    | none => .ok .null
    | some s => .ok (printfValue s rest)
  | "quote", [v] => .ok (.text v.quoted)
  | "replace", [x, y, z] =>
    match x.text?, y.text? with
    | some s, some p =>
      if p.isEmpty then .ok (.text s)
      else
        match z.text? with
        | some r => .ok (.text (s.replace p r))
        | none => .ok .null
    | _, _ => .ok .null
  | "round", [v] => .ok (if v.isNull then .null else roundValue v 0)
  | "round", [v, d] => .ok (if d.isNull || v.isNull then .null else roundValue v d.toInteger)
  | "sign", [v] =>
    match v.asNumber with
    | .integer n => .ok (.integer (if n < 0 then -1 else if n > 0 then 1 else 0))
    | .real x => .ok (.integer (if x < 0 then -1 else if x > 0 then 1 else 0))
    | _ => .ok .null
  | "soundex", [v] => .ok (.text (soundex v.asText))
  | "substr", _ | "substring", _ =>
    if (arg 1).isNull || (args.length == 3 && (arg 2).isNull) then .ok .null
    else
      let p1 := (arg 1).toInteger
      let p2 := if args.length == 3 then some (arg 2).toInteger else none
      match arg 0 with
      | .null => .ok .null
      | .blob bs => .ok (.blob (substrItems bs p1 p2))
      | v =>
        let s := v.asText
        if hasRawBytes s then .ok (.text (bytesText (substrItems (textRuns s) p1 p2).flatten))
        else .ok (.text (String.ofList (substrItems (s.toList.takeWhile (· != '\x00')) p1 p2)))
  | "typeof", [v] => .ok (.text v.typeName)
  | "unicode", [v] =>
    match v.text? with
    | some s =>
      match textRuns s with
      | run :: _ => .ok (.integer (runCode run))
      | [] => .ok .null
    | none => .ok .null
  | "zeroblob", [v] =>
    let n := v.toInteger
    .ok (.blob (List.replicate (if n < 0 then 0 else n.toNat) 0))
  | "randomblob", [v] =>
    -- no source of chance: the bytes are zeros, at least one of them
    let n := v.toInteger
    .ok (.blob (List.replicate (if n < 1 then 1 else n.toNat) 0))
  | "unhex", [v] => .ok (unhexValue v none)
  | "unhex", [v, i] => .ok (if i.isNull then .null else unhexValue v i.text?)
  | "likely", [v] | "unlikely", [v] => .ok v
  | "likelihood", [v, _] => .ok v
  | "glob", [p, s] =>
    match p.text?, s.text? with
    | some pt, some st => .ok (truthValue (some (patternMatch globRules pt st)))
    | _, _ => .ok .null
  | "like", [p, s] =>
    match p.text?, s.text? with
    | some pt, some st =>
      .ok (truthValue (some (patternMatch { likeRules none with noCase := !ctx.caseSensitiveLike } pt st)))
    | _, _ => .ok .null
  | "like", [p, s, e] =>
    match e.text? with
    | none => .ok .null
    | some es =>
      match es.toList with
      | [c] =>
        match p.text?, s.text? with
        | some pt, some st =>
          .ok (truthValue (some (patternMatch { likeRules (some c) with noCase := !ctx.caseSensitiveLike } pt st)))
        | _, _ => .ok .null
      | _ => .error "ESCAPE expression must be a single character"
  | "sqlite_version", [] => .ok (.text "3.50.2")
  | n, _ => .error ("no such function: " ++ n)
where
  /-- The trimming functions on the arguments. -/
  trimOp (left right : Bool) : Value :=
    match args with
    | [v] => (v.text?.map fun s => Value.text (trimText left right none s)).getD .null
    | [v, set] =>
      match v.text?, set.text? with
      | some s, some t => .text (trimText left right (some t) s)
      | _, _ => .null
    | _ => .null

/-- The running state of an aggregate over the rows of a group. -/
structure Accumulator where
  count : Nat := 0
  /-- The exact integer sum while no real or overflow has been seen. -/
  integerSum : Int := 0
  approximate : Bool := false
  overflow : Bool := false
  realSum : Float := 0.0
  compensation : Float := 0.0
  best : Option Value := none
  texts : List String := []
  separators : List String := []
  /-- The pieces of JSON text the rows of a JSON aggregate added. -/
  pieces : List (List UInt8) := []
  deriving Inhabited

/-- One step of compensated summation of doubles. -/
def Accumulator.addReal (a : Accumulator) (r : Float) : Accumulator :=
  let s := a.realSum
  let t := s + r
  let err := if s.abs > r.abs then (s - t) + r else (r - t) + s
  { a with realSum := t, compensation := a.compensation + err }

/-- Adds an integer to a compensated sum, split so that no bits are lost. -/
def Accumulator.addIntegerReal (a : Accumulator) (n : Int) : Accumulator :=
  if n ≤ -4503599627370496 || n ≥ 4503599627370496 then
    let small := n.tmod 16384
    (a.addReal (Float.ofInt (n - small))).addReal (Float.ofInt small)
  else a.addReal (Float.ofInt n)

/-- Starts a compensated sum from the exact integer sum so far. -/
def Accumulator.startApproximate (a : Accumulator) : Accumulator :=
  let n := a.integerSum
  let a := { a with approximate := true }
  if n ≤ -4503599627370496 || n ≥ 4503599627370496 then
    let small := n.tmod 16384
    { a with realSum := Float.ofInt (n - small), compensation := Float.ofInt small }
  else { a with realSum := Float.ofInt n, compensation := 0.0 }

/-- Adds a value to the sums of `sum`, `total` and `avg`. -/
def Accumulator.addNumber (a : Accumulator) (v : Value) : Accumulator :=
  match v.asNumber with
  | .null => a
  | .integer n =>
    let a := { a with count := a.count + 1 }
    if a.approximate then a.addIntegerReal n
    else
      let s := a.integerSum + n
      if fitsInteger s then { a with integerSum := s }
      else ({ a.startApproximate with overflow := true }).addIntegerReal n
  | w =>
    let a := { a with count := a.count + 1 }
    if a.approximate then ({ a with overflow := false }).addReal w.toReal
    else a.startApproximate.addReal w.toReal

/-- The compensated sum. -/
def Accumulator.approximateSum (a : Accumulator) : Float :=
  if a.compensation.isInf || a.compensation.isNaN then a.realSum else a.realSum + a.compensation

/-- Feeds one row's arguments to an aggregate. -/
def Accumulator.step (name : String) (coll : Collation) (a : Accumulator) (args : List Value) :
    Accumulator :=
  match name.toLower, args with
  | "count", [] => { a with count := a.count + 1 }
  | "count", [v] => if v.isNull then a else { a with count := a.count + 1 }
  | "sum", [v] | "total", [v] | "avg", [v] => a.addNumber v
  | "max", [v] =>
    if v.isNull then a
    else
      match a.best with
      | some b => if b.compare coll v == .lt then { a with best := some v } else a
      | none => { a with best := some v }
  | "min", [v] =>
    if v.isNull then a
    else
      match a.best with
      | some b => if v.compare coll b == .lt then { a with best := some v } else a
      | none => { a with best := some v }
  | "group_concat", v :: rest | "string_agg", v :: rest =>
    match v.text? with
    | none => a
    | some s =>
      let sep := match rest with
        | [sepValue] => sepValue.asText
        | _ => ","
      { a with count := a.count + 1, texts := a.texts ++ [s], separators := a.separators ++ [sep] }
  | _, _ => a

/-- The result of an aggregate after its rows. -/
def Accumulator.finish (name : String) (a : Accumulator) : Except String Value :=
  match name.toLower with
  | "count" => .ok (.integer a.count)
  | "sum" =>
    if a.count == 0 then .ok .null
    else if a.approximate then
      if a.overflow then .error "integer overflow" else .ok (.real a.approximateSum)
    else .ok (.integer a.integerSum)
  | "total" => .ok (.real (if a.approximate then a.approximateSum else Float.ofInt a.integerSum))
  | "avg" =>
    if a.count == 0 then .ok .null
    else
      let s := if a.approximate then a.approximateSum else Float.ofInt a.integerSum
      .ok (.real (s / Float.ofNat a.count))
  | "max" | "min" => .ok (a.best.getD .null)
  | "group_concat" | "string_agg" =>
    match a.texts with
    | [] => .ok .null
    | first :: rest =>
      .ok (.text (joinTexts (first :: ((a.separators.drop 1).zip rest |>.flatMap fun (s, t) => [s, t]))))
  | "json_group_array" | "jsonb_group_array" | "json_group_object" | "jsonb_group_object" =>
    jsonAggregateValue name a.pieces
  | _ => .ok .null

end EnergyModel.Sql
