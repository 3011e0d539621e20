import EnergyModel.Decimal.Format
import EnergyModel.Text.Toml.Document
import EnergyModel.Text.Visible
import EnergyModel.Session

/-!
# Program settings

The settings file `settings.toml` in the working folder sets the log level, the folder that
databases go to, whether existing databases may be replaced, and the number of threads for
batches (zero meaning one per core). A key that is not set keeps its default, a key that is not
a setting is ignored, and a missing file gives the defaults.

The keys of the document are taken in the order of their names, so of two wrong settings the
one whose name sorts first is reported. A value of the wrong type is refused where it stands in
the file, with what it is and the type the setting expects: `log_level = 3` gives
``invalid type: integer `3`, expected a string``. Texts are shown quoted, with hidden characters
escaped; arrays are sequences and tables and date-times are maps.

Numbers are sized only here, also inside keys that are no settings. An integer is a 64-bit
signed or unsigned one if it fits, else a 128-bit one, which no setting takes; past those it
"overflowed". A float that is infinite without being written `inf` overflowed too. The thread
count is a 64-bit unsigned number: a negative count is an invalid value.
-/

namespace EnergyModel

/-- The name of the settings file. -/
def settingsFileName : String := "settings.toml"

/-- The program's settings. -/
structure Settings where
  logLevel : String := "info"
  outputDir : String := "databases"
  overwrite : Bool := true
  /-- Threads for batches; zero uses every core. -/
  threads : Nat := 0
  deriving Inhabited, BEq

namespace Settings

/-- A float as a type error shows it: plain notation, with `.0` added to a finite whole number. -/
def floatText (x : Float) : String :=
  let text := Decimal.plainText x
  if x.isFinite && !text.contains '.' then text ++ ".0" else text

/-- The integer that a text of digits in a radix denotes, with a sign in front if any. -/
def integerValue (radix : Nat) (digits : String) : Option Int :=
  let (negative, body) : Bool × List Char :=
    match digits.toList with
    | '-' :: rest => (true, rest)
    | '+' :: rest => (false, rest)
    | cs => (false, cs)
  if body.isEmpty then none
  else
    let magnitude := body.foldlM (fun (n : Nat) c =>
      if Toml.isDigitOf radix c then some (radix * n + Toml.hexValue c) else none) 0
    magnitude.map fun n => if negative then -(n : Int) else n

/-- How an integer is handed to a setting: as a 64-bit signed or unsigned number, as a 128-bit
signed or unsigned one, or not at all. -/
inductive Width where
  | signed64
  | unsigned64
  | signed128
  | unsigned128
  deriving BEq

/-- The narrowest width that holds an integer, signed before unsigned. -/
def widthOf (n : Int) : Option Width :=
  let p := fun (k : Nat) => ((Nat.pow 2 k : Nat) : Int)
  if -p 63 ≤ n && n < p 63 then some .signed64
  else if 0 ≤ n && n < p 64 then some .unsigned64
  else if -p 127 ≤ n && n < p 127 then some .signed128
  else if 0 ≤ n && n < p 128 then some .unsigned128
  else none

/-- A problem of a value at its span. -/
def problemAt (span : Toml.Span) (message : String) : Toml.Diagnostic := ⟨span.start, span.stop, message⟩

/-- An integer of a document, or the problem that it overflowed. -/
def sizedInteger (span : Toml.Span) (radix : Nat) (digits : String) :
    Except Toml.Diagnostic (Int × Width) :=
  match integerValue radix digits with
  | some n =>
    match widthOf n with
    | some w => .ok (n, w)
    | none => .error (problemAt span "integer number overflowed")
  | none => .error (problemAt span "integer number overflowed")

/-- A float of a document, or the problem that it overflowed. -/
def sizedFloat (span : Toml.Span) (text : String) : Except Toml.Diagnostic Float :=
  match Decimal.readFloat text with
  | .ok x =>
    if x.isInf && !text.contains 'i' then .error (problemAt span "floating-point number overflowed")
    else .ok x
  | .error _ => .error (problemAt span "floating-point number overflowed")

/-- What a value is, in a type error; numbers are sized first. -/
def describe (span : Toml.Span) : Toml.Value → Except Toml.Diagnostic String
  | .string s => .ok ("string " ++ Text.quotedView s)
  | .integer d r => do
    let (n, w) ← sizedInteger span r d
    pure (match w with
      | .signed128 => "integer `" ++ toString n ++ "` as i128"
      | .unsigned128 => "integer `" ++ toString n ++ "` as u128"
      | _ => "integer `" ++ toString n ++ "`")
  | .float f => do
    let x ← sizedFloat span f
    pure ("floating point `" ++ floatText x ++ "`")
  | .boolean b => .ok ("boolean `" ++ toString b ++ "`")
  | .datetime _ => .ok "map"
  | .array .. => .ok "sequence"
  | .table .. => .ok "map"

/-- The problem of a value of the wrong type for a setting that expects `expected`. -/
def wrongType (span : Toml.Span) (v : Toml.Value) (expected : String) : Toml.Diagnostic :=
  match describe span v with
  | .ok what => problemAt span ("invalid type: " ++ what ++ ", expected " ++ expected)
  | .error d => d

/-- The earlier of two problems at keys: the one whose key sorts first. -/
def earlier (a b : Option (String × Toml.Diagnostic)) : Option (String × Toml.Diagnostic) :=
  match a, b with
  | some (k, d), some (l, e) => if l < k then some (l, e) else some (k, d)
  | some p, none => some p
  | none, q => q

mutual
/-- The first problem with the numbers of a value that no setting takes; the keys of a table are
taken in the order of their names. -/
def ignoredProblem (span : Toml.Span) : Toml.Value → Option Toml.Diagnostic
  | .integer digits r =>
    match sizedInteger span r digits with
    | .error d => some d
    | .ok _ => none
  | .float f =>
    match sizedFloat span f with
    | .error d => some d
    | .ok _ => none
  | .array items _ => itemsProblem items
  | .table entries _ => (entriesProblem entries).map (·.2)
  | _ => none

/-- The first problem among the items of an ignored array. -/
def itemsProblem : List (Toml.Span × Toml.Value) → Option Toml.Diagnostic
  | [] => none
  | (span, v) :: rest =>
    match ignoredProblem span v with
    | some d => some d
    | none => itemsProblem rest

/-- The problem of an ignored table at the key that sorts first. -/
def entriesProblem : List (String × Toml.Span × Toml.Value) → Option (String × Toml.Diagnostic)
  | [] => none
  | (key, span, v) :: rest => earlier ((ignoredProblem span v).map fun d => (key, d)) (entriesProblem rest)
end

/-- Sets one setting from its value, or says why the value does not fit. -/
def assign (s : Settings) (key : String) (span : Toml.Span) (v : Toml.Value) :
    Except Toml.Diagnostic Settings :=
  match key, v with
  | "log_level", .string text => .ok { s with logLevel := text }
  | "log_level", _ => .error (wrongType span v "a string")
  | "output_dir", .string text => .ok { s with outputDir := text }
  | "output_dir", _ => .error (wrongType span v "path string")
  | "overwrite", .boolean b => .ok { s with overwrite := b }
  | "overwrite", _ => .error (wrongType span v "a boolean")
  | "threads", .integer d r => do
    let (n, w) ← sizedInteger span r d
    if w == .signed64 && n < 0 then
      throw (problemAt span ("invalid value: integer `" ++ toString n ++ "`, expected usize"))
    else if w == .signed64 || w == .unsigned64 then pure { s with threads := n.toNat }
    else throw (wrongType span v "usize")
  | "threads", _ => .error (wrongType span v "usize")
  | _, _ =>
    match ignoredProblem span v with
    | some d => .error d
    | none => .ok s

/-- The settings a document's tree gives, its keys taken in the order of their names. -/
def ofEntries (entries : Toml.Entries) : Except Toml.Diagnostic Settings :=
  (entries.mergeSort fun a b => decide (a.1 ≤ b.1)).foldlM (fun s e => s.assign e.1 e.2.1 e.2.2) {}

/-- The settings of a document's text. -/
def ofText (text : String) : Except Toml.Diagnostic Settings :=
  Toml.parse text >>= ofEntries

/-- Reads the settings file of the working folder; without one, the defaults. -/
def load (files : FileTree Content) : Except Failure Settings :=
  if !files.isFile settingsFileName then .ok {}
  else
    match files.read settingsFileName with
    | .error e => .error ((Failure.of (.file e)).within ("Error reading " ++ settingsFileName))
    | .ok content =>
      let text := content.asText
      match ofText text with
      | .ok s => .ok s
      | .error d => .error ((Failure.of (.settings text d)).within ("Error reading " ++ settingsFileName))

end Settings

end EnergyModel
