import EnergyModel.Sql.Number

/-!
# Tokens of database statements

A script is read as a run of tokens; blanks and comments (`-- …` to the end of the line and
`/* … */`) only separate them. A token is a word (a keyword or a bare name: letters, digits, `_`
and `$`, and every non-ASCII character), a name in double quotes, back quotes or brackets (a
doubled quote stands for itself), a text in single quotes, a blob `x'…'` of hexadecimal digits,
a number, a variable such as `?1` or `:name`, or an operator symbol.

A number is digits with an optional point and exponent, or `0x` and hexadecimal digits; letters
right after it make the whole run an unrecognized token, as does an unclosed quote, a lone `!`
or a character that starts no token. Every token keeps its byte span in the script, so that the
text of a check constraint can be cut from the script as written.
-/

namespace EnergyModel.Sql

/-- A token of a statement. -/
inductive Token where
  /-- A bare word: a keyword or a name. -/
  | word (text : String)
  /-- A quoted name; `doubleQuoted` when written in double quotes. -/
  | quoted (text : String) (doubleQuoted : Bool)
  /-- A text literal. -/
  | string (text : String)
  /-- A blob literal. -/
  | blob (bytes : List UInt8)
  /-- A numeric literal as written. -/
  | number (text : String)
  /-- A variable to bind a value to. -/
  | parameter (text : String)
  /-- An operator or punctuation. -/
  | symbol (text : String)
  /-- Text that starts no token. -/
  | illegal (text : String)
  deriving BEq, Inhabited, Repr

/-- A token with its byte span in the script. -/
structure Lexeme where
  token : Token
  start : Nat
  stop : Nat
  deriving Inhabited

/-- A character of a script with its byte offset. -/
abbrev Located := Char × Nat

/-- Characters that may continue a bare word. -/
def isWordChar (c : Char) : Bool := c.isAlphanum || c == '_' || c == '$' || c.toNat ≥ 128

/-- Characters that may start a bare word. -/
def isWordStart (c : Char) : Bool := c.isAlpha || c == '_' || c.toNat ≥ 128

/-- Whether a character is blank between tokens. -/
def isBlank (c : Char) : Bool := c == ' ' || c == '\t' || c == '\n' || c == '\x0c' || c == '\r'

/-- The byte offset where a list of located characters starts, or the script's end. -/
def offsetOf (total : Nat) : List Located → Nat
  | (_, i) :: _ => i
  | [] => total

/-- The text after an opening quote up to its closing one, a doubled closing quote standing
for itself (not within brackets); `none` when the quote is not closed. -/
def quotedBody (close : Char) (doubling : Bool) : List Located → List Char → Option (List Char × List Located)
  | [], _ => none
  | (d, _) :: more, acc =>
    if d == close then
      match more with
      | (e, _) :: more2 =>
        if doubling && e == close then quotedBody close doubling more2 (d :: acc)
        else some (acc.reverse, more)
      | [] => some (acc.reverse, [])
    else quotedBody close doubling more (d :: acc)

/-- Takes the characters of a list while they satisfy a test. -/
def spanChars (p : Char → Bool) (cs : List Located) : List Char × List Located :=
  ((cs.takeWhile fun c => p c.1).map (·.1), cs.dropWhile fun c => p c.1)

/-- Reads the rest of a number after its first character: more digits, a fraction, an exponent.
-/
def numberBody (first : Char) (rest : List Located) : List Char × List Located :=
  match first, rest with
  | '0', (x, _) :: (h, _) :: _ =>
    if (x == 'x' || x == 'X') && (hexDigitValue h).isSome then
      let (hex, more) := spanChars (fun c => (hexDigitValue c).isSome) (rest.drop 1)
      ('0' :: x :: hex, more)
    else
      let (ds, more) := spanChars (fun c => c.isDigit || c == '_') rest
      (first :: ds, more)
  | _, _ =>
    let (ds, more) := spanChars (fun c => c.isDigit || c == '_') rest
    (first :: ds, more)

/-- Reads a fraction and an exponent after the integer digits of a number. -/
def numberTail (cs : List Located) : List Char × List Located :=
  let (fraction, cs) : List Char × List Located :=
    match cs with
    | ('.', _) :: more =>
      let (ds, more) := spanChars (fun c => c.isDigit || c == '_') more
      ('.' :: ds, more)
    | _ => ([], cs)
  let (exponent, cs) : List Char × List Located :=
    match cs with
    | (e, _) :: (s, _) :: (d, _) :: more =>
      if (e == 'e' || e == 'E') && (s == '+' || s == '-') && d.isDigit then
        let (ds, more) := spanChars Char.isDigit more
        (e :: s :: d :: ds, more)
      else if (e == 'e' || e == 'E') && s.isDigit then
        let (ds, more) := spanChars Char.isDigit ((d, 0) :: more)
        (e :: s :: ds, more)
      else ([], cs)
    | (e, _) :: (s, _) :: [] =>
      if (e == 'e' || e == 'E') && s.isDigit then ([e, s], []) else ([], cs)
    | _ => ([], cs)
  (fraction ++ exponent, cs)

/-- The two-character operators. -/
def twoCharSymbols : List String := ["==", "!=", "<>", "<=", ">=", "||", "<<", ">>", "->"]

/-- Splits located characters into lexemes. Every step takes at least one character, so a fuel
of their count suffices. -/
def lexemesOf (total : Nat) : Nat → List Located → List Lexeme
  | 0, _ => []
  | _, [] => []
  | fuel + 1, (c, i) :: rest =>
    let here (t : Token) (more : List Located) : List Lexeme :=
      ⟨t, i, offsetOf total more⟩ :: lexemesOf total fuel more
    let next := rest.head?.map (·.1)
    if isBlank c then lexemesOf total fuel rest
    else if c == '-' && next == some '-' then
      lexemesOf total fuel (rest.dropWhile fun p => p.1 != '\n')
    else if c == '/' && next == some '*' then
      let rec skipComment : List Located → List Located
        | ('*', _) :: ('/', _) :: more => more
        | _ :: more => skipComment more
        | [] => []
      lexemesOf total fuel (skipComment (rest.drop 1))
    else if c == '\'' || c == '"' || c == '`' || c == '[' then
      let close := if c == '[' then ']' else c
      match quotedBody close (c != '[') rest [] with
      | some (text, more) =>
        let s := String.ofList text
        here (if c == '\'' then .string s else .quoted s (c == '"')) more
      | none => here (.illegal (String.ofList (c :: rest.map (·.1)))) []
    else if (c == 'x' || c == 'X') && next == some '\'' then
      match quotedBody '\'' false (rest.drop 1) [] with
      | some (hex, more) =>
        let values := hex.map hexDigitValue
        if hex.length % 2 == 0 && values.all Option.isSome then
          let ds := values.map (·.getD 0)
          let rec pairs : List Nat → List UInt8
            | a :: b :: more => UInt8.ofNat (a * 16 + b) :: pairs more
            | _ => []
          here (.blob (pairs ds)) more
        else here (.illegal (String.ofList (c :: '\'' :: hex ++ ['\'']))) more
      | none => here (.illegal (String.ofList (c :: rest.map (·.1)))) []
    else if c.isDigit || (c == '.' && (next.map Char.isDigit) == some true) then
      let (whole, more) := if c == '.' then (['0'], (c, i) :: rest) else numberBody c rest
      let (tail, more) :=
        if whole.length > 1 && (whole.getD 1 ' ' == 'x' || whole.getD 1 ' ' == 'X') then ([], more)
        else numberTail more
      let text := if c == '.' then tail else whole ++ tail
      let (junk, more) := spanChars isWordChar more
      if junk.isEmpty then here (.number (String.ofList (text.filter (· != '_')))) more
      else here (.illegal (String.ofList (text ++ junk))) more
    else if c == '?' then
      let (ds, more) := spanChars Char.isDigit rest
      here (.parameter (String.ofList (c :: ds))) more
    else if c == ':' || c == '@' || c == '$' then
      let (name, more) := spanChars isWordChar rest
      if name.isEmpty then here (.illegal (String.ofList [c])) more
      else here (.parameter (String.ofList (c :: name))) more
    else if isWordStart c then
      let (name, more) := spanChars isWordChar rest
      here (.word (String.ofList (c :: name))) more
    else
      let two := match next with
        | some d => String.ofList [c, d]
        | none => ""
      if two == "->" && (rest.drop 1).head?.map (·.1) == some '>' then here (.symbol "->>") (rest.drop 2)
      else if twoCharSymbols.contains two then here (.symbol two) (rest.drop 1)
      else if c == '!' then here (.illegal "!") rest
      else if "-+*/%=<>(),;|&~.".toList.contains c then here (.symbol (String.ofList [c])) rest
      else here (.illegal (String.ofList [c])) rest

/-- The characters of a script with their byte offsets. -/
def locatedChars (script : String) : List Located :=
  (script.toList.foldl (fun (acc : List Located × Nat) c => ((c, acc.2) :: acc.1, acc.2 + c.utf8Size))
    ([], 0)).1.reverse

/-- The lexemes of a script. -/
def lexemes (script : String) : Array Lexeme :=
  let cs := locatedChars script
  (lexemesOf script.utf8ByteSize (cs.length + 1) cs).toArray

/-- The text of a byte span of a script. -/
def spanText (script : String) (start stop : Nat) : String :=
  String.Pos.Raw.extract script ⟨start⟩ ⟨stop⟩

/-- Whether a lexeme is a keyword, in any case. -/
def Lexeme.isWord (l : Lexeme) (w : String) : Bool :=
  match l.token with
  | .word t => t.toUpper == w
  | _ => false

/-- Whether a lexeme is a symbol. -/
def Lexeme.isSymbol (l : Lexeme) (s : String) : Bool :=
  match l.token with
  | .symbol t => t == s
  | _ => false

end EnergyModel.Sql
