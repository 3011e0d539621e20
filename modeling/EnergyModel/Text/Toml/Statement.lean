import EnergyModel.Text.Toml.Token

/-!
# The statements of a settings document

The tokens of a document are grouped into statements: assignments `key = value`, table headers
`[key]` and array-table headers `[[key]]`, each on a line of its own. A key is one or more
pieces joined by dots. A value is a scalar token, an array in brackets or an inline table in
braces. Arrays and inline tables may run over several lines and may end with a comma.

A scalar that is not quoted is the run of unquoted tokens and dots that stands together, such as
`1.5` or `0.5e3`. A blank followed by another unquoted token continues the run, which lets a date
and a time stand apart with a space; a run that reads as no value is refused when its value is
read.

Only the order of tokens is checked here; what a key or scalar says is read later. So a missing
key or value becomes an empty piece, which the reading of keys and values refuses. The first
problem in the order of the text is reported, with these messages:

* a key not followed by `=`: "key with no value, expected" and the equals sign;
* more after a value or header on its line: "unexpected key or value, expected newline", `#`;
* a header not closed: "unclosed table" or "unclosed array table", after the key;
* an array or inline table still open at the end: "unclosed array" or "unclosed inline table",
  right after the last thing in it;
* two commas in an array: "extra comma in array, expected value";
* a comment holding a control character: "invalid comment character, expected printable
  characters", at that character.
-/

namespace EnergyModel.Toml

/-- A value as written. -/
inductive Written where
  /-- A quoted string, or an unquoted run. -/
  | scalar (token : Token)
  /-- An array: the span from its opening to its closing bracket, and its items. -/
  | array (start stop : Nat) (items : List Written)
  /-- An inline table: its span, and its entries with their key pieces. -/
  | inline (start stop : Nat) (entries : List (List Token × Written))
  deriving Inhabited

/-- A statement of a document. -/
inductive Statement where
  /-- A key, given by its pieces, and its value. -/
  | assign (key : List Token) (value : Written)
  /-- A table header with its span from bracket to bracket. -/
  | table (start stop : Nat) (key : List Token)
  /-- An array-table header with its span. -/
  | arrayTable (start stop : Nat) (key : List Token)
  deriving Inhabited

/-- A comment may hold tabs and characters that are not ASCII control characters. -/
def allowedInComment (c : Char) : Bool :=
  c == '\t' || (0x20 ≤ c.toNat && c.toNat ≤ 0x7e) || 0x80 ≤ c.toNat

/-- Checks the characters of a comment and that a carriage return ends a line only before a
line feed. -/
def checkTrivia (t : Token) : Except Diagnostic Unit :=
  match t.kind with
  | .comment =>
    match (indexed t.text).find? (fun p => !allowedInComment p.1) with
    | some (_, i) =>
      .error (.make (t.start + i) (t.start + i) "invalid comment character"
        (some [.description "printable characters"]))
    | none => .ok ()
  | .newline =>
    if t.text == "\r" then
      .error (.make t.stop t.stop "carriage return must be followed by newline" (some [.literal "\n"]))
    else .ok ()
  | _ => .ok ()

/-- Drops the blanks at the front. -/
def skipBlanks (ts : List Token) : List Token := ts.dropWhile fun t => t.kind == .blank

mutual
/-- The pieces of a key after its first: a dot and a piece, again and again, with blanks around
the dots. Gives the pieces, the tokens after them and whether every dot had a piece after it. -/
def morePieces (acc : List Token) : List Token → List Token × List Token × Bool
  | [] => (acc.reverse, [], true)
  | t :: rest =>
    if t.kind == .blank then morePieces acc rest
    else if t.kind == .dot then pieceAfterDot t acc rest
    else (acc.reverse, t :: rest, true)

/-- The piece after a dot; a missing one is an empty piece where the next token starts. -/
def pieceAfterDot (dot : Token) (acc : List Token) : List Token → List Token × List Token × Bool
  | [] => ((Token.missing dot.stop :: acc).reverse, [], true)
  | t :: rest =>
    if t.kind == .blank then pieceAfterDot dot acc rest
    else if t.kind == .dot then pieceAfterDot t (Token.missing t.start :: acc) rest
    else if t.kind.isWord then morePieces (t :: acc) rest
    else ((Token.missing t.start :: acc).reverse, t :: rest, false)
end

/-- The key of a header: its pieces, the tokens after it and whether it is well formed. With no
piece at all, the key is one empty piece where the next token starts. -/
def headerKey (acc : List Token) : List Token → List Token × List Token × Bool
  | [] => ((Token.missing 0 :: acc).reverse, [], false)
  | t :: rest =>
    if t.kind == .blank then headerKey acc rest
    else if t.kind == .dot then headerKey (Token.missing t.start :: acc) rest
    else if t.kind.isWord then morePieces (t :: acc) rest
    else ((Token.missing t.start :: acc).reverse, t :: rest, false)

/-- An unquoted scalar: the run of unquoted tokens and dots from its first token, continued over
a blank by a further unquoted token. -/
def scalarRun (acc : Token) : List Token → Token × List Token
  | [] => (acc, [])
  | t :: rest =>
    if t.kind == .dot || t.kind == .unquoted then scalarRun (acc.join t) rest
    else if t.kind == .blank then
      match rest with
      | u :: more => if u.kind == .unquoted then scalarRun ((acc.join t).join u) more else (acc, t :: rest)
      | [] => (acc, t :: rest)
    else (acc, t :: rest)

/-- What an inline table waits for next. -/
inductive InlineState where
  | key
  | equals
  | value
  | comma
  deriving BEq

/-- What an inline table expected when it found something else. -/
def InlineState.expected : InlineState → List Expected
  | .key => [.description "key"]
  | .equals => [.literal "="]
  | .value => [.description "value"]
  | .comma => [.literal ","]

/-- A problem at the start of a token. -/
def Token.problem (t : Token) (description : String) (expected : List Expected) : Diagnostic :=
  .make t.start t.start description (some expected)

mutual
/-- Reads a value. Gives the value, the end of its last token and the tokens after it. Where a
value is missing, it is an empty scalar and nothing is taken. -/
def readValue (fuel : Nat) (ts : List Token) : Except Diagnostic (Written × Nat × List Token) :=
  match fuel, ts with
  | 0, _ => .ok (.scalar (Token.missing 0), 0, ts)
  | _, [] => .ok (.scalar (Token.missing 0), 0, [])
  | fuel + 1, t :: rest =>
    match t.kind with
    | .comment | .comma | .newline | .finish | .blank =>
      .ok (.scalar (Token.missing t.start), t.start, t :: rest)
    | .equals => .error (.make t.start t.stop "extra `=`" (some []))
    | .openBrace => readInline fuel t .key [] [] t.stop rest
    | .closeBrace => .error (t.problem "missing inline table opening" [.literal "\x7b"])
    | .openBracket => readArray fuel t true [] t.stop rest
    | .closeBracket => .error (t.problem "missing array opening" [.literal "["])
    | .dot | .unquoted =>
      let (s, more) := scalarRun t rest
      .ok (.scalar s, s.stop, more)
    | _ => .ok (.scalar t, t.stop, rest)

/-- Reads the rest of an array after its opening bracket. `last` is the end of the last token
that is part of the array so far. -/
def readArray (fuel : Nat) (opening : Token) (needsValue : Bool) (items : List Written)
    (last : Nat) (ts : List Token) : Except Diagnostic (Written × Nat × List Token) :=
  match fuel, ts with
  | 0, _ => .ok (.array opening.start last items.reverse, last, ts)
  | _, [] => .error (.make last last "unclosed array" (some [.literal "]"]))
  | fuel + 1, t :: rest =>
    match t.kind with
    | .blank => readArray fuel opening needsValue items last rest
    | .comment | .newline => do
      checkTrivia t
      readArray fuel opening needsValue items last rest
    | .finish => .error (.make last last "unclosed array" (some [.literal "]"]))
    | .comma =>
      if needsValue then .error (.make t.start t.stop "extra comma in array" (some [.description "value"]))
      else readArray fuel opening true items t.stop rest
    | .equals =>
      .error (.make t.start t.stop "unexpected `=` in array" (some [.description "value", .literal "]"]))
    | .closeBracket => .ok (.array opening.start t.stop items.reverse, t.stop, rest)
    | .closeBrace =>
      if needsValue then .error (t.problem "missing inline table opening" [.literal "\x7b"])
      else .error (t.problem "missing comma between array elements" [.literal ","])
    | _ =>
      if needsValue then do
        let (v, stop, more) ← readValue fuel (t :: rest)
        readArray fuel opening false (v :: items) stop more
      else .error (t.problem "missing comma between array elements" [.literal ","])

/-- Reads the rest of an inline table after its opening brace. `key` holds the pieces of the
key whose value comes next. -/
def readInline (fuel : Nat) (opening : Token) (state : InlineState) (key : List Token)
    (entries : List (List Token × Written)) (last : Nat) (ts : List Token) :
    Except Diagnostic (Written × Nat × List Token) :=
  match fuel, ts with
  | 0, _ => .ok (.inline opening.start last entries.reverse, last, ts)
  | _, [] => .error (.make last last "unclosed inline table" (some [.literal "\x7d"]))
  | fuel + 1, t :: rest =>
    match t.kind with
    | .blank => readInline fuel opening state key entries last rest
    | .comment | .newline => do
      checkTrivia t
      readInline fuel opening state key entries last rest
    | .finish => .error (.make last last "unclosed inline table" (some [.literal "\x7d"]))
    | .comma =>
      if state == .comma then readInline fuel opening .key [] entries t.stop rest
      else .error (t.problem "extra comma in inline table" state.expected)
    | .equals =>
      match state with
      | .key => readInline fuel opening .value [Token.missing t.start] entries t.stop rest
      | .equals => readInline fuel opening .value key entries t.stop rest
      | _ => .error (t.problem "extra assignment between key-value pairs" state.expected)
    | .closeBrace =>
      match state with
      | .key | .comma => .ok (.inline opening.start t.stop entries.reverse, t.stop, rest)
      | .equals => .error (t.problem "missing assignment between key-value pairs" [.literal "="])
      | .value =>
        .ok (.inline opening.start t.stop ((key, .scalar (Token.missing t.start)) :: entries).reverse,
          t.stop, rest)
    | .closeBracket => .error (t.problem "missing array opening" [.literal "["])
    | .openBrace | .openBracket =>
      match state with
      | .value => do
        let (v, stop, more) ← readValue fuel (t :: rest)
        readInline fuel opening .comma [] ((key, v) :: entries) stop more
      | .equals => .error (t.problem "missing assignment between key-value pairs" [.literal "="])
      | _ => .error (t.problem "missing key for inline table element" state.expected)
    | _ =>
      match state with
      | .key =>
        let (pieces, more, _) :=
          if t.kind == .dot then pieceAfterDot t [Token.missing t.start] rest else morePieces [t] rest
        let stop := (pieces.getLast?.map (·.stop)).getD t.stop
        readInline fuel opening .equals pieces entries stop more
      | .value => do
        let (v, stop, more) ← readValue fuel (t :: rest)
        readInline fuel opening .comma [] ((key, v) :: entries) stop more
      | .equals => .error (t.problem "missing assignment between key-value pairs" [.literal "="])
      | .comma => .error (t.problem "missing comma between key-value pairs" [.literal ","])
end

/-- The end of a statement's line: blanks, perhaps a comment, and the line end or the end of the
text. Gives the tokens of the next line. -/
def lineEnd : List Token → Except Diagnostic (List Token)
  | [] => .ok []
  | t :: rest =>
    match t.kind with
    | .blank => lineEnd rest
    | .comment => do
      checkTrivia t
      match rest with
      | n :: more => if n.kind == .newline then do checkTrivia n; pure more else pure rest
      | [] => pure []
    | .newline => do
      checkTrivia t
      pure rest
    | .finish => .ok rest
    | _ => .error (t.problem "unexpected key or value" [.literal "\n", .literal "#"])

/-- Skips the rest of a line, through its line end. -/
def restOfLine : List Token → Except Diagnostic (List Token)
  | [] => .ok []
  | t :: rest =>
    match t.kind with
    | .newline => do
      checkTrivia t
      pure rest
    | .finish => .ok (t :: rest)
    | .comment => do
      checkTrivia t
      restOfLine rest
    | _ => restOfLine rest

/-- Reads an assignment after the pieces of its key: blanks, `=`, the value and the line end. -/
def readAssignment (fuel : Nat) (key : List Token) (ts : List Token) :
    Except Diagnostic (Statement × List Token) :=
  match skipBlanks ts with
  | e :: rest =>
    if e.kind == .equals then do
      let (v, _, more) ← readValue fuel (skipBlanks rest)
      let more ← lineEnd more
      pure (.assign key v, more)
    else .error (e.problem "key with no value" [.literal "="])
  | [] => .error (.make 0 0 "key with no value" (some [.literal "="]))

/-- Reads a header after its opening bracket. -/
def readHeader (opening : Token) (ts : List Token) : Except Diagnostic (Statement × List Token) :=
  let (isArray, ts) : Bool × List Token :=
    match ts with
    | t :: rest => if t.kind == .openBracket then (true, rest) else (false, t :: rest)
    | [] => (false, [])
  let (key, ts, wellFormed) : List Token × List Token × Bool := headerKey [] ts
  let header (stop : Nat) : Statement :=
    if isArray then .arrayTable opening.start stop key else .table opening.start stop key
  match skipBlanks ts with
  | c :: rest =>
    if c.kind == .closeBracket then
      if isArray then
        match rest with
        | c2 :: more =>
          if c2.kind == .closeBracket then do
            let more ← lineEnd more
            pure (header c2.stop, more)
          else .error (.make c.stop c.stop "unclosed array table" (some [.literal "]"]))
        | [] => .error (.make c.stop c.stop "unclosed array table" (some [.literal "]"]))
      else do
        let more ← lineEnd rest
        pure (header c.stop, more)
    else if wellFormed then
      let stop := (key.getLast?.map (·.stop)).getD opening.stop
      .error (.make stop stop (if isArray then "unclosed array table" else "unclosed table")
        (some [.literal (if isArray then "]]" else "]")]))
    else do
      -- the empty piece of the key is refused when the key is read
      let more ← restOfLine (c :: rest)
      pure (header opening.stop, more)
  | [] => .ok (header opening.stop, [])

/-- Reads the statements of a document from its tokens. -/
def readStatements (fuel : Nat) (acc : List Statement) (ts : List Token) :
    Except Diagnostic (List Statement) :=
  match fuel, ts with
  | 0, _ => .ok acc.reverse
  | _, [] => .ok acc.reverse
  | fuel + 1, t :: rest =>
    match t.kind with
    | .finish => .ok acc.reverse
    | .blank => readStatements fuel acc rest
    | .newline => do
      checkTrivia t
      readStatements fuel acc rest
    | .comment => do
      checkTrivia t
      readStatements fuel acc rest
    | .openBracket => do
      let (s, more) ← readHeader t rest
      readStatements fuel (s :: acc) more
    | .closeBracket => .error (t.problem "missing table open" [.literal "["])
    | .comma | .openBrace | .closeBrace => .error (t.problem "invalid key-value pair" [.description "key"])
    | .equals => do
      let (s, more) ← readAssignment fuel [Token.missing t.start] (t :: rest)
      readStatements fuel (s :: acc) more
    | .dot => do
      let (key, more, _) := pieceAfterDot t [Token.missing t.start] rest
      let (s, more) ← readAssignment fuel key more
      readStatements fuel (s :: acc) more
    | _ => do
      let (key, more, _) := morePieces [t] rest
      let (s, more) ← readAssignment fuel key more
      readStatements fuel (s :: acc) more

/-- The statements of a document's tokens, or the first problem in their order. -/
def statementsOf (ts : List Token) : Except Diagnostic (List Statement) :=
  readStatements (2 * ts.length + 2) [] ts

end EnergyModel.Toml
