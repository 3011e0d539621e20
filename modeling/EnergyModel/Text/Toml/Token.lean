import EnergyModel.Text.Toml.Diagnostic

/-!
# The tokens of a settings document

A settings document is first cut into tokens, each with its kind, its byte span and its text.
Punctuation (`.`, `=`, `,`, brackets and braces) stands alone; a run of spaces and tabs is
blank; a comment runs from `#` to the line end; a line end is a line feed, a carriage return
before one, or a lone carriage return. Quoted strings come in four kinds. Everything else is an
unquoted run, up to the next punctuation, blank, comment or line end: a bare key, a number, a
boolean or a date.

Cutting never fails. A string that is not closed ends where its line ends (a one-line string) or
where the text ends (a multi-line one), and the reading of its value reports the missing quote.
A backslash in a basic string keeps a backslash or a quote after it inside the string. A
multi-line string takes up to two quotes after its closing three as part of its text. The last
token is the empty end of the text.
-/

namespace EnergyModel.Toml

/-- The kinds of token. -/
inductive TokenKind where
  | dot
  | equals
  | comma
  | openBracket
  | closeBracket
  | openBrace
  | closeBrace
  | blank
  | comment
  | newline
  | literalString
  | basicString
  | multiLiteralString
  | multiBasicString
  | unquoted
  | finish
  deriving Inhabited, BEq, DecidableEq, Repr

/-- A token: its kind, its byte span and its text. -/
structure Token where
  kind : TokenKind
  start : Nat
  stop : Nat
  text : String
  deriving Inhabited

/-- An empty unquoted token at an offset, standing for a key or value that is missing. -/
def Token.missing (offset : Nat) : Token := ⟨.unquoted, offset, offset, ""⟩

/-- Two adjacent tokens read as one unquoted run. -/
def Token.join (a b : Token) : Token := ⟨.unquoted, a.start, b.stop, a.text ++ b.text⟩

/-- Whether a token kind is one of the quoted strings. -/
def TokenKind.isString : TokenKind → Bool
  | .literalString | .basicString | .multiLiteralString | .multiBasicString => true
  | _ => false

/-- Whether a token can be a key or a scalar: a string or an unquoted run. -/
def TokenKind.isWord (k : TokenKind) : Bool := k.isString || k == .unquoted

/-- Whether a token means nothing to the structure: a blank, a comment, a line end or the end. -/
def TokenKind.isTrivia : TokenKind → Bool
  | .blank | .comment | .newline | .finish => true
  | _ => false

/-- The characters that end an unquoted run. -/
def endsUnquoted (c : Char) : Bool :=
  c == '.' || c == '=' || c == ',' || c == '[' || c == ']' || c == '{' || c == '}' ||
  c == ' ' || c == '\t' || c == '#' || c == '\r' || c == '\n'

/-- The length of a one-line literal string after its opening quote: through the closing quote,
or up to the line feed or the end when it is not closed. -/
def literalLength : List Char → Nat
  | [] => 0
  | '\'' :: _ => 1
  | '\n' :: _ => 0
  | _ :: rest => literalLength rest + 1

/-- The length of a one-line basic string after its opening quote. -/
def basicLength : List Char → Nat
  | [] => 0
  | '"' :: _ => 1
  | '\n' :: _ => 0
  | '\\' :: '\\' :: rest => basicLength rest + 2
  | '\\' :: '"' :: rest => basicLength rest + 2
  | _ :: rest => basicLength rest + 1

/-- How many of at most two quotes stand at the front. -/
def extraQuotes (q : Char) : List Char → Nat
  | a :: b :: _ => if a == q then (if b == q then 2 else 1) else 0
  | [a] => if a == q then 1 else 0
  | [] => 0

/-- The length of a multi-line literal string after its opening quotes: through the closing
quotes and up to two more, or to the end of the text. -/
def multiLiteralLength : List Char → Nat
  | [] => 0
  | '\'' :: '\'' :: '\'' :: rest => 3 + extraQuotes '\'' rest
  | _ :: rest => multiLiteralLength rest + 1

/-- The length of a multi-line basic string after its opening quotes. -/
def multiBasicLength : List Char → Nat
  | [] => 0
  | '"' :: '"' :: '"' :: rest => 3 + extraQuotes '"' rest
  | '\\' :: '\\' :: rest => multiBasicLength rest + 2
  | '\\' :: '"' :: rest => multiBasicLength rest + 2
  | _ :: rest => multiBasicLength rest + 1

/-- The kind of the token that starts with `c`, and how many of the following characters belong
to it. -/
def tokenShape (c : Char) (rest : List Char) : TokenKind × Nat :=
  match c with
  | '.' => (.dot, 0)
  | '=' => (.equals, 0)
  | ',' => (.comma, 0)
  | '[' => (.openBracket, 0)
  | ']' => (.closeBracket, 0)
  | '{' => (.openBrace, 0)
  | '}' => (.closeBrace, 0)
  | ' ' | '\t' => (.blank, (rest.takeWhile fun d => d == ' ' || d == '\t').length)
  | '#' => (.comment, (rest.takeWhile fun d => d != '\r' && d != '\n').length)
  | '\r' => (.newline, if rest.head? == some '\n' then 1 else 0)
  | '\n' => (.newline, 0)
  | '\'' =>
    match rest with
    | '\'' :: '\'' :: more => (.multiLiteralString, 2 + multiLiteralLength more)
    | _ => (.literalString, literalLength rest)
  | '"' =>
    match rest with
    | '"' :: '"' :: more => (.multiBasicString, 2 + multiBasicLength more)
    | _ => (.basicString, basicLength rest)
  | _ => (.unquoted, (rest.takeWhile fun d => !endsUnquoted d).length)

/-- The tokens of the characters from a byte offset on, ending with the end of the text. -/
def tokensFrom (cs : List Char) (offset : Nat) : List Token :=
  match cs with
  | [] => [⟨.finish, offset, offset, ""⟩]
  | c :: rest =>
    let (kind, extra) := tokenShape c rest
    let text := String.ofList (c :: rest.take extra)
    let stop := offset + text.utf8ByteSize
    ⟨kind, offset, stop, text⟩ :: tokensFrom (rest.drop extra) stop
termination_by cs.length
decreasing_by simp only [List.length_drop, List.length_cons]; omega

/-- The tokens of a document; a byte order mark that opens it is passed over. -/
def tokenize (text : String) : List Token :=
  match text.toList with
  | '\uFEFF' :: rest => tokensFrom rest 3
  | cs => tokensFrom cs 0

end EnergyModel.Toml
