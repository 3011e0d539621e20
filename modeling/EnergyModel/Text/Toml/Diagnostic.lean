/-!
# Problems in a settings document

A problem found while reading a settings document is a `Toml.Diagnostic`: the byte span of the
text it points at and its message. A message names what is wrong and, where the reader knew,
what it expected there: `key with no value, expected` followed by the equals sign in backticks.
An empty list of expectations reads "expected nothing"; no list adds nothing.

`Diagnostic.render` lays a problem out under the line it points into, with its line and column
and carets under its span. The line is found by counting line feeds before the offset. The
column counts characters, except where the offset starts a character of several bytes: there it
counts bytes. An offset past the end of the text counts on from the last byte. A caret stands
under each byte of the span, or of the character at the offset when the span is empty; at least
one caret is drawn, and none past the end of the line.
-/

namespace EnergyModel.Toml

/-- What a reader expected where it found something else: a literal text, or a description. -/
inductive Expected where
  | literal (text : String)
  | description (text : String)
  deriving Inhabited, BEq

/-- How an expectation reads in a message: a literal in backticks, a line feed as "newline". -/
def Expected.render : Expected → String
  | .literal "\n" => "newline"
  | .literal "`" => "'`'"
  | .literal s => "`" ++ s ++ "`"
  | .description s => s

/-- A message: a description, and what was expected if that is known. -/
def withExpected (description : String) : Option (List Expected) → String
  | none => description
  | some [] => description ++ ", expected nothing"
  | some es => description ++ ", expected " ++ ", ".intercalate (es.map Expected.render)

/-- A problem found in a document: where it is, and what it is. -/
structure Diagnostic where
  start : Nat
  stop : Nat
  message : String
  deriving Inhabited, BEq

/-- A problem over a span, with a description and what was expected. -/
def Diagnostic.make (start stop : Nat) (description : String)
    (expected : Option (List Expected)) : Diagnostic :=
  ⟨start, stop, withExpected description expected⟩

/-- The characters of a text with their byte offsets. -/
def indexed (s : String) : List (Char × Nat) :=
  (s.toList.foldl (fun (acc : List (Char × Nat) × Nat) c => ((c, acc.2) :: acc.1, acc.2 + c.utf8Size))
    ([], 0)).1.reverse

/-- The line (from zero) and column (from zero) of a byte offset, and the text of that line. -/
def locate (text : String) (offset : Nat) : Nat × Nat × String :=
  let size := text.utf8ByteSize
  if size == 0 then (0, offset, "")
  else
    let here := min offset (size - 1)
    let beyond := offset - here
    let chars := indexed text
    let before := chars.filter fun p => p.2 < here
    let lineStart := (before.filter fun p => p.1 == '\n').foldl (fun _ p => p.2 + 1) 0
    let line := (before.filter fun p => p.1 == '\n').length
    -- the character that holds the byte `here`
    let holder := (chars.filter fun p => p.2 ≤ here).getLast?
    let endsThere := match holder with
      | some (c, i) => i + c.utf8Size - 1 == here
      | none => true
    let column :=
      if endsThere then (chars.filter fun p => lineStart ≤ p.2 && p.2 ≤ here).length - 1
      else here - lineStart
    (line, column + beyond, ((text.splitOn "\n")[line]?).getD "")

/-- A run of spaces. -/
def spaces (n : Nat) : String := String.ofList (List.replicate n ' ')

/-- A diagnostic laid out under the line it points into, with a caret under each byte of its
span (at least one, and not past the end of the line). -/
def Diagnostic.render (text : String) (d : Diagnostic) : String :=
  let (line, column, content) := locate text d.start
  let lineNumber := toString (line + 1)
  let gutter := lineNumber.length
  -- a problem at a point is drawn under the character there
  let span := if d.stop == d.start then
      (((indexed text).find? fun p => p.2 == d.start).map (·.1.utf8Size)).getD 0
    else d.stop - d.start
  let width := min span (content.utf8ByteSize - column)
  let carets := "^" ++ String.ofList (List.replicate (width - 1) '^')
  "TOML parse error at line " ++ lineNumber ++ ", column " ++ toString (column + 1) ++ "\n" ++
  spaces (gutter + 1) ++ "|\n" ++
  lineNumber ++ " | " ++ content ++ "\n" ++
  spaces (gutter + 1) ++ "|" ++ spaces (column + 1) ++ carets ++ "\n" ++
  d.message ++ "\n"

end EnergyModel.Toml
