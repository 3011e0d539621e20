import EnergyModel.Text.Toml.Statement
import EnergyModel.Text.Toml.Scalar

/-!
# The tree of a settings document

A document is a table: keys with values, where a value is a scalar, an array or a table again.
Every value keeps the byte span it was written at, so that a problem with it later can point
there. A table made by a header spans the header; a table made on the way to a dotted key or to a
header's last piece spans that key piece.

The statements are read in order. An assignment goes into the table of the latest header (the
root before any header), its dotted key making tables on the way. A header's table is placed in
the tree when the next header comes or the document ends; `[[name]]` adds a table to an array of
tables. What the statements say is read as they come, so the first problem in that order is
reported:

* a key given twice, or a header naming what is already there, is a "duplicate key", at the
  piece that repeats it; a header may still name a table that earlier headers only made on the
  way;
* a dotted key cannot reach into a value that is not a table:
  "cannot extend value of type integer with a dotted key", and likewise for the other types and
  for an inline table, which is complete as written.
-/

namespace EnergyModel.Toml

/-- How a table came to be. -/
inductive Origin where
  /-- Written as a header, or as an element of an array of tables. -/
  | header
  /-- Made on the way to a header. -/
  | path
  /-- Made on the way to a dotted key. -/
  | dotted
  /-- Written in braces. -/
  | inline
  deriving BEq, Inhabited

/-- A byte span of the document. -/
structure Span where
  start : Nat
  stop : Nat
  deriving BEq, Inhabited

/-- A value of the document tree. -/
inductive Value where
  | string (text : String)
  /-- An integer: its digits, perhaps after a sign, and its radix. -/
  | integer (digits : String) (radix : Nat)
  | float (text : String)
  | boolean (value : Bool)
  | datetime (text : String)
  /-- An array with its items and their spans; `ofTables` for an array of tables. -/
  | array (items : List (Span × Value)) (ofTables : Bool)
  /-- A table with its entries: key, span and value. -/
  | table (entries : List (String × Span × Value)) (origin : Origin)
  deriving Inhabited

/-- The entries of a table: key, span and value, in the order they came. -/
abbrev Entries := List (String × Span × Value)

/-- The name of a value's type. -/
def Value.typeName : Value → String
  | .string _ => "string"
  | .integer .. => "integer"
  | .float _ => "float"
  | .boolean _ => "boolean"
  | .datetime _ => "datetime"
  | .array .. => "array"
  | .table .. => "table"

/-- The value of a scalar. -/
def Scalar.toValue : Scalar → Value
  | .string s => .string s
  | .boolean b => .boolean b
  | .integer d r => .integer d r
  | .float f => .float f
  | .datetime d => .datetime d

/-- The span and value at a key. -/
def Entries.get? (es : Entries) (key : String) : Option (Span × Value) :=
  (es.find? fun e => e.1 == key).map (·.2)

/-- Replaces the span and value at a key. -/
def Entries.set (es : Entries) (key : String) (v : Span × Value) : Entries :=
  es.map fun e => if e.1 == key then (key, v) else e

/-- A key piece as read: its text and its span. -/
abbrev Piece := String × Nat × Nat

/-- The problem of a key piece that repeats a key. -/
def Piece.duplicate (p : Piece) : Diagnostic := .make p.2.1 p.2.2 "duplicate key" none

/-- Adds a key that is not there yet. -/
def Entries.add (es : Entries) (p : Piece) (v : Span × Value) : Except Diagnostic Entries :=
  if (es.get? p.1).isSome then .error p.duplicate else .ok (es ++ [(p.1, v)])

/-- Changes the table at the end of a path of key pieces below some entries, making the tables
that are not there. `dotted` tells a dotted key from a header's path: a dotted key may not reach
into a table written as a header. Through an array of tables the path goes into its last table. -/
def Entries.update (dotted : Bool) (f : Entries → Except Diagnostic Entries) :
    Entries → List Piece → Except Diagnostic Entries
  | es, [] => f es
  | es, p :: rest =>
    match es.get? p.1 with
    | none => do
      let sub ← Entries.update dotted f [] rest
      pure (es ++ [(p.1, ⟨p.2.1, p.2.2⟩, .table sub (if dotted then .dotted else .path))])
    | some (span, v) =>
      match v with
      | .array items true =>
        match items.getLast? with
        | some (itemSpan, .table sub origin) => do
          let sub ← Entries.update dotted f sub rest
          pure (es.set p.1 (span, .array (items.dropLast ++ [(itemSpan, .table sub origin)]) true))
        | _ => .error p.duplicate
      | .array _ false => .error p.duplicate
      | .table sub origin =>
        if origin == .inline then
          .error (.make p.2.1 p.2.2 "cannot extend value of type inline table with a dotted key" none)
        else if dotted && origin == .header then .error p.duplicate
        else do
          let sub ← Entries.update dotted f sub rest
          pure (es.set p.1 (span, .table sub origin))
      | other =>
        .error (.make p.2.1 p.2.2 ("cannot extend value of type " ++ other.typeName ++ " with a dotted key") none)

/-- Sets a dotted key in some entries. -/
def Entries.assign (es : Entries) (key : List Piece) (v : Span × Value) : Except Diagnostic Entries :=
  match key.getLast? with
  | some last => Entries.update true (fun t => t.add last v) es key.dropLast
  | none => .ok es

mutual
/-- Reads a written value into the tree. -/
def Written.read : Written → Except Diagnostic (Span × Value)
  | .scalar t => do
    let s ← readScalar t
    pure (⟨t.start, t.stop⟩, s.toValue)
  | .array start stop items => do
    let vs ← Written.readAll items
    pure (⟨start, stop⟩, .array vs false)
  | .inline start stop entries => do
    let es ← Written.readEntries [] entries
    pure (⟨start, stop⟩, .table es .inline)

/-- Reads the items of an array. -/
def Written.readAll : List Written → Except Diagnostic (List (Span × Value))
  | [] => .ok []
  | w :: rest => do
    let v ← w.read
    let vs ← Written.readAll rest
    pure (v :: vs)

/-- Reads the entries of an inline table into the entries so far. -/
def Written.readEntries (acc : Entries) : List (List Token × Written) → Except Diagnostic Entries
  | [] => .ok acc
  | (key, w) :: rest => do
    let pieces ← key.mapM readKeyPiece
    let v ← w.read
    let acc ← acc.assign pieces v
    Written.readEntries acc rest
end

/-- A header: whether it names an array of tables, its key pieces and its span. -/
structure Header where
  isArray : Bool
  key : List Piece
  span : Span

/-- Places a header's table in its parent's entries. -/
def Header.place (h : Header) (table : Entries) (parent : Entries) : Except Diagnostic Entries :=
  match h.key.getLast? with
  | none => .ok parent
  | some leaf =>
    let element : Span × Value := (h.span, .table table .header)
    match parent.get? leaf.1 with
    | none =>
      if h.isArray then .ok (parent ++ [(leaf.1, h.span, .array [element] true)])
      else .ok (parent ++ [(leaf.1, element)])
    | some (span, v) =>
      match h.isArray, v with
      | true, .array items true => .ok (parent.set leaf.1 (span, .array (items ++ [element]) true))
      | false, .table earlier .path => do
        -- the header names a table that earlier headers made on the way: it takes their entries
        let merged ← earlier.foldlM (fun acc e => acc.add (e.1, e.2.1.start, e.2.1.stop) e.2) table
        pure (parent.set leaf.1 (h.span, .table merged .header))
      | _, _ => .error leaf.duplicate

/-- The tree so far: the root, the entries of the latest header's table and that header. -/
structure Builder where
  root : Entries
  current : Entries
  header : Option Header

/-- The root with the latest header's table placed in it. -/
def Builder.close (b : Builder) : Except Diagnostic Entries :=
  match b.header with
  | none => .ok b.current
  | some h => Entries.update false (h.place b.current) b.root h.key.dropLast

/-- Reads statements into the tree. -/
def Builder.run (b : Builder) : List Statement → Except Diagnostic Entries
  | [] => b.close
  | .assign key w :: rest => do
    let pieces ← key.mapM readKeyPiece
    let v ← w.read
    let current ← b.current.assign pieces v
    Builder.run { b with current } rest
  | .table start stop key :: rest => do
    let root ← b.close
    let pieces ← key.mapM readKeyPiece
    Builder.run ⟨root, [], some ⟨false, pieces, ⟨start, stop⟩⟩⟩ rest
  | .arrayTable start stop key :: rest => do
    let root ← b.close
    let pieces ← key.mapM readKeyPiece
    Builder.run ⟨root, [], some ⟨true, pieces, ⟨start, stop⟩⟩⟩ rest

/-- The tree of a document's text, or its first problem. -/
def parse (text : String) : Except Diagnostic Entries := do
  let statements ← statementsOf (tokenize text)
  Builder.run ⟨[], [], none⟩ statements

end EnergyModel.Toml
