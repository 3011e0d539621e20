import EnergyModel.Fault

/-!
# Catalogues of named rows

Most input tables describe one entity per row: a plant, a fuel, a connection. A `Catalog`
holds such rows under their names, in file order; `Catalog.ofRows` refuses a table that names
an entity twice, so every name finds one row. A `NumericColumn` addresses one optional number
of a row by the header of its column, which is how a perturbation reaches a value.

An optional number counts as present when it is there and not NaN (`present`).
-/

namespace EnergyModel.Input

/-- A value that is there and not NaN. -/
def present : Option Float → Option Float
  | some x => if x.isNaN then none else some x
  | none => none

/-- Rows under their names, in file order. -/
structure Catalog (α : Type) where
  entries : List (String × α) := []
  deriving Inhabited

namespace Catalog

variable {α : Type}

/-- Indexes rows by name; the first name met twice is refused. -/
def ofRows (rows : List α) (name : α → String) (table : String) : Except Problem (Catalog α) :=
  let step (acc : List (String × α)) (row : α) : Except Problem (List (String × α)) :=
    let key := name row
    if acc.any (·.1 == key) then .error (.duplicateEntry key table) else .ok (acc ++ [(key, row)])
  (rows.foldlM step []).map fun entries => ⟨entries⟩

/-- The row of a name. -/
def get? (c : Catalog α) (key : String) : Option α :=
  (c.entries.find? (·.1 == key)).map (·.2)

/-- Whether a name has a row. -/
def contains (c : Catalog α) (key : String) : Bool := c.entries.any (·.1 == key)

/-- The row of a name, which the table must have. -/
def find (c : Catalog α) (key table : String) : Except Problem α :=
  match c.get? key with
  | some row => .ok row
  | none => .error (.missingEntry table key)

/-- Replaces the row of a name. -/
def set (c : Catalog α) (key : String) (row : α) : Catalog α :=
  ⟨c.entries.map fun e => if e.1 == key then (key, row) else e⟩

/-- The rows in file order. -/
def rows (c : Catalog α) : List α := c.entries.map (·.2)

/-- The names in file order. -/
def names (c : Catalog α) : List String := c.entries.map (·.1)

end Catalog

/-- An optional number of a row, addressed by the header of its column. -/
structure NumericColumn (α : Type) where
  header : String
  get : α → Option Float
  set : α → Option Float → α

/-- The column of a header among a row type's numeric columns. -/
def NumericColumn.find? {α : Type} (columns : List (NumericColumn α)) (header : String) :
    Option (NumericColumn α) :=
  columns.find? (·.header == header)

end EnergyModel.Input
