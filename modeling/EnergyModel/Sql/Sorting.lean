import EnergyModel.Sql.Value

/-!
# How rows sort

Rows and sort keys compare value by value. A row compares by the collation of each of its
columns, a shorter row first when one is a start of the other. A sort key compares by the order
of each of its terms: its collation, its direction, and whether nulls come first, which they do
when the term ascends unless it says otherwise.
-/

namespace EnergyModel.Sql

/-- A list of values compares in the order of rows: value by value, by the collations given. -/
def compareRows (colls : List Collation) : List Value → List Value → Ordering
  | [], [] => .eq
  | [], _ :: _ => .lt
  | _ :: _, [] => .gt
  | a :: as, b :: bs =>
    match a.compare (colls.headD .binary) b with
    | .eq => compareRows colls.tail as bs
    | o => o

/-- How an `ORDER BY` term sorts: its collation, direction and place of nulls. -/
structure SortOrder where
  collation : Collation
  descending : Bool
  nullsFirst : Bool
  deriving Inhabited

/-- How a term sorts, nulls first when ascending unless it says otherwise. -/
def SortOrder.of (collation : Collation) (descending : Bool) (nulls : Option Bool) : SortOrder :=
  { collation, descending, nullsFirst := nulls.getD !descending }

/-- Compares two sort keys by their orders. -/
def compareKeys : List SortOrder → List Value → List Value → Ordering
  | o :: os, a :: as, b :: bs =>
    let c : Ordering :=
      match a, b with
      | .null, .null => .eq
      | .null, _ => if o.nullsFirst then .lt else .gt
      | _, .null => if o.nullsFirst then .gt else .lt
      | _, _ =>
        let c := a.compare o.collation b
        if o.descending then c.swap else c
    if c == .eq then compareKeys os as bs else c
  | _, _, _ => .eq

end EnergyModel.Sql
