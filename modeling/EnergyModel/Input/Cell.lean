import EnergyModel.Decimal.Read
import EnergyModel.Text.Csv
import EnergyModel.Fault

/-!
# Cells of the input tables

An input cell holds text. Numeric cells may be left empty or hold a marker for a missing value
(`NaN`, `null`, `None`, `NA`, `n/a`, in any ASCII case): such a cell has no value. Flags are
`Y` for yes; any other text, an empty cell included, is no. Cells are read with the blanks
around them removed.
-/

namespace EnergyModel.Input

/-- The texts that stand for a missing value, in lower case. -/
def missingMarkers : List String := ["nan", "null", "none", "na", "n/a"]

/-- Whether a cell's text marks a missing value: it is empty, or one of the markers up to ASCII
case. -/
def isMissingMarker (s : String) : Bool :=
  s.isEmpty || missingMarkers.any fun m => s.toLower == m

/-- The value of a numeric cell: none for a missing marker, and none for a number that reads
as NaN (`-nan`); text that is no number is refused. -/
def parseValue (s : String) : Except Problem (Option Float) :=
  let t := Csv.trimBlank s
  if isMissingMarker t then .ok none
  else
    match Decimal.readFloat t with
    | .ok x => .ok (if x.isNaN then none else some x)
    | .error _ => .error (.invalidNumber t)

/-- Whether a flag cell says yes. -/
def isYes (s : String) : Bool := Csv.trimBlank s == "Y"

/-- The value of a text cell: the trimmed text, or none for a missing marker. -/
def optionalText (s : String) : Option String :=
  let t := Csv.trimBlank s
  if isMissingMarker t then none else some t

end EnergyModel.Input
