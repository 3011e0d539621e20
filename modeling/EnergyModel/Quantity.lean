/-!
# Operations on quantities

Quantities are floating-point numbers. Taking the smaller or larger of two lets a NaN give way
to the other number, so that a missing bound does not poison a result; truncation goes toward
zero and keeps the sign of zero.
-/

namespace EnergyModel

/-- The smaller of two numbers; a NaN gives way to the other number. -/
def Float.minNum (a b : Float) : Float :=
  if a.isNaN then b else if b.isNaN then a else if b < a then b else a

/-- The larger of two numbers; a NaN gives way to the other number. -/
def Float.maxNum (a b : Float) : Float :=
  if a.isNaN then b else if b.isNaN then a else if a < b then b else a

/-- The whole-number part of a number, toward zero. -/
def Float.truncate (x : Float) : Float := if x < 0.0 then -(Float.floor (-x)) else Float.floor x

end EnergyModel
