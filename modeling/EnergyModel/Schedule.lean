/-!
# Build schedules

When a technology can be built and when its limits apply. New capacity may be built in the
model's future periods that fall inside the technology's build window (its first and last
build year, by default the first and last future period). Existing capacity keeps its
installation years (vintages) while it is still in service when the model starts; capacity
without a known lifetime is never in service. Limits on capacity and activity apply in the
future periods that some capacity, new or existing, can still be alive in.

Comparisons are made on the years as floating-point numbers, so a NaN bound admits no year.
The first and last future periods are those at the ends of the list as given.
-/

namespace EnergyModel

/-- What decides when a technology can be built. -/
structure BuildPolicy where
  newBuilds : Bool := false
  lifetime : Option Float := none
  firstBuild : Option Float := none
  lastBuild : Option Float := none
  deriving Inhabited

/-- The years that matter for one technology in one model. -/
structure BuildSchedule where
  /-- Every vintage: existing capacity still in service and new builds, ascending. -/
  buildYears : List Nat := []
  /-- The vintages of new builds, ascending, repeated as the future periods repeat. -/
  futureBuildYears : List Nat := []
  /-- The periods in which capacity and activity limits apply, ascending. -/
  constraintPeriods : List Nat := []
  /-- The vintages of existing capacity that are not periods of the model, in the order met. -/
  legacyPeriods : List Nat := []
  deriving Inhabited, BEq, Repr

/-- Whether capacity of a vintage is still in service in a start year. -/
def inServiceAt (vintage start : Nat) (lifetime : Option Float) : Bool :=
  match lifetime with
  | some life => start.toFloat - vintage.toFloat < life
  | none => false

/-- Whether a year is at most a lifetime after an end year. -/
def withinLifetimeOf (year : Nat) (last : Float) (lifetime : Option Float) : Bool :=
  match lifetime with
  | some life => year.toFloat ≤ last + life
  | none => false

/-- Appends a year unless it is already there. -/
def addNew (years : List Nat) (y : Nat) : List Nat :=
  if years.contains y then years else years ++ [y]

/-- Sorts years in ascending order. -/
def ascending (years : List Nat) : List Nat := years.mergeSort (· ≤ ·)

/-- The build schedule of a technology, from its policy, the vintages of its existing capacity,
the future periods open to investment and the periods the model already has. -/
def computeSchedule (policy : BuildPolicy) (existing future known : List Nat) : BuildSchedule :=
  match future.head?, future.getLast? with
  | some first, some last =>
    let windowStart := policy.firstBuild.getD first.toFloat
    let windowEnd := policy.lastBuild.getD last.toFloat
    let opened : List Nat × List Nat × List Nat :=
      if policy.newBuilds then
        future.foldl (fun (builds, news, limits) y =>
          let inWindow := windowStart ≤ y.toFloat && y.toFloat ≤ windowEnd
          let alive := windowStart ≤ y.toFloat && withinLifetimeOf y windowEnd policy.lifetime
          (if inWindow then addNew builds y else builds,
           if inWindow then news ++ [y] else news,
           if alive then addNew limits y else limits)) ([], [], [])
      else ([], [], [])
    let (builds, news, limits) := opened
    let serving := existing.filter fun v => inServiceAt v first policy.lifetime
    let builds := serving.foldl addNew builds
    let legacy := (serving.filter fun v => !known.contains v).foldl addNew []
    let limits :=
      match existing.max? with
      | some latest =>
        (future.filter fun y => withinLifetimeOf y latest.toFloat policy.lifetime).foldl addNew limits
      | none => limits
    { buildYears := ascending builds, futureBuildYears := ascending news
      constraintPeriods := ascending limits, legacyPeriods := legacy }
  | _, _ => {}

end EnergyModel
