import EnergyModel.Model.Builder

/-!
# System-wide rows

The first stage of an assembly: the periods, the time slices and their shares of the year, the
demand and its split over the slices, the three commodities every model has, the global
discount rate, and the system-wide constraints that the scenario switches on (emission limits,
the reserve margin, the renewable portfolio standard).

Demand is given for the periods open for investment, paired with the demand rows in order.
-/

namespace EnergyModel

/-- The commodity that electricity demand is expressed in. -/
def demandCommodity : String := "ELC_DMD"

/-- The emission commodity the model tracks. -/
def emissionCommodity : String := "CO2"

/-- The text written into note columns. -/
def noteText : String := " "

namespace Assembly

/-- Adds the system-wide rows. -/
def processSystem : Assembly Unit := do
  let b ← get
  let system := b.inputs.system
  let toggles := b.scenario.toggles
  let periods := b.periods
  periods.future.forM fun y => push .timePeriods [.year y, .text "f"]
  system.days.forM fun d => push .timeSeason [.text d.name]
  system.timesOfDay.forM fun t => push .timeOfDay [.text t.name]
  system.days.forM fun d => system.timesOfDay.forM fun t =>
    push .segFrac [.text d.name, .text t.name, .real (d.timeFraction * t.timeFraction), .text noteText]
  (periods.activeFuture.zip system.demand).forM fun (p, d) =>
    push .demand [.year p, .text demandCommodity, .real d.demand, .text "PJ", .text noteText]
  system.days.forM fun d =>
    (system.demandShares.filter (·.day == d.name)).forM fun s =>
      push .demandSpecificDistribution
        [.text d.name, .text s.timeOfDay, .text demandCommodity,
         .real (d.demandFraction * s.fraction), .text noteText]
  let _ ← registerCommodity dummyCommodity "p" "dummy variable"
  let _ ← registerCommodity demandCommodity "d" "demand variable"
  let _ ← registerCommodity emissionCommodity "e" "emission"
  if let some rate := system.discountRate then
    push .globalDiscountRate [.real rate]
  if toggles.emissionLimit then
    system.emissionLimits.forM fun l =>
      push .emissionLimit
        [.year l.period, .text l.commodity, .real l.limit, .text l.units, .text l.notes]
  if toggles.reserveMargin then
    match system.reserveMargin with
    | some margin => push .reserveMargin [.text demandCommodity, .real margin]
    | none => warn .system "Reserve margin is enabled but no reserve margin is given"
  if toggles.rps then
    (periods.activeFuture.zip system.demand).forM fun (p, d) =>
      match d.renewableShare with
      | some share => push .minGenGroupData [.year p, .text "RPS", .real share]
      | none => pure ()

end Assembly

end EnergyModel
