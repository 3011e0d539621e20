import EnergyModel.Proofs.Assembly.PerTechnology
import EnergyModel.Proofs.Assembly.Registries

/-!
# The cost rows of a technology

A technology's costs go into four relations, each over its own years (`addCostRows`). The
investment cost is paid once for each vintage built in the model's future, escalated from the
start year to the vintage. The fixed and the variable cost are paid in each active period by
every vintage operating in it, escalated from the start year to the period. The discount rate is
given for every vintage. A cost that is absent or NaN gives no rows at all.

`addTechnology_cost_rows` says that adding a technology appends exactly these rows, in this
order, to the four relations.
-/

namespace EnergyModel

open Assembly

/-- The investment cost rows of a technology: one for each future vintage, with the cost
escalated from the start year to the vintage. -/
def investCostRows (start : Nat) (t : Technology) (futureBuilds : List Nat) : List Tuple :=
  ((Input.present t.costInvest).map fun cost => futureBuilds.map fun v =>
    [techCell t, .year v, .real (escalate cost t.costInvestIncr (v - start)), .text "M USD/GW",
      .text noteText]).getD []

/-- The rows of a cost paid while operating: for each period, one for each vintage operating in
it, with the cost escalated from the start year to the period. -/
def operatingCostRows (start : Nat) (t : Technology) (cost increase : Option Float)
    (unit : String) (periods builds : List Nat) : List Tuple :=
  ((Input.present cost).map fun c => periods.flatMap fun p =>
    (builds.filter fun v => isOperating p v (Input.present t.lifetime)).map fun v =>
      [.year p, techCell t, .year v, .real (escalate c increase (p - start)), .text unit,
        .text noteText]).getD []

/-- The discount rate rows of a technology: one for each vintage. -/
def discountRateRows (t : Technology) (builds : List Nat) : List Tuple :=
  ((Input.present t.discountRate).map fun rate => builds.map fun v =>
    [techCell t, .year v, .real rate, .text (t.discountRateSource.getD "")]).getD []

theorem flatMap_ite_singleton {α β : Type} (l : List α) (p : α → Bool) (f : α → β) :
    l.flatMap (fun x => if p x then [f x] else []) = (l.filter p).map f := by
  induction l with
  | nil => rfl
  | cons x xs ih => by_cases hx : p x <;> simp [hx, ih]

section Technology

variable (c : Setting) (t : Technology)

theorem rowsIn_techPushes_costInvest_eq :
    rowsIn .costInvest (techPushes c t) =
      investCostRows c.periods.startYear t (techSchedule c t).futureBuildYears := by
  rw [rowsIn_techPushes_costInvest]
  cases h : Input.present t.costInvest <;> simp [investCostRows, h]

theorem rowsIn_techPushes_costFixed_eq :
    rowsIn .costFixed (techPushes c t) =
      operatingCostRows c.periods.startYear t t.costFixed t.costFixedIncr "M USD/GW"
        c.periods.activeFuture (techSchedule c t).buildYears := by
  rw [rowsIn_techPushes_costFixed]
  cases h : Input.present t.costFixed <;> simp [operatingCostRows, h, flatMap_ite_singleton]

theorem rowsIn_techPushes_costVariable_eq :
    rowsIn .costVariable (techPushes c t) =
      operatingCostRows c.periods.startYear t t.costVariable t.costVariableIncr "M USD/PJ"
        c.periods.activeFuture (techSchedule c t).buildYears := by
  rw [rowsIn_techPushes_costVariable]
  cases h : Input.present t.costVariable <;>
    simp [operatingCostRows, h, flatMap_ite_singleton]

theorem rowsIn_techPushes_discountRate_eq :
    rowsIn .discountRate (techPushes c t) = discountRateRows t (techSchedule c t).buildYears := by
  rw [rowsIn_techPushes_discountRate]
  cases h : Input.present t.discountRate <;> simp [discountRateRows, h]

end Technology

/-- Adding a technology appends to each cost relation exactly the rows of its cost: the
investment cost for each vintage built in the future, the fixed and the variable cost for each
active period and each vintage operating in it, the discount rate for each vintage, all in
that order, and nothing for a cost that is absent or NaN. -/
theorem addTechnology_cost_rows {b : Builder} (h : b.relations.Catalogued) (t : Technology) :
    let s := computeSchedule t.buildPolicy t.existingYears b.periods.activeFuture
      b.allTimePeriods
    let start := b.periods.activeFuture.headD 0
    ∃ b', Runs (addTechnology t) b () b' ∧
      (b'.relations.rows .costInvest).toList =
        (b.relations.rows .costInvest).toList ++ investCostRows start t s.futureBuildYears ∧
      (b'.relations.rows .costFixed).toList = (b.relations.rows .costFixed).toList ++
        operatingCostRows start t t.costFixed t.costFixedIncr "M USD/GW" b.periods.activeFuture
          s.buildYears ∧
      (b'.relations.rows .costVariable).toList = (b.relations.rows .costVariable).toList ++
        operatingCostRows start t t.costVariable t.costVariableIncr "M USD/PJ"
          b.periods.activeFuture s.buildYears ∧
      (b'.relations.rows .discountRate).toList =
        (b.relations.rows .discountRate).toList ++ discountRateRows t s.buildYears := by
  intro s start
  -- the vintages of a schedule do not depend on the periods the model already has
  have hs : s = { techSchedule b.setting t with legacyPeriods := s.legacyPeriods } :=
    computeSchedule_eq_known _ _ _ _
  refine ⟨b.withTechnology t, Runs.addTechnology t b, ?_, ?_, ?_, ?_⟩
  · rw [Builder.rows_withTechnology h (by decide), rowsIn_techPushes_costInvest_eq, hs]
    rfl
  · rw [Builder.rows_withTechnology h (by decide), rowsIn_techPushes_costFixed_eq, hs]
    rfl
  · rw [Builder.rows_withTechnology h (by decide), rowsIn_techPushes_costVariable_eq, hs]
    rfl
  · rw [Builder.rows_withTechnology h (by decide), rowsIn_techPushes_discountRate_eq, hs]

/-- A gas plant with every cost, the fixed one rising by one percent a year. -/
def costlyGasPlant : Technology :=
  { name := "GAS_PP", input := "GAS", output := "ELC", sector := .electric, newBuilds := true,
    lifetime := some 30.0, costInvest := some 1000.0, costFixed := some 20.0,
    costFixedIncr := some 1.0, costVariable := some 3.0, discountRate := some 0.05 }

theorem sampleStart_cost_rows :
    let s := computeSchedule costlyGasPlant.buildPolicy costlyGasPlant.existingYears
      sampleStart.periods.activeFuture sampleStart.allTimePeriods
    let start := sampleStart.periods.activeFuture.headD 0
    sampleStart.relations.Catalogued ∧
    ∃ b', Runs (addTechnology costlyGasPlant) sampleStart () b' ∧
      (b'.relations.rows .costInvest).toList = (sampleStart.relations.rows .costInvest).toList ++
        investCostRows start costlyGasPlant s.futureBuildYears ∧
      (b'.relations.rows .costFixed).toList = (sampleStart.relations.rows .costFixed).toList ++
        operatingCostRows start costlyGasPlant costlyGasPlant.costFixed
          costlyGasPlant.costFixedIncr "M USD/GW" sampleStart.periods.activeFuture s.buildYears ∧
      (b'.relations.rows .costVariable).toList =
        (sampleStart.relations.rows .costVariable).toList ++
        operatingCostRows start costlyGasPlant costlyGasPlant.costVariable
          costlyGasPlant.costVariableIncr "M USD/PJ" sampleStart.periods.activeFuture
          s.buildYears ∧
      (b'.relations.rows .discountRate).toList =
        (sampleStart.relations.rows .discountRate).toList ++
          discountRateRows costlyGasPlant s.buildYears :=
  ⟨RelationSet.catalogued_empty,
    addTechnology_cost_rows RelationSet.catalogued_empty costlyGasPlant⟩

end EnergyModel
