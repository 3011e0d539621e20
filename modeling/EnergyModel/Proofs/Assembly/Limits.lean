import EnergyModel.Proofs.Binary64.Rounding
import EnergyModel.Proofs.Schedule
import EnergyModel.Proofs.Assembly.Costs
import EnergyModel.Proofs.Assembly.Keys

/-!
# Limits cover the periods a technology operates in

A technology's capacity and activity limits apply in the periods of its schedule's
`constraintPeriods`, and its operating costs are paid in every future period in which some
vintage operates (`isOperating`: the vintage is at most the period and younger than the
lifetime there). The two are computed differently: the limits from a window that ends at the
last build year or at the latest existing vintage, plus the lifetime, compared as doubles; the
costs from each vintage's own age. They agree all the same: every period in which a vintage of
the schedule operates is a constraint period (`computeSchedule_covers_operating`), because
years below `2 ^ 53` are doubles exactly and adding doubles never rounds below a sum of whole
numbers (`Float.natCast_add_le`).

So every fixed or variable cost row a technology adds for a period comes with the maximum
capacity row for that period, when the technology has a maximum capacity, and with a maximum
activity row, when it has a maximum activity (`addTechnology_limits_cover_costs`).
-/

namespace EnergyModel

open Assembly Input

/-- A vintage operating in a period is within a lifetime of every end year it does not pass. -/
theorem withinLifetimeOf_of_isOperating {p v : Nat} {w L : Float} (hp : p < 2 ^ 53)
    (hop : isOperating p v (some L) = true) (hw : v.toFloat ≤ w) :
    withinLifetimeOf p w (some L) = true := by
  simp only [isOperating, Bool.and_eq_true, decide_eq_true_eq] at hop
  obtain ⟨hvp, hage⟩ := hop
  have hsum := Float.natCast_add_le (by omega) hw (Float.le_of_lt hage)
  rw [Nat.add_sub_cancel' hvp] at hsum
  simpa [withinLifetimeOf] using hsum

section Schedule

variable {policy : BuildPolicy} {existing known : List Nat} {x v y : Nat} {xs : List Nat}

/-- A vintage is a future period inside the build window, or existing capacity in service. -/
theorem mem_buildYears_cons
    (h : v ∈ (computeSchedule policy existing (x :: xs) known).buildYears) :
    (policy.newBuilds = true ∧ v ∈ x :: xs ∧
        policy.firstBuild.getD x.toFloat ≤ v.toFloat ∧
        v.toFloat ≤ policy.lastBuild.getD (xs.getLast?.getD x).toFloat) ∨
      (v ∈ existing ∧ inServiceAt v x policy.lifetime = true) := by
  simp only [computeSchedule, List.head?_cons, List.getLast?_cons, foldl_window,
    apply_ite Prod.fst, mem_ascending, mem_foldl_addNew, List.mem_filter] at h
  rcases h with h | h
  · left
    split at h
    · rename_i hnew
      simp only [mem_foldl_addNew, List.not_mem_nil, false_or, List.mem_filter,
        Bool.and_eq_true, decide_eq_true_eq] at h
      exact ⟨hnew, h.1, h.2⟩
    · simp at h
  · exact Or.inr h

/-- A future period in which new capacity built in the window can be alive is a constraint
period. -/
theorem mem_constraintPeriods_of_window (hnew : policy.newBuilds = true) (hy : y ∈ x :: xs)
    (hstart : policy.firstBuild.getD x.toFloat ≤ y.toFloat)
    (halive : withinLifetimeOf y (policy.lastBuild.getD (xs.getLast?.getD x).toFloat)
      policy.lifetime = true) :
    y ∈ (computeSchedule policy existing (x :: xs) known).constraintPeriods := by
  simp only [computeSchedule, List.head?_cons, List.getLast?_cons, foldl_window,
    apply_ite Prod.snd, mem_ascending]
  have hopened : y ∈ if policy.newBuilds = true then
      ((x :: xs).filter fun y => decide (policy.firstBuild.getD x.toFloat ≤ y.toFloat) &&
        withinLifetimeOf y (policy.lastBuild.getD (xs.getLast?.getD x).toFloat)
          policy.lifetime).foldl addNew []
      else [] := by
    rw [if_pos hnew, mem_foldl_addNew, List.mem_filter]
    exact Or.inr ⟨hy, by simp [hstart, halive]⟩
  split
  · exact mem_foldl_addNew.mpr (Or.inl hopened)
  · exact hopened

/-- A future period within a lifetime of the latest existing vintage is a constraint period. -/
theorem mem_constraintPeriods_of_latest {latest : Nat} (hmax : existing.max? = some latest)
    (hy : y ∈ x :: xs) (halive : withinLifetimeOf y latest.toFloat policy.lifetime = true) :
    y ∈ (computeSchedule policy existing (x :: xs) known).constraintPeriods := by
  simp only [computeSchedule, List.head?_cons, List.getLast?_cons, foldl_window,
    apply_ite Prod.snd, mem_ascending, hmax]
  exact mem_foldl_addNew.mpr (Or.inr (List.mem_filter.mpr ⟨hy, halive⟩))

/-- Every future period in which a vintage of the schedule operates is a constraint period. -/
theorem computeSchedule_covers_operating {future : List Nat} {L : Float} {p : Nat}
    (hL : policy.lifetime = some L) (hyears : ∀ y ∈ existing ++ future, y < 2 ^ 53)
    (hp : p ∈ future) (hv : v ∈ (computeSchedule policy existing future known).buildYears)
    (hop : isOperating p v (some L) = true) :
    p ∈ (computeSchedule policy existing future known).constraintPeriods := by
  cases future with
  | nil => cases hp
  | cons x xs =>
    have hp53 : p < 2 ^ 53 := hyears p (List.mem_append_right _ hp)
    have hvp : v ≤ p := by
      simp only [isOperating, Bool.and_eq_true, decide_eq_true_eq] at hop
      exact hop.1
    rcases mem_buildYears_cons hv with ⟨hnew, -, hstart, hend⟩ | ⟨hve, -⟩
    · -- new capacity: the period is after the window opens and within a lifetime of its end
      apply mem_constraintPeriods_of_window hnew hp
        (Float.le_trans hstart (Float.natCast_le_natCast hvp hp53))
      rw [hL]
      exact withinLifetimeOf_of_isOperating hp53 hop hend
    · -- existing capacity: the period is within a lifetime of the latest existing vintage
      obtain ⟨latest, hmax⟩ := Option.isSome_iff_exists.mp (List.isSome_max?_of_mem hve)
      obtain ⟨hlatest, hle⟩ := List.max?_eq_some_iff.mp hmax
      apply mem_constraintPeriods_of_latest hmax hp
      rw [hL]
      exact withinLifetimeOf_of_isOperating hp53 hop
        (Float.natCast_le_natCast (hle v hve) (hyears latest (List.mem_append_left _ hlatest)))

end Schedule

/-! ## The rows of a technology -/

/-- The rows a run appended to a relation. -/
def Builder.added (b b' : Builder) (r : Relation) : List Tuple :=
  (b'.relations.rows r).toList.drop (b.relations.rows r).size

theorem Builder.added_withTechnology {b : Builder} (h : b.relations.Catalogued) {r : Relation}
    (hr : r ≠ .timePeriods) (t : Technology) :
    b.added (b.withTechnology t) r = rowsIn r (techPushes b.setting t) := by
  rw [Builder.added, Builder.rows_withTechnology h hr, ← Array.length_toList,
    List.drop_left]

/-- An operating cost row is for a future period and a vintage operating in it. -/
theorem mem_operatingCostRows {start : Nat} {t : Technology} {cost increase : Option Float}
    {unit : String} {periods builds : List Nat} {row : Tuple}
    (h : row ∈ operatingCostRows start t cost increase unit periods builds) :
    ∃ p v, p ∈ periods ∧ v ∈ builds ∧ isOperating p v (present t.lifetime) = true ∧
      row.head? = some (.year p) := by
  unfold operatingCostRows at h
  cases hc : present cost with
  | none => simp [hc] at h
  | some c =>
    simp only [hc, Option.map_some, Option.getD_some, List.mem_flatMap, List.mem_map,
      List.mem_filter] at h
    obtain ⟨p, hp, v, ⟨hv, hop⟩, rfl⟩ := h
    exact ⟨p, v, hp, hv, hop, rfl⟩

/-- A constraint period has an activity limit whenever there is a maximum activity. -/
theorem exists_mem_maxActivityLimits {maxActivity : Option Float} (retirement : Option Float)
    {periods : List Nat} {p : Nat} (hp : p ∈ periods) (h : maxActivity.isSome = true) :
    ∃ limit, (p, limit) ∈ maxActivityLimits maxActivity retirement periods := by
  obtain ⟨lim, hlim⟩ := Option.isSome_iff_exists.mp h
  unfold maxActivityLimits
  by_cases hret : (retirement.any fun year => p.toFloat ≥ year) = true
  · exact ⟨0.0, List.mem_filterMap.mpr ⟨p, hp, by simp [hret]⟩⟩
  · exact ⟨lim, List.mem_filterMap.mpr ⟨p, hp, by simp [hret, hlim]⟩⟩

/-- Every fixed or variable cost row that adding a technology appends for a period comes with
the maximum capacity row and a maximum activity row for that period, when the technology has
those maxima. -/
theorem addTechnology_limits_cover_costs {b : Builder} (h : b.relations.Catalogued)
    (t : Technology) (hyears : ∀ y ∈ t.existingYears ++ b.periods.activeFuture, y < 2 ^ 53) :
    ∃ b', Runs (addTechnology t) b () b' ∧
      ∀ row ∈ b.added b' .costFixed ++ b.added b' .costVariable, ∀ p,
        row.head? = some (.year p) →
          (∀ cap, present t.maxCapacity = some cap →
            [.year p, techCell t, .real cap, .text "GW", .text noteText] ∈
              b.added b' .maxCapacity) ∧
          ((present t.maxActivity).isSome = true → ∃ limit,
            [.year p, techCell t, .real limit, .text "PJ", .text noteText] ∈
              b.added b' .maxActivity) := by
  refine ⟨b.withTechnology t, Runs.addTechnology t b, fun row hrow p hhead => ?_⟩
  rw [Builder.added_withTechnology h (by decide), Builder.added_withTechnology h (by decide),
    rowsIn_techPushes_costFixed_eq, rowsIn_techPushes_costVariable_eq, List.mem_append] at hrow
  -- the row is for a period in which some vintage of the schedule operates
  obtain ⟨p', v, hp, hv, hop, hhead'⟩ : ∃ p' v, p' ∈ b.periods.activeFuture ∧
      v ∈ (techSchedule b.setting t).buildYears ∧
      isOperating p' v (present t.lifetime) = true ∧
      row.head? = some (.year p') := by
    rcases hrow with hrow | hrow <;> exact mem_operatingCostRows hrow
  obtain rfl : p' = p := by
    rw [hhead] at hhead'
    simpa using hhead'.symm
  obtain ⟨L, hL⟩ : ∃ L, present t.lifetime = some L := by
    cases hlife : present t.lifetime with
    | none => simp [isOperating, hlife] at hop
    | some L => exact ⟨L, rfl⟩
  rw [hL] at hop
  have hcover : p' ∈ (techSchedule b.setting t).constraintPeriods :=
    computeSchedule_covers_operating hL hyears hp hv hop
  refine ⟨fun cap hcap => ?_, fun hact => ?_⟩
  · rw [Builder.added_withTechnology h (by decide), rowsIn_techPushes_maxCapacity, hcap]
    simpa using hcover
  · rw [Builder.added_withTechnology h (by decide), rowsIn_techPushes_maxActivity]
    obtain ⟨limit, hlimit⟩ := exists_mem_maxActivityLimits (present t.retirement) hcover hact
    exact ⟨limit, List.mem_map.mpr ⟨(p', limit), hlimit, rfl⟩⟩

/-- The constraint periods of a schedule cover every future period in which one of its vintages
operates, whatever the policy's window, its lifetime and the existing capacity; so every fixed
or variable cost row that adding a technology appends for a period comes with the maximum
capacity row for that period and a maximum activity row for it, when the technology has those
maxima. Years are below `2 ^ 53`, where doubles hold them exactly. -/
theorem constraintPeriods_cover_operating :
    (∀ (policy : BuildPolicy) (existing future known : List Nat) (L : Float) (p v : Nat),
      policy.lifetime = some L → (∀ y ∈ existing ++ future, y < 2 ^ 53) → p ∈ future →
      v ∈ (computeSchedule policy existing future known).buildYears →
      isOperating p v (some L) = true →
      p ∈ (computeSchedule policy existing future known).constraintPeriods) ∧
    (∀ (b : Builder) (t : Technology), b.relations.Catalogued →
      (∀ y ∈ t.existingYears ++ b.periods.activeFuture, y < 2 ^ 53) →
      ∃ b', Runs (addTechnology t) b () b' ∧
        ∀ row ∈ b.added b' .costFixed ++ b.added b' .costVariable, ∀ p,
          row.head? = some (.year p) →
            (∀ cap, present t.maxCapacity = some cap →
              [.year p, techCell t, .real cap, .text "GW", .text noteText] ∈
                b.added b' .maxCapacity) ∧
            ((present t.maxActivity).isSome = true → ∃ limit,
              [.year p, techCell t, .real limit, .text "PJ", .text noteText] ∈
                b.added b' .maxActivity)) :=
  ⟨fun _ _ _ _ _ _ _ hL hyears hp hv hop => computeSchedule_covers_operating hL hyears hp hv hop,
    fun _ t h hyears => addTechnology_limits_cover_costs h t hyears⟩

/-- A gas plant with a fixed cost, both maxima and a unit built in 2010. -/
def cappedGasPlant : Technology :=
  { name := "GAS_PP", input := "GAS", output := "ELC", sector := .electric, newBuilds := true,
    lifetime := some 30.0, costFixed := some 20.0, maxCapacity := some 5.0,
    maxActivity := some 100.0, existing := [⟨2010, 1.0⟩] }

theorem cappedGasPlant_limits_cover_costs :
    2030 ∈ (computeSchedule cappedGasPlant.buildPolicy cappedGasPlant.existingYears [2025, 2030]
      []).constraintPeriods ∧
    ∃ b', Runs (addTechnology cappedGasPlant) sampleStart () b' ∧
      ∀ row ∈ sampleStart.added b' .costFixed ++ sampleStart.added b' .costVariable, ∀ p,
        row.head? = some (.year p) →
          (∀ cap, present cappedGasPlant.maxCapacity = some cap →
            [.year p, techCell cappedGasPlant, .real cap, .text "GW", .text noteText] ∈
              sampleStart.added b' .maxCapacity) ∧
          ((present cappedGasPlant.maxActivity).isSome = true → ∃ limit,
            [.year p, techCell cappedGasPlant, .real limit, .text "PJ", .text noteText] ∈
              sampleStart.added b' .maxActivity) := by
  have hbuilt : 2025 ∈ (computeSchedule cappedGasPlant.buildPolicy cappedGasPlant.existingYears
      [2025, 2030] []).buildYears := by
    simp only [computeSchedule, List.head?_cons, List.getLast?_cons, mem_ascending]
    decide
  exact ⟨constraintPeriods_cover_operating.1 _ _ _ _ 30.0 2030 2025 rfl (by decide) (by decide)
      hbuilt (by decide),
    constraintPeriods_cover_operating.2 sampleStart cappedGasPlant RelationSet.catalogued_empty
      (by decide)⟩

end EnergyModel
