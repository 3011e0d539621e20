import EnergyModel.Proofs.Assembly.TimeSlices

/-!
# The yearly rows of the system-wide stage

The demand years give a model its periods: every one of them is a future period, and all but
the last, which only closes the horizon, are open for investment. The system-wide stage writes
the demand and the renewable share of a year against the period of that year. It pairs the
periods open for investment with the demand rows by position, and that pairing is right
because those periods are the years of the demand rows but the last, in order
(`zip_dropLast_map`): the demand and the renewable share of the last row are never written.

`processSystem_yearly_rows` gives, from the start of an assembly, every row the stage writes to
the periods, the demand, the renewable portfolio standard and the two relations over the time
slices.
-/

namespace EnergyModel

open Assembly

/-- Pairing the images of a list but the last with the list, by position, pairs every element
but the last with its own image. -/
theorem zip_dropLast_map {α β : Type} (f : α → β) (l : List α) :
    (l.map f).dropLast.zip l = l.dropLast.map fun x => (f x, x) := by
  induction l with
  | nil => rfl
  | cons x xs ih =>
    cases xs with
    | nil => rfl
    | cons y ys =>
      rw [List.map_cons, List.map_cons, List.dropLast_cons_cons, List.dropLast_cons_cons,
        List.zip_cons_cons, List.map_cons, ← List.map_cons, ih]

/-- Two demand years or more give the periods: all of them, and all but the last open for
investment. -/
theorem Periods.ofDemandYears_of_two_le {years : List Nat} (h : 2 ≤ years.length) :
    Periods.ofDemandYears years = .ok ⟨years, years.dropLast⟩ := by
  unfold Periods.ofDemandYears
  rw [if_neg (by omega)]

theorem Builder.start_of_two_le {inputs : Input.InputTables} (scenario : Scenario)
    (h : 2 ≤ inputs.system.demand.length) : ∃ b, Builder.start inputs scenario = .ok b := by
  have hyears : 2 ≤ (inputs.system.demand.map (·.year)).length := by
    rwa [List.length_map]
  exact ⟨_, Builder.start_eq_ok.mpr ⟨_, Periods.ofDemandYears_of_two_le hyears, rfl⟩⟩

/-- From the start of an assembly of at least two demand years, whatever the scenario switches
on, the system-wide stage succeeds and writes: a future period for every demand year; the
demand of every year but the last, against that year; when the renewable portfolio standard is
on, the renewable share of every year but the last that gives one, against that year; a share
of the year for every pair of a representative day and a time of day, days first; and for every
representative day, in order, its part of each demand share given for it, in the order of the
shares. -/
theorem processSystem_yearly_rows {inputs : Input.InputTables} {scenario : Scenario}
    (hn : 2 ≤ inputs.system.demand.length) :
    let system := inputs.system
    ∃ b b', Builder.start inputs scenario = .ok b ∧ Runs processSystem b () b' ∧
      (b'.relations.rows .timePeriods).toList =
        system.demand.map (fun d => [.year d.year, .text "f"]) ∧
      (b'.relations.rows .demand).toList =
        system.demand.dropLast.map (fun d =>
          [.year d.year, .text "ELC_DMD", .real d.demand, .text "PJ", .text " "]) ∧
      (b'.relations.rows .minGenGroupData).toList =
        (if scenario.toggles.rps then
          system.demand.dropLast.flatMap fun d =>
            d.renewableShare.toList.map fun share => [.year d.year, .text "RPS", .real share]
        else []) ∧
      (b'.relations.rows .segFrac).toList =
        system.days.flatMap (fun d => system.timesOfDay.map fun t =>
          [.text d.name, .text t.name, .real (d.timeFraction * t.timeFraction), .text " "]) ∧
      (b'.relations.rows .demandSpecificDistribution).toList =
        system.days.flatMap fun d => (system.demandShares.filter (·.day == d.name)).map fun s =>
          [.text d.name, .text s.timeOfDay, .text "ELC_DMD", .real (d.demandFraction * s.fraction),
            .text " "] := by
  dsimp only
  obtain ⟨b, hb⟩ := Builder.start_of_two_le scenario hn
  obtain ⟨hfresh, hfuture⟩ := Builder.start_fresh hb
  obtain ⟨hinputs, hscenario⟩ := Builder.start_setting hb
  simp only [Builder.setting] at hinputs hscenario
  -- the periods open for investment are the years of the demand rows but the last
  have hpairs : b.periods.activeFuture.zip inputs.system.demand =
      inputs.system.demand.dropLast.map fun d => (d.year, d) := by
    rw [hfresh.activeFuture_eq, hfuture, zip_dropLast_map]
  have hrows (r : Relation) (hr : r ≠ .commodities) :
      (b.withSystem.relations.rows r).toList =
        rowsIn r (calendarPushes b.setting ++ policyPushes b.setting) := by
    rw [Builder.rows_withSystem hfresh.catalogued hr, hfresh.rows_nil, List.nil_append]
  refine ⟨b, b.withSystem, hb, Runs.processSystem b, ?_, ?_, ?_, ?_, ?_⟩
  · rw [hrows _ (by decide), rowsIn_system_timePeriods]
    simp only [Builder.setting, hfuture, List.map_map]
    rfl
  · rw [hrows _ (by decide), rowsIn_system_demand]
    simp only [Builder.setting, hinputs, hpairs, List.map_map]
    rfl
  · rw [hrows _ (by decide), rowsIn_system_minGenGroupData]
    simp only [Builder.setting, hinputs, hscenario, hpairs, List.flatMap_map]
  · rw [hrows _ (by decide), rowsIn_system_segFrac]
    simp only [Builder.setting, hinputs]
    rfl
  · rw [hrows _ (by decide), rowsIn_system_demandSpecificDistribution]
    simp only [Builder.setting, hinputs]
    rfl

/-- The sample scenario with the renewable portfolio standard switched on. -/
def renewableScenario : Scenario := { sampleScenario with toggles := { rps := true } }

theorem sampleInputs_yearly_rows :
    let system := sampleInputs.system
    2 ≤ system.demand.length ∧
    ∃ b b', Builder.start sampleInputs renewableScenario = .ok b ∧ Runs processSystem b () b' ∧
      (b'.relations.rows .timePeriods).toList =
        system.demand.map (fun d => [.year d.year, .text "f"]) ∧
      (b'.relations.rows .demand).toList =
        system.demand.dropLast.map (fun d =>
          [.year d.year, .text "ELC_DMD", .real d.demand, .text "PJ", .text " "]) ∧
      (b'.relations.rows .minGenGroupData).toList =
        (if renewableScenario.toggles.rps then
          system.demand.dropLast.flatMap fun d =>
            d.renewableShare.toList.map fun share => [.year d.year, .text "RPS", .real share]
        else []) ∧
      (b'.relations.rows .segFrac).toList =
        system.days.flatMap (fun d => system.timesOfDay.map fun t =>
          [.text d.name, .text t.name, .real (d.timeFraction * t.timeFraction), .text " "]) ∧
      (b'.relations.rows .demandSpecificDistribution).toList =
        system.days.flatMap fun d => (system.demandShares.filter (·.day == d.name)).map fun s =>
          [.text d.name, .text s.timeOfDay, .text "ELC_DMD", .real (d.demandFraction * s.fraction),
            .text " "] :=
  ⟨by decide, processSystem_yearly_rows (by decide)⟩

end EnergyModel
