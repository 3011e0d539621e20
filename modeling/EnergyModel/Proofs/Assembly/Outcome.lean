import EnergyModel.Proofs.Assembly.Consistency

/-!
# What an assembly returns

An assembly fails for two reasons only: the demand table has fewer than two years, or a power
plant, fuel or connection of the scenario has no row in a table its technology is made from.
`Scenario.lookups` lists the lookups in the order the assembly makes them (the four tables of
each power plant, then the fuels, then the connections), and `assemblyProblem` is the rule the
assembly reports: too few demand years, or else the first lookup that finds no row. Every push
of a row is checked against its relation's number of columns, and none of those checks fails:
when an assembly succeeds, every row of every relation has one value per column.

The failure side is computed through `failureOf`, the error of a computation if it failed: the
failure of a chain of lookups is the first failure among them, whatever the rows found.
-/

namespace EnergyModel

open Assembly

/-! ## The error of a computation -/

/-- The error of a computation that failed. -/
def failureOf {ε α : Type} : Except ε α → Option ε
  | .error e => some e
  | .ok _ => none

section Failure

variable {ε α β : Type}

@[simp] theorem failureOf_error (e : ε) : failureOf (.error e : Except ε α) = some e := rfl

@[simp] theorem failureOf_ok (a : α) : failureOf (.ok a : Except ε α) = none := rfl

@[simp] theorem failureOf_pure (a : α) : failureOf (pure a : Except ε α) = none := rfl

theorem failureOf_eq_none_iff {x : Except ε α} : failureOf x = none ↔ ∃ a, x = .ok a := by
  cases x <;> simp

/-- A loop over a list fails with the failure of the first element that fails. -/
theorem failureOf_mapM (l : List α) (f : α → Except ε β) :
    failureOf (l.mapM f) = l.findSome? fun x => failureOf (f x) := by
  induction l with
  | nil => rfl
  | cons a l ih =>
    rw [List.mapM_cons, List.findSome?_cons, ← ih]
    cases f a <;> cases l.mapM f <;> rfl

end Failure

theorem List.findSome?_flatMap {α β γ : Type} (l : List α) (g : α → List β)
    (f : β → Option γ) :
    (l.flatMap g).findSome? f = l.findSome? fun x => (g x).findSome? f := by
  induction l with
  | nil => rfl
  | cons a l ih =>
    rw [List.flatMap_cons, List.findSome?_append, ih, List.findSome?_cons]
    cases (g a).findSome? f <;> rfl

/-! ## The lookups of an assembly -/

/-- A table that an assembly looks a name up in, to make the technology of an entity. -/
inductive EntityTable where
  | plants
  | performance
  | costs
  | constraints
  | fuels
  | connections
  deriving DecidableEq, Repr

namespace EntityTable

/-- The table's name, as errors give it. -/
def name : EntityTable → String
  | .plants => "PowerPlants"
  | .performance => "PowerPlantsPerformance"
  | .costs => "PowerPlantsCosts"
  | .constraints => "PowerPlantsConstraints"
  | .fuels => "Fuels"
  | .connections => "Connections"

/-- Whether the table has a row of a name. -/
def has (inputs : Input.InputTables) (key : String) : EntityTable → Bool
  | .plants => (inputs.plants.plants.get? key).isSome
  | .performance => (inputs.plants.performance.get? key).isSome
  | .costs => (inputs.plants.costs.get? key).isSome
  | .constraints => (inputs.plants.constraints.get? key).isSome
  | .fuels => (inputs.fuels.get? key).isSome
  | .connections => (inputs.connections.get? key).isSome

/-- The rule a lookup of a name breaks, if the table has no row of it. -/
def problem? (inputs : Input.InputTables) (lookup : EntityTable × String) : Option Problem :=
  if lookup.1.has inputs lookup.2 then none else some (.missingEntry lookup.1.name lookup.2)

end EntityTable

/-- The lookups an assembly makes, in order: the four tables of each power plant, then the fuel
table for each fuel, then the connection table for each connection. -/
def Scenario.lookups (scenario : Scenario) : List (EntityTable × String) :=
  scenario.plants.flatMap (fun name =>
      ([(.plants, name), (.performance, name), (.costs, name), (.constraints, name)] :
        List (EntityTable × String))) ++
    scenario.fuels.map ((.fuels, ·) : String → EntityTable × String) ++
    scenario.connections.map ((.connections, ·) : String → EntityTable × String)

/-- The rule an assembly breaks, if any: too few demand years, or else the first lookup that
finds no row. -/
def assemblyProblem (inputs : Input.InputTables) (scenario : Scenario) : Option Problem :=
  if inputs.system.demand.length < 2 then some .tooFewDemandYears
  else scenario.lookups.findSome? (EntityTable.problem? inputs)

/-! ## Where an assembly fails -/

section Lookups

variable {inputs : Input.InputTables}

theorem failureOf_find_bind {α β : Type} {c : Input.Catalog α} {key table : String}
    {f : α → Except Problem β} :
    failureOf (c.find key table >>= f) =
      match c.get? key with
      | some row => failureOf (f row)
      | none => some (.missingEntry table key) := by
  unfold Input.Catalog.find
  cases c.get? key <;> rfl

/-- A power plant's technology is made unless one of its four tables has no row of it, and the
first such table is the one reported. -/
theorem failureOf_ofPlant (name : String) :
    failureOf (Technology.ofPlant name inputs.plants) =
      [(.plants, name), (.performance, name), (.costs, name), (.constraints, name)].findSome?
        (EntityTable.problem? inputs) := by
  simp only [Technology.ofPlant, failureOf_find_bind, failureOf_pure, List.findSome?_cons,
    List.findSome?_nil]
  -- the four tables are tried in turn, each one only if the ones before it have the row
  cases h₁ : inputs.plants.plants.get? name <;>
    cases h₂ : inputs.plants.performance.get? name <;>
    cases h₃ : inputs.plants.costs.get? name <;>
    cases h₄ : inputs.plants.constraints.get? name <;>
    simp [EntityTable.problem?, EntityTable.has, EntityTable.name, h₁, h₂, h₃, h₄]

theorem failureOf_ofFuel (name : String) :
    failureOf (Technology.ofFuel name inputs.fuels inputs.fuelsExisting) =
      EntityTable.problem? inputs (.fuels, name) := by
  simp only [Technology.ofFuel, failureOf_find_bind, failureOf_pure]
  cases h : inputs.fuels.get? name <;> simp [EntityTable.problem?, EntityTable.has, EntityTable.name, h]

theorem failureOf_ofConnection (name : String) :
    failureOf (Technology.ofConnection name inputs.connections inputs.connectionsExisting) =
      EntityTable.problem? inputs (.connections, name) := by
  simp only [Technology.ofConnection, failureOf_find_bind, failureOf_pure]
  cases h : inputs.connections.get? name <;> simp [EntityTable.problem?, EntityTable.has, EntityTable.name, h]

/-- The three loops of a scenario's technologies run one after another, so the first of them
that fails gives the failure. -/
theorem failureOf_scenarioTechnologies_eq_or (scenario : Scenario) :
    failureOf (scenarioTechnologies inputs scenario) =
      (failureOf (plantTechnologies inputs scenario.plants)).or
        ((failureOf (fuelTechnologies inputs scenario.fuels)).or
          (failureOf (connectionTechnologies inputs scenario.connections))) := by
  unfold scenarioTechnologies
  cases plantTechnologies inputs scenario.plants <;>
    cases fuelTechnologies inputs scenario.fuels <;>
    cases connectionTechnologies inputs scenario.connections <;> rfl

/-- The technologies of a scenario are made unless a lookup finds no row, and the first such
lookup is the one reported. -/
theorem failureOf_scenarioTechnologies (scenario : Scenario) :
    failureOf (scenarioTechnologies inputs scenario) =
      scenario.lookups.findSome? (EntityTable.problem? inputs) := by
  rw [failureOf_scenarioTechnologies_eq_or]
  unfold plantTechnologies fuelTechnologies connectionTechnologies
  simp only [failureOf_mapM, Scenario.lookups, List.findSome?_append, List.findSome?_flatMap,
    List.findSome?_map, Function.comp_def, failureOf_ofPlant, failureOf_ofFuel,
    failureOf_ofConnection, Option.or_assoc]

end Lookups

theorem failureOf_start (inputs : Input.InputTables) (scenario : Scenario) :
    failureOf (Builder.start inputs scenario) =
      if inputs.system.demand.length < 2 then some .tooFewDemandYears else none := by
  unfold Builder.start Periods.ofDemandYears
  rw [List.length_map]
  split <;> rfl

/-- An assembly fails exactly when `assemblyProblem` names a rule, and with that rule. -/
theorem failureOf_assembleModel (inputs : Input.InputTables) (scenario : Scenario) :
    failureOf (assembleModel inputs scenario).1 =
      (assemblyProblem inputs scenario).map Failure.rule := by
  have hstart := failureOf_start inputs scenario
  unfold assemblyProblem
  by_cases hshort : inputs.system.demand.length < 2
  · -- the start fails, before any lookup
    rw [if_pos hshort] at hstart ⊢
    cases hb : Builder.start inputs scenario with
    | ok b =>
      rw [hb] at hstart
      cases hstart
    | error p =>
      rw [hb, failureOf_error, Option.some.injEq] at hstart
      subst hstart
      simp only [assembleModel, hb]
      rfl
  · rw [if_neg hshort] at hstart ⊢
    obtain ⟨b, hb⟩ := failureOf_eq_none_iff.mp hstart
    rw [← failureOf_scenarioTechnologies]
    cases hts : scenarioTechnologies inputs scenario with
    | error p =>
      rw [assembleModel_fails hb hts]
      rfl
    | ok techs =>
      obtain ⟨plants, fuels, connections⟩ := techs
      rw [assembleModel_ok hb hts]
      rfl

/-! ## Every row has one value per column -/

/-- Pushes whose rows have one value per column of their relation. -/
def RowsFit (pushes : List (Relation × Tuple)) : Prop := ∀ e ∈ pushes, e.2.length = e.1.arity

section RowsFit

variable {γ : Type} {L L₁ L₂ : List (Relation × Tuple)}

@[simp] theorem rowsFit_nil : RowsFit [] := nofun

@[simp] theorem rowsFit_cons {e : Relation × Tuple} :
    RowsFit (e :: L) ↔ e.2.length = e.1.arity ∧ RowsFit L := by
  simp [RowsFit]

@[simp] theorem rowsFit_append : RowsFit (L₁ ++ L₂) ↔ RowsFit L₁ ∧ RowsFit L₂ := by
  simp [RowsFit, or_imp, forall_and]

@[simp] theorem rowsFit_flatMap {l : List γ} {f : γ → List (Relation × Tuple)} :
    RowsFit (l.flatMap f) ↔ ∀ x ∈ l, RowsFit (f x) := by
  constructor
  · intro h x hx e he
    exact h e (List.mem_flatMap.mpr ⟨x, hx, he⟩)
  · intro h e he
    obtain ⟨x, hx, he'⟩ := List.mem_flatMap.mp he
    exact h x hx e he'

@[simp] theorem rowsFit_map {l : List γ} {f : γ → Relation × Tuple} :
    RowsFit (l.map f) ↔ ∀ x ∈ l, (f x).2.length = (f x).1.arity := by
  simp [RowsFit]

@[simp] theorem rowsFit_ite {c : Prop} [Decidable c] :
    RowsFit (if c then L₁ else L₂) ↔ (c → RowsFit L₁) ∧ (¬ c → RowsFit L₂) := by
  by_cases h : c <;> simp [h]

end RowsFit

/-- A technology's capacity factors come from a fuel's profile or fill every time slice, with
five values either way. -/
theorem rowsFit_factorPushes (system : Input.SystemTables) (t : Technology) :
    RowsFit (factorPushes system t) := by
  simp only [factorPushes, capacityFactorRows, rowsFit_flatMap]
  intro factor _
  split
  · exact rowsFit_nil
  · split
    · simp [Relation.arity, Relation.columns]
    · rw [rowsFit_map]
      intro row hrow
      obtain ⟨d, -, hd⟩ := List.mem_flatMap.mp hrow
      obtain ⟨tod, -, rfl⟩ := List.mem_map.mp hd
      rfl

/-- The rows a technology adds have one value per column. -/
theorem rowsFit_techPushes (c : Setting) (t : Technology) : RowsFit (techPushes c t) := by
  simp [techPushes, -factorPushes, rowsFit_factorPushes, Relation.arity, Relation.columns]

/-- The rows of the calendar and of the system-wide policies have one value per column. -/
theorem rowsFit_calendarPushes (c : Setting) : RowsFit (calendarPushes c) := by
  simp [Relation.arity, Relation.columns]

theorem rowsFit_policyPushes (c : Setting) : RowsFit (policyPushes c) := by
  simp [Relation.arity, Relation.columns]

namespace RelationSet

/-- Every row of every relation has one value per column. -/
def WellShaped (s : RelationSet) : Prop := ∀ e ∈ s.tables, ∀ row ∈ e.2, row.length = e.1.arity

theorem wellShaped_empty : ({} : RelationSet).WellShaped := by
  intro e he row hrow
  obtain ⟨r, -, rfl⟩ := List.mem_map.mp he
  simp at hrow

theorem WellShaped.append {s : RelationSet} (hs : s.WellShaped) {r : Relation} {row : Tuple}
    (h : row.length = r.arity) : (s.append r row).WellShaped := by
  intro e he row' hrow'
  obtain ⟨e₀, he₀, rfl⟩ := List.mem_map.mp he
  by_cases hr : e₀.1 = r
  · -- the relation's own table, which gets the row at its end
    simp only [hr, beq_self_eq_true, if_true, Array.mem_push] at hrow' ⊢
    rcases hrow' with hold | rfl
    · rw [← hr]
      exact hs e₀ he₀ row' hold
    · exact h
  · have hne : (e₀.1 == r) = false := by simpa using hr
    simp only [hne, Bool.false_eq_true, if_false] at hrow' ⊢
    exact hs e₀ he₀ row' hrow'

theorem WellShaped.appendAll {s : RelationSet} (hs : s.WellShaped)
    {L : List (Relation × Tuple)} (hL : RowsFit L) : (s.appendAll L).WellShaped := by
  induction L generalizing s with
  | nil => exact hs
  | cons e L ih =>
    rw [rowsFit_cons] at hL
    exact ih (hs.append hL.1) hL.2

end RelationSet

section Builder

variable {b : Builder}

theorem Builder.wellShaped_emit (h : b.relations.WellShaped) {L : List (Relation × Tuple)}
    (hL : RowsFit L) : (b.emit L).relations.WellShaped :=
  h.appendAll hL

theorem Builder.wellShaped_addPeriod (h : b.relations.WellShaped) (y : Nat) :
    (b.addPeriod y).relations.WellShaped := by
  unfold Builder.addPeriod
  split
  · exact h
  · exact Builder.wellShaped_emit h (by simp [Relation.arity, Relation.columns])

theorem Builder.wellShaped_register (h : b.relations.WellShaped) (id flag description : String) :
    (b.register id flag description).relations.WellShaped := by
  unfold Builder.register
  split
  · exact h
  · exact Builder.wellShaped_emit h (by simp [Relation.arity, Relation.columns])

theorem Builder.wellShaped_foldl_addPeriod (h : b.relations.WellShaped) (years : List Nat) :
    (years.foldl Builder.addPeriod b).relations.WellShaped := by
  induction years generalizing b with
  | nil => exact h
  | cons y ys ih => exact ih (Builder.wellShaped_addPeriod h y)

theorem Builder.wellShaped_withTechnology (h : b.relations.WellShaped) (t : Technology) :
    (b.withTechnology t).relations.WellShaped :=
  Builder.wellShaped_emit (Builder.wellShaped_foldl_addPeriod h _) (rowsFit_techPushes _ t)

theorem Builder.wellShaped_withFuel (h : b.relations.WellShaped) (t : Technology) :
    (b.withFuel t).relations.WellShaped :=
  Builder.wellShaped_register (Builder.wellShaped_withTechnology h t) _ _ _

theorem Builder.wellShaped_withConnection (h : b.relations.WellShaped) (t : Technology) :
    (b.withConnection t).relations.WellShaped :=
  Builder.wellShaped_register
    (Builder.wellShaped_register (Builder.wellShaped_withTechnology h t) _ _ _) _ _ _

theorem Builder.wellShaped_withSystem (h : b.relations.WellShaped) :
    b.withSystem.relations.WellShaped := by
  unfold Builder.withSystem
  refine Builder.wellShaped_emit ?_ (rowsFit_policyPushes _)
  refine Builder.wellShaped_register (Builder.wellShaped_register
    (Builder.wellShaped_register ?_ _ _ _) _ _ _) _ _ _
  exact Builder.wellShaped_emit h (rowsFit_calendarPushes _)

theorem Builder.wellShaped_assembled (h : b.relations.WellShaped)
    (plants fuels connections : List Technology) :
    (b.assembled plants fuels connections).relations.WellShaped :=
  Builder.assembled_induction (fun b => b.relations.WellShaped)
    (fun _ t hb => Builder.wellShaped_withTechnology hb t)
    (fun _ t hb => Builder.wellShaped_withFuel hb t)
    (fun _ t hb => Builder.wellShaped_withConnection hb t) plants fuels connections
    (Builder.wellShaped_withSystem h)

end Builder

/-- The relations an assembly returns have one value per column in every row. -/
theorem assembleModel_wellShaped {inputs : Input.InputTables} {scenario : Scenario}
    {rel : RelationSet} (h : (assembleModel inputs scenario).1 = .ok rel) : rel.WellShaped := by
  obtain ⟨b, plants, fuels, connections, hstart, -, rfl⟩ := assembleModel_eq_ok_iff.mp h
  obtain ⟨periods, -, rfl⟩ := Builder.start_eq_ok.mp hstart
  exact Builder.wellShaped_assembled RelationSet.wellShaped_empty plants fuels connections

/-! ## The outcome of an assembly -/

theorem EntityTable.isSome_problem? {inputs : Input.InputTables} {lookup : EntityTable × String} :
    (EntityTable.problem? inputs lookup).isSome ↔ lookup.1.has inputs lookup.2 = false := by
  unfold EntityTable.problem?
  cases lookup.1.has inputs lookup.2 <;> simp

theorem assemblyProblem_isSome_iff {inputs : Input.InputTables} {scenario : Scenario} :
    (assemblyProblem inputs scenario).isSome ↔
      inputs.system.demand.length < 2 ∨ ∃ l ∈ scenario.lookups, l.1.has inputs l.2 = false := by
  unfold assemblyProblem
  by_cases hshort : inputs.system.demand.length < 2
  · simp [hshort]
  · simp only [hshort, if_false, false_or, List.findSome?_isSome_iff,
      EntityTable.isSome_problem?]

theorem assembleModel_eq_error_iff {inputs : Input.InputTables} {scenario : Scenario}
    {e : Failure} :
    (assembleModel inputs scenario).1 = .error e ↔
      ∃ p, assemblyProblem inputs scenario = some p ∧ e = Failure.rule p := by
  have h := failureOf_assembleModel inputs scenario
  constructor
  · intro he
    rw [he, failureOf_error] at h
    obtain ⟨p, hp, hrule⟩ := Option.map_eq_some_iff.mp h.symm
    exact ⟨p, hp, hrule.symm⟩
  · rintro ⟨p, hp, rfl⟩
    rw [hp, Option.map_some] at h
    cases hres : (assembleModel inputs scenario).1 with
    | ok rel => rw [hres, failureOf_ok] at h; cases h
    | error e => rw [hres, failureOf_error, Option.some.injEq] at h; rw [h]

/-- An assembly fails exactly when the demand table has fewer than two years or a lookup of a
power plant, fuel or connection finds no row. It then fails with the rule of too few demand
years, or else with `Table <table> has no entry for <name>` for the first lookup with no row,
in the order the lookups are made: no push of a row fails. When it succeeds, every row of every
relation has one value per column. -/
theorem assembleModel_fails_only_on_missing_entry (inputs : Input.InputTables)
    (scenario : Scenario) :
    ((∃ e, (assembleModel inputs scenario).1 = .error e) ↔
        inputs.system.demand.length < 2 ∨
          ∃ l ∈ scenario.lookups, l.1.has inputs l.2 = false) ∧
      (∀ e, (assembleModel inputs scenario).1 = .error e ↔
        ∃ p, assemblyProblem inputs scenario = some p ∧ e = Failure.rule p) ∧
      (∀ rel, (assembleModel inputs scenario).1 = .ok rel → rel.WellShaped) := by
  refine ⟨?_, fun _ => assembleModel_eq_error_iff, fun _ => assembleModel_wellShaped⟩
  rw [← assemblyProblem_isSome_iff, Option.isSome_iff_exists]
  constructor
  · rintro ⟨e, he⟩
    obtain ⟨p, hp, -⟩ := assembleModel_eq_error_iff.mp he
    exact ⟨p, hp⟩
  · rintro ⟨p, hp⟩
    exact ⟨_, assembleModel_eq_error_iff.mpr ⟨p, hp, rfl⟩⟩

/-- The sample inputs with a power plant that has a row in the plant and performance tables
and in no other. -/
def halfListedPlant : Input.InputTables :=
  { sampleInputs with
    plants := { (default : Input.PlantTables) with
      plants := ⟨[("COAL", default)]⟩, performance := ⟨[("COAL", default)]⟩ } }

/-- The sample scenario, with that power plant. -/
def coalScenario : Scenario := { sampleScenario with plants := ["COAL"] }

theorem halfListedPlant_fails_at_costs :
    (assembleModel halfListedPlant coalScenario).1 =
        .error (Failure.rule (.missingEntry "PowerPlantsCosts" "COAL")) ∧
      (Failure.rule (.missingEntry "PowerPlantsCosts" "COAL")).summary =
        "Table PowerPlantsCosts has no entry for COAL" ∧
      sampleModel.WellShaped :=
  ⟨((assembleModel_fails_only_on_missing_entry halfListedPlant coalScenario).2.1 _).mpr
      ⟨_, rfl, rfl⟩,
    by decide,
    (assembleModel_fails_only_on_missing_entry sampleInputs sampleScenario).2.2 _
      assembleModel_sample⟩

end EnergyModel
