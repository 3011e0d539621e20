import EnergyModel.Proofs.Perturbation.Effect
import EnergyModel.Proofs.Assembly.Consistency

/-!
# Directives on entities the scenario leaves out

An assembly reads its input tables in two ways only. Its rows are made from the system tables,
the scenario and the technologies (`Setting`, `techPushes`); the technologies are made from the
row of each power plant, fuel and connection the scenario names, found by name
(`Catalog.find`), and from the existing capacity of that name. Two sets of input tables that
agree there (`InputTables.ReadAlike`) assemble into the same model, or fail with the same rule.

A directive on a power plant, a fuel or a connection writes the rows of its own entity and
nothing else, also when it fails after writing (`Directive.inputsAfter`), and leaves the
scenario alone. A directive on an entity the scenario does not name therefore changes nothing
an assembly reads.
-/

namespace EnergyModel

open Input

/-! ## Rows found by name -/

theorem Input.Catalog.find_congr {c c' : Catalog α} {key : String}
    (h : c'.get? key = c.get? key) (table : String) : c'.find key table = c.find key table := by
  unfold Catalog.find
  rw [h]

/-- A power plant's technology reads its rows of the four plant tables and its existing
capacity. -/
theorem Technology.ofPlant_congr {name : String} {tables tables' : PlantTables}
    (hplants : tables'.plants.get? name = tables.plants.get? name)
    (hperformance : tables'.performance.get? name = tables.performance.get? name)
    (hcosts : tables'.costs.get? name = tables.costs.get? name)
    (hconstraints : tables'.constraints.get? name = tables.constraints.get? name)
    (hexisting : tables'.existing = tables.existing) :
    Technology.ofPlant name tables' = Technology.ofPlant name tables := by
  unfold Technology.ofPlant
  rw [Catalog.find_congr hplants, Catalog.find_congr hperformance, Catalog.find_congr hcosts,
    Catalog.find_congr hconstraints, hexisting]

theorem Technology.ofFuel_congr {name : String} {fuels fuels' : Catalog Fuel}
    (h : fuels'.get? name = fuels.get? name) (existing : List ExistingCapacity) :
    Technology.ofFuel name fuels' existing = Technology.ofFuel name fuels existing := by
  unfold Technology.ofFuel
  rw [Catalog.find_congr h]

theorem Technology.ofConnection_congr {name : String}
    {connections connections' : Catalog Connection}
    (h : connections'.get? name = connections.get? name) (existing : List ExistingCapacity) :
    Technology.ofConnection name connections' existing =
      Technology.ofConnection name connections existing := by
  unfold Technology.ofConnection
  rw [Catalog.find_congr h]

theorem mapM_congr_of_mem {make make' : α → Except ε β} {l : List α}
    (h : ∀ a ∈ l, make' a = make a) : l.mapM make' = l.mapM make := by
  induction l with
  | nil => rfl
  | cons a l ih =>
    rw [List.mapM_cons, List.mapM_cons, h a List.mem_cons_self,
      ih fun a' ha' => h a' (List.mem_cons_of_mem a ha')]

/-! ## What an assembly reads -/

/-- Input tables that an assembly of `scenario` reads as it reads `inputs`: the same system
tables, and the same technology of every power plant, fuel and connection the scenario names. -/
structure Input.InputTables.ReadAlike (scenario : Scenario) (inputs inputs' : InputTables) :
    Prop where
  system : inputs'.system = inputs.system
  plant : ∀ name ∈ scenario.plants,
    Technology.ofPlant name inputs'.plants = Technology.ofPlant name inputs.plants
  fuel : ∀ name ∈ scenario.fuels,
    Technology.ofFuel name inputs'.fuels inputs'.fuelsExisting =
      Technology.ofFuel name inputs.fuels inputs.fuelsExisting
  connection : ∀ name ∈ scenario.connections,
    Technology.ofConnection name inputs'.connections inputs'.connectionsExisting =
      Technology.ofConnection name inputs.connections inputs.connectionsExisting

theorem scenarioTechnologies_congr {scenario : Scenario} {inputs inputs' : InputTables}
    (h : inputs.ReadAlike scenario inputs') :
    scenarioTechnologies inputs' scenario = scenarioTechnologies inputs scenario := by
  unfold scenarioTechnologies plantTechnologies fuelTechnologies connectionTechnologies
  rw [mapM_congr_of_mem h.plant, mapM_congr_of_mem h.fuel, mapM_congr_of_mem h.connection]

/-- The builder with other tables of technologies, its system tables kept. -/
def Builder.withTables (b : Builder) (tables : InputTables) : Builder :=
  { b with inputs := { tables with system := b.inputs.system } }

@[simp] theorem Builder.withTables_relations (b : Builder) (tables : InputTables) :
    (b.withTables tables).relations = b.relations := rfl

/-- An assembly starts from the demand years alone. -/
theorem Builder.start_of_system {inputs inputs' : InputTables} (scenario : Scenario)
    (h : inputs'.system = inputs.system) :
    Builder.start inputs' scenario =
      (Builder.start inputs scenario).map (·.withTables inputs') := by
  obtain ⟨system, plants, fuels, fuelsExisting, connections, connectionsExisting⟩ := inputs'
  cases h
  unfold Builder.start
  cases Periods.ofDemandYears (inputs.system.demand.map (·.year)) <;> rfl

section Tables

variable (tables : InputTables)

theorem Builder.addPeriod_withTables (b : Builder) (y : Nat) :
    (b.withTables tables).addPeriod y = (b.addPeriod y).withTables tables := by
  unfold Builder.addPeriod
  by_cases hy : b.allTimePeriods.contains y
  · simp only [Builder.withTables, hy, ↓reduceIte]
  · simp only [Builder.withTables, hy, ↓reduceIte, Bool.false_eq_true]
    rfl

theorem Builder.register_withTables (b : Builder) (id flag description : String) :
    (b.withTables tables).register id flag description =
      (b.register id flag description).withTables tables := by
  unfold Builder.register
  by_cases hid : b.commodities.contains id
  · simp only [Builder.withTables, hid, ↓reduceIte]
  · simp only [Builder.withTables, hid, ↓reduceIte, Bool.false_eq_true]
    rfl

/-- Once the technologies are made, an assembly reads no input table but the system tables. -/
theorem Builder.unseen_withTables : Builder.Unseen fun b => b.withTables tables where
  emit _ _ := rfl
  addPeriod := Builder.addPeriod_withTables tables
  register := Builder.register_withTables tables
  periods _ := rfl
  allTimePeriods _ := rfl
  -- every row is made from the system tables, the scenario and the periods
  techPushes _ _ := rfl
  calendarPushes _ := rfl
  policyPushes _ := rfl

/-- An assembly from a builder with other tables of technologies ends where the assembly from
the builder ends, with those tables. -/
theorem Builder.assembled_withTables (b : Builder) (ps fs cs : List Technology) :
    (b.withTables tables).assembled ps fs cs = (b.assembled ps fs cs).withTables tables :=
  (Builder.unseen_withTables tables).assembled b ps fs cs

end Tables

/-- Input tables an assembly reads alike give the same model, or fail with the same rule. -/
theorem assembleModel_readAlike {scenario : Scenario} {inputs inputs' : InputTables}
    (h : inputs.ReadAlike scenario inputs') :
    (assembleModel inputs' scenario).1 = (assembleModel inputs scenario).1 := by
  have hstart := Builder.start_of_system scenario h.system
  have htechs := scenarioTechnologies_congr h
  cases hb : Builder.start inputs scenario with
  | error p =>
    rw [hb] at hstart
    simp only [assembleModel, hb, hstart, Except.map]
  | ok b =>
    rw [hb] at hstart
    cases hts : scenarioTechnologies inputs scenario with
    | error p =>
      rw [assembleModel_fails hb hts, assembleModel_fails hstart (htechs.trans hts)]
    | ok techs =>
      obtain ⟨ps, fs, cs⟩ := techs
      rw [assembleModel_ok hb hts, assembleModel_ok hstart (htechs.trans hts),
        Builder.assembled_withTables, Builder.withTables_relations]

/-! ## A directive on an entity the scenario leaves out -/

namespace Directive

theorem get?_tableAfter_of_ne (d : Directive) (columns : List (NumericColumn α))
    (after : Float → α → α) (c : Catalog α) {key : String} (h : key ≠ d.tech) :
    (d.tableAfter columns after c).get? key = c.get? key := by
  unfold tableAfter
  split
  · rfl
  · exact Catalog.get?_modify_of_ne c _ h

variable {d : Directive}

/-- A power plant directive leaves every other plant's technology as it was. -/
theorem ofPlant_plantsAfter {name : String} (h : name ≠ d.tech) (tables : PlantTables) :
    Technology.ofPlant name (d.plantsAfter tables) = Technology.ofPlant name tables := by
  unfold plantsAfter
  split
  · rfl
  · exact Technology.ofPlant_congr (d.get?_tableAfter_of_ne _ _ _ h) rfl rfl rfl rfl
  · exact Technology.ofPlant_congr rfl (d.get?_tableAfter_of_ne _ _ _ h) rfl rfl rfl
  · exact Technology.ofPlant_congr rfl rfl (d.get?_tableAfter_of_ne _ _ _ h) rfl rfl
  · exact Technology.ofPlant_congr rfl rfl rfl (d.get?_tableAfter_of_ne _ _ _ h) rfl

/-- A directive on a power plant, a fuel or a connection that the scenario does not name. -/
def Excluded (d : Directive) (scenario : Scenario) : Prop :=
  d.family = .powerPlants ∧ d.tech ∉ scenario.plants ∨
    d.family = .fuels ∧ d.tech ∉ scenario.fuels ∨
    d.family = .connections ∧ d.tech ∉ scenario.connections

instance (d : Directive) (scenario : Scenario) : Decidable (d.Excluded scenario) :=
  inferInstanceAs (Decidable (_ ∨ _))

variable {scenario : Scenario}

theorem scenarioAfter_of_excluded (h : d.Excluded scenario) :
    d.scenarioAfter scenario = scenario := by
  unfold scenarioAfter
  rcases h with ⟨hf, -⟩ | ⟨hf, -⟩ | ⟨hf, -⟩ <;> rw [hf]

/-- A directive on an entity the scenario does not name leaves inputs that an assembly of the
scenario reads as it read them before. -/
theorem readAlike_inputsAfter (h : d.Excluded scenario) (inputs : InputTables) :
    inputs.ReadAlike scenario (d.inputsAfter inputs) := by
  -- every entity the scenario names is another than the directive's
  have hne {names : List String} (hout : d.tech ∉ names) : ∀ name ∈ names, name ≠ d.tech :=
    fun name hname heq => hout (heq ▸ hname)
  unfold inputsAfter
  rcases h with ⟨hf, hout⟩ | ⟨hf, hout⟩ | ⟨hf, hout⟩ <;> rw [hf]
  · exact ⟨rfl, fun name hname => ofPlant_plantsAfter (hne hout name hname) _,
      fun _ _ => rfl, fun _ _ => rfl⟩
  · exact ⟨rfl, fun _ _ => rfl,
      fun name hname => Technology.ofFuel_congr (d.get?_tableAfter_of_ne _ _ _
        (hne hout name hname)) _, fun _ _ => rfl⟩
  · exact ⟨rfl, fun _ _ => rfl, fun _ _ => rfl,
      fun name hname => Technology.ofConnection_congr (d.get?_tableAfter_of_ne _ _ _
        (hne hout name hname)) _⟩

end Directive

/-- A directive on a power plant, a fuel or a connection that the scenario does not name leaves
the scenario as it was, whether it succeeds or fails, and the model assembles as it did, or
fails with the same rule. -/
theorem applyDirective_excluded (d : Directive) (st : Perturbed) (h : d.Excluded st.scenario) :
    let after := ((applyDirective d).run.run st).2
    after.scenario = st.scenario ∧
      (assembleModel after.inputs after.scenario).1 = (assembleModel st.inputs st.scenario).1 := by
  obtain ⟨ns, hrun⟩ := applyDirective_ends d st
  rw [hrun, Directive.scenarioAfter_of_excluded h]
  exact ⟨rfl, assembleModel_readAlike (Directive.readAlike_inputsAfter h st.inputs)⟩

/-- The sample inputs with a second fuel, oil, which the sample scenario does not import. -/
def oilInputs : InputTables :=
  { sampleInputs with
    fuels := ⟨sampleInputs.fuels.entries ++
      [("OIL", { (default : Fuel) with name := "OIL", costVariable := some 9.0 })]⟩ }

/-- Doubles the variable cost of oil. -/
def oilPriceRise : Directive := ⟨.fuels, "CostVariable", "OIL", .multiplier 2.0⟩

theorem oilPriceRise_excluded :
    oilPriceRise.Excluded sampleScenario ∧
      let after := ((applyDirective oilPriceRise).run.run ⟨oilInputs, sampleScenario, #[]⟩).2
      after.scenario = sampleScenario ∧
        (assembleModel after.inputs after.scenario).1 =
          (assembleModel oilInputs sampleScenario).1 :=
  ⟨by decide,
    applyDirective_excluded oilPriceRise ⟨oilInputs, sampleScenario, #[]⟩ (by decide)⟩

end EnergyModel
