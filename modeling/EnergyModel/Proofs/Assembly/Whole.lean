import EnergyModel.Proofs.Assembly.Steps

/-!
# A whole assembly

An assembly fails only when there are too few demand years or when a power plant, fuel or
connection of the scenario cannot be made into a technology; every step after that succeeds.
When it succeeds, its relations are those of `Builder.assembled`: the system-wide stage, then
each technology in the scenario's order, a fuel or a connection followed by the commodities it
registers.
-/

namespace EnergyModel

open Assembly

/-! ## Loops over the scenario's names -/

theorem mapM_cons_eq_ok {make : α → Except ε β} {a : α} {l : List α} {out : List β} :
    (a :: l).mapM make = .ok out ↔
      ∃ t ts, make a = .ok t ∧ l.mapM make = .ok ts ∧ out = t :: ts := by
  rw [List.mapM_cons]
  cases ha : make a with
  | error e => simp [bind, Except.bind]
  | ok t =>
    cases hl : l.mapM make with
    | error e => simp [bind, Except.bind]
    | ok ts => simp [bind, Except.bind, pure, Except.pure, eq_comm]

theorem mapM_cons_eq_error {make : α → Except ε β} {a : α} {l : List α} {p : ε}
    (h : (a :: l).mapM make = .error p) :
    make a = .error p ∨ ∃ t, make a = .ok t ∧ l.mapM make = .error p := by
  rw [List.mapM_cons] at h
  cases ha : make a with
  | error e => simp_all [bind, Except.bind]
  | ok t =>
    cases hl : l.mapM make with
    | error e => simp_all [bind, Except.bind]
    | ok ts => simp [ha, hl, bind, Except.bind, pure, Except.pure] at h

section Loop

variable {names : List String} {make : String → Except Problem Technology}
  {body : String → Technology → Assembly Unit} {step : Builder → Technology → Builder}

/-- A loop that makes a technology of each name and runs a step on it ends in the fold of the
step over the technologies, when every name makes one. -/
theorem Runs.eachTechnology {ts : List Technology} {b : Builder}
    (hts : names.mapM make = .ok ts)
    (hbody : ∀ name t, make name = .ok t → ∀ b, Runs (body name t) b () (step b t)) :
    Runs (names.forM fun name => Assembly.ofExcept (make name) >>= body name) b ()
      (ts.foldl step b) := by
  induction names generalizing ts b with
  | nil =>
    obtain rfl : ts = [] := by simpa [pure, Except.pure, eq_comm] using hts
    exact Runs.pure
  | cons name rest ih =>
    obtain ⟨t, ts', ht, hrest, rfl⟩ := mapM_cons_eq_ok.mp hts
    simp only [List.forM, ht]
    exact Runs.bind (Runs.bind Runs.ofExcept (hbody name t ht b)) (ih hrest)

/-- The same loop fails, with the rule the first name that makes no technology breaks. -/
theorem Fails.eachTechnology {p : Problem} {b : Builder}
    (hts : names.mapM make = .error p)
    (hbody : ∀ name t, make name = .ok t → ∀ b, Runs (body name t) b () (step b t)) :
    Fails (names.forM fun name => Assembly.ofExcept (make name) >>= body name) b
      (Failure.rule p) := by
  induction names generalizing b with
  | nil => simp [pure, Except.pure] at hts
  | cons name rest ih =>
    rcases mapM_cons_eq_error hts with ht | ⟨t, ht, hrest⟩
    · simp only [List.forM, ht]
      exact Fails.bind (Fails.bind Fails.ofExcept)
    · simp only [List.forM, ht]
      exact Runs.bind_fails (Runs.bind Runs.ofExcept (hbody name t ht b)) (ih hrest)

end Loop

/-! ## The three stages of technologies -/

theorem Technology.ofFuel_output {name : String} {fuels : Input.Catalog Input.Fuel}
    {existing : List Input.ExistingCapacity} {t : Technology}
    (h : Technology.ofFuel name fuels existing = .ok t) : t.output = name := by
  unfold Technology.ofFuel at h
  cases hf : fuels.find name "Fuels" with
  | error p => simp [hf, bind, Except.bind] at h
  | ok fuel =>
    simp only [hf, bind, Except.bind, pure, Except.pure, Except.ok.injEq] at h
    rw [← h]

/-- A fuel's import technology, then the fuel as a commodity. -/
def Builder.withFuel (b : Builder) (t : Technology) : Builder :=
  (b.withTechnology t).register t.output "p" t.output

/-- A connection's technology, then the two commodities it links. -/
def Builder.withConnection (b : Builder) (t : Technology) : Builder :=
  ((b.withTechnology t).register t.input "p" t.input).register t.output "p" t.output

/-- The technologies of a scenario's power plants. -/
def plantTechnologies (inputs : Input.InputTables) (names : List String) :
    Except Problem (List Technology) :=
  names.mapM fun name => Technology.ofPlant name inputs.plants

/-- The import technologies of a scenario's fuels. -/
def fuelTechnologies (inputs : Input.InputTables) (names : List String) :
    Except Problem (List Technology) :=
  names.mapM fun name => Technology.ofFuel name inputs.fuels inputs.fuelsExisting

/-- The technologies of a scenario's connections. -/
def connectionTechnologies (inputs : Input.InputTables) (names : List String) :
    Except Problem (List Technology) :=
  names.mapM fun name => Technology.ofConnection name inputs.connections inputs.connectionsExisting

theorem Runs.processPlants {b : Builder} {ts : List Technology}
    (hts : plantTechnologies b.setting.inputs b.setting.scenario.plants = .ok ts) :
    Runs processPlants b () (ts.foldl Builder.withTechnology b) := by
  unfold Assembly.processPlants
  exact Runs.get_bind fun ns =>
    Runs.eachTechnology hts fun _ t _ B => Runs.within (Runs.addTechnology t B)

theorem Fails.processPlants {b : Builder} {p : Problem}
    (hts : plantTechnologies b.setting.inputs b.setting.scenario.plants = .error p) :
    Fails processPlants b (Failure.rule p) := by
  unfold Assembly.processPlants
  exact Fails.get_bind fun ns =>
    Fails.eachTechnology hts fun _ t _ B => Runs.within (Runs.addTechnology t B)

/-- The body of the fuel stage: the fuel is registered under its own name, which is the output
of its import technology. -/
theorem Runs.fuelStep {b : Builder} {name : String} {t : Technology}
    (ht : Technology.ofFuel name b.setting.inputs.fuels b.setting.inputs.fuelsExisting = .ok t)
    (B : Builder) :
    Runs (do
      within ("Failed to add fuel " ++ name) (Assembly.addTechnology t)
      let _ ← Assembly.registerCommodity name "p" name
      pure ()) B () (B.withFuel t) := by
  rw [Builder.withFuel, Technology.ofFuel_output ht]
  exact Runs.bind (Runs.within (Runs.addTechnology t B))
    (Runs.bind (Runs.registerCommodity _ _ _ _) Runs.pure)

theorem Runs.processFuels {b : Builder} {ts : List Technology}
    (hts : fuelTechnologies b.setting.inputs b.setting.scenario.fuels = .ok ts) :
    Runs processFuels b () (ts.foldl Builder.withFuel b) := by
  unfold Assembly.processFuels
  exact Runs.get_bind fun ns => Runs.eachTechnology hts fun _ _ ht B => Runs.fuelStep ht B

theorem Fails.processFuels {b : Builder} {p : Problem}
    (hts : fuelTechnologies b.setting.inputs b.setting.scenario.fuels = .error p) :
    Fails processFuels b (Failure.rule p) := by
  unfold Assembly.processFuels
  exact Fails.get_bind fun ns => Fails.eachTechnology hts fun _ _ ht B => Runs.fuelStep ht B

theorem Runs.connectionStep (t : Technology) (name : String) (B : Builder) :
    Runs (do
      within ("Failed to add connection " ++ name) (Assembly.addTechnology t)
      let _ ← Assembly.registerCommodity t.input "p" t.input
      let _ ← Assembly.registerCommodity t.output "p" t.output
      pure ()) B () (B.withConnection t) :=
  Runs.bind (Runs.within (Runs.addTechnology t B)) (Runs.bind (Runs.registerCommodity _ _ _ _)
    (Runs.bind (Runs.registerCommodity _ _ _ _) Runs.pure))

theorem Runs.processConnections {b : Builder} {ts : List Technology}
    (hts : connectionTechnologies b.setting.inputs b.setting.scenario.connections = .ok ts) :
    Runs processConnections b () (ts.foldl Builder.withConnection b) := by
  unfold Assembly.processConnections
  exact Runs.get_bind fun ns =>
    Runs.eachTechnology hts fun name t _ B => Runs.connectionStep t name B

theorem Fails.processConnections {b : Builder} {p : Problem}
    (hts : connectionTechnologies b.setting.inputs b.setting.scenario.connections = .error p) :
    Fails processConnections b (Failure.rule p) := by
  unfold Assembly.processConnections
  exact Fails.get_bind fun ns =>
    Fails.eachTechnology hts fun name t _ B => Runs.connectionStep t name B

/-! ## What the stages leave as it was -/

@[simp] theorem Builder.withSystem_setting (b : Builder) : b.withSystem.setting = b.setting := by
  simp [Builder.withSystem]

@[simp] theorem Builder.withTechnology_setting (b : Builder) (t : Technology) :
    (b.withTechnology t).setting = b.setting := by
  simp [Builder.withTechnology]

@[simp] theorem Builder.withFuel_setting (b : Builder) (t : Technology) :
    (b.withFuel t).setting = b.setting := by
  simp [Builder.withFuel]

@[simp] theorem Builder.withConnection_setting (b : Builder) (t : Technology) :
    (b.withConnection t).setting = b.setting := by
  simp [Builder.withConnection]

theorem Builder.foldl_setting {step : Builder → Technology → Builder}
    (hstep : ∀ b t, (step b t).setting = b.setting) (b : Builder) (ts : List Technology) :
    (ts.foldl step b).setting = b.setting := by
  induction ts generalizing b with
  | nil => rfl
  | cons t ts ih => rw [List.foldl_cons, ih, hstep]

/-! ## The result of an assembly -/

/-- The builder at the end of an assembly from `b` with the given technologies. -/
def Builder.assembled (b : Builder) (plants fuels connections : List Technology) : Builder :=
  connections.foldl Builder.withConnection
    (fuels.foldl Builder.withFuel (plants.foldl Builder.withTechnology b.withSystem))

@[simp] theorem Builder.assembled_setting (b : Builder) (plants fuels connections : List Technology) :
    (b.assembled plants fuels connections).setting = b.setting := by
  simp [Builder.assembled, Builder.foldl_setting]

/-! ## Changes of builder that an assembly does not see -/

/-- A change of builder that no stage of an assembly sees: it keeps the periods and every row a
stage makes, and it commutes with the two steps whose effect depends on what came before. -/
structure Builder.Unseen (g : Builder → Builder) : Prop where
  emit : ∀ b L, (g b).emit L = g (b.emit L)
  addPeriod : ∀ b y, (g b).addPeriod y = g (b.addPeriod y)
  register : ∀ b id flag description,
    (g b).register id flag description = g (b.register id flag description)
  periods : ∀ b, (g b).periods = b.periods
  allTimePeriods : ∀ b, (g b).allTimePeriods = b.allTimePeriods
  techPushes : ∀ b t, techPushes (g b).setting t = techPushes b.setting t
  calendarPushes : ∀ b, calendarPushes (g b).setting = calendarPushes b.setting
  policyPushes : ∀ b, policyPushes (g b).setting = policyPushes b.setting

namespace Builder.Unseen

variable {g : Builder → Builder} (hg : Builder.Unseen g)
include hg

theorem withTechnology (b : Builder) (t : Technology) :
    (g b).withTechnology t = g (b.withTechnology t) := by
  unfold Builder.withTechnology
  rw [hg.periods, hg.allTimePeriods, hg.techPushes, List.foldl_hom g hg.addPeriod, hg.emit]

theorem withFuel (b : Builder) (t : Technology) : (g b).withFuel t = g (b.withFuel t) := by
  unfold Builder.withFuel
  rw [hg.withTechnology, hg.register]

theorem withConnection (b : Builder) (t : Technology) :
    (g b).withConnection t = g (b.withConnection t) := by
  unfold Builder.withConnection
  rw [hg.withTechnology, hg.register, hg.register]

theorem withSystem (b : Builder) : (g b).withSystem = g b.withSystem := by
  unfold Builder.withSystem
  rw [hg.calendarPushes, hg.policyPushes, hg.emit, hg.register, hg.register, hg.register, hg.emit]

/-- An assembly from the changed builder ends in the changed end of the assembly. -/
theorem assembled (b : Builder) (plants fuels connections : List Technology) :
    (g b).assembled plants fuels connections = g (b.assembled plants fuels connections) := by
  unfold Builder.assembled
  rw [hg.withSystem, List.foldl_hom g hg.withTechnology, List.foldl_hom g hg.withFuel,
    List.foldl_hom g hg.withConnection]

end Builder.Unseen

/-- The technologies a scenario's power plants, fuels and connections are made into, in the
scenario's order. -/
def scenarioTechnologies (inputs : Input.InputTables) (scenario : Scenario) :
    Except Problem (List Technology × List Technology × List Technology) := do
  let plants ← plantTechnologies inputs scenario.plants
  let fuels ← fuelTechnologies inputs scenario.fuels
  let connections ← connectionTechnologies inputs scenario.connections
  pure (plants, fuels, connections)

theorem scenarioTechnologies_eq_ok {inputs : Input.InputTables} {scenario : Scenario}
    {plants fuels connections : List Technology} :
    scenarioTechnologies inputs scenario = .ok (plants, fuels, connections) ↔
      plantTechnologies inputs scenario.plants = .ok plants ∧
        fuelTechnologies inputs scenario.fuels = .ok fuels ∧
        connectionTechnologies inputs scenario.connections = .ok connections := by
  unfold scenarioTechnologies
  cases plantTechnologies inputs scenario.plants <;>
    cases fuelTechnologies inputs scenario.fuels <;>
    cases connectionTechnologies inputs scenario.connections <;>
    simp [bind, Except.bind, pure, Except.pure]

theorem scenarioTechnologies_eq_error {inputs : Input.InputTables} {scenario : Scenario}
    {p : Problem} (h : scenarioTechnologies inputs scenario = .error p) :
    plantTechnologies inputs scenario.plants = .error p ∨
      (∃ plants, plantTechnologies inputs scenario.plants = .ok plants ∧
        fuelTechnologies inputs scenario.fuels = .error p) ∨
      (∃ plants fuels, plantTechnologies inputs scenario.plants = .ok plants ∧
        fuelTechnologies inputs scenario.fuels = .ok fuels ∧
        connectionTechnologies inputs scenario.connections = .error p) := by
  revert h
  unfold scenarioTechnologies
  cases plantTechnologies inputs scenario.plants <;>
    cases fuelTechnologies inputs scenario.fuels <;>
    cases connectionTechnologies inputs scenario.connections <;>
    simp [bind, Except.bind, pure, Except.pure]

/-- The start of an assembly: the periods come from the demand years, and nothing is written
yet. -/
theorem Builder.start_eq_ok {inputs : Input.InputTables} {scenario : Scenario} {b : Builder} :
    Builder.start inputs scenario = .ok b ↔
      ∃ periods, Periods.ofDemandYears (inputs.system.demand.map (·.year)) = .ok periods ∧
        b = { inputs, scenario, periods
              allTimePeriods := periods.future.foldl
                (fun acc y => if acc.contains y then acc else acc ++ [y]) [] } := by
  unfold Builder.start
  cases Periods.ofDemandYears (inputs.system.demand.map (·.year)) <;>
    simp [bind, Except.bind, pure, Except.pure, eq_comm]

theorem Builder.start_setting {inputs : Input.InputTables} {scenario : Scenario} {b : Builder}
    (hb : Builder.start inputs scenario = .ok b) :
    b.setting.inputs = inputs ∧ b.setting.scenario = scenario := by
  obtain ⟨periods, -, rfl⟩ := Builder.start_eq_ok.mp hb
  exact ⟨rfl, rfl⟩

theorem Runs.run_fst {m : Assembly α} {b b' : Builder} {a : α} (h : Runs m b a b') :
    (m.run.run b).1 = .ok a := by
  obtain ⟨ns', h'⟩ := h b.notes
  exact congrArg Prod.fst h'

theorem Fails.run_fst {m : Assembly α} {b : Builder} {e : Failure} (h : Fails m b e) :
    (m.run.run b).1 = .error e := by
  obtain ⟨b', h'⟩ := h b.notes
  exact congrArg Prod.fst h'

/-- The steps of an assembly after its start. -/
theorem assembleModel_fst_of_start {inputs : Input.InputTables} {scenario : Scenario}
    {b : Builder} (hb : Builder.start inputs scenario = .ok b) :
    (assembleModel inputs scenario).1 =
      ((do
        Assembly.processSystem
        Assembly.processPlants
        Assembly.processFuels
        Assembly.processConnections
        Assembly.finish : Assembly RelationSet).run.run b).1 := by
  simp only [assembleModel, hb]
  rfl

theorem assembleModel_ok {inputs : Input.InputTables} {scenario : Scenario} {b : Builder}
    {plants fuels connections : List Technology} (hb : Builder.start inputs scenario = .ok b)
    (hts : scenarioTechnologies inputs scenario = .ok (plants, fuels, connections)) :
    (assembleModel inputs scenario).1 = .ok (b.assembled plants fuels connections).relations := by
  obtain ⟨periods, -, rfl⟩ := Builder.start_eq_ok.mp hb
  obtain ⟨hplants, hfuels, hconnections⟩ := scenarioTechnologies_eq_ok.mp hts
  rw [assembleModel_fst_of_start hb]
  refine Runs.run_fst (Runs.bind (Runs.processSystem _) (Runs.bind (Runs.processPlants ?_)
    (Runs.bind (Runs.processFuels ?_) (Runs.bind (Runs.processConnections ?_) (Runs.finish _)))))
  -- each stage reads the inputs and the scenario the ones before it left as they were
  · rw [Builder.withSystem_setting]
    exact hplants
  · rw [Builder.foldl_setting Builder.withTechnology_setting, Builder.withSystem_setting]
    exact hfuels
  · rw [Builder.foldl_setting Builder.withFuel_setting,
      Builder.foldl_setting Builder.withTechnology_setting, Builder.withSystem_setting]
    exact hconnections

/-- An assembly whose technologies cannot all be made fails with the rule the first of them
breaks. -/
theorem assembleModel_fails {inputs : Input.InputTables} {scenario : Scenario} {b : Builder}
    {p : Problem} (hb : Builder.start inputs scenario = .ok b)
    (hts : scenarioTechnologies inputs scenario = .error p) :
    (assembleModel inputs scenario).1 = .error (Failure.rule p) := by
  obtain ⟨hinputs, hscenario⟩ := Builder.start_setting hb
  rw [assembleModel_fst_of_start hb]
  -- the stage whose technologies cannot be made fails, after the ones before it ran
  have hsystem : b.withSystem.setting = b.setting := Builder.withSystem_setting b
  have hplanted (plants : List Technology) :
      (plants.foldl Builder.withTechnology b.withSystem).setting = b.setting := by
    rw [Builder.foldl_setting Builder.withTechnology_setting, hsystem]
  rcases scenarioTechnologies_eq_error hts with hplants | ⟨plants, hplants, hfuels⟩ |
    ⟨plants, fuels, hplants, hfuels, hconnections⟩
  · have he := @Fails.processPlants b.withSystem p
      (by rw [hsystem, hinputs, hscenario]; exact hplants)
    exact Fails.run_fst (Runs.bind_fails (Runs.processSystem b) (Fails.bind he))
  · have he := @Fails.processFuels (plants.foldl Builder.withTechnology b.withSystem) p
      (by rw [hplanted, hinputs, hscenario]; exact hfuels)
    have hrun := @Runs.processPlants b.withSystem plants
      (by rw [hsystem, hinputs, hscenario]; exact hplants)
    exact Fails.run_fst (Runs.bind_fails (Runs.processSystem b)
      (Runs.bind_fails hrun (Fails.bind he)))
  · have he := @Fails.processConnections
      (fuels.foldl Builder.withFuel (plants.foldl Builder.withTechnology b.withSystem)) p
      (by rw [Builder.foldl_setting Builder.withFuel_setting, hplanted, hinputs, hscenario]
          exact hconnections)
    have hrunPlants := @Runs.processPlants b.withSystem plants
      (by rw [hsystem, hinputs, hscenario]; exact hplants)
    have hrunFuels := @Runs.processFuels (plants.foldl Builder.withTechnology b.withSystem) fuels
      (by rw [hplanted, hinputs, hscenario]; exact hfuels)
    exact Fails.run_fst (Runs.bind_fails (Runs.processSystem b)
      (Runs.bind_fails hrunPlants (Runs.bind_fails hrunFuels (Fails.bind he))))

/-- An assembly succeeds exactly when the demand years give periods and every power plant,
fuel and connection of the scenario makes a technology; its relations are then those of
`Builder.assembled`. -/
theorem assembleModel_eq_ok_iff {inputs : Input.InputTables} {scenario : Scenario}
    {rel : RelationSet} :
    (assembleModel inputs scenario).1 = .ok rel ↔
      ∃ b plants fuels connections, Builder.start inputs scenario = .ok b ∧
        scenarioTechnologies inputs scenario = .ok (plants, fuels, connections) ∧
        rel = (b.assembled plants fuels connections).relations := by
  constructor
  · intro h
    cases hb : Builder.start inputs scenario with
    | error p => simp [assembleModel, hb] at h
    | ok b =>
      cases hts : scenarioTechnologies inputs scenario with
      | error p =>
        rw [assembleModel_fails hb hts] at h
        cases h
      | ok techs =>
        obtain ⟨plants, fuels, connections⟩ := techs
        rw [assembleModel_ok hb hts] at h
        exact ⟨b, plants, fuels, connections, rfl, rfl, (Except.ok.inj h).symm⟩
  · rintro ⟨b, plants, fuels, connections, hb, hts, rfl⟩
    exact assembleModel_ok hb hts

end EnergyModel
