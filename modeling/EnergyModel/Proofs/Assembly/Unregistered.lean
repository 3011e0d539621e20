import EnergyModel.Proofs.Assembly.Keys

/-!
# Warnings about unregistered commodities

An assembly registers commodities in three stages: the system-wide stage registers the dummy,
demand and emission commodities, the fuel stage each fuel after its import technology, and the
connection stage the two commodities of each connection after its technology. Finishing an
assembly then reads the input and output commodity of every efficiency row and warns once about
each one nobody registered, in the order they are first met.

So the commodities an assembly warns about are exactly those its efficiency rows use and its
scenario does not supply (`modelCommodities`), each once, in order of first use; and finishing
writes these warnings after every note of the stages before it and writes nothing else
(`assembleModel_warns_unregistered`).
-/

namespace EnergyModel

open Assembly

/-! ## Commodities named by efficiency rows -/

/-- The text a cell holds, if it holds one. -/
def Cell.text? : Cell → Option String
  | .text s => some s
  | _ => none

/-- The commodities an efficiency row names: its input, then its output, where they are texts. -/
def flowCommodities (row : Tuple) : List String :=
  [row[0]?, row[3]?].filterMap fun cell => cell.bind Cell.text?

/-- The commodities of a connection of the inputs, input first. -/
def connectionCommodities (inputs : Input.InputTables) (name : String) : List String :=
  ((inputs.connections.get? name).map fun c => [c.input, c.output]).getD []

/-- The commodities a model registers: the dummy, demand and emission commodities, the fuels of
the scenario and the commodities of its connections. -/
def modelCommodities (inputs : Input.InputTables) (scenario : Scenario) : List String :=
  [dummyCommodity, demandCommodity, emissionCommodity] ++ scenario.fuels ++
    scenario.connections.flatMap (connectionCommodities inputs)

/-- The warning about a commodity that a technology uses and nobody registered. -/
def unregisteredWarning (id : String) : Note :=
  ⟨.warn, .assembly, s!"Commodity {id} is used by a technology but is not defined in the model"⟩

/-- Appending each commodity not yet listed and not known lists the unknown commodities once
each, in the order they are first met. -/
theorem foldl_addUnknown (known ids : List String) :
    ids.foldl (fun acc id => if known.contains id || acc.contains id then acc else acc ++ [id])
        [] =
      (ids.filter fun id => !known.contains id).eraseDups := by
  induction ids using List.reverseRecOn with
  | nil => rfl
  | append_singleton ids id ih =>
    rw [List.foldl_append, ih, List.filter_append, List.eraseDups_append]
    by_cases hk : id ∈ known
    · simp [hk]
    · -- an unknown commodity met before adds nothing; a new one goes last
      by_cases hmet : id ∈ ids
      · simp [hk, hmet, List.removeAll]
      · simp [hk, hmet, List.removeAll, List.eraseDups_cons]

/-- The commodities finishing warns about: those the efficiency rows name and the builder has
not registered, once each, in the order they are first named. -/
theorem unregisteredCommodities_eq (b : Builder) :
    unregisteredCommodities b =
      (((b.relations.rows .efficiency).toList.flatMap flowCommodities).filter
        fun id => !b.commodities.contains id).eraseDups := by
  have hcells : (b.relations.rows .efficiency).toList.flatMap flowCommodities =
      ((b.relations.rows .efficiency).toList.flatMap fun row => [row[0]?, row[3]?]).filterMap
        fun cell => cell.bind Cell.text? := by
    rw [List.filterMap_flatMap]
    rfl
  rw [hcells, ← foldl_addUnknown, List.foldl_filterMap]
  unfold unregisteredCommodities
  congr 1
  -- the step of finishing reads a text cell as a commodity and skips every other cell
  funext acc cell
  rcases cell with _ | (_ | _ | _ | id) <;> rfl

/-! ## Finishing an assembly -/

/-- A loop whose body writes notes that depend on its element only and leaves the builder as
it was. -/
theorem Logs.forM_notes {γ : Type} {l : List γ} {f : γ → Assembly Unit} {out : γ → List Note}
    {b : Builder} (h : ∀ x ∈ l, Logs (f x) b () b (out x)) :
    Logs (l.forM f) b () b (l.flatMap out) := by
  induction l with
  | nil => exact Logs.pure
  | cons x xs ih =>
    rw [List.flatMap_cons]
    exact Logs.bind (h x (by simp)) (ih fun y hy => h y (by simp [hy]))

/-- Finishing writes one warning for each unregistered commodity and gives the relations. -/
theorem Logs.finish (b : Builder) :
    Logs finish b b.relations b ((unregisteredCommodities b).map unregisteredWarning) := by
  unfold Assembly.finish
  refine Logs.get_bind fun ns => ?_
  rw [← List.append_nil ((unregisteredCommodities b).map unregisteredWarning),
    List.map_eq_flatMap]
  exact Logs.bind (Logs.forM_notes fun id _ => Logs.warn) (Logs.get_bind fun _ => Logs.pure)

/-- The stages of an assembly before it finishes. -/
def Assembly.stages : Assembly Unit := do
  processSystem
  processPlants
  processFuels
  processConnections

/-- The notes an assembly has written when it comes to finish. -/
def notesBeforeFinish (inputs : Input.InputTables) (scenario : Scenario) : Array Note :=
  match Builder.start inputs scenario with
  | .ok b => (stages.run.run b).2.notes
  | .error _ => #[]

theorem Runs.stages {inputs : Input.InputTables} {scenario : Scenario} {b : Builder}
    {plants fuels connections : List Technology} (hb : Builder.start inputs scenario = .ok b)
    (hts : scenarioTechnologies inputs scenario = .ok (plants, fuels, connections)) :
    Runs stages b () (b.assembled plants fuels connections) := by
  obtain ⟨hinputs, hscenario⟩ := Builder.start_setting hb
  obtain ⟨hplants, hfuels, hconnections⟩ := scenarioTechnologies_eq_ok.mp hts
  -- each stage reads the inputs and the scenario that the ones before it left as they were
  have hsystem : b.withSystem.setting = b.setting := Builder.withSystem_setting b
  have hplanted : (plants.foldl Builder.withTechnology b.withSystem).setting = b.setting := by
    rw [Builder.foldl_setting Builder.withTechnology_setting, hsystem]
  have hfueled : (fuels.foldl Builder.withFuel
      (plants.foldl Builder.withTechnology b.withSystem)).setting = b.setting := by
    rw [Builder.foldl_setting Builder.withFuel_setting, hplanted]
  refine Runs.bind (Runs.processSystem b) (Runs.bind (Runs.processPlants ?_)
    (Runs.bind (Runs.processFuels ?_) (Runs.processConnections ?_)))
  · rwa [hsystem, hinputs, hscenario]
  · rwa [hplanted, hinputs, hscenario]
  · rwa [hfueled, hinputs, hscenario]

/-- An assembly is its stages, then finishing. -/
theorem assembleModel_eq_stages {inputs : Input.InputTables} {scenario : Scenario} {b : Builder}
    (hb : Builder.start inputs scenario = .ok b) :
    assembleModel inputs scenario =
      (((stages >>= fun _ => finish).run.run b).1,
        ((stages >>= fun _ => finish).run.run b).2.notes) := by
  simp only [assembleModel, hb, stages, bind_assoc]
  rfl

/-! ## The registered commodities -/

theorem Technology.ofConnection_commodities {name : String}
    {connections : Input.Catalog Input.Connection} {existing : List Input.ExistingCapacity}
    {t : Technology} (h : Technology.ofConnection name connections existing = .ok t) :
    [t.input, t.output] = ((connections.get? name).map fun c => [c.input, c.output]).getD [] := by
  simp only [Technology.ofConnection, bind_eq_ok_iff] at h
  obtain ⟨c, hc, h⟩ := h
  cases h
  have hget : connections.get? name = some c := by
    unfold Input.Catalog.find at hc
    split at hc
    · cases hc
      assumption
    · cases hc
  simp [hget]

/-- At the end of an assembly, the registered commodities are those the scenario supplies. -/
theorem Builder.mem_commodities_assembled_iff {inputs : Input.InputTables} {scenario : Scenario}
    {b : Builder} {plants fuels connections : List Technology}
    (hb : Builder.start inputs scenario = .ok b)
    (hts : scenarioTechnologies inputs scenario = .ok (plants, fuels, connections)) (x : String) :
    x ∈ (b.assembled plants fuels connections).commodities ↔
      x ∈ modelCommodities inputs scenario := by
  obtain ⟨hfresh, -⟩ := Builder.start_fresh hb
  obtain ⟨-, hfuels, hconnections⟩ := scenarioTechnologies_eq_ok.mp hts
  -- a fuel's import technology outputs the fuel; a connection links its row's two commodities
  have hfuelNames : fuels.map (·.output) = scenario.fuels :=
    (map_of_mapM_eq_ok (fun _ _ => Technology.ofFuel_output) hfuels).trans (List.map_id _)
  have hlinks : connections.map (fun t => [t.input, t.output]) =
      scenario.connections.map (connectionCommodities inputs) :=
    map_of_mapM_eq_ok (fun _ _ => Technology.ofConnection_commodities) hconnections
  have hfuel : (∃ t ∈ fuels, x = t.output) ↔ x ∈ scenario.fuels := by
    rw [← hfuelNames, List.mem_map]
    exact ⟨fun ⟨t, ht, hx⟩ => ⟨t, ht, hx.symm⟩, fun ⟨t, ht, hx⟩ => ⟨t, ht, hx.symm⟩⟩
  have hconn : (∃ t ∈ connections, x = t.input ∨ x = t.output) ↔
      x ∈ scenario.connections.flatMap (connectionCommodities inputs) := by
    rw [List.flatMap_def, ← hlinks, List.mem_flatten]
    simp
  rw [Builder.mem_commodities_assembled, Builder.mem_withSystem_commodities,
    hfresh.commodities_nil, hfuel, hconn]
  simp [modelCommodities, or_assoc]

/-! ## The warnings of an assembly -/

/-- An assembly that succeeds warns, after every note of its stages and as the last notes it
writes, about exactly the commodities that its efficiency rows use as input or output and its
scenario does not supply (the dummy, demand and emission commodities, its fuels and the
commodities of its connections): each once, in the order the rows first name them, the input
of a row before its output. -/
theorem assembleModel_warns_unregistered {inputs : Input.InputTables} {scenario : Scenario}
    {rel : RelationSet} (h : (assembleModel inputs scenario).1 = .ok rel) :
    (assembleModel inputs scenario).2 = notesBeforeFinish inputs scenario ++
      ((((rel.rows .efficiency).toList.flatMap flowCommodities).filter
          fun id => !(modelCommodities inputs scenario).contains id).eraseDups.map
        unregisteredWarning).toArray := by
  obtain ⟨b, plants, fuels, connections, hb, hts, rfl⟩ := assembleModel_eq_ok_iff.mp h
  obtain ⟨ns, hrun⟩ := Runs.stages hb hts b.notes
  have hstages : stages.run.run b =
      (.ok (), { b.assembled plants fuels connections with notes := b.notes ++ ns }) := hrun
  -- finishing runs from the end of the stages, with the notes they wrote
  have hrunAll : (stages >>= fun _ => finish).run.run b =
      (.ok (b.assembled plants fuels connections).relations,
        { b.assembled plants fuels connections with notes := b.notes ++ ns ++
          ((unregisteredCommodities (b.assembled plants fuels connections)).map
            unregisteredWarning).toArray }) := by
    simp only [ExceptT.run_bind, StateT.run_bind, hstages]
    exact Logs.finish _ (b.notes ++ ns)
  have hknown : (b.assembled plants fuels connections).commodities.contains =
      (modelCommodities inputs scenario).contains := by
    funext x
    rw [Bool.eq_iff_iff, List.contains_iff_mem, List.contains_iff_mem]
    exact Builder.mem_commodities_assembled_iff hb hts x
  rw [assembleModel_eq_stages hb, hrunAll]
  simp only [notesBeforeFinish, hb, hstages, unregisteredCommodities_eq]
  rw [hknown]

/-- The sample inputs with a coal plant whose fuel the scenario does not import. -/
def unimportedCoalInputs : Input.InputTables :=
  { sampleInputs with
    plants := { (default : Input.PlantTables) with
      plants := ⟨[("COAL_PP", { (default : Input.Plant) with
        name := "COAL_PP", fuel := "COAL", output := "ELC" })]⟩
      performance := ⟨[("COAL_PP", { (default : Input.Performance) with
        name := "COAL_PP", efficiency := some 35.0, expectedLifetime := some 40.0 })]⟩
      costs := ⟨[("COAL_PP", { (default : Input.Costs) with name := "COAL_PP" })]⟩
      constraints := ⟨[("COAL_PP", { (default : Input.Constraints) with name := "COAL_PP" })]⟩ } }

/-- The sample scenario with the coal plant. -/
def unimportedCoalScenario : Scenario := { sampleScenario with plants := ["COAL_PP"] }

/-- The model assembled from the coal plant inputs. -/
def unimportedCoalModel : RelationSet :=
  match (assembleModel unimportedCoalInputs unimportedCoalScenario).1 with
  | .ok rel => rel
  | .error _ => {}

theorem unimportedCoal_warns_unregistered :
    (assembleModel unimportedCoalInputs unimportedCoalScenario).1 = .ok unimportedCoalModel ∧
    (assembleModel unimportedCoalInputs unimportedCoalScenario).2 =
      notesBeforeFinish unimportedCoalInputs unimportedCoalScenario ++
        ((((unimportedCoalModel.rows .efficiency).toList.flatMap flowCommodities).filter
            fun id => !(modelCommodities unimportedCoalInputs unimportedCoalScenario).contains id
          ).eraseDups.map unregisteredWarning).toArray := by
  have hok : (assembleModel unimportedCoalInputs unimportedCoalScenario).1 =
      .ok unimportedCoalModel := by
    obtain ⟨b, hb⟩ :
        ∃ b, Builder.start unimportedCoalInputs unimportedCoalScenario = .ok b := ⟨_, rfl⟩
    obtain ⟨⟨plants, fuels, connections⟩, hts⟩ :
        ∃ ts, scenarioTechnologies unimportedCoalInputs unimportedCoalScenario = .ok ts := ⟨_, rfl⟩
    unfold unimportedCoalModel
    rw [assembleModel_ok hb hts]
  exact ⟨hok, assembleModel_warns_unregistered hok⟩

end EnergyModel
