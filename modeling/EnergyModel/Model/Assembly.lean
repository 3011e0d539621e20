import EnergyModel.Model.TechnologyRows

/-!
# Assembling a whole model

The stages after the system-wide rows add the technologies of the scenario's power plants,
fuels and connections, in the scenario's order. A fuel, once its import technology is added,
is registered as a commodity; so are the two commodities a connection links. Finishing an
assembly warns about every commodity that an efficiency row uses but nobody registered, once
each, in order of first use.
-/

namespace EnergyModel

namespace Assembly

/-- Adds the technologies of the scenario's power plants. -/
def processPlants : Assembly Unit := do
  let b ← get
  b.scenario.plants.forM fun name => do
    let t ← ofExcept (Technology.ofPlant name b.inputs.plants)
    within ("Failed to add power plant " ++ name) (addTechnology t)

/-- Adds the import technologies of the scenario's fuels and registers the fuels. -/
def processFuels : Assembly Unit := do
  let b ← get
  b.scenario.fuels.forM fun name => do
    let t ← ofExcept (Technology.ofFuel name b.inputs.fuels b.inputs.fuelsExisting)
    within ("Failed to add fuel " ++ name) (addTechnology t)
    let _ ← registerCommodity name "p" name

/-- Adds the technologies of the scenario's connections and registers what they link. -/
def processConnections : Assembly Unit := do
  let b ← get
  b.scenario.connections.forM fun name => do
    let t ← ofExcept (Technology.ofConnection name b.inputs.connections b.inputs.connectionsExisting)
    within ("Failed to add connection " ++ name) (addTechnology t)
    let _ ← registerCommodity t.input "p" t.input
    let _ ← registerCommodity t.output "p" t.output

/-- The commodities that efficiency rows use as input or output but that are not registered,
once each, in order of first use. -/
def unregisteredCommodities (b : Builder) : List String :=
  ((b.relations.rows .efficiency).toList.flatMap fun row => [row[0]?, row[3]?]).foldl
    (fun acc (cell : Option Cell) =>
      match cell with
      | some (.text id) => if b.commodities.contains id || acc.contains id then acc else acc ++ [id]
      | _ => acc) []

/-- Finishes an assembly: warns about unregistered commodities and gives the relations. -/
def finish : Assembly RelationSet := do
  (unregisteredCommodities (← get)).forM fun id =>
    warn .assembly s!"Commodity {id} is used by a technology but is not defined in the model"
  return (← get).relations

end Assembly

/-- Assembles every relation of a model from its (perturbed) input tables and scenario: the
relations and the warnings written, or the failure with the warnings written before it. -/
def assembleModel (inputs : Input.InputTables) (scenario : Scenario) :
    Except Failure RelationSet × Array Note :=
  match Builder.start inputs scenario with
  | .error p => (.error (Failure.rule p), #[])
  | .ok b =>
    let steps : Assembly RelationSet := do
      Assembly.processSystem
      Assembly.processPlants
      Assembly.processFuels
      Assembly.processConnections
      Assembly.finish
    let (result, b) := (steps.run).run b
    (result, b.notes)

end EnergyModel
