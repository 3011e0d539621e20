import EnergyModel.Input.System
import EnergyModel.Input.Fuel
import EnergyModel.Input.Connection

/-!
# The input tables of a model

Everything a model is assembled from, read from one directory of CSV files: the system-wide
tables, then the power plants, the fuels and the connections, stopping at the first table that
cannot be read. Perturbations change these tables before a model is assembled; nothing else
does.
-/

namespace EnergyModel.Input

/-- The input tables of a model. -/
structure InputTables where
  system : SystemTables
  plants : PlantTables
  fuels : Catalog Fuel
  fuelsExisting : List ExistingCapacity
  connections : Catalog Connection
  connectionsExisting : List ExistingCapacity
  deriving Inhabited

/-- Reads every input table from a directory. -/
def loadInputs (files : FileTree Content) (dir : String) : Except Failure InputTables := do
  let system ← readSystemTables files dir
  let plants ← readPlantTables files dir
  let (fuels, fuelsExisting) ← readFuels files dir
  let (connections, connectionsExisting) ← readConnections files dir
  pure { system, plants, fuels, fuelsExisting, connections, connectionsExisting }

end EnergyModel.Input
