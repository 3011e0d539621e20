import EnergyModel.Decimal.Shortest
import EnergyModel.Decimal.Read
import EnergyModel.Decimal.Format
import EnergyModel.Text.Csv
import EnergyModel.Text.Visible
import EnergyModel.Text.Toml.Diagnostic
import EnergyModel.Text.Toml.Token
import EnergyModel.Text.Toml.Statement
import EnergyModel.Text.Toml.Datetime
import EnergyModel.Text.Toml.Scalar
import EnergyModel.Text.Toml.Document
import EnergyModel.Sql.Error
import EnergyModel.Fault
import EnergyModel.Sql.Number
import EnergyModel.Sql.Encoding
import EnergyModel.Sql.Value
import EnergyModel.Sql.Printf
import EnergyModel.Sql.Json
import EnergyModel.Sql.Token
import EnergyModel.Sql.Syntax
import EnergyModel.Sql.Sorting
import EnergyModel.Sql.Window
import EnergyModel.Sql.Plan
import EnergyModel.Sql.Grammar
import EnergyModel.Sql.Grammar.Statement
import EnergyModel.Sql.Function
import EnergyModel.Sql.Calendar
import EnergyModel.Sql.Resolve
import EnergyModel.Sql.Schema
import EnergyModel.Sql.Catalog
import EnergyModel.Sql.Eval
import EnergyModel.Sql.Row
import EnergyModel.Sql.Change
import EnergyModel.Sql.Define
import EnergyModel.Sql.Connection
import EnergyModel.Files
import EnergyModel.Journal
import EnergyModel.Session
import EnergyModel.Input.Cell
import EnergyModel.Input.Row
import EnergyModel.Input.Catalog
import EnergyModel.Input.System
import EnergyModel.Input.Plant
import EnergyModel.Input.Fuel
import EnergyModel.Input.Connection
import EnergyModel.Input.Tables
import EnergyModel.Scenario
import EnergyModel.Schedule
import EnergyModel.Model.Relation
import EnergyModel.Quantity
import EnergyModel.Technology
import EnergyModel.Model.Builder
import EnergyModel.Model.SystemRows
import EnergyModel.Model.TechnologyRows
import EnergyModel.Model.Assembly
import EnergyModel.Perturbation
import EnergyModel.Random
import EnergyModel.Cases
import EnergyModel.Identifier
import EnergyModel.Store
import EnergyModel.Build
import EnergyModel.Batch
import EnergyModel.Settings
import EnergyModel.CommandLine.Grammar
import EnergyModel.CommandLine.Similarity
import EnergyModel.CommandLine.Usage
import EnergyModel.CommandLine.Markdown
import EnergyModel.CommandLine.Parse
import EnergyModel.Examples.Simple
import EnergyModel.Program.Grammar
import EnergyModel.Program.Logging
import EnergyModel.Program.Commands
import EnergyModel.Program.Run
import EnergyModel.Sql.Dump
import EnergyModel.Program.Workspace
import EnergyModel.Main
import EnergyModel.Proofs.Assembly.Run
import EnergyModel.Proofs.Assembly.Steps
import EnergyModel.Proofs.Assembly.Whole
import EnergyModel.Proofs.Schedule
import EnergyModel.Proofs.Assembly.Rows
import EnergyModel.Proofs.Assembly.PerTechnology
import EnergyModel.Proofs.Assembly.Shared
import EnergyModel.Proofs.Assembly.Consistency
import EnergyModel.Proofs.Assembly.Keys
import EnergyModel.Proofs.Assembly.Gates
import EnergyModel.Proofs.Assembly.Order
import EnergyModel.Proofs.Assembly.TimeSlices
import EnergyModel.Proofs.Assembly.Registries
import EnergyModel.Proofs.Assembly.Outcome
import EnergyModel.Proofs.Assembly.Costs
import EnergyModel.Proofs.Perturbation.Effect
import EnergyModel.Proofs.Perturbation.Commute
import EnergyModel.Proofs.Perturbation.Frame
import EnergyModel.Proofs.Perturbation.Failure
import EnergyModel.Proofs.Perturbation.Cell
import EnergyModel.Proofs.Quantity
import EnergyModel.Proofs.Perturbation.Coupling
import EnergyModel.Proofs.Text.Csv
import EnergyModel.Proofs.Input.Cells
import EnergyModel.Proofs.Cases.Files
import EnergyModel.Proofs.Cases.Sensitivity
import EnergyModel.Proofs.Cases.MonteCarlo
import EnergyModel.Proofs.Binary64.Order
import EnergyModel.Proofs.Binary64.Rounding
import EnergyModel.Proofs.Assembly.Limits
import EnergyModel.Proofs.Schedule.Spec
import EnergyModel.Proofs.Assembly.Domain
import EnergyModel.Proofs.Assembly.CapacityFactors
import EnergyModel.Proofs.Binary64.Monotone
import EnergyModel.Proofs.Schedule.Monotone
import EnergyModel.Proofs.Assembly.Horizon
import EnergyModel.Proofs.Assembly.Retirement
import EnergyModel.Proofs.Assembly.Unregistered
import EnergyModel.Proofs.Input.Load
import EnergyModel.Proofs.Input.Scenario
import EnergyModel.Proofs.Cases.Targets
import EnergyModel.Proofs.Cases.Triangular
import EnergyModel.Proofs.Build.Recording
import EnergyModel.Proofs.Build.Untouched
import EnergyModel.Proofs.Build.Batch
import EnergyModel.Proofs.Sql.Tables
import EnergyModel.Proofs.Sql.PlainInsert
import EnergyModel.Proofs.Sql.CreateTable
import EnergyModel.Proofs.Store.Savepoints
import EnergyModel.Proofs.Store.Fresh
import EnergyModel.Proofs.Store.Written
