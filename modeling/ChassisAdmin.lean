import ChassisAdmin.Chassis
import ChassisAdmin.Check.Commands
import ChassisAdmin.Check.Mismatch
import ChassisAdmin.Check.Records
import ChassisAdmin.CommandLine.Command
import ChassisAdmin.CommandLine.Failure
import ChassisAdmin.CommandLine.Grammar
import ChassisAdmin.CommandLine.Parse
import ChassisAdmin.CommandLine.Request
import ChassisAdmin.CommandLine.Run
import ChassisAdmin.CommandLine.Usage
import ChassisAdmin.Config
import ChassisAdmin.Credentials
import ChassisAdmin.Fabric
import ChassisAdmin.Fields
import ChassisAdmin.FileError
import ChassisAdmin.Files.Path
import ChassisAdmin.Files.Slot
import ChassisAdmin.Guard
import ChassisAdmin.Json
import ChassisAdmin.Keyed
import ChassisAdmin.Main
import ChassisAdmin.Module.AdminStatus
import ChassisAdmin.Module.Error
import ChassisAdmin.Module.Name
import ChassisAdmin.Module.Record
import ChassisAdmin.Platform.Detect
import ChassisAdmin.Platform.Info
import ChassisAdmin.Program
import ChassisAdmin.Remote.Error
import ChassisAdmin.Remote.Provision
import ChassisAdmin.Remote.Session
import ChassisAdmin.Report
import ChassisAdmin.Scenario
import ChassisAdmin.Service
import ChassisAdmin.Shell.Arithmetic
import ChassisAdmin.Shell.Builtin
import ChassisAdmin.Shell.Interpreter
import ChassisAdmin.Shell.Quote
import ChassisAdmin.Shell.Result
import ChassisAdmin.Shell.Script
import ChassisAdmin.Shell.Token
import ChassisAdmin.Shell.Word
import ChassisAdmin.Simulation.FileTree
import ChassisAdmin.Simulation.FlakyStore
import ChassisAdmin.Simulation.Machine
import ChassisAdmin.Simulation.RedisServer
import ChassisAdmin.Simulation.Rehearsal
import ChassisAdmin.Simulation.RemoteHosts
import ChassisAdmin.Simulation.RemoteScript
import ChassisAdmin.Simulation.Services
import ChassisAdmin.StatusTable
import ChassisAdmin.Store.Call
import ChassisAdmin.Store.Database
import ChassisAdmin.Store.Memory
import ChassisAdmin.Store.Redis
import ChassisAdmin.Store.Engine
import ChassisAdmin.SystemError
import ChassisAdmin.Text.Blank
import ChassisAdmin.Text.Decimal
import ChassisAdmin.Text.DecimalDigit
import ChassisAdmin.Text.Escaped
import ChassisAdmin.Text.Glob
import ChassisAdmin.Text.Magnitude
import ChassisAdmin.Text.Printable
import ChassisAdmin.Text.Scan
import ChassisAdmin.Text.Split
import ChassisAdmin.Text.UpperCase
import ChassisAdmin.Text.Utf8
import ChassisAdmin.Time.Calendar
import ChassisAdmin.Time.DateTime
import ChassisAdmin.Time.Timestamp
import ChassisAdmin.Toml.Document
import ChassisAdmin.Toml.Quoted
import ChassisAdmin.Toml.Scalar
import ChassisAdmin.Toml.Table
import ChassisAdmin.Toml.Value
import ChassisAdmin.Proofs.Text.Numerals
import ChassisAdmin.Proofs.Time.Calendar
import ChassisAdmin.Proofs.Time.Timestamp
import ChassisAdmin.Proofs.Guard.Request
import ChassisAdmin.Proofs.Guard.Operation
import ChassisAdmin.Proofs.Guard.Ledger
import ChassisAdmin.Proofs.Guard.Exclusion
import ChassisAdmin.Proofs.Guard.Stage
import ChassisAdmin.Proofs.Guard.Pairing
import ChassisAdmin.Proofs.Guard.Interleaving
import ChassisAdmin.Proofs.Fabric.Leaves
import ChassisAdmin.Proofs.Fabric.Plant
import ChassisAdmin.Proofs.Fabric.Recovery
import ChassisAdmin.Proofs.Guard.Retry
import ChassisAdmin.Proofs.Fabric.Course
import ChassisAdmin.Proofs.Fabric.Order
import ChassisAdmin.Proofs.Fabric.Removal
import ChassisAdmin.Proofs.Fabric.Seeded
import ChassisAdmin.Proofs.Guard.Independence
import ChassisAdmin.Proofs.Guard.Tracking
import ChassisAdmin.Proofs.Text.ByteOrder
import ChassisAdmin.Proofs.Text.Boundary
import ChassisAdmin.Proofs.Text.BytePattern
import ChassisAdmin.Proofs.Store.Server
import ChassisAdmin.Proofs.Store.Mirror
import ChassisAdmin.Proofs.Store.Backends
import ChassisAdmin.Proofs.Store.Expression
import ChassisAdmin.Proofs.CommandLine.Surroundings
import ChassisAdmin.Proofs.Fabric.Failures
import ChassisAdmin.Proofs.CommandLine.Reconciling
import ChassisAdmin.Proofs.CommandLine.Account
import ChassisAdmin.Proofs.Time.Offset
import ChassisAdmin.Proofs.Text.Lines
import ChassisAdmin.Proofs.Text.Trimmed
import ChassisAdmin.Proofs.Text.UpperCase
import ChassisAdmin.Proofs.Credentials
import ChassisAdmin.Proofs.Credentials.Added
import ChassisAdmin.Proofs.Shell.Quoted
import ChassisAdmin.Proofs.Remote.Installation
import ChassisAdmin.Proofs.Remote.Trials
import ChassisAdmin.Proofs.Remote.Undo
import ChassisAdmin.Proofs.Remote.FallThrough
import ChassisAdmin.Proofs.Remote.Silence
import ChassisAdmin.Proofs.Remote.Channel
import ChassisAdmin.Proofs.Shell.Enclosed
import ChassisAdmin.Proofs.Fabric.Waiting
import ChassisAdmin.Proofs.Fabric.Observed
import ChassisAdmin.Proofs.Fabric.Numbered
import ChassisAdmin.Proofs.Chassis.Statuses
import ChassisAdmin.Proofs.Chassis.Naming
import ChassisAdmin.Proofs.Platform.Inventory
import ChassisAdmin.Proofs.CommandLine.Visits
import ChassisAdmin.Proofs.CommandLine.Logins
import ChassisAdmin.Proofs.StatusTable
import ChassisAdmin.Proofs.Fabric.Told
import ChassisAdmin.Proofs.Platform.Index
import ChassisAdmin.Proofs.Store.Engine
import ChassisAdmin.Proofs.Fields.Changes
import ChassisAdmin.Proofs.Text.Entries
import ChassisAdmin.Proofs.Platform.Interfaces
import ChassisAdmin.Proofs.Scenario
