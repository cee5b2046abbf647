import ConsoleKeeper.Access.Backend
import ConsoleKeeper.Access.Pod
import ConsoleKeeper.Artifacts
import ConsoleKeeper.Assignment
import ConsoleKeeper.Cluster.Basic
import ConsoleKeeper.Cluster.Interface
import ConsoleKeeper.Cluster.Seeding
import ConsoleKeeper.Cluster.Store
import ConsoleKeeper.Command.Basic
import ConsoleKeeper.Command.Host
import ConsoleKeeper.Command.Output
import ConsoleKeeper.Command.Recorder
import ConsoleKeeper.Command.Supervision
import ConsoleKeeper.Command.Words
import ConsoleKeeper.Data.Basic
import ConsoleKeeper.Data.Json
import ConsoleKeeper.Data.Table
import ConsoleKeeper.Decision
import ConsoleKeeper.DryRun
import ConsoleKeeper.Failure.Basic
import ConsoleKeeper.Failure.Described
import ConsoleKeeper.Failure.Given
import ConsoleKeeper.Failure.Operator
import ConsoleKeeper.Files.Path
import ConsoleKeeper.Files.Tree
import ConsoleKeeper.Image
import ConsoleKeeper.Inventory
import ConsoleKeeper.Journal
import ConsoleKeeper.Journal.Calling
import ConsoleKeeper.Journal.Writing
import ConsoleKeeper.Main
import ConsoleKeeper.Number.Binary64
import ConsoleKeeper.Number.Decimal
import ConsoleKeeper.Operator.Basic
import ConsoleKeeper.Operator.Ownership
import ConsoleKeeper.Operator.Pass
import ConsoleKeeper.Operator.Playbook
import ConsoleKeeper.Operator.Start
import ConsoleKeeper.Operator.Watch
import ConsoleKeeper.Proofs.Act
import ConsoleKeeper.Proofs.Artifacts
import ConsoleKeeper.Proofs.Assignment
import ConsoleKeeper.Proofs.Failure.Given
import ConsoleKeeper.Proofs.Files.Tree
import ConsoleKeeper.Rehearsal
import ConsoleKeeper.Resource.Deployment
import ConsoleKeeper.Resource.Records
import ConsoleKeeper.Resource.WebUI
import ConsoleKeeper.Settings.Basic
import ConsoleKeeper.Settings.EnvFile
import ConsoleKeeper.Settings.File
import ConsoleKeeper.Settings.Layers
import ConsoleKeeper.Settings.Sources
import ConsoleKeeper.Settings.Variables
import ConsoleKeeper.Shell.Arithmetic
import ConsoleKeeper.Shell.Basic
import ConsoleKeeper.Shell.Evaluation
import ConsoleKeeper.Shell.Expansion
import ConsoleKeeper.Shell.Language
import ConsoleKeeper.Shell.Machine
import ConsoleKeeper.Shell.Opening
import ConsoleKeeper.Shell.Pattern
import ConsoleKeeper.Shell.Printing
import ConsoleKeeper.Shell.Program
import ConsoleKeeper.Shell.Script
import ConsoleKeeper.Shell.Session
import ConsoleKeeper.Shell.Signal
import ConsoleKeeper.Shell.Start
import ConsoleKeeper.Shell.Testing
import ConsoleKeeper.Shell.Token
import ConsoleKeeper.Shell.Tools
import ConsoleKeeper.Shell.Tools.Basic
import ConsoleKeeper.Shell.Tools.File
import ConsoleKeeper.Shell.Tools.Line
import ConsoleKeeper.Shell.Tools.Say
import ConsoleKeeper.Shell.Tools.Stretch
import ConsoleKeeper.Shell.Word
import ConsoleKeeper.Text.Case
import ConsoleKeeper.Text.Casing
import ConsoleKeeper.Text.Digits
import ConsoleKeeper.Text.Literal
import ConsoleKeeper.Text.Printable
import ConsoleKeeper.Text.Ranges
import ConsoleKeeper.Text.Split
import ConsoleKeeper.Text.Utf8
import ConsoleKeeper.Validation.Basic
import ConsoleKeeper.Validation.Scalar
import ConsoleKeeper.Version
import ConsoleKeeper.World
import ConsoleKeeper.Yaml.Coded
import ConsoleKeeper.Yaml.Cursor
import ConsoleKeeper.Yaml.Document
import ConsoleKeeper.Yaml.Node
import ConsoleKeeper.Yaml.Number
import ConsoleKeeper.Yaml.Scalar
import ConsoleKeeper.Yaml.Tag
import ConsoleKeeper.Yaml.Time
import ConsoleKeeper.Yaml.Token
import ConsoleKeeper.Yaml.Trouble
import ConsoleKeeper.Proofs.Operator.Playbook
import ConsoleKeeper.Proofs.Operator.Decision
import ConsoleKeeper.Proofs.Cluster.Store
import ConsoleKeeper.Proofs.Cluster.Seeding
import ConsoleKeeper.Proofs.Operator.Course
import ConsoleKeeper.Proofs.Image
import ConsoleKeeper.Proofs.Inventory
import ConsoleKeeper.Proofs.Journal.Calling
import ConsoleKeeper.Proofs.Text.Utf8
import ConsoleKeeper.Proofs.Files.Path
import ConsoleKeeper.Proofs.Agreement
import ConsoleKeeper.Proofs.Operator.Reporting
import ConsoleKeeper.Proofs.Cluster.Effect
import ConsoleKeeper.Proofs.Cluster.Edit
import ConsoleKeeper.Proofs.Command.Masking
import ConsoleKeeper.Proofs.Command.Recorder
import ConsoleKeeper.Proofs.DryRun
import ConsoleKeeper.Proofs.Workshop
import ConsoleKeeper.Proofs.Keeper
import ConsoleKeeper.Proofs.Stage
import ConsoleKeeper.Proofs.Lifecycle
import ConsoleKeeper.Proofs.DryRun.Passes
import ConsoleKeeper.Proofs.Operator.Alongside
import ConsoleKeeper.Proofs.Operator.Starts
import ConsoleKeeper.Proofs.Operator.Sequence
import ConsoleKeeper.Proofs.Operator.Advisory
import ConsoleKeeper.Proofs.Operator.Frame
import ConsoleKeeper.Proofs.Data.Fields
import ConsoleKeeper.Proofs.Reading
import ConsoleKeeper.Proofs.Rehearsal
import ConsoleKeeper.Proofs.Resource.Status
import ConsoleKeeper.Proofs.Resource.WebUI
import ConsoleKeeper.Proofs.Inventory.Outline
import ConsoleKeeper.Proofs.Resource.Deployment
import ConsoleKeeper.Proofs.Cluster.Interface
import ConsoleKeeper.Proofs.Cluster.Server
import ConsoleKeeper.Proofs.Operator.Contract
import ConsoleKeeper.Proofs.Cluster.Mirror
import ConsoleKeeper.Proofs.Operator.Mirror
import ConsoleKeeper.Proofs.Command.Lines
import ConsoleKeeper.Proofs.Text.Find
import ConsoleKeeper.Proofs.Command.Capping
import ConsoleKeeper.Proofs.Operator.Ownership
import ConsoleKeeper.Proofs.Operator.WriteBack
import ConsoleKeeper.Proofs.Command.Transcript
import ConsoleKeeper.Proofs.Command.Words
import ConsoleKeeper.Proofs.Data.Literal
import ConsoleKeeper.Proofs.Operator.Login
import ConsoleKeeper.Proofs.Resource.Deployed
import ConsoleKeeper.Proofs.Inventory.Dictionary
import ConsoleKeeper.Proofs.Command.Rounds
import ConsoleKeeper.Proofs.Command.Pieces
import ConsoleKeeper.Proofs.Command.Sizes
import ConsoleKeeper.Proofs.Command.Supervision
import ConsoleKeeper.Proofs.Command.Seams
import ConsoleKeeper.Proofs.Cluster.Ledger
import ConsoleKeeper.Proofs.Text.Cutting
import ConsoleKeeper.Proofs.Settings.Values
import ConsoleKeeper.Proofs.Settings.Merging
import ConsoleKeeper.Proofs.Settings.Nesting
import ConsoleKeeper.Proofs.Settings.Environment
import ConsoleKeeper.Proofs.Text.Case
import ConsoleKeeper.Proofs.Yaml.Document
import ConsoleKeeper.Proofs.Settings.Ranking
