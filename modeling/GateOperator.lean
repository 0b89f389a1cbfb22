import GateOperator.Address.Basic
import GateOperator.Address.Reader
import GateOperator.Api.Call
import GateOperator.Api.Message
import GateOperator.Api.Recorder
import GateOperator.Api.Refusal
import GateOperator.Arguments.Basic
import GateOperator.Arguments.Command
import GateOperator.Arguments.Help
import GateOperator.Arguments.Scan
import GateOperator.Arguments.Settings
import GateOperator.Catalog.Basic
import GateOperator.Catalog.Load
import GateOperator.Catalog.Policy
import GateOperator.Catalog.Profile
import GateOperator.Cluster.Access
import GateOperator.Cluster.Basic
import GateOperator.Controller.Basic
import GateOperator.Controller.Schedule
import GateOperator.Data.Fields
import GateOperator.Data.NameMap
import GateOperator.Data.Names
import GateOperator.Data.Value
import GateOperator.Data.Word
import GateOperator.Decimal.Binary
import GateOperator.Decimal.Shortest
import GateOperator.Endpoint
import GateOperator.Event.Basic
import GateOperator.Event.Note
import GateOperator.Files.Basic
import GateOperator.Files.Tree
import GateOperator.Files.View
import GateOperator.History
import GateOperator.Json.MergePatch
import GateOperator.Json.Reader
import GateOperator.Json.Writer
import GateOperator.Log.Basic
import GateOperator.Log.Filter
import GateOperator.Log.Format
import GateOperator.Main
import GateOperator.Manifest
import GateOperator.Metrics.Basic
import GateOperator.Metrics.Exposition
import GateOperator.Object.ClusterOperator
import GateOperator.Object.ClusterVersion
import GateOperator.Object.Condition
import GateOperator.Object.FeatureGate
import GateOperator.Object.Gate
import GateOperator.Object.Infrastructure
import GateOperator.Object.Metadata
import GateOperator.Object.NodeConfig
import GateOperator.Object.Resource
import GateOperator.Object.Timestamp
import GateOperator.Pass.Basic
import GateOperator.Pass.FeatureGates
import GateOperator.Pass.Migration
import GateOperator.Pass.Publication
import GateOperator.Pass.Start
import GateOperator.Program.Basic
import GateOperator.Program.Launch
import GateOperator.Program.Run
import GateOperator.Proofs.Api.Patch
import GateOperator.Proofs.Api.Stored
import GateOperator.Proofs.Catalog.Build
import GateOperator.Proofs.Catalog.Earliest
import GateOperator.Proofs.Catalog.Faults
import GateOperator.Proofs.Catalog.Files
import GateOperator.Proofs.Catalog.Load
import GateOperator.Proofs.Catalog.Order
import GateOperator.Proofs.Catalog.Policy
import GateOperator.Proofs.Catalog.Requirements
import GateOperator.Proofs.Data.Fields
import GateOperator.Proofs.Data.Traversal
import GateOperator.Proofs.Event.Note
import GateOperator.Proofs.Files.Listing
import GateOperator.Proofs.Files.Path
import GateOperator.Proofs.Files.Rewriting
import GateOperator.Proofs.Files.Rounds
import GateOperator.Proofs.Files.Tree
import GateOperator.Proofs.Files.Walk
import GateOperator.Proofs.History.Merge
import GateOperator.Proofs.Interleaving.Basic
import GateOperator.Proofs.Interleaving.Conflict
import GateOperator.Proofs.Json.MergePatch
import GateOperator.Proofs.Object.Reading
import GateOperator.Proofs.Object.Types
import GateOperator.Proofs.Object.Written
import GateOperator.Proofs.Pass.Confluence
import GateOperator.Proofs.Pass.FeatureGates
import GateOperator.Proofs.Pass.Migration
import GateOperator.Proofs.Pass.Parts
import GateOperator.Proofs.Pass.Publication
import GateOperator.Proofs.Pass.Repetition
import GateOperator.Proofs.Render.Agreement
import GateOperator.Proofs.Render.Inputs
import GateOperator.Proofs.Render.Success
import GateOperator.Proofs.Resolution.Carried
import GateOperator.Proofs.Resolution.Checked
import GateOperator.Proofs.Resolution.Custom
import GateOperator.Proofs.Resolution.Failure
import GateOperator.Proofs.Resolution.Observation
import GateOperator.Proofs.Resolution.Order
import GateOperator.Proofs.Resolution.Partition
import GateOperator.Proofs.Resolution.Requirement
import GateOperator.Proofs.Resolution.Restated
import GateOperator.Proofs.Resolution.Selection
import GateOperator.Proofs.Resolution.Success
import GateOperator.Proofs.Schema.Written
import GateOperator.Proofs.Service.Basic
import GateOperator.Proofs.Service.Convergence
import GateOperator.Proofs.Service.Counters
import GateOperator.Proofs.Service.Degraded
import GateOperator.Proofs.Session.Basic
import GateOperator.Proofs.Session.Release
import GateOperator.Proofs.Status.Agreement
import GateOperator.Proofs.Status.Build
import GateOperator.Proofs.Status.Conditions
import GateOperator.Proofs.Status.Contents
import GateOperator.Proofs.Status.Degraded
import GateOperator.Proofs.Status.Recorded
import GateOperator.Proofs.Status.Restart
import GateOperator.Proofs.Status.Summary
import GateOperator.Proofs.Status.Transition
import GateOperator.Proofs.Status.Updates
import GateOperator.Proofs.Status.Versions
import GateOperator.Proofs.Succession.Basic
import GateOperator.Proofs.Succession.Record
import GateOperator.Proofs.Text.Quoted
import GateOperator.Proofs.Version.Precedence
import GateOperator.Render
import GateOperator.Render.Entries
import GateOperator.Resolution.Basic
import GateOperator.Resolution.Requirement
import GateOperator.Resolution.Selection
import GateOperator.Schema.Basic
import GateOperator.Schema.Definition
import GateOperator.Schema.Objects
import GateOperator.Status.Conditions
import GateOperator.Status.Degraded
import GateOperator.Status.Operator
import GateOperator.Text.CodePoints
import GateOperator.Text.Extending
import GateOperator.Text.Quoted
import GateOperator.Text.Unprintable
import GateOperator.Version.Basic
import GateOperator.Version.Parser
import GateOperator.Version.Precedence
import GateOperator.Yaml.Cursor
import GateOperator.Yaml.Node
import GateOperator.Yaml.Node.Grammar
import GateOperator.Yaml.Reader
import GateOperator.Yaml.Scalar
import GateOperator.Yaml.Token
import GateOperator.Yaml.Token.Block
import GateOperator.Yaml.Token.Lexer
import GateOperator.Yaml.Token.Quoted
import GateOperator.Yaml.Token.Tag
import GateOperator.Yaml.Writer
