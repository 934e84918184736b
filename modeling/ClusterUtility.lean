import ClusterUtility.Cluster.Answers
import ClusterUtility.Cluster.Basic
import ClusterUtility.Cluster.Commands
import ClusterUtility.Cluster.Event
import ClusterUtility.Cluster.Nodes
import ClusterUtility.Cluster.Registry
import ClusterUtility.Cluster.Transactions
import ClusterUtility.CommandLine.Arguments
import ClusterUtility.CommandLine.Grammar
import ClusterUtility.CommandLine.Run
import ClusterUtility.Completion
import ClusterUtility.Configuration
import ClusterUtility.Context
import ClusterUtility.Directory
import ClusterUtility.Dispatch
import ClusterUtility.Failure
import ClusterUtility.Gate
import ClusterUtility.Json.Basic
import ClusterUtility.Json.Binary64
import ClusterUtility.Json.Distinct
import ClusterUtility.Json.Printer
import ClusterUtility.Json.Reader
import ClusterUtility.Json.Record
import ClusterUtility.Main
import ClusterUtility.NodeSet
import ClusterUtility.Plan
import ClusterUtility.Program.Basic
import ClusterUtility.Program.Request
import ClusterUtility.Program.StandIn
import ClusterUtility.RelationKind
import ClusterUtility.RemoteRequest
import ClusterUtility.Report.Basic
import ClusterUtility.Report.Table
import ClusterUtility.Route
import ClusterUtility.Script
import ClusterUtility.Session
import ClusterUtility.Statement.Basic
import ClusterUtility.Statement.Encoding
import ClusterUtility.Statement.Kind
import ClusterUtility.Statement.LogClass
import ClusterUtility.Statement.Name
import ClusterUtility.Statement.Results
import ClusterUtility.Statement.Tag
import ClusterUtility.Statement.Vocabulary
import ClusterUtility.Text.Capital
import ClusterUtility.Text.Columns
import ClusterUtility.Text.Cut
import ClusterUtility.Text.Emoji
import ClusterUtility.Text.Following
import ClusterUtility.Text.Identifier
import ClusterUtility.Text.Ligature
import ClusterUtility.Text.Mark
import ClusterUtility.Text.Quoted
import ClusterUtility.Text.Ranges
import ClusterUtility.Text.Reserved
import ClusterUtility.Text.Width
import ClusterUtility.Topology
import ClusterUtility.Transaction.Barrier
import ClusterUtility.Transaction.BeginQuery
import ClusterUtility.Transaction.Status
import ClusterUtility.Transaction.TwoPhase
import ClusterUtility.Proofs.Cluster.History
import ClusterUtility.Proofs.Cluster.Perform
import ClusterUtility.Proofs.Cluster.Reaction
import ClusterUtility.Proofs.Dispatch.Command
import ClusterUtility.Proofs.Dispatch.Reach
import ClusterUtility.Proofs.Transaction.Effect
import ClusterUtility.Proofs.Transaction.Prepare
import ClusterUtility.Proofs.Transaction.Finish
import ClusterUtility.Proofs.Transaction.Concern
import ClusterUtility.Proofs.Cluster.Run
import ClusterUtility.Proofs.Transaction.Moved
import ClusterUtility.Proofs.Transaction.Sound
import ClusterUtility.Proofs.Transaction.Agreement
import ClusterUtility.Proofs.Transaction.Atomicity
import ClusterUtility.Proofs.Transaction.Resumption
import ClusterUtility.Proofs.Transaction.Progress
import ClusterUtility.Proofs.Transaction.FailedPrepare
import ClusterUtility.Proofs.Transaction.Stranded
import ClusterUtility.Proofs.Program.Exchange
import ClusterUtility.Proofs.Transaction.CommitPoint
import ClusterUtility.Proofs.Cluster.Session
import ClusterUtility.Proofs.Cluster.Block
import ClusterUtility.Proofs.Transaction.CatalogWork
import ClusterUtility.Proofs.Cluster.Answer
import ClusterUtility.Proofs.Dispatch.Outgoing
import ClusterUtility.Proofs.Dispatch.Nested
import ClusterUtility.Proofs.Dispatch.FanOut
import ClusterUtility.Proofs.Transaction.Enlisted
import ClusterUtility.Proofs.Barrier.Course
import ClusterUtility.Proofs.Barrier.Phases
import ClusterUtility.Proofs.Dispatch.Refusal
import ClusterUtility.Proofs.Dispatch.Cause
import ClusterUtility.Proofs.Dispatch.Explained
import ClusterUtility.Proofs.Dispatch.PartialEffects
import ClusterUtility.Proofs.Transaction.FailedBlock
import ClusterUtility.Proofs.Cluster.Coherent
import ClusterUtility.Proofs.Dispatch.Expansion
import ClusterUtility.Proofs.Dispatch.Unending
import ClusterUtility.Proofs.Dispatch.Recursion
import ClusterUtility.Proofs.Statement.LookThrough
import ClusterUtility.Proofs.Dispatch.Classified
import ClusterUtility.Proofs.Program.Meets
import ClusterUtility.Proofs.Program.Alike
import ClusterUtility.Proofs.Transaction.LifeCycle
import ClusterUtility.Proofs.Transaction.Restart
import ClusterUtility.Proofs.Cluster.Catalog
import ClusterUtility.Proofs.Cluster.CatalogKeys
import ClusterUtility.Proofs.Dispatch.Work
import ClusterUtility.Proofs.Dispatch.Forwarding
import ClusterUtility.Proofs.Json.Fields
import ClusterUtility.Proofs.Statement.Records
import ClusterUtility.Proofs.Statement.RoundTrip
import ClusterUtility.Proofs.Program.Commute
import ClusterUtility.Proofs.Transaction.Commute
import ClusterUtility.Proofs.Transaction.NothingToPrepare
import ClusterUtility.Proofs.Dispatch.Barred
import ClusterUtility.Proofs.Dispatch.Features
import ClusterUtility.Proofs.Dispatch.ReadOnly
import ClusterUtility.Proofs.Dispatch.CommonGroup
import ClusterUtility.Proofs.Dispatch.Tells
import ClusterUtility.Proofs.Dispatch.TagFree
import ClusterUtility.Proofs.Dispatch.Completion
import ClusterUtility.Proofs.Dispatch.Quoting
import ClusterUtility.Proofs.Cluster.Journal
import ClusterUtility.Proofs.Program.Retold
import ClusterUtility.Proofs.Dispatch.OpaqueText
import ClusterUtility.Proofs.Dispatch.Sighted
import ClusterUtility.Proofs.Dispatch.Interception
import ClusterUtility.Proofs.Dispatch.LocalNode
import ClusterUtility.Proofs.Transaction.Savepoints
import ClusterUtility.Proofs.Transaction.BeginQuery
import ClusterUtility.Proofs.Text.CompletionTag
import ClusterUtility.Proofs.Json.Continued
import ClusterUtility.Proofs.Script.Forms
