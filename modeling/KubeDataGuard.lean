import KubeDataGuard.General.Runs
import KubeDataGuard.General.Keyset
import KubeDataGuard.General.Versions
import KubeDataGuard.General.Tally
import KubeDataGuard.General.Watermark
import KubeDataGuard.General.Places
import KubeDataGuard.General.Texts
import KubeDataGuard.General.Delivery
import KubeDataGuard.General.TextOrder
import KubeDataGuard.General.Exposition
import KubeDataGuard.General.MergePatch
import KubeDataGuard.General.Options
import KubeDataGuard.General.Retention
import KubeDataGuard.Json
import KubeDataGuard.Doubles
import KubeDataGuard.Digest
import KubeDataGuard.Time
import KubeDataGuard.Calendar
import KubeDataGuard.Worker.Report
import KubeDataGuard.Worker.Python
import KubeDataGuard.Worker.Frontier
import KubeDataGuard.Worker.Orders
import KubeDataGuard.Worker.Merkle
import KubeDataGuard.Worker.Compare
import KubeDataGuard.Worker.Scan
import KubeDataGuard.Worker.Query
import KubeDataGuard.Worker.ScanLoss
import KubeDataGuard.Worker.Coverage
import KubeDataGuard.Worker.Checksum
import KubeDataGuard.Worker.Checker
import KubeDataGuard.Worker.Replica
import KubeDataGuard.Worker.LagWindow
import KubeDataGuard.Worker.LostUpdate
import KubeDataGuard.Worker.Job
import KubeDataGuard.Worker.Indexer
import KubeDataGuard.Worker.Outbox
import KubeDataGuard.Worker.Analytics
import KubeDataGuard.Worker.Markdown
import KubeDataGuard.Worker.ReportStore
import KubeDataGuard.Worker.Endless
import KubeDataGuard.Worker.Resume
import KubeDataGuard.Worker.Reexamine
import KubeDataGuard.Worker.Verification
import KubeDataGuard.Worker.Hierarchy
import KubeDataGuard.Worker.DrillDown
import KubeDataGuard.Worker.Candidates
import KubeDataGuard.Worker.LocalProof
import KubeDataGuard.Worker.Handoff
import KubeDataGuard.Worker.DirectRepair
import KubeDataGuard.Worker.OffsetEvidence
import KubeDataGuard.Worker.Freshness
import KubeDataGuard.Worker.TargetQuery
import KubeDataGuard.Worker.RowOrder
import KubeDataGuard.Worker.Checkpoints
import KubeDataGuard.Worker.Rendering
import KubeDataGuard.Worker.EqualData
import KubeDataGuard.Worker.Watermarks
import KubeDataGuard.Worker.Metrics
import KubeDataGuard.Worker.Config
import KubeDataGuard.Worker.Requests
import KubeDataGuard.Worker.Publishing
import KubeDataGuard.Worker.Retained
import KubeDataGuard.Worker.Generator
import KubeDataGuard.Worker.OrderFlow
import KubeDataGuard.Worker.Bounded
import KubeDataGuard.Worker.AtOnce
import KubeDataGuard.Worker.Mirrored
import KubeDataGuard.Worker.CacheFrontier
import KubeDataGuard.Operator.Objects
import KubeDataGuard.Operator.Names
import KubeDataGuard.Operator.Schedule
import KubeDataGuard.Operator.Policy
import KubeDataGuard.Operator.Status
import KubeDataGuard.Operator.JobSpec
import KubeDataGuard.Operator.Reconcile
import KubeDataGuard.Operator.Cluster
import KubeDataGuard.Operator.Publication
import KubeDataGuard.Operator.FirstCheck
import KubeDataGuard.Operator.Healthy
import KubeDataGuard.Operator.Incarnation
import KubeDataGuard.Operator.Authorisation
import KubeDataGuard.Operator.OneJob
import KubeDataGuard.Operator.Branches
import KubeDataGuard.Operator.FanOut
import KubeDataGuard.Operator.ScheduledCheck
import KubeDataGuard.Operator.Requeue
import KubeDataGuard.Operator.SlowCheck
import KubeDataGuard.Operator.RepairOverlap
import KubeDataGuard.Operator.Rotation
import KubeDataGuard.Operator.Race
import KubeDataGuard.Operator.Telemetry
import KubeDataGuard.Operator.Settled
import KubeDataGuard.Operator.InvalidReport
import KubeDataGuard.Operator.Labels
import KubeDataGuard.Operator.Slots
import KubeDataGuard.Operator.Settings
import KubeDataGuard.Operator.ActionConfig
import KubeDataGuard.Operator.Environment
import KubeDataGuard.Operator.StatusValues
import KubeDataGuard.Operator.LabelForm
import KubeDataGuard.Operator.StatusPatch
import KubeDataGuard.Operator.CommandLine
import KubeDataGuard.Operator.WorkerSettings
import KubeDataGuard.Operator.Synthetic
import KubeDataGuard.Operator.Modes
import KubeDataGuard.Operator.Declared
import KubeDataGuard.Operator.TypedStatuses
import KubeDataGuard.Deployment
