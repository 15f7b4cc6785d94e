import IncidentAwareness.Stream.RunClose
import IncidentAwareness.Lib.Chain
import IncidentAwareness.Lib.Interleaving
import IncidentAwareness.Persistence.Database
import IncidentAwareness.Persistence.Persist
import IncidentAwareness.Persistence.DatabaseSpec
import IncidentAwareness.Persistence.PersistSpec
import IncidentAwareness.Persistence.Lifecycle
import IncidentAwareness.Worker.Standalone
import IncidentAwareness.Worker.Receipts
import IncidentAwareness.Worker.RunContents
import IncidentAwareness.Worker.DistinctRuns
import IncidentAwareness.Evidence.Selector
import IncidentAwareness.Position.Export
import IncidentAwareness.Position.Snapshot
import IncidentAwareness.Fusion.Agreement
import IncidentAwareness.Fusion.Causal
import IncidentAwareness.Fusion.Closure
import IncidentAwareness.Archive.Runtime
import IncidentAwareness.Lib.Process
import IncidentAwareness.Archive.Outbox
import IncidentAwareness.Archive.Worker
import IncidentAwareness.Archive.OutboxSpec
import IncidentAwareness.Lib.Files
import IncidentAwareness.Stream.DeadLetter
import IncidentAwareness.Spool.Consume
import IncidentAwareness.Spool.ConsumeSpec
import IncidentAwareness.Spool.CommitBeforeAck
import IncidentAwareness.Position.SnapshotSpec
import IncidentAwareness.Seal.Boundary
import IncidentAwareness.Seal.CloseProof
import IncidentAwareness.Seal.CloseProofSpec
import IncidentAwareness.Seal.PositionProof
import IncidentAwareness.Seal.PositionProofSpec
import IncidentAwareness.Seal.Handoff
import IncidentAwareness.Seal.Interference
import IncidentAwareness.Evidence.MultiEvent
import IncidentAwareness.Seal.HandoffSpec
import IncidentAwareness.Evidence.Pipeline
import IncidentAwareness.Evidence.PipelineSpec
import IncidentAwareness.Evidence.Extractor
import IncidentAwareness.Integration.ReplayWindow
import IncidentAwareness.Integration.ReplayWindowSpec
import IncidentAwareness.Stream.Guard
import IncidentAwareness.Stream.GuardSpec
import IncidentAwareness.Lib.Focus
import IncidentAwareness.Worker.Versions
import IncidentAwareness.Archive.Fleet
import IncidentAwareness.Archive.FleetSpec
import IncidentAwareness.Archive.FleetRuns
import IncidentAwareness.Dashboard.CurrentDecision
import IncidentAwareness.Dashboard.StableRead
import IncidentAwareness.Artifacts.PublishFiles
import IncidentAwareness.Artifacts.PublishFilesSpec
import IncidentAwareness.Artifacts.R1Evidence
import IncidentAwareness.Artifacts.R1EvidenceSpec
import IncidentAwareness.Decision.Hybrid
import IncidentAwareness.Fusion.Episodes
import IncidentAwareness.Fusion.EpisodeLaws
import IncidentAwareness.Dashboard.DecisionHistory
import IncidentAwareness.Evidence.SelectorLaws
import IncidentAwareness.Archive.PublicationStates
import IncidentAwareness.Archive.Redelivery
import IncidentAwareness.Incremental.State
import IncidentAwareness.Incremental.Entry
import IncidentAwareness.Incremental.Atomic
import IncidentAwareness.Common.PyValue
import IncidentAwareness.Lib.Findings
import IncidentAwareness.Collection.Records
import IncidentAwareness.Collection.S0Artifacts
import IncidentAwareness.Collection.S0Spec
import IncidentAwareness.Archive.RuntimeConvergence
import IncidentAwareness.Telemetry.Snapshot
import IncidentAwareness.Telemetry.Store
import IncidentAwareness.Lib.Query
import IncidentAwareness.Telemetry.ReadWindow
import IncidentAwareness.Telemetry.StoreSpec
import IncidentAwareness.Dashboard.TelemetryReadModel
import IncidentAwareness.Telemetry.WindowSpec
import IncidentAwareness.Dashboard.TelemetryReadSpec
import IncidentAwareness.Telemetry.Collector
import IncidentAwareness.Telemetry.Session
import IncidentAwareness.Telemetry.SessionSpec
import IncidentAwareness.Lib.Json
import IncidentAwareness.Pipeline.OperationalTrace
import IncidentAwareness.Pipeline.OperationalTraceSpec
import IncidentAwareness.Detection.FastHits
import IncidentAwareness.Detection.FastHitsSpec
import IncidentAwareness.Evaluation.ResultInputs
import IncidentAwareness.Lib.Sessions
import IncidentAwareness.Detection.FastEpisodes
import IncidentAwareness.Detection.FastEpisodesSpec
import IncidentAwareness.Fusion.DateRange
import IncidentAwareness.Fusion.WindowSpec
import IncidentAwareness.Evidence.EncodedOption
import IncidentAwareness.Evidence.LineageShapes
import IncidentAwareness.Collection.R1Lineage
import IncidentAwareness.Collection.R1LineageSpec
import IncidentAwareness.Dashboard.SelectedRun
import IncidentAwareness.Dashboard.SelectedRunPage
import IncidentAwareness.Dashboard.SelectedRunSpec
import IncidentAwareness.Lib.Csv
import IncidentAwareness.Lib.Trees
import IncidentAwareness.Preservation.Bundle
import IncidentAwareness.Preservation.Preserve
import IncidentAwareness.Preservation.BundleSpec
import IncidentAwareness.Preservation.PreserveSpec
import IncidentAwareness.Evaluation.DatasetUsage
import IncidentAwareness.Evaluation.SplitManifest
import IncidentAwareness.Evaluation.SplitManifestSpec
import IncidentAwareness.Evidence.PipelineOrder
import IncidentAwareness.Incremental.Contents
import IncidentAwareness.Incremental.LedgerCoverage
import IncidentAwareness.Archive.FleetDelivery
import IncidentAwareness.Preservation.PreservedRuns
