import BigQmt.Prog
import BigQmt.Machine
import BigQmt.Rules
import BigQmt.Table
import BigQmt.BrokerEvidence
import BigQmt.Commands
import BigQmt.Database
import BigQmt.Leader
import BigQmt.Repository
import BigQmt.EvidenceJournal
import BigQmt.CommandResults
import BigQmt.Dispatches
import BigQmt.OrderWrites
import BigQmt.Txn
import BigQmt.JournalCases
import BigQmt.Spool
import BigQmt.World
import BigQmt.Service
import BigQmt.Permits
import BigQmt.Lifecycle
import BigQmt.AtMostOnce
import BigQmt.Protocol
import BigQmt.CommandSpool
import BigQmt.Mapper
import BigQmt.Runtime
import BigQmt.Bridge
import BigQmt.OmsLogic
import BigQmt.FillStatus
import BigQmt.Reservation
import BigQmt.Frames
import BigQmt.TerminalFacts
import BigQmt.SourceIdentity
import BigQmt.ResultEffects
import BigQmt.Lease
import BigQmt.Learning
import BigQmt.RuntimePrograms
import BigQmt.Fencing
import BigQmt.BridgePrograms
import BigQmt.Attestation
import BigQmt.Suppression
import BigQmt.Arrival
import BigQmt.Confluence
import BigQmt.DispatchPlans
import BigQmt.Folds
import BigQmt.Ingress
import BigQmt.EventFrames
import BigQmt.Resync
import BigQmt.ReadModel
import BigQmt.HealthyView
import BigQmt.HostIngestion
import BigQmt.Padded
import BigQmt.Gregorian
import BigQmt.UtcText
import BigQmt.EventSpool
import BigQmt.EventRetry
import BigQmt.EventOrder
import BigQmt.Operations
import BigQmt.AlertStore
import BigQmt.Telemetry
import BigQmt.Supervisor
import BigQmt.TelemetryWrites
import BigQmt.HealthHalt
import BigQmt.DispatchReview
import BigQmt.Runs
import BigQmt.Recovery
import BigQmt.AutoHalt
import BigQmt.AlertChronology
import BigQmt.ModeAudit
import BigQmt.HealthSync
import BigQmt.Traces
import BigQmt.CommandFormat
import BigQmt.SessionFuse
import BigQmt.LiveCanary
import BigQmt.CanaryFuse
import BigQmt.EventLedger
import BigQmt.Lines
import BigQmt.ArchiveFormat
import BigQmt.Archive
import BigQmt.ArchiveSafety
import BigQmt.ArchiveRoundTrip
import BigQmt.LatestWins
import BigQmt.HealthOrder
import BigQmt.MapperRows
import BigQmt.MapperLedger
import BigQmt.MapperErrors
import BigQmt.StaleAcceptance
import BigQmt.EventProgress
import BigQmt.SpoolLookup
import BigQmt.Checklist
import BigQmt.RiskModels
import BigQmt.RiskEngine
import BigQmt.RiskMonotone
import BigQmt.ExternalOrders
import BigQmt.RiskRuntime
import BigQmt.RiskTightening
import BigQmt.Lockstep
import BigQmt.AlertBoard
import BigQmt.TelemetryTwins
import BigQmt.TelemetryEquality
import BigQmt.ActiveQuery
import BigQmt.IdentityImport
import BigQmt.ImportAtomicity
import BigQmt.PathNames
import BigQmt.EarlyStop
import BigQmt.ReadyScan
import BigQmt.Folder
import BigQmt.PollConservation
import BigQmt.Decimals
import BigQmt.FactJournal
import BigQmt.DailyFacts
import BigQmt.FactTotals
import BigQmt.DailyTotals
import BigQmt.JsonText
import BigQmt.Canonical
import BigQmt.CommandLife
import BigQmt.CommandRules
import BigQmt.BridgeLife
import BigQmt.PlanOrders
import BigQmt.Authority
import BigQmt.BrokerAuthority
import BigQmt.OrderCalls
import BigQmt.Admission
import BigQmt.RuntimeBundle
import BigQmt.FreshFacts
import BigQmt.AcceptedIntents
