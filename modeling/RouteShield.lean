import RouteShield.Lib.Table
import RouteShield.Lib.Binary64
import RouteShield.Lib.Runs
import RouteShield.Lib.Batch
import RouteShield.Lib.Prog
import RouteShield.Lib.Pool
import RouteShield.Lib.Rounds
import RouteShield.Lib.Outbox
import RouteShield.Lib.History
import RouteShield.Domain.Json
import RouteShield.Domain.Models
import RouteShield.Domain.Incident
import RouteShield.Domain.Recovery
import RouteShield.Lib.Sorted
import RouteShield.Domain.Ranking
import RouteShield.Domain.Policies
import RouteShield.Domain.Eligibility
import RouteShield.Domain.Records
import RouteShield.Domain.RiskEngine
import RouteShield.Api.Security
import RouteShield.Api.Scoring
import RouteShield.Api.EvidenceLoss
import RouteShield.Tools.LiveEvidence
import RouteShield.Tools.Providers
import RouteShield.Api.MissingReadings
import RouteShield.Store.Idempotency
import RouteShield.Store.InMemory
import RouteShield.Store.Postgres
import RouteShield.Store.ClaimLimit
import RouteShield.Store.Retention
import RouteShield.Store.Purge
import RouteShield.Store.Erase
import RouteShield.Store.Histories
import RouteShield.Store.TenantReads
import RouteShield.Store.Orphans
import RouteShield.Store.PurgeAgreement
import RouteShield.Store.LegalHolds
import RouteShield.Store.IdempotencyRuns
import RouteShield.Store.ReplayStability
import RouteShield.Api.Effects
import RouteShield.Tools.Evaluation
import RouteShield.Api.Access
import RouteShield.Api.Checks
import RouteShield.Api.Ingestion
import RouteShield.Api.Trips
import RouteShield.Api.Assess
import RouteShield.Api.Incidents
import RouteShield.Api.Memory
import RouteShield.Api.Decisions
import RouteShield.Api.Privacy
import RouteShield.Api.Notifications
import RouteShield.Api.Governance
import RouteShield.Api.Webhook
import RouteShield.Api.Controls
import RouteShield.Api.DecisionContract
import RouteShield.Api.Approval
import RouteShield.Api.Frame
import RouteShield.Workers.Retention
import RouteShield.Workers.Monitor
import RouteShield.Workers.Privacy
import RouteShield.Api.Requests
import RouteShield.Api.Footprint
import RouteShield.Api.HandlerFootprints
import RouteShield.Api.Events
import RouteShield.Api.Claims
import RouteShield.Api.Grants
import RouteShield.Api.Deliveries
import RouteShield.Api.Registers
import RouteShield.Api.HoldRuns
import RouteShield.Api.ProposalRuns
import RouteShield.Api.PreferenceRuns
import RouteShield.Api.LostUpdates
import RouteShield.Workers.HoldRace
import RouteShield.Workers.Windows
import RouteShield.Workers.DueJob
import RouteShield.Workers.WindowStages
import RouteShield.Workers.DueWindows
import RouteShield.Workers.Outbox
import RouteShield.Workers.OutboxHistory
import RouteShield.Workers.OutboxRequests
import RouteShield.Workers.OutboxRuns
import RouteShield.Workers.OutboxSends
import RouteShield.Workers.OutboxStore
import RouteShield.Workers.OutboxWorkers
import RouteShield.Agent.Conclusion
import RouteShield.Api.Constraints
import RouteShield.Api.Outcomes
import RouteShield.Api.EvidenceRuns
import RouteShield.Api.CandidateSets
import RouteShield.Domain.RankOrder
import RouteShield.Domain.Projection
import RouteShield.Api.Scorability
import RouteShield.Domain.DecimalScore
import RouteShield.Api.RiskMonotone
import RouteShield.Tools.ProviderRuns
import RouteShield.Tools.SharedCache
import RouteShield.Tools.FetchExits
import RouteShield.Tools.BreakerRuns
import RouteShield.Api.TripUpdates
import RouteShield.Api.Redaction
import RouteShield.Api.CsvVerdicts
import RouteShield.Domain.Itinerary
import RouteShield.Store.Itineraries
import RouteShield.Api.RateLimit
import RouteShield.Api.RetryAfter
import RouteShield.Store.ErasureFrame
import RouteShield.Lib.Separated
import RouteShield.Api.SharedKeys
import RouteShield.Domain.UuidText
import RouteShield.Tools.TenantKeys
import RouteShield.Lib.Utf8
import RouteShield.Api.SignedBodies
import RouteShield.Api.ProfileRetention
import RouteShield.Api.OutcomeRaces
import RouteShield.Api.DecisionRaces
import RouteShield.Api.IncidentPages
import RouteShield.Api.ReadIsolation
import RouteShield.Api.TravelerReads
import RouteShield.Agent.Resumption
import RouteShield.Api.GraphAgreement
import RouteShield.Api.KeyedRequests
import RouteShield.Api.Gateway
import RouteShield.Api.SharedLimit
import RouteShield.Lib.Mirror
import RouteShield.Lib.Lockstep
import RouteShield.Store.Mirrored
import RouteShield.Api.BackendAgreement
