import Mathlib.Data.Nat.Pairing
import RouteShield.Lib.Prog
import RouteShield.Domain.Policies
import RouteShield.Store.Erase
import RouteShield.Store.Purge

/-!
What a handler of the service can do: read the clock, draw an identifier, call the
repository, and ask the collaborators outside it (evidence collection, the investigation
graph, object storage, the senders of notifications and actions). Every effect takes one tick; what
the clock and the collaborators answer at a tick is given by the environment. A backend executes the
repository calls; the two repositories are the two backends.
-/

namespace RouteShield

inductive DemoScenario where
  | normal | disruption | sourceOutage
  deriving DecidableEq

structure BookingWebhookEvent where
  messageId : String
  tenantId : String
  eventType : String
  occurredAt : Time
  tripId : Option Uuid := none
  data : JsonObject := []
  deriving DecidableEq

/-- The fields a settings change supplies. -/
structure TravelerPreferenceUpdate where
  preferredAirports : Option (List String) := none
  preferredCarriers : Option (List String) := none
  cabinOrSeatPreference : Option String := none
  minimumConnectionMinutes : Option ℕ := none
  avoidOvernightConnections : Option Bool := none
  approvedGroundTransportPreferences : Option (List String) := none
  notificationChannel : Option String := none
  language : Option String := none
  approvedAccessibilityAccommodations : Option (List String) := none
  consentVersion : String
  deriving DecidableEq

/-- What a request fingerprint is taken of, before it is dumped to JSON. -/
inductive Payload where
  | contentSha256 (digest : String)
  | booking (event : BookingWebhookEvent)
  | trip (body : TripCreate)
  | candidates (body : List RecoveryCandidate)
  | outcome (body : RecoveryCandidateOutcomeUpdate)
  | manager (managerId : String)
  | evidence (body : List EvidenceEnvelope)
  | scenario (scenario : Option DemoScenario)
  | approval (body : ApprovalRequest)
  | incident (incidentId : Uuid)
  | preferences (body : TravelerPreferenceUpdate)
  | memoryProposal (body : MemoryUpdateProposal)
  | actor (actorId : String)
  | legalHold (body : LegalHoldRecord)
  | releaseReason (reason : String)
  | deletionRequest (body : DeletionRequest)
  | notification (body : NotificationCreate)
  | changeRecord (body : ChangeRecord)
  | control (body : RuntimeControlUpdate)
  | playbook (body : TenantPlaybookCreate)
  | onboarding (body : ProviderOnboardingRecord)
  | window (tripId : Uuid) (window : String)
  deriving DecidableEq

/-- A response body, before it is dumped to JSON. -/
inductive Response where
  | csvImport (validatedRows : ℕ) (originalUploadId : Uuid)
  | accepted (messageId : String) (eventId : Uuid) (tripId assessmentId : Option Uuid)
      (materialChange : Option String)
  | trip (body : Trip)
  | candidateSet (body : RecoveryCandidateSet)
  | assessment (body : AssessmentResult)
  | approval (body : ApprovalRecord)
  | profile (body : TravelerPreferenceProfile)
  | memoryProposal (body : MemoryUpdateProposal)
  | legalHold (body : LegalHoldRecord)
  | deletionRequest (body : DeletionRequest)
  | notification (body : NotificationRecord)
  | changeRecord (body : ChangeRecord)
  | controlChange (body : RuntimeControlChange)
  | platformControlChange (body : PlatformRuntimeControlChange)
  | playbook (body : TenantPlaybook)
  | onboarding (body : ProviderOnboardingRecord)
  | dueAssessment (tripId : Uuid) (window : String) (assessmentId : Uuid)
  | noContent
  deriving DecidableEq

abbrev MutationRecord := IdempotencyRecord Response

/-! ### Repository calls -/

/-- The repository's methods that the mutating handlers and the jobs call. -/
inductive RepoOp : Type → Type where
  | createTrip (trip : Trip) : RepoOp Unit
  | saveTrip (trip : Trip) : RepoOp Unit
  | getTrip (tenantId : String) (tripId : Uuid) : RepoOp (Option Trip)
  | listTrips : RepoOp (List Trip)
  | saveEvidence (tenantId : String) (tripId : Uuid) (evidence : List EvidenceEnvelope) :
      RepoOp Unit
  | getEvidence (tenantId : String) (tripId : Uuid) : RepoOp (List EvidenceEnvelope)
  | saveAssessment (tenantId : String) (assessment : RiskAssessment) : RepoOp Unit
  | saveIncident (incident : Incident) : RepoOp Unit
  | getIncident (tenantId : String) (incidentId : Uuid) : RepoOp (Option Incident)
  | saveApproval (approval : ApprovalRecord) : RepoOp Unit
  | saveCandidateSet (tenantId : String) (candidateSet : RecoveryCandidateSet) : RepoOp Unit
  | getCandidateSet (tenantId : String) (incidentId candidateSetId : Uuid) :
      RepoOp (Option RecoveryCandidateSet)
  | recordCandidateOutcome (tenantId : String) (outcome : RecoveryCandidateOutcome) : RepoOp Unit
  | listCandidateOutcomes (tenantId : String) (candidateSetId : Uuid) :
      RepoOp (List RecoveryCandidateOutcome)
  | saveManagerFeedback (feedback : ManagerFeedback) : RepoOp Unit
  | saveActionDispatch (action : ActionDispatchRecord) : RepoOp Unit
  | claimDueActionDispatches (request : LeaseRequest) : RepoOp (List ActionDispatchRecord)
  | completeActionDispatch (action : ActionDispatchRecord) (attempt : ActionDispatchAttempt)
      (claimId : Uuid) : RepoOp (Option ActionDispatchRecord)
  | recordActionDispatchAttempt (attempt : ActionDispatchAttempt) : RepoOp Unit
  | claimIdempotency (claim : Claim) : RepoOp (IdempotencyDisposition × MutationRecord)
  | completeIdempotency (completion : Completion Response) : RepoOp MutationRecord
  | recordEvent (event : EventRecord) : RepoOp Unit
  | recordMemoryAudit (event : MemoryAuditEvent) : RepoOp Unit
  | getProfile (tenantId travelerId : String) : RepoOp (Option TravelerPreferenceProfile)
  | saveProfile (profile : TravelerPreferenceProfile) : RepoOp Unit
  | saveMemoryProposal (proposal : MemoryUpdateProposal) : RepoOp Unit
  | getMemoryProposal (tenantId : String) (proposalId : Uuid) : RepoOp (Option MemoryUpdateProposal)
  | deleteTravelerMemory (tenantId travelerId : String) : RepoOp (ℕ × ℕ)
  | getPlaybook (tenantId : String) (playbookId : Uuid) : RepoOp (Option TenantPlaybook)
  | savePlaybook (playbook : TenantPlaybook) : RepoOp TenantPlaybook
  | listApprovedPlaybooks (tenantId : String) : RepoOp (List TenantPlaybook)
  | saveNotification (notification : NotificationRecord) : RepoOp Unit
  | getNotification (tenantId : String) (notificationId : Uuid) : RepoOp (Option NotificationRecord)
  | claimDueNotifications (request : LeaseRequest) : RepoOp (List NotificationRecord)
  | completeNotificationDelivery (notification : NotificationRecord)
      (attempt : NotificationAttempt) (claimId : Uuid) : RepoOp (Option NotificationRecord)
  | recordNotificationAttempt (attempt : NotificationAttempt) : RepoOp Unit
  | saveChangeRecord (record : ChangeRecord) : RepoOp Unit
  | saveProviderOnboarding (record : ProviderOnboardingRecord) : RepoOp Unit
  | getRuntimeControlOverride (tenantId : String) (controlName : RuntimeControlName) :
      RepoOp (Option RuntimeControlChange)
  | saveRuntimeControlChange (record : RuntimeControlChange) : RepoOp Unit
  | getPlatformControlOverride (controlName : RuntimeControlName) :
      RepoOp (Option PlatformRuntimeControlChange)
  | savePlatformControlChange (record : PlatformRuntimeControlChange) : RepoOp Unit
  | saveOriginalUpload (record : OriginalUploadRecord) : RepoOp Unit
  | saveLegalHold (hold : LegalHoldRecord) : RepoOp Unit
  | getLegalHold (tenantId : String) (legalHoldId : Uuid) : RepoOp (Option LegalHoldRecord)
  /-- At a time of the caller's, or at the time of the call. -/
  | activeLegalHoldsForTraveler (tenantId travelerId : String) (timestamp : Option Time := none) :
      RepoOp (List LegalHoldRecord)
  | saveDeletionRequest (request : DeletionRequest) : RepoOp Unit
  | listPendingDeletionRequests : RepoOp (List DeletionRequest)
  | eraseTravelerData (tenantId travelerId : String) (scope : DeletionRequestScope) :
      RepoOp DeletionCounts
  | purgeExpired (cutoffs : Cutoffs) : RepoOp PurgeCounts

/-- A state and the calls on it, each one transaction at one time with fresh identifiers. -/
structure Backend where
  State : Type
  exec : {α : Type} → RepoOp α → Time → (ℕ → Uuid) → State → Except Fault α × State

/-- A write that may fail leaves the state when it does. -/
def committed {σ : Type} (s : σ) : Except Fault σ → Except Fault Unit × σ
  | .ok s' => (.ok (), s')
  | .error fault => (.error fault, s)

/-- An answer that cannot fail. -/
def answered {σ α : Type} (r : α × σ) : Except Fault α × σ := (.ok r.1, r.2)

def Backend.memory : Backend where
  State := InMemoryRepository Response
  exec op now fresh s := match op with
    | .createTrip trip => (.ok (), s.createTrip trip)
    | .saveTrip trip => (.ok (), s.saveTrip trip)
    | .getTrip tenantId tripId => (.ok (s.getTrip tenantId tripId), s)
    | .listTrips => (.ok s.listTrips, s)
    | .saveEvidence tenantId tripId evidence => committed s (s.saveEvidence tenantId tripId evidence)
    | .getEvidence tenantId tripId => (.ok (s.getEvidence tenantId tripId), s)
    | .saveAssessment tenantId assessment => committed s (s.saveAssessment tenantId assessment)
    | .saveIncident incident => (.ok (), s.saveIncident incident)
    | .getIncident tenantId incidentId => (.ok (s.getIncident tenantId incidentId), s)
    | .saveApproval approval => (.ok (), s.saveApproval approval)
    | .saveCandidateSet tenantId candidateSet => (.ok (), s.saveCandidateSet tenantId candidateSet)
    | .getCandidateSet tenantId incidentId candidateSetId =>
      (.ok (s.getCandidateSet tenantId incidentId candidateSetId), s)
    | .recordCandidateOutcome tenantId outcome =>
      (.ok (), s.recordCandidateOutcome tenantId outcome)
    | .listCandidateOutcomes tenantId candidateSetId =>
      (.ok (s.listCandidateOutcomes tenantId candidateSetId), s)
    | .saveManagerFeedback feedback => (.ok (), s.saveManagerFeedback feedback)
    | .saveActionDispatch action => (.ok (), s.saveActionDispatch action)
    | .claimDueActionDispatches request => answered (s.claimDueActionDispatches request now fresh)
    | .completeActionDispatch action attempt claimId =>
      answered (s.completeActionDispatch action attempt claimId)
    | .recordActionDispatchAttempt attempt => (.ok (), s.recordActionDispatchAttempt attempt)
    | .claimIdempotency claim => s.claimIdempotency claim now
    | .completeIdempotency completion => s.completeIdempotency completion now
    | .recordEvent event => (.ok (), s.recordEvent event)
    | .recordMemoryAudit event => (.ok (), s.recordMemoryAudit event)
    | .getProfile tenantId travelerId => (.ok (s.getProfile tenantId travelerId), s)
    | .saveProfile profile => (.ok (), s.saveProfile profile)
    | .saveMemoryProposal proposal => (.ok (), s.saveMemoryProposal proposal)
    | .getMemoryProposal tenantId proposalId => (.ok (s.getMemoryProposal tenantId proposalId), s)
    | .deleteTravelerMemory tenantId travelerId =>
      answered (s.deleteTravelerMemory tenantId travelerId)
    | .getPlaybook tenantId playbookId => (.ok (s.getPlaybook tenantId playbookId), s)
    | .savePlaybook playbook => answered (s.savePlaybook playbook)
    | .listApprovedPlaybooks tenantId => (.ok (s.listApprovedPlaybooks tenantId), s)
    | .saveNotification notification => (.ok (), s.saveNotification notification)
    | .getNotification tenantId notificationId =>
      (.ok (s.getNotification tenantId notificationId), s)
    | .claimDueNotifications request => answered (s.claimDueNotifications request now fresh)
    | .completeNotificationDelivery notification attempt claimId =>
      answered (s.completeNotificationDelivery notification attempt claimId)
    | .recordNotificationAttempt attempt => (.ok (), s.recordNotificationAttempt attempt)
    | .saveChangeRecord record => (.ok (), s.saveChangeRecord record)
    | .saveProviderOnboarding record => (.ok (), s.saveProviderOnboarding record)
    | .getRuntimeControlOverride tenantId controlName =>
      (.ok (s.getRuntimeControlOverride tenantId controlName now), s)
    | .saveRuntimeControlChange record => (.ok (), s.saveRuntimeControlChange record)
    | .getPlatformControlOverride controlName =>
      (.ok (s.getPlatformControlOverride controlName now), s)
    | .savePlatformControlChange record => (.ok (), s.savePlatformControlChange record)
    | .saveOriginalUpload record => (.ok (), s.saveOriginalUpload record)
    | .saveLegalHold hold => (.ok (), s.saveLegalHold hold)
    | .getLegalHold tenantId legalHoldId => (.ok (s.getLegalHold tenantId legalHoldId), s)
    | .activeLegalHoldsForTraveler tenantId travelerId timestamp =>
      (.ok (s.activeLegalHoldsForTraveler tenantId travelerId (timestamp.getD now)), s)
    | .saveDeletionRequest request => (.ok (), s.saveDeletionRequest request)
    | .listPendingDeletionRequests => (.ok s.listPendingDeletionRequests, s)
    | .eraseTravelerData tenantId travelerId scope =>
      answered (s.eraseTravelerData tenantId travelerId scope)
    | .purgeExpired cutoffs => answered (s.purgeExpired now cutoffs)

def Backend.postgres : Backend where
  State := PostgresRepository Response
  exec op now fresh s := match op with
    | .createTrip trip => committed s (s.createTrip trip)
    | .saveTrip trip => committed s (s.saveTrip trip)
    | .getTrip tenantId tripId => (.ok (s.getTrip tenantId tripId), s)
    | .listTrips => (.ok s.listTrips, s)
    | .saveEvidence tenantId tripId evidence => committed s (s.saveEvidence tenantId tripId evidence)
    | .getEvidence tenantId tripId => (.ok (s.getEvidence tenantId tripId), s)
    | .saveAssessment tenantId assessment => committed s (s.saveAssessment tenantId assessment)
    | .saveIncident incident => (.ok (), s.saveIncident incident)
    | .getIncident tenantId incidentId => (.ok (s.getIncident tenantId incidentId), s)
    | .saveApproval approval => (.ok (), s.saveApproval approval)
    | .saveCandidateSet tenantId candidateSet =>
      committed s (s.saveCandidateSet tenantId candidateSet)
    | .getCandidateSet tenantId incidentId candidateSetId =>
      (.ok (s.getCandidateSet tenantId incidentId candidateSetId), s)
    | .recordCandidateOutcome tenantId outcome =>
      committed s (s.recordCandidateOutcome tenantId outcome)
    | .listCandidateOutcomes tenantId candidateSetId =>
      (.ok (s.listCandidateOutcomes tenantId candidateSetId), s)
    | .saveManagerFeedback feedback => committed s (s.saveManagerFeedback feedback)
    | .saveActionDispatch action => (.ok (), s.saveActionDispatch action)
    | .claimDueActionDispatches request => answered (s.claimDueActionDispatches request now fresh)
    | .completeActionDispatch action attempt claimId =>
      s.completeActionDispatch action attempt claimId
    | .recordActionDispatchAttempt attempt => committed s (s.recordActionDispatchAttempt attempt)
    | .claimIdempotency claim => s.claimIdempotency claim now
    | .completeIdempotency completion => s.completeIdempotency completion now
    | .recordEvent event => committed s (s.recordEvent event)
    | .recordMemoryAudit event => committed s (s.recordMemoryAudit event)
    | .getProfile tenantId travelerId => (.ok (s.getProfile tenantId travelerId), s)
    | .saveProfile profile => (.ok (), s.saveProfile profile)
    | .saveMemoryProposal proposal => (.ok (), s.saveMemoryProposal proposal)
    | .getMemoryProposal tenantId proposalId => (.ok (s.getMemoryProposal tenantId proposalId), s)
    | .deleteTravelerMemory tenantId travelerId =>
      answered (s.deleteTravelerMemory tenantId travelerId)
    | .getPlaybook tenantId playbookId => (.ok (s.getPlaybook tenantId playbookId), s)
    | .savePlaybook playbook => answered (s.savePlaybook playbook)
    | .listApprovedPlaybooks tenantId => (.ok (s.listApprovedPlaybooks tenantId), s)
    | .saveNotification notification => (.ok (), s.saveNotification notification)
    | .getNotification tenantId notificationId =>
      (.ok (s.getNotification tenantId notificationId), s)
    | .claimDueNotifications request => answered (s.claimDueNotifications request now fresh)
    | .completeNotificationDelivery notification attempt claimId =>
      s.completeNotificationDelivery notification attempt claimId
    | .recordNotificationAttempt attempt => committed s (s.recordNotificationAttempt attempt)
    | .saveChangeRecord record => committed s (s.saveChangeRecord record)
    | .saveProviderOnboarding record => committed s (s.saveProviderOnboarding record)
    | .getRuntimeControlOverride tenantId controlName =>
      (.ok (s.getRuntimeControlOverride tenantId controlName now), s)
    | .saveRuntimeControlChange record => committed s (s.saveRuntimeControlChange record)
    | .getPlatformControlOverride controlName =>
      (.ok (s.getPlatformControlOverride controlName now), s)
    | .savePlatformControlChange record => committed s (s.savePlatformControlChange record)
    | .saveOriginalUpload record => (.ok (), s.saveOriginalUpload record)
    | .saveLegalHold hold => (.ok (), s.saveLegalHold hold)
    | .getLegalHold tenantId legalHoldId => (.ok (s.getLegalHold tenantId legalHoldId), s)
    | .activeLegalHoldsForTraveler tenantId travelerId timestamp =>
      (.ok (s.activeLegalHoldsForTraveler tenantId travelerId (timestamp.getD now)), s)
    | .saveDeletionRequest request => (.ok (), s.saveDeletionRequest request)
    | .listPendingDeletionRequests => (.ok s.listPendingDeletionRequests, s)
    | .eraseTravelerData tenantId travelerId scope =>
      answered (s.eraseTravelerData tenantId travelerId scope)
    | .purgeExpired cutoffs => answered (s.purgeExpired now cutoffs)

/-! ### Collaborators -/

/-- What the investigation graph is started on. -/
structure GraphInput where
  incident : Incident
  assessment : RiskAssessment
  evidence : List EvidenceEnvelope
  trip : Trip
  sourceHealth : SourceHealth
  profile : Option TravelerPreferenceProfile
  playbooks : List TenantPlaybook
  llmEnabled : Bool

/-- A candidate set as the graph leaves it. -/
structure GraphCandidates where
  scoreVersion : String
  policyVersion : String
  candidates : List EvaluatedCandidate
  rankedCandidateIds : List String

/-- The final state of a graph run, as far as it validates: a recommendation that is missing
is `none`, one that does not validate is `some none`. -/
structure GraphOutcome where
  toolAudit : List ToolAuditEvent
  modelAudit : List ModelInvocationAudit
  recommendation : Option (Option Recommendation)
  candidates : Option GraphCandidates
  interrupt : Option JsonObject

/-- How a decision resumes a graph. -/
structure GraphResume where
  decision : ApprovalDecision
  reason : String
  action : Option (Uuid × String)

structure DeliveryResult where
  delivered : Bool
  providerMessageReference : Option String := none
  errorCode : Option String := none
  deriving DecidableEq

structure ActionDispatchResult where
  dispatched : Bool
  externalReference : Option String := none
  errorCode : Option String := none
  deriving DecidableEq

inductive Effect : Type → Type 1 where
  | now : Effect Time
  | uuid4 : Effect Uuid
  | repo {α : Type} (op : RepoOp α) : Effect α
  | collectEvidence (trip : Trip) (scenario : Option DemoScenario) (correlationId : Uuid) :
      Effect (List EvidenceEnvelope)
  | invokeGraph (input : GraphInput) : Effect GraphOutcome
  | resumeGraph (threadId : String) (resume : GraphResume) : Effect Unit
  /-- The key and the digest of the stored object. -/
  | putUpload (tenantId : String) (uploadId : Uuid) (content : String) : Effect (String × String)
  | sendNotification (notification : NotificationRecord) : Effect DeliveryResult
  | sendAction (action : ActionDispatchRecord) : Effect ActionDispatchResult

/-- What the outside answers at each tick. -/
structure Env where
  clock : ℕ → Time
  collectEvidence : ℕ → Trip → Option DemoScenario → Except Fault (List EvidenceEnvelope)
  invokeGraph : ℕ → GraphInput → Except Fault GraphOutcome
  resumeGraph : ℕ → String → GraphResume → Except Fault Unit
  putUpload : ℕ → String → Uuid → String → Except Fault (String × String)
  sendNotification : ℕ → NotificationRecord → Except Fault DeliveryResult
  sendAction : ℕ → ActionDispatchRecord → Except Fault ActionDispatchResult

/-- A clock that stands still, and collaborators that are out of reach. -/
def Env.still : Env where
  clock _ := 0
  collectEvidence _ _ _ := .error (.value "unreachable")
  invokeGraph _ _ := .error (.value "unreachable")
  resumeGraph _ _ _ := .error (.value "unreachable")
  putUpload _ _ _ _ := .error (.value "unreachable")
  sendNotification _ _ := .error (.value "unreachable")
  sendAction _ _ := .error (.value "unreachable")

/-- The store, the ticks so far, and what was handed to the senders so far. -/
structure World (b : Backend) where
  store : b.State
  tick : ℕ := 0
  sent : List ActionDispatchRecord := []
  notified : List NotificationRecord := []

/-- The `k`-th identifier drawn at a tick. -/
def drawn (tick k : ℕ) : Uuid := .v4 (Nat.pair tick k)

/-- The identifier was drawn at an earlier tick. -/
def DrawnBefore (id : Uuid) (tick : ℕ) : Prop := ∀ n, id = .v4 n → n.unpair.1 < tick

theorem drawnBefore_drawn (tick : ℕ) {k : ℕ} : DrawnBefore (drawn tick k) (tick + 1) := by
  rintro n hn
  cases hn
  simp

theorem DrawnBefore.mono {id : Uuid} {tick tick' : ℕ} (h : DrawnBefore id tick)
    (hle : tick ≤ tick') : DrawnBefore id tick' := fun n hn => (h n hn).trans_le hle

/-- The last identifier drawn for an event. -/
def drawnAfter (drawn : Option Uuid) : {α : Type} → Effect α → Except Fault α → Option Uuid
  | _, .uuid4, .ok id => some id
  | _, .repo (.recordEvent _), _ => none
  | _, _, _ => drawn

variable {b : Backend}

def Env.answer (env : Env) (w : World b) : {α : Type} → Effect α → Except Fault α
  | _, .now => .ok (env.clock w.tick)
  | _, .uuid4 => .ok (drawn w.tick 0)
  | _, .repo op => (b.exec op (env.clock w.tick) (drawn w.tick) w.store).1
  | _, .collectEvidence trip scenario _ => env.collectEvidence w.tick trip scenario
  | _, .invokeGraph input => env.invokeGraph w.tick input
  | _, .resumeGraph threadId resume => env.resumeGraph w.tick threadId resume
  | _, .putUpload tenantId uploadId content => env.putUpload w.tick tenantId uploadId content
  | _, .sendNotification notification => env.sendNotification w.tick notification
  | _, .sendAction action => env.sendAction w.tick action

def Env.after (env : Env) (w : World b) {α : Type} (effect : Effect α) : World b where
  store := match effect with
    | .repo op => (b.exec op (env.clock w.tick) (drawn w.tick) w.store).2
    | _ => w.store
  tick := w.tick + 1
  sent := match effect with
    | .sendAction action => w.sent ++ [action]
    | _ => w.sent
  notified := match effect with
    | .sendNotification notification => w.notified ++ [notification]
    | _ => w.notified

/-- One effect: its answer, and the world a tick later. -/
def Env.exec (env : Env) {α : Type} (effect : Effect α) (w : World b) : Except Fault α × World b :=
  (env.answer w effect, env.after w effect)

/-- A handler of the service. -/
abbrev Api := Prog Effect Fault

namespace Api

def now : Api Time := .perform .now

def uuid4 : Api Uuid := .perform .uuid4

def repo {α : Type} (op : RepoOp α) : Api α := .perform (.repo op)

def http {α : Type} (status : ℕ) (detail : String) : Api α := .throw (.http status detail)

/-- `raise HTTPException` unless a condition holds. -/
def require (condition : Bool) (status : ℕ) (detail : String) : Api Unit :=
  if condition then pure () else http status detail

/-- The value of an optional result, or an `HTTPException`. -/
def found {α : Type} (result : Option α) (status : ℕ) (detail : String) : Api α :=
  match result with
  | some a => pure a
  | none => http status detail

end Api

end RouteShield
