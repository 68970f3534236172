import RouteShield.Api.Footprint

/-!
The collections that each request writes, handler by handler: the parts that several
handlers share first, each handler after the parts it is made of.
-/

namespace RouteShield

namespace Api

open Prog hiding pure

variable {svc : Service} {cs : List Collection}

@[grind .] theorem writes_resumeGraph_effect (threadId : String) (resume : GraphResume) :
    Writes cs (perform (.resumeGraph threadId resume)) := writes_perform fun _ => ⟨nofun, trivial⟩

@[grind ←] theorem writes_attempt_repo {op : RepoOp α} (h : ∀ c ∈ op.writes, c ∈ cs ∧ c ≠ .events) :
    Writes cs (attempt (.repo op)) :=
  writes_attempt (conduct_repo h)

@[grind .] theorem writes_attempt_erase (tenantId travelerId : String)
    (scope : DeletionRequestScope) :
    Writes (.deletionRequests :: .events :: erasedCollections) (attempt (.repo
      (.eraseTravelerData tenantId travelerId scope))) := by
  refine writes_attempt (conduct_repo fun c (hc : c ∈ erasedCollections) => ⟨?_, ?_⟩)
  · exact List.mem_cons_of_mem _ (List.mem_cons_of_mem _ hc)
  · rintro rfl
    exact absurd hc (by decide)

attribute [local grind =] RepoOp.writes assessedCollections openedCollections erasedCollections

@[grind .] theorem writes_createTrip {caller : Caller} {body : TripCreate} :
    Writes [.trips, .events, .idempotency] (createTrip svc caller body) := by
  unfold createTrip
  repeat' first | with_reducible apply writes_bind | with_reducible apply writes_mutation | intro _
  all_goals grind

@[grind .] theorem writes_assignTripManager {caller : Caller} {tripId : Uuid} {managerId : String} :
    Writes [.trips, .events, .idempotency] (assignTripManager svc caller tripId managerId) := by
  unfold assignTripManager
  repeat' first | with_reducible apply writes_bind | with_reducible apply writes_mutation | intro _
  all_goals grind

@[grind .] theorem writes_parseEvidence {body : EvidenceBody} : Writes cs (parseEvidence body) := by
  unfold parseEvidence
  repeat' first | with_reducible apply writes_bind | with_reducible apply writes_mutation | intro _
  all_goals grind

@[grind .] theorem writes_putEvidence {caller : Caller} {tripId : Uuid}
    {bodies : List EvidenceBody} :
    Writes [.evidence, .idempotency] (putEvidence svc caller tripId bodies) := by
  unfold putEvidence
  repeat' first | with_reducible apply writes_bind | with_reducible apply writes_mutation | intro _
  all_goals grind

@[grind .] theorem writes_validateTripCsv {caller : Caller} {content : String} :
    Writes [.uploads, .idempotency] (validateTripCsv svc caller content) := by
  unfold validateTripCsv
  repeat' first
    | with_reducible apply writes_bind
    | with_reducible apply writes_mutation
    | intro _
    | dsimp only
    | split
  all_goals grind

@[grind .] theorem writes_investigate {incident : Incident} {evidence : List EvidenceEnvelope} :
    Writes cs (investigate incident evidence) := by
  unfold investigate
  repeat' first | with_reducible apply writes_bind | with_reducible apply writes_mutation | intro _
  all_goals grind

@[grind .] theorem writes_createLimitedVisibilityIncident {incident : Incident}
    {evidence : List EvidenceEnvelope} :
    Writes cs (createLimitedVisibilityIncident incident evidence) := by
  unfold createLimitedVisibilityIncident
  repeat' first | with_reducible apply writes_bind | with_reducible apply writes_mutation | intro _
  all_goals grind

@[grind .] theorem writes_saveGraphCandidates {incident : Incident} {candidates : GraphCandidates} :
    Writes openedCollections (saveGraphCandidates incident candidates) := by
  unfold saveGraphCandidates
  repeat' first | with_reducible apply writes_bind | with_reducible apply writes_mutation | intro _
  all_goals grind

@[grind .] theorem writes_runGraphInvestigation {incident : Incident} {assessment : RiskAssessment}
    {evidence : List EvidenceEnvelope} {trip : Trip} {sourceHealth : SourceHealth} :
    Writes openedCollections
      (runGraphInvestigation svc incident assessment evidence trip sourceHealth) := by
  unfold runGraphInvestigation
  repeat' first
    | with_reducible apply writes_bind
    | with_reducible apply writes_mutation
    | with_reducible apply writes_forM
    | with_reducible apply writes_emitEvent
    | intro _
    | dsimp only
    | split
  all_goals grind

theorem writes_assessmentEvidence {tenantId : String} {trip : Trip} {scenario : Option DemoScenario}
    {id : Uuid} :
    Writes [.evidence] (assessmentEvidence tenantId trip scenario id) := by
  unfold assessmentEvidence
  refine writes_bind (writes_repo nofun) fun stored => ?_
  split_ifs
  · refine writes_bind (writes_perform fun _ => ⟨nofun, trivial⟩) fun evidence => ?_
    refine writes_bind (writes_repo ?_) fun _ => writes_pure _
    intro c hc
    exact ⟨hc, by rw [List.mem_singleton.mp hc]; decide⟩
  · exact writes_pure _

theorem writes_openIncident {tenantId : String} {trip : Trip}
    {assessment : RiskAssessment} {evidence : List EvidenceEnvelope} {health : SourceHealth}
    {disposition : AssessmentDisposition} {id : Uuid} :
    Writes openedCollections
      (openIncident svc tenantId trip assessment evidence health disposition id) := by
  unfold openIncident
  repeat' first
    | with_reducible apply writes_bind
    | with_reducible apply writes_mutation
    | with_reducible apply writes_map
    | intro _
    | dsimp only
    | split
  all_goals grind

/-- An assessment writes no key. -/
theorem writes_runAssessment_unkeyed {tenantId : String} {trip : Trip}
    {scenario : Option DemoScenario} :
    Writes (.evidence :: scoredCollections) (runAssessment svc tenantId trip scenario) := by
  have hevents : .events ∈ Collection.evidence :: scoredCollections := by decide
  unfold runAssessment
  refine writes_bind writes_uuid4 fun correlationId => ?_
  refine writes_bind (writes_assessmentEvidence.mono (by decide)) fun evidence => ?_
  refine writes_bind (writes_forM fun item => writes_emitEvent hevents _) fun _ => ?_
  refine writes_bind (writes_ofExcept _) fun scored => ?_
  refine writes_bind writes_uuid4 fun assessmentId => ?_
  refine writes_bind writes_now fun assessedAt => ?_
  refine writes_bind (writes_ofExcept _) fun assessment => ?_
  refine writes_bind (writes_repo ?_) fun _ => ?_
  · intro c hc
    rw [List.mem_singleton.mp hc]
    decide
  dsimp only
  split_ifs
  · refine writes_bind (writes_map (writes_openIncident.mono (by decide))) fun incidentId => ?_
    exact writes_bind (writes_emitEvent hevents _) fun _ => writes_pure _
  · refine writes_bind (writes_pure _) fun incidentId => ?_
    exact writes_bind (writes_emitEvent hevents _) fun _ => writes_pure _

@[grind .] theorem writes_runAssessment {tenantId : String} {trip : Trip}
    {scenario : Option DemoScenario} :
    Writes assessedCollections (runAssessment svc tenantId trip scenario) :=
  writes_runAssessment_unkeyed.mono (by decide)

@[grind .] theorem writes_assessTrip {caller : Caller} {tripId : Uuid}
    {scenario : Option DemoScenario} :
    Writes assessedCollections (assessTrip svc caller tripId scenario) := by
  unfold assessTrip
  repeat' first | with_reducible apply writes_bind | with_reducible apply writes_mutation | intro _
  all_goals grind

@[grind .] theorem writes_refreshIncident {caller : Caller} {incidentId : Uuid} :
    Writes assessedCollections (refreshIncident svc caller incidentId) := by
  unfold refreshIncident
  repeat' first | with_reducible apply writes_bind | with_reducible apply writes_mutation | intro _
  all_goals grind

@[grind .] theorem writes_createCandidateSet {caller : Caller} {incidentId : Uuid}
    {candidates : List RecoveryCandidate} :
    Writes [.candidates, .events, .idempotency]
      (createCandidateSet svc caller incidentId candidates) :=
      by
  unfold createCandidateSet
  repeat' first | with_reducible apply writes_bind | with_reducible apply writes_mutation | intro _
  all_goals grind

@[grind .] theorem writes_outcomeAllowed {view : RecoveryCandidateSet}
    {candidate : EvaluatedCandidate} {role : Option UserRole}
    {update : RecoveryCandidateOutcomeUpdate} :
    Writes cs (outcomeAllowed view candidate role update) := by
  unfold outcomeAllowed
  repeat' first | with_reducible apply writes_bind | with_reducible apply writes_mutation | intro _
  all_goals grind

@[grind .] theorem writes_outcomeFeedback {tenantId : String} {outcome : RecoveryCandidateOutcome}
    {candidate : EvaluatedCandidate} :
    Writes cs (outcomeFeedback tenantId outcome candidate) := by
  unfold outcomeFeedback
  repeat' first
    | with_reducible apply writes_bind
    | with_reducible apply writes_mutation
    | intro _
    | dsimp only
    | split
  all_goals grind

@[grind .] theorem writes_recordCandidateOutcome {caller : Caller}
    {incidentId candidateSetId : Uuid} {candidateId : String}
    {update : RecoveryCandidateOutcomeUpdate} :
    Writes [.candidates, .feedback, .events, .idempotency]
      (recordCandidateOutcome svc caller incidentId candidateSetId candidateId update) := by
  unfold recordCandidateOutcome
  repeat' first | with_reducible apply writes_bind | with_reducible apply writes_mutation | intro _
  all_goals grind

@[grind .] theorem writes_applyDecision {incident : Incident} {approval : ApprovalRecord}
    {tenantId : String} :
    Writes [.incidents, .approvals, .actions, .events, .idempotency]
      (applyDecision incident approval tenantId) := by
  unfold applyDecision queuePending queueAction
  repeat' first
    | with_reducible apply writes_bind
    | with_reducible apply writes_mutation
    | with_reducible apply writes_map
    | intro _
    | dsimp only
    | split
  all_goals grind

@[grind .] theorem writes_announceDecision {incident : Incident} {approval : ApprovalRecord}
    {tenantId : String} {action : Option ActionDispatchRecord} :
    Writes [.incidents, .approvals, .actions, .events, .idempotency]
      (announceDecision incident approval tenantId action) := by
  unfold announceDecision resumeGraph
  repeat' first
    | with_reducible apply writes_bind
    | with_reducible apply writes_mutation
    | intro _
    | dsimp only
    | split
  all_goals grind

@[grind .] theorem writes_decideIncident {incidentId : Uuid} {payload : ApprovalRequest}
    {tenantId : String} :
    Writes [.incidents, .approvals, .actions, .events, .idempotency]
      (decideIncident svc incidentId payload tenantId) := by
  unfold decideIncident dispatchStatus
  repeat' first | with_reducible apply writes_bind | with_reducible apply writes_mutation | intro _
  all_goals grind

@[grind .] theorem writes_decide {decision : ApprovalDecision} {caller : Caller} {incidentId : Uuid}
    {payload : ApprovalRequest} :
    Writes [.incidents, .approvals, .actions, .events, .idempotency]
      (decide svc decision caller incidentId payload) := by
  unfold decide
  repeat' first | with_reducible apply writes_bind | with_reducible apply writes_mutation | intro _
  all_goals grind

@[grind .] theorem writes_updatePreferences {caller : Caller} {travelerId : String}
    {update : TravelerPreferenceUpdate} :
    Writes [.profiles, .memoryAudits, .events, .idempotency]
      (updatePreferences svc caller travelerId update) := by
  unfold updatePreferences
  repeat' first | with_reducible apply writes_bind | with_reducible apply writes_mutation | intro _
  all_goals grind

@[grind .] theorem writes_createMemoryProposal {caller : Caller} {body : MemoryProposalBody} :
    Writes [.proposals, .memoryAudits, .idempotency] (createMemoryProposal svc caller body) := by
  unfold createMemoryProposal parseMemoryProposal
  repeat' first | with_reducible apply writes_bind | with_reducible apply writes_mutation | intro _
  all_goals grind

@[grind .] theorem writes_confirmProposal {tenantId actorId : String}
    {proposal : MemoryUpdateProposal} :
    Writes [.profiles, .proposals, .memoryAudits, .events, .idempotency]
      (confirmProposal svc tenantId actorId proposal) := by
  unfold confirmProposal
  repeat' first
    | with_reducible apply writes_bind
    | with_reducible apply writes_mutation
    | intro _
    | dsimp only
    | split
  all_goals grind

@[grind .] theorem writes_confirmMemoryProposal {caller : Caller} {proposalId : Uuid}
    {actorId : String} :
    Writes [.profiles, .proposals, .memoryAudits, .events, .idempotency]
      (confirmMemoryProposal svc caller proposalId actorId) := by
  unfold confirmMemoryProposal
  repeat' first | with_reducible apply writes_bind | with_reducible apply writes_mutation | intro _
  all_goals grind

@[grind .] theorem writes_deleteTravelerMemory {caller : Caller} {travelerId actorId : String} :
    Writes [.profiles, .proposals, .memoryAudits, .idempotency]
      (deleteTravelerMemory svc caller travelerId actorId) := by
  unfold deleteTravelerMemory
  repeat' first | with_reducible apply writes_bind | with_reducible apply writes_mutation | intro _
  all_goals grind

@[grind .] theorem writes_parseLegalHold {body : LegalHoldBody} :
    Writes cs (parseLegalHold body) := by
  unfold parseLegalHold
  repeat' first | with_reducible apply writes_bind | with_reducible apply writes_mutation | intro _
  all_goals grind

@[grind .] theorem writes_createLegalHold {caller : Caller} {body : LegalHoldBody} :
    Writes [.holds, .events, .idempotency] (createLegalHold svc caller body) := by
  unfold createLegalHold saveHold
  repeat' first | with_reducible apply writes_bind | with_reducible apply writes_mutation | intro _
  all_goals grind

@[grind .] theorem writes_releaseHold {tenantId : String} {hold : LegalHoldRecord}
    {actorId : Option String} {h : truthy actorId = true} {reason : String} :
    Writes [.holds, .events, .idempotency] (releaseHold tenantId hold actorId h reason) := by
  unfold releaseHold
  repeat' first | with_reducible apply writes_bind | with_reducible apply writes_mutation | intro _
  all_goals grind

@[grind .] theorem writes_releaseLegalHold {caller : Caller} {legalHoldId : Uuid}
    {reason : String} :
    Writes [.holds, .events, .idempotency] (releaseLegalHold svc caller legalHoldId reason) := by
  unfold releaseLegalHold
  repeat' first
    | with_reducible apply writes_bind
    | with_reducible apply writes_mutation
    | intro _
    | dsimp only
    | split
  all_goals grind

@[grind .] theorem writes_createDeletionRequest {caller : Caller} {body : DeletionRequestBody} :
    Writes [.deletionRequests, .events, .idempotency] (createDeletionRequest svc caller body) := by
  unfold createDeletionRequest parseDeletionRequest submitDeletionRequest
  repeat' first | with_reducible apply writes_bind | with_reducible apply writes_mutation | intro _
  all_goals grind

@[grind .] theorem writes_eventOrigin {tenantId : String} {incidentId : Option Uuid} :
    Writes cs (eventOrigin tenantId incidentId) := by
  unfold eventOrigin incidentOf
  repeat' first | with_reducible apply writes_bind | with_reducible apply writes_mutation | intro _
  all_goals grind

@[grind .] theorem writes_queueNotification {caller : Caller} {payload : NotificationCreate} :
    Writes [.notifications, .events, .idempotency] (queueNotification svc caller payload) := by
  unfold queueNotification requireNotificationAccess saveQueued
  repeat' first | with_reducible apply writes_bind | with_reducible apply writes_mutation | intro _
  all_goals grind

@[grind .] theorem writes_acknowledgeNotification {caller : Caller} {notificationId : Uuid}
    {actorId : String} :
    Writes [.notifications, .idempotency]
      (acknowledgeNotification svc caller notificationId actorId) :=
      by
  unfold acknowledgeNotification requireAcknowledgeAccess acknowledged
  repeat' first
    | with_reducible apply writes_bind
    | with_reducible apply writes_mutation
    | intro _
    | dsimp only
    | split
  all_goals grind

@[grind .] theorem writes_automationEnabled {tenantId : String} {controlName : RuntimeControlName} :
    Writes cs (automationEnabled svc tenantId controlName) := by
  unfold automationEnabled
  repeat' first | with_reducible apply writes_bind | with_reducible apply writes_mutation | intro _
  all_goals grind

@[grind .] theorem writes_deliverNotification {notification : NotificationRecord} :
    Writes [.notifications, .events] (deliverNotification notification) := by
  unfold deliverNotification attemptDelivery sendNotification commitDelivery
  repeat' first
    | with_reducible apply writes_bind
    | with_reducible apply writes_mutation
    | intro _
    | dsimp only
    | split
  all_goals grind

@[grind .] theorem writes_emitDelivered {tenantId workerId : String}
    {outcome : NotificationRecord} :
    Writes [.notifications, .events] (emitDelivered tenantId workerId outcome) := by
  unfold emitDelivered
  repeat' first | with_reducible apply writes_bind | with_reducible apply writes_mutation | intro _
  all_goals grind

@[grind .] theorem writes_dispatchNotifications {caller : Caller} :
    Writes [.notifications, .events] (dispatchNotifications svc caller) := by
  unfold dispatchNotifications
  repeat' first | with_reducible apply writes_bind | with_reducible apply writes_mutation | intro _
  all_goals grind

@[grind .] theorem writes_dispatchClaimedNotification {notification : NotificationRecord} :
    Writes [.notifications, .events] (dispatchClaimedNotification svc notification) := by
  unfold dispatchClaimedNotification
  repeat' first | with_reducible apply writes_bind | with_reducible apply writes_mutation | intro _
  all_goals grind

@[grind .] theorem writes_dispatchDueNotificationsJob :
    Writes [.notifications, .events] (dispatchDueNotificationsJob svc) := by
  unfold dispatchDueNotificationsJob
  repeat' first | with_reducible apply writes_bind | with_reducible apply writes_mutation | intro _
  all_goals grind

@[grind .] theorem writes_dispatchApprovedAction {action : ActionDispatchRecord} :
    Writes [.actions, .events] (dispatchApprovedAction action) := by
  unfold dispatchApprovedAction attemptAction sendAction commitAction
  repeat' first
    | with_reducible apply writes_bind
    | with_reducible apply writes_mutation
    | intro _
    | dsimp only
    | split
  all_goals grind

@[grind .] theorem writes_dispatchClaimedAction {action : ActionDispatchRecord} :
    Writes [.actions, .events] (dispatchClaimedAction svc action) := by
  unfold dispatchClaimedAction emitDispatched
  repeat' first | with_reducible apply writes_bind | with_reducible apply writes_mutation | intro _
  all_goals grind

@[grind .] theorem writes_dispatchApprovedActionsJob :
    Writes [.actions, .events] (dispatchApprovedActionsJob svc) := by
  unfold dispatchApprovedActionsJob
  repeat' first | with_reducible apply writes_bind | with_reducible apply writes_mutation | intro _
  all_goals grind

@[grind .] theorem writes_createChangeRecord {caller : Caller} {body : ChangeRecordBody} :
    Writes [.governance, .idempotency] (createChangeRecord svc caller body) := by
  unfold createChangeRecord parseChangeRecord
  repeat' first | with_reducible apply writes_bind | with_reducible apply writes_mutation | intro _
  all_goals grind

@[grind .] theorem writes_createProviderOnboarding {caller : Caller}
    {body : ProviderOnboardingBody} :
    Writes [.governance, .idempotency] (createProviderOnboarding svc caller body) := by
  unfold createProviderOnboarding parseProviderOnboarding
  repeat' first | with_reducible apply writes_bind | with_reducible apply writes_mutation | intro _
  all_goals grind

@[grind .] theorem writes_requireFutureExpiry {update : RuntimeControlUpdate} :
    Writes cs (requireFutureExpiry update) := by
  unfold requireFutureExpiry
  all_goals grind

@[grind .] theorem writes_emitControlChange {eventType tenantId scope : String}
    {controlName : RuntimeControlName} {update : RuntimeControlUpdate} {previousEnabled : Bool}
    {actorId : String} :
    Writes [.controls, .events, .idempotency]
      (emitControlChange eventType tenantId scope controlName update previousEnabled actorId) := by
  unfold emitControlChange
  repeat' first | with_reducible apply writes_bind | with_reducible apply writes_mutation | intro _
  all_goals grind

@[grind .] theorem writes_setRuntimeControl {caller : Caller} {controlName : RuntimeControlName}
    {update : RuntimeControlUpdate} :
    Writes [.controls, .events, .idempotency]
      (setRuntimeControl svc caller controlName update) := by
  unfold setRuntimeControl applyRuntimeControl
  repeat' first | with_reducible apply writes_bind | with_reducible apply writes_mutation | intro _
  all_goals grind

@[grind .] theorem writes_setPlatformRuntimeControl {caller : Caller}
    {controlName : RuntimeControlName} {update : RuntimeControlUpdate} :
    Writes [.controls, .events, .idempotency]
      (setPlatformRuntimeControl svc caller controlName update) := by
  unfold setPlatformRuntimeControl applyPlatformControl
  repeat' first | with_reducible apply writes_bind | with_reducible apply writes_mutation | intro _
  all_goals grind

@[grind .] theorem writes_savePublished {tenantId approvedBy : String}
    {payload : TenantPlaybookCreate} :
    Writes [.playbooks, .events, .idempotency] (savePublished tenantId approvedBy payload) := by
  unfold savePublished
  repeat' first | with_reducible apply writes_bind | with_reducible apply writes_mutation | intro _
  all_goals grind

@[grind .] theorem writes_publishTenantPlaybook {caller : Caller} {payload : TenantPlaybookCreate} :
    Writes [.playbooks, .events, .idempotency] (publishTenantPlaybook svc caller payload) := by
  unfold publishTenantPlaybook
  repeat' first
    | with_reducible apply writes_bind
    | with_reducible apply writes_mutation
    | intro _
    | dsimp only
    | split
  all_goals grind

@[grind .] theorem writes_parseWebhook {delivery : WebhookDelivery} :
    Writes cs (parseWebhook delivery) := by
  unfold parseWebhook parsed
  repeat' first | with_reducible apply writes_bind | with_reducible apply writes_mutation | intro _
  all_goals grind

@[grind .] theorem writes_webhookTrip {webhook : BookingWebhookEvent} :
    Writes cs (webhookTrip svc webhook) := by
  unfold webhookTrip
  all_goals grind

@[grind .] theorem writes_webhookChange {webhook : BookingWebhookEvent} :
    Writes cs (webhookChange svc webhook) := by
  unfold webhookChange
  repeat' first
    | with_reducible apply writes_bind
    | with_reducible apply writes_mutation
    | intro _
    | dsimp only
    | split
  all_goals grind

@[grind .] theorem writes_saveWebhookTrip {webhook : BookingWebhookEvent} {trip : Trip}
    {change : String} :
    Writes (.trips :: assessedCollections) (saveWebhookTrip webhook trip change) := by
  unfold saveWebhookTrip cancellationEvidence
  repeat' first
    | with_reducible apply writes_bind
    | with_reducible apply writes_mutation
    | intro _
    | dsimp only
    | split
  all_goals grind

@[grind .] theorem writes_acceptWebhook {webhook : BookingWebhookEvent}
    {change : Option (Trip × String)} :
    Writes (.trips :: assessedCollections) (acceptWebhook svc webhook change) := by
  unfold acceptWebhook
  repeat' first
    | with_reducible apply writes_bind
    | with_reducible apply writes_recordEvent
    | exact writes_assessTrip.mono fun _ => List.mem_cons_of_mem _
    | intro _
    | dsimp only
    | split
  all_goals grind

@[grind .] theorem writes_bookingWebhook {delivery : WebhookDelivery} :
    Writes (.trips :: assessedCollections) (bookingWebhook svc delivery) := by
  unfold bookingWebhook
  repeat' first | with_reducible apply writes_bind | with_reducible apply writes_mutation | intro _
  all_goals grind

@[grind .] theorem writes_assessWindow {trip : Trip} {window : String} :
    Writes assessedCollections (assessWindow svc trip window) := by
  unfold assessWindow completeWindow
  repeat' first
    | with_reducible apply writes_bind
    | with_reducible apply writes_mutation
    | intro _
    | dsimp only
    | split
  all_goals grind

@[grind .] theorem writes_assessDueTrip {trip : Trip} :
    Writes assessedCollections (assessDueTrip svc trip) := by
  unfold assessDueTrip dueWindows
  repeat' first | with_reducible apply writes_bind | with_reducible apply writes_mutation | intro _
  all_goals grind

@[grind .] theorem writes_processDueAssessments :
    Writes assessedCollections (processDueAssessments svc) := by
  unfold processDueAssessments
  repeat' first | with_reducible apply writes_bind | with_reducible apply writes_mutation | intro _
  all_goals grind

@[grind .] theorem writes_eraseRequested {timestamp : Time} {request : DeletionRequest} :
    Writes (.deletionRequests :: .events :: erasedCollections)
      (eraseRequested timestamp request) := by
  unfold eraseRequested
  repeat' first
    | with_reducible apply writes_bind
    | with_reducible apply writes_mutation
    | intro _
    | dsimp only
    | split
  all_goals grind

@[grind .] theorem writes_processDueDeletionRequests :
    Writes (.deletionRequests :: .events :: erasedCollections) (processDueDeletionRequests) := by
  unfold processDueDeletionRequests processDeletionRequest
  repeat' first
    | with_reducible apply writes_bind
    | with_reducible apply writes_mutation
    | with_reducible apply writes_mapM
    | intro _
    | dsimp only
    | split
  all_goals grind

@[grind .] theorem writes_processPrivacyDeletionRequestsJob :
    Writes (.deletionRequests :: .events :: erasedCollections)
      (processPrivacyDeletionRequestsJob) := by
  unfold processPrivacyDeletionRequestsJob emitProcessed
  repeat' first | with_reducible apply writes_bind | with_reducible apply writes_mutation | intro _
  all_goals grind

@[grind .] theorem writes_runRetentionJob : Writes purgedCollections (runRetentionJob svc) := by
  unfold runRetentionJob
  refine writes_bind writes_now fun _ => writes_bind (writes_ofExcept _) fun cutoffs =>
    writes_bind (writes_perform fun _ => ⟨fun _ h => h, trivial⟩) fun _ => ?_
  repeat' first | with_reducible apply writes_bind | intro _
  all_goals grind [purgedCollections]

end Api

/-- What a request may write. -/
def Request.writes : Request → List Collection
  | .validateTripCsv _ _ => [.uploads, .idempotency]
  | .bookingWebhook _ => .trips :: assessedCollections
  | .createTrip _ _ => [.trips, .events, .idempotency]
  | .assignTripManager _ _ _ => [.trips, .events, .idempotency]
  | .putEvidence _ _ _ => [.evidence, .idempotency]
  | .assessTrip _ _ _ => assessedCollections
  | .refreshIncident _ _ => assessedCollections
  | .createCandidateSet _ _ _ => [.candidates, .events, .idempotency]
  | .recordCandidateOutcome _ _ _ _ _ => [.candidates, .feedback, .events, .idempotency]
  | .approveIncident _ _ _ => [.incidents, .approvals, .actions, .events, .idempotency]
  | .rejectIncident _ _ _ => [.incidents, .approvals, .actions, .events, .idempotency]
  | .updatePreferences _ _ _ => [.profiles, .memoryAudits, .events, .idempotency]
  | .createMemoryProposal _ _ => [.proposals, .memoryAudits, .idempotency]
  | .confirmMemoryProposal _ _ _ => [.profiles, .proposals, .memoryAudits, .events, .idempotency]
  | .deleteTravelerMemory _ _ _ => [.profiles, .proposals, .memoryAudits, .idempotency]
  | .createLegalHold _ _ => [.holds, .events, .idempotency]
  | .releaseLegalHold _ _ _ => [.holds, .events, .idempotency]
  | .createDeletionRequest _ _ => [.deletionRequests, .events, .idempotency]
  | .queueNotification _ _ => [.notifications, .events, .idempotency]
  | .acknowledgeNotification _ _ _ => [.notifications, .idempotency]
  | .createChangeRecord _ _ => [.governance, .idempotency]
  | .setRuntimeControl _ _ _ => [.controls, .events, .idempotency]
  | .setPlatformRuntimeControl _ _ _ => [.controls, .events, .idempotency]
  | .publishTenantPlaybook _ _ => [.playbooks, .events, .idempotency]
  | .createProviderOnboarding _ _ => [.governance, .idempotency]
  | .dispatchNotifications _ => [.notifications, .events]
  | .dispatchDueNotifications => [.notifications, .events]
  | .dispatchApprovedActions => [.actions, .events]
  | .processDueAssessments => assessedCollections
  | .processPrivacyDeletionRequests => .deletionRequests :: .events :: erasedCollections
  | .runRetention => purgedCollections

namespace Api

open Prog hiding pure

variable {svc : Service}

theorem writes_handle (req : Request) : Writes req.writes (handle svc req) := by
  cases req <;> unfold handle Request.writes
  case approveIncident => exact writes_discard writes_decide
  case rejectIncident => exact writes_discard writes_decide
  all_goals grind [writes_discard]

end Api

end RouteShield
