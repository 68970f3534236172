import RouteShield.Api.Incidents
import RouteShield.Api.Ingestion
import RouteShield.Api.Memory
import RouteShield.Api.Notifications
import RouteShield.Api.Privacy
import RouteShield.Api.Webhook
import RouteShield.Workers.Monitor
import RouteShield.Workers.Privacy
import RouteShield.Workers.Retention

/-!
The requests that change something: those of callers, the booking system's deliveries, and
the runs of the jobs. Requests that only read are left out; they leave every state.
-/

namespace RouteShield

inductive Request where
  | validateTripCsv (caller : Caller) (content : String)
  | bookingWebhook (delivery : WebhookDelivery)
  | createTrip (caller : Caller) (body : TripCreate)
  | assignTripManager (caller : Caller) (tripId : Uuid) (managerId : String)
  | putEvidence (caller : Caller) (tripId : Uuid) (bodies : List EvidenceBody)
  | assessTrip (caller : Caller) (tripId : Uuid) (scenario : Option DemoScenario)
  | refreshIncident (caller : Caller) (incidentId : Uuid)
  | createCandidateSet (caller : Caller) (incidentId : Uuid) (candidates : List RecoveryCandidate)
  | recordCandidateOutcome (caller : Caller) (incidentId candidateSetId : Uuid)
      (candidateId : String) (update : RecoveryCandidateOutcomeUpdate)
  | approveIncident (caller : Caller) (incidentId : Uuid) (payload : ApprovalRequest)
  | rejectIncident (caller : Caller) (incidentId : Uuid) (payload : ApprovalRequest)
  | updatePreferences (caller : Caller) (travelerId : String) (update : TravelerPreferenceUpdate)
  | createMemoryProposal (caller : Caller) (body : MemoryProposalBody)
  | confirmMemoryProposal (caller : Caller) (proposalId : Uuid) (actorId : String)
  | deleteTravelerMemory (caller : Caller) (travelerId actorId : String)
  | createLegalHold (caller : Caller) (body : LegalHoldBody)
  | releaseLegalHold (caller : Caller) (legalHoldId : Uuid) (reason : String)
  | createDeletionRequest (caller : Caller) (body : DeletionRequestBody)
  | queueNotification (caller : Caller) (payload : NotificationCreate)
  | acknowledgeNotification (caller : Caller) (notificationId : Uuid) (actorId : String)
  | createChangeRecord (caller : Caller) (body : ChangeRecordBody)
  | setRuntimeControl (caller : Caller) (controlName : RuntimeControlName)
      (update : RuntimeControlUpdate)
  | setPlatformRuntimeControl (caller : Caller) (controlName : RuntimeControlName)
      (update : RuntimeControlUpdate)
  | publishTenantPlaybook (caller : Caller) (payload : TenantPlaybookCreate)
  | createProviderOnboarding (caller : Caller) (body : ProviderOnboardingBody)
  | dispatchNotifications (caller : Caller)
  | dispatchDueNotifications
  | dispatchApprovedActions
  | processDueAssessments
  | processPrivacyDeletionRequests
  | runRetention

namespace Api

/-- The program of a request, up to the body of its response. -/
def handle (svc : Service) : Request → Api Unit
  | .validateTripCsv caller content => discard (validateTripCsv svc caller content)
  | .bookingWebhook delivery => discard (bookingWebhook svc delivery)
  | .createTrip caller body => discard (createTrip svc caller body)
  | .assignTripManager caller tripId managerId =>
    discard (assignTripManager svc caller tripId managerId)
  | .putEvidence caller tripId bodies => putEvidence svc caller tripId bodies
  | .assessTrip caller tripId scenario => discard (assessTrip svc caller tripId scenario)
  | .refreshIncident caller incidentId => discard (refreshIncident svc caller incidentId)
  | .createCandidateSet caller incidentId candidates =>
    discard (createCandidateSet svc caller incidentId candidates)
  | .recordCandidateOutcome caller incidentId candidateSetId candidateId update =>
    discard (recordCandidateOutcome svc caller incidentId candidateSetId candidateId update)
  | .approveIncident caller incidentId payload =>
    discard (approveIncident svc caller incidentId payload)
  | .rejectIncident caller incidentId payload =>
    discard (rejectIncident svc caller incidentId payload)
  | .updatePreferences caller travelerId update =>
    discard (updatePreferences svc caller travelerId update)
  | .createMemoryProposal caller body => discard (createMemoryProposal svc caller body)
  | .confirmMemoryProposal caller proposalId actorId =>
    discard (confirmMemoryProposal svc caller proposalId actorId)
  | .deleteTravelerMemory caller travelerId actorId =>
    deleteTravelerMemory svc caller travelerId actorId
  | .createLegalHold caller body => discard (createLegalHold svc caller body)
  | .releaseLegalHold caller legalHoldId reason =>
    discard (releaseLegalHold svc caller legalHoldId reason)
  | .createDeletionRequest caller body => discard (createDeletionRequest svc caller body)
  | .queueNotification caller payload => discard (queueNotification svc caller payload)
  | .acknowledgeNotification caller notificationId actorId =>
    discard (acknowledgeNotification svc caller notificationId actorId)
  | .createChangeRecord caller body => discard (createChangeRecord svc caller body)
  | .setRuntimeControl caller controlName update =>
    discard (setRuntimeControl svc caller controlName update)
  | .setPlatformRuntimeControl caller controlName update =>
    discard (setPlatformRuntimeControl svc caller controlName update)
  | .publishTenantPlaybook caller payload => discard (publishTenantPlaybook svc caller payload)
  | .createProviderOnboarding caller body => discard (createProviderOnboarding svc caller body)
  | .dispatchNotifications caller => discard (dispatchNotifications svc caller)
  | .dispatchDueNotifications => discard (dispatchDueNotificationsJob svc)
  | .dispatchApprovedActions => discard (dispatchApprovedActionsJob svc)
  | .processDueAssessments => discard (processDueAssessments svc)
  | .processPrivacyDeletionRequests => discard processPrivacyDeletionRequestsJob
  | .runRetention => discard (runRetentionJob svc)

end Api

end RouteShield
