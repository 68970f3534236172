import RouteShield.Domain.Incident

/-!
The records of a tenant beside its trips and incidents: traveler memory, legal holds and
erasure requests, runtime controls, governance records and the audit trail.
-/

namespace RouteShield

/-- Python's truth value of an optional text. -/
def truthy : Option String → Bool
  | none => false
  | some text => text ≠ ""

structure EventRecord where
  eventId : Uuid
  eventType : String
  tenantId : String
  tripId : Option Uuid := none
  correlationId : Uuid
  idempotencyKey : String
  emittedAt : Time
  actorId : Option String := none
  details : JsonObject := []
  deriving DecidableEq

/-! ### Traveler memory -/

structure TravelerPreferenceProfile where
  tenantId : String
  travelerId : String
  preferredAirports : List String := []
  preferredCarriers : List String := []
  cabinOrSeatPreference : Option String := none
  minimumConnectionMinutes : Option ℕ := none
  avoidOvernightConnections : Option Bool := none
  approvedGroundTransportPreferences : List String := []
  notificationChannel : Option String := none
  language : String := "en"
  approvedAccessibilityAccommodations : List String := []
  consentVersion : String
  version : ℕ := 1
  updatedAt : Time
  deriving DecidableEq

inductive MemoryProposalStatus where
  | pendingConfirmation | confirmed | rejected
  deriving DecidableEq

structure MemoryUpdateProposal where
  proposalId : Uuid
  tenantId : String
  travelerId : String
  memoryType : String := "traveler_profile"
  recordId : String
  beforeValue : JsonObject := []
  patch : JsonObject
  sourceMessageId : String
  confidence : ℚ
  consentRequired : Bool := true
  status : MemoryProposalStatus := .pendingConfirmation
  actorId : String
  createdAt : Time
  resolvedAt : Option Time := none
  deriving DecidableEq

structure MemoryAuditEvent where
  auditId : Uuid
  tenantId : String
  travelerId : String
  action : String
  proposalId : Option Uuid := none
  actorId : Option String := none
  details : JsonObject := []
  occurredAt : Time
  deriving DecidableEq

/-! ### Manager feedback and playbooks -/

inductive ManagerFeedbackType where
  | managerOverride | recoveryOutcome
  deriving DecidableEq

structure ManagerFeedback where
  feedbackId : Uuid
  tenantId : String
  incidentId : Uuid
  candidateSetId : Uuid
  candidateId : String
  feedbackType : ManagerFeedbackType
  outcomeId : Option Uuid := none
  actorId : Option String := none
  reason : Option String := none
  details : JsonObject := []
  createdAt : Time
  deriving DecidableEq

structure TenantPlaybookCreate where
  name : String
  version : String
  guidance : String
  deriving DecidableEq

structure TenantPlaybook extends TenantPlaybookCreate where
  playbookId : Uuid
  tenantId : String
  approvedBy : String
  approvedAt : Time
  deriving DecidableEq

/-! ### Governance -/

inductive ChangeRecordType where
  | model | prompt | policy
  deriving DecidableEq

structure ChangeRecord where
  changeId : Uuid
  tenantId : String
  changeType : ChangeRecordType
  name : String
  version : String
  summary : String
  riskAssessment : String
  rollbackPlan : String
  evidenceReference : Option String := none
  requestedBy : String
  approvedBy : Option String := none
  approvedAt : Option Time := none
  createdAt : Time
  deriving DecidableEq

inductive RuntimeControlName where
  | llmEnabled | reactToolCallsEnabled | notificationsEnabled | approvalActionsEnabled
  | memoryReadsEnabled | memoryWritesEnabled | providerAmadeusEnabled | providerFaaEnabled
  | providerNwsEnabled | providerAviationWeatherEnabled | providerGoogleRoutesEnabled
  | providerDestinationAdvisoryEnabled | tenantAutomationEnabled
  deriving DecidableEq

def RuntimeControlName.value : RuntimeControlName → String
  | .llmEnabled => "LLM_ENABLED"
  | .reactToolCallsEnabled => "REACT_TOOL_CALLS_ENABLED"
  | .notificationsEnabled => "NOTIFICATIONS_ENABLED"
  | .approvalActionsEnabled => "APPROVAL_ACTIONS_ENABLED"
  | .memoryReadsEnabled => "MEMORY_READS_ENABLED"
  | .memoryWritesEnabled => "MEMORY_WRITES_ENABLED"
  | .providerAmadeusEnabled => "PROVIDER_AMADEUS_ENABLED"
  | .providerFaaEnabled => "PROVIDER_FAA_ENABLED"
  | .providerNwsEnabled => "PROVIDER_NWS_ENABLED"
  | .providerAviationWeatherEnabled => "PROVIDER_AVIATION_WEATHER_ENABLED"
  | .providerGoogleRoutesEnabled => "PROVIDER_GOOGLE_ROUTES_ENABLED"
  | .providerDestinationAdvisoryEnabled => "PROVIDER_DESTINATION_ADVISORY_ENABLED"
  | .tenantAutomationEnabled => "TENANT_AUTOMATION_ENABLED"

structure RuntimeControlUpdate where
  enabled : Bool
  reason : String
  reviewAt : Option Time := none
  expiresAt : Option Time := none
  deriving DecidableEq

structure RuntimeControlChange extends RuntimeControlUpdate where
  controlChangeId : Uuid
  tenantId : String
  scope : String := "tenant"
  controlName : RuntimeControlName
  previousEnabled : Bool
  actorId : String
  changedAt : Time
  deriving DecidableEq

/-- A platform default, with no tenant. -/
structure PlatformRuntimeControlChange extends RuntimeControlUpdate where
  controlChangeId : Uuid
  scope : String := "platform"
  controlName : RuntimeControlName
  previousEnabled : Bool
  actorId : String
  changedAt : Time
  deriving DecidableEq

inductive ProviderOnboardingStatus where
  | draft | securityReview | approved | rejected | disabled
  deriving DecidableEq

structure ProviderOnboardingRecord where
  providerOnboardingId : Uuid
  tenantId : String
  providerName : String
  purpose : String
  dataClassification : String
  contractReference : Option String := none
  quotaReference : Option String := none
  ownerId : String
  status : ProviderOnboardingStatus := .draft
  approvedBy : Option String := none
  approvedAt : Option Time := none
  createdAt : Time
  deriving DecidableEq

inductive OriginalUploadStatus where
  | quarantined | validated | rejected
  deriving DecidableEq

structure OriginalUploadRecord where
  originalUploadId : Uuid
  tenantId : String
  source : String
  objectKey : String
  contentSha256 : String
  contentSizeBytes : ℕ
  contentType : String
  status : OriginalUploadStatus := .quarantined
  validationErrors : List String := []
  createdAt : Time
  validatedAt : Option Time := none
  deriving DecidableEq

/-! ### Holds and erasure -/

inductive LegalHoldScope where
  | tenant | traveler | trip
  deriving DecidableEq

def LegalHoldScope.value : LegalHoldScope → String
  | .tenant => "tenant"
  | .traveler => "traveler"
  | .trip => "trip"

/-- `validate_scope`: the subject a hold names fits its scope, and a release has an author. -/
def ValidScope (scope : LegalHoldScope) (travelerId : Option String) (tripId : Option Uuid)
    (releasedAt : Option Time) (releasedBy : Option String) : Prop :=
  (match scope with
    | .tenant => truthy travelerId = false ∧ tripId = none
    | .traveler => truthy travelerId = true ∧ tripId = none
    | .trip => tripId.isSome ∧ truthy travelerId = false) ∧
  (releasedAt.isSome → truthy releasedBy = true)

instance (scope : LegalHoldScope) (travelerId : Option String) (tripId : Option Uuid)
    (releasedAt : Option Time) (releasedBy : Option String) :
    Decidable (ValidScope scope travelerId tripId releasedAt releasedBy) := by
  unfold ValidScope
  cases scope <;> infer_instance

/-- A hold on the whole tenant that was not released. -/
theorem ValidScope.onTenant : ValidScope .tenant none none none none := by decide

/-- A deletion hold on a tenant, one traveler or one trip. -/
structure LegalHoldRecord where
  legalHoldId : Uuid
  tenantId : String
  scope : LegalHoldScope
  reason : String
  createdBy : String
  travelerId : Option String := none
  tripId : Option Uuid := none
  expiresAt : Option Time := none
  releasedAt : Option Time := none
  releasedBy : Option String := none
  releaseReason : Option String := none
  createdAt : Time
  validScope : ValidScope scope travelerId tripId releasedAt releasedBy := by decide
  deriving DecidableEq

def LegalHoldRecord.isActive (hold : LegalHoldRecord) (now : Time) : Bool :=
  hold.releasedAt = none ∧ ∀ expiresAt ∈ hold.expiresAt, now < expiresAt

/-- `model_copy` of a hold at its release. -/
def LegalHoldRecord.release (hold : LegalHoldRecord) (releasedAt : Time)
    (releasedBy : Option String) (h : truthy releasedBy = true) (reason : String) :
    LegalHoldRecord :=
  { hold with
    releasedAt := some releasedAt
    releasedBy
    releaseReason := some reason
    validScope := ⟨hold.validScope.1, fun _ => h⟩ }

inductive DeletionRequestStatus where
  | pending | blockedByLegalHold | completed | failed
  deriving DecidableEq

inductive DeletionRequestScope where
  | preferenceMemory | travelerData
  deriving DecidableEq

def DeletionRequestScope.value : DeletionRequestScope → String
  | .preferenceMemory => "preference_memory"
  | .travelerData => "traveler_data"

structure DeletionRequest where
  deletionRequestId : Uuid
  tenantId : String
  travelerId : String
  scope : DeletionRequestScope := .travelerData
  requestedBy : String
  reason : String
  status : DeletionRequestStatus := .pending
  submittedAt : Time
  completedAt : Option Time := none
  blockedByHoldIds : List Uuid := []
  failureCode : Option String := none
  deriving DecidableEq

end RouteShield
