import RouteShield.Domain.Models

/-!
An incident and what hangs off it: the investigation's recommendation and audit, the
manager's decision, the action outbox and the notification outbox.
-/

namespace RouteShield

inductive IncidentStatus where
  | «open» | pendingApproval | approved | rejected | resolved
  deriving DecidableEq

inductive ApprovalDecision where
  | approve | reject
  deriving DecidableEq

def ApprovalDecision.value : ApprovalDecision → String
  | .approve => "approve"
  | .reject => "reject"

structure ToolAuditEvent where
  toolName : String
  arguments : JsonObject := []
  evidenceIds : List Uuid := []
  occurredAt : Time
  outcome : String := "completed"
  deriving DecidableEq

/-- Redacted model invocation metadata. -/
structure ModelInvocationAudit where
  provider : String
  model : String
  promptVersion : String
  invocationType : String
  outcome : String
  inputSummary : JsonObject := []
  tokenUsage : Option (List (String × ℤ)) := none
  estimatedCostUsd : Option ℚ := none
  occurredAt : Time
  deriving DecidableEq

structure Recommendation where
  recommendationId : Uuid
  incidentId : Uuid
  severityExplanation : String
  evidenceIds : List Uuid
  uncertainty : String := "high"
  recommendedAction : String
  rankedAlternativeIds : List String := []
  travelerMessage : String
  managerMessage : String
  requiresHumanApproval : Bool := true
  missingInformation : List String := []
  generatedAt : Time
  deriving DecidableEq

structure Incident where
  incidentId : Uuid
  tenantId : String
  tripId : Uuid
  assessmentId : Uuid
  severity : Severity
  status : IncidentStatus := .open
  correlationId : Uuid
  createdAt : Time
  updatedAt : Time
  toolAudit : List ToolAuditEvent := []
  modelAudit : List ModelInvocationAudit := []
  recommendation : Option Recommendation := none
  graphThreadId : Option String := none
  approvalPayload : Option JsonObject := none
  deriving DecidableEq

/-! ### Decisions -/

structure ApprovalRequest where
  decision : ApprovalDecision
  actorId : String
  reason : String
  finalActionPayload : JsonObject := []
  deriving DecidableEq

structure ApprovalRecord extends ApprovalRequest where
  approvalId : Uuid
  incidentId : Uuid
  decidedAt : Time
  actionDispatchStatus : String := "not_requested"
  deriving DecidableEq

/-! ### Outboxes -/

/-- A worker's lease on an outbox record. -/
structure DispatchClaim where
  claimId : Uuid
  claimedBy : String
  claimedAt : Time
  expiresAt : Time
  deriving DecidableEq

inductive ActionDispatchStatus where
  | queued | dispatched | retryScheduled | failed | suppressed
  deriving DecidableEq

def ActionDispatchStatus.value : ActionDispatchStatus → String
  | .queued => "queued"
  | .dispatched => "dispatched"
  | .retryScheduled => "retry_scheduled"
  | .failed => "failed"
  | .suppressed => "suppressed"

structure ActionDispatchRecord where
  actionDispatchId : Uuid
  tenantId : String
  incidentId : Uuid
  approvalId : Uuid
  actionPayload : JsonObject
  idempotencyKey : String
  status : ActionDispatchStatus := .queued
  attemptCount : ℕ := 0
  nextAttemptAt : Time
  lastErrorCode : Option String := none
  dispatchClaim : Option DispatchClaim := none
  dispatchedAt : Option Time := none
  createdAt : Time
  updatedAt : Time
  deriving DecidableEq

structure ActionDispatchAttempt where
  attemptId : Uuid
  actionDispatchId : Uuid
  attemptNumber : ℕ
  attemptedAt : Time
  outcome : String
  externalReference : Option String := none
  errorCode : Option String := none
  deriving DecidableEq

inductive NotificationStatus where
  | queued | delivered | retryScheduled | failed | acknowledged | cancelled
  deriving DecidableEq

def NotificationStatus.value : NotificationStatus → String
  | .queued => "queued"
  | .delivered => "delivered"
  | .retryScheduled => "retry_scheduled"
  | .failed => "failed"
  | .acknowledged => "acknowledged"
  | .cancelled => "cancelled"

structure NotificationCreate where
  incidentId : Option Uuid := none
  travelerId : String
  channel : String
  recipientReference : String
  subject : String
  body : String
  deriving DecidableEq

structure NotificationRecord extends NotificationCreate where
  notificationId : Uuid
  tenantId : String
  status : NotificationStatus := .queued
  attemptCount : ℕ := 0
  nextAttemptAt : Time
  deliveredAt : Option Time := none
  acknowledgedAt : Option Time := none
  acknowledgementActorId : Option String := none
  lastErrorCode : Option String := none
  dispatchClaim : Option DispatchClaim := none
  createdAt : Time
  updatedAt : Time
  deriving DecidableEq

structure NotificationAttempt where
  attemptId : Uuid
  notificationId : Uuid
  attemptNumber : ℕ
  attemptedAt : Time
  outcome : String
  providerMessageReference : Option String := none
  errorCode : Option String := none
  deriving DecidableEq

end RouteShield
