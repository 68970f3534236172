import RouteShield.Api.Access

/-!
The two outboxes: queueing, delivering and acknowledging notifications, and handing approved
actions to their sender. A worker leases due records, and commits one attempt under its lease.
-/

namespace RouteShield

/-- `InAppNotificationSender`: the in-product inbox is the only channel with a sender. -/
def inAppSend (notification : NotificationRecord) : DeliveryResult :=
  if notification.channel = "in_app" then
    { delivered := true
      providerMessageReference := some ("in-app:" ++ notification.notificationId.str) }
  else { delivered := false, errorCode := some "channel_not_configured" }

/-- The senders the service is deployed with; `UnconfiguredActionSender` sends no action. -/
def Env.deployed (env : Env) : Env :=
  { env with
    sendNotification := fun _ notification => .ok (inAppSend notification)
    sendAction := fun _ _ =>
      .ok { dispatched := false, errorCode := some "action_provider_not_configured" } }

/-- An exponential delay, capped at one hour. -/
def retryAt (attemptNumber : ℕ) (now : Time) : Time :=
  now + minutes (min 60 (2 ^ (attemptNumber - 1)))

def maxAttempts : ℕ := 5

/-- A record may still be attempted under the lease it was claimed with. -/
def NotificationRecord.attemptable (notification : NotificationRecord) (now : Time) : Bool :=
  notification.waiting ∧ notification.nextAttemptAt ≤ now ∧
    ∀ claim ∈ notification.dispatchClaim, now < claim.expiresAt

def ActionDispatchRecord.attemptable (action : ActionDispatchRecord) (now : Time) : Bool :=
  action.waiting ∧ action.nextAttemptAt ≤ now ∧ ∀ claim ∈ action.dispatchClaim, now < claim.expiresAt

/-- The record after an attempt, and the name of its outcome. -/
def NotificationRecord.attempted (notification : NotificationRecord) (result : DeliveryResult)
    (now : Time) : NotificationRecord × String :=
  let attemptNumber := notification.attemptCount + 1
  let counted := { notification with attemptCount := attemptNumber, updatedAt := now }
  if result.delivered then
    ({ counted with status := .delivered, deliveredAt := some now, lastErrorCode := none },
      "delivered")
  else if maxAttempts ≤ attemptNumber then
    ({ counted with
      status := .failed
      lastErrorCode := some (textOr result.errorCode "delivery_failed") }, "failed")
  else
    ({ counted with
      status := .retryScheduled
      nextAttemptAt := retryAt attemptNumber now
      lastErrorCode := some (textOr result.errorCode "delivery_failed") }, "retry_scheduled")

def ActionDispatchRecord.attempted (action : ActionDispatchRecord) (result : ActionDispatchResult)
    (now : Time) : ActionDispatchRecord × String :=
  let attemptNumber := action.attemptCount + 1
  let counted := { action with attemptCount := attemptNumber, updatedAt := now }
  if result.dispatched then
    ({ counted with status := .dispatched, dispatchedAt := some now, lastErrorCode := none },
      "dispatched")
  else if maxAttempts ≤ attemptNumber then
    ({ counted with
      status := .failed
      lastErrorCode := some (textOr result.errorCode "action_dispatch_failed") }, "failed")
  else
    ({ counted with
      status := .retryScheduled
      nextAttemptAt := retryAt attemptNumber now
      lastErrorCode := some (textOr result.errorCode "action_dispatch_failed") },
      "retry_scheduled")

namespace Api

variable (svc : Service)

/-! ### Notifications -/

def incidentOf (tenantId : String) (incidentId : Option Uuid) : Api (Option Incident) :=
  match incidentId with
  | some id => repo (.getIncident tenantId id)
  | none => pure none

/-- The trip and the correlation of an event: its incident's, when it has one. -/
def eventOrigin (tenantId : String) (incidentId : Option Uuid) : Api (Option Uuid × Uuid) := do
  match ← incidentOf tenantId incidentId with
  | some i => return (some i.tripId, i.correlationId)
  | none => do
    let correlationId ← uuid4
    return (none, correlationId)

def saveQueued (tenantId : String) (actorId : Option String) (payload : NotificationCreate) :
    Api NotificationRecord := do
  validate "NotificationRecord" (named tenantId)
  let notificationId ← uuid4
  let nextAttemptAt ← now
  let createdAt ← now
  let updatedAt ← now
  let notification : NotificationRecord :=
    { payload with notificationId, tenantId, nextAttemptAt, createdAt, updatedAt }
  repo (.saveNotification notification)
  let (tripId, correlationId) ← eventOrigin tenantId notification.incidentId
  emitEvent
    { eventType := "notification.queued"
      tenantId
      tripId
      correlationId
      actorId
      details := [("notification_id", .str notificationId.str),
        ("channel", .str notification.channel)] }
  return notification

/-- A notification about an incident goes to the traveler of its trip. -/
def requireNotificationAccess (tenantId : String) (caller : Caller)
    (payload : NotificationCreate) : Api Unit :=
  match payload.incidentId with
  | some incidentId => do
    let (_, trip) ← requireIncidentTripAccess svc tenantId incidentId caller
      [.travelManager, .tenantAdmin]
    require (payload.travelerId = trip.travelerId) 422
      "notification traveler does not match incident trip"
  | none => pure ()

def queueNotification (caller : Caller) (payload : NotificationCreate) :
    Api NotificationRecord := do
  requireRole caller.actorRole [.travelManager, .tenantAdmin]
  let tenantId ← requireTenant caller.tenantId
  requireNotificationAccess svc tenantId caller payload
  mutation svc tenantId caller.idempotencyKey "POST:/v1/notifications" (.notification payload) 201
    Response.ofNotification (saveQueued tenantId caller.actorId payload)

/-- Commit an attempt under the lease of its record. -/
def commitDelivery (claim : Option DispatchClaim) (attempted : NotificationRecord)
    (attempt : NotificationAttempt) : Api NotificationRecord :=
  match claim with
  | some claim => do
    let completed ← repo (.completeNotificationDelivery attempted attempt claim.claimId)
    return completed.getD attempted
  | none => do
    repo (.saveNotification attempted)
    repo (.recordNotificationAttempt attempt)
    return attempted

/-- The sender's answer; what it raises is an answer too. -/
def sendNotification (notification : NotificationRecord) : Api DeliveryResult := do
  match ← .attempt (.sendNotification notification) with
  | .ok result => return result
  | .error _ => return { delivered := false, errorCode := some "sender_exception" }

/-- Attempt delivery once and commit the transition of the queue. -/
def attemptDelivery (notification : NotificationRecord) (timestamp : Time) :
    Api NotificationRecord := do
  let result ← sendNotification notification
  let (attempted, outcome) := notification.attempted result timestamp
  validate "NotificationAttempt" (attempted.attemptCount ≤ 10 &&
    result.providerMessageReference.all (fun text => text.length ≤ 256) &&
    namedOrNone result.errorCode)
  let attemptId ← uuid4
  commitDelivery notification.dispatchClaim attempted
    { attemptId
      notificationId := notification.notificationId
      attemptNumber := attempted.attemptCount
      attemptedAt := timestamp
      outcome
      providerMessageReference := result.providerMessageReference
      errorCode := result.errorCode }

def deliverNotification (notification : NotificationRecord) : Api NotificationRecord := do
  if notification.waiting then do
    let timestamp ← now
    if notification.attemptable timestamp then attemptDelivery notification timestamp
    else return notification
  else return notification

def emitDelivered (tenantId workerId : String) (outcome : NotificationRecord) : Api Unit := do
  let (tripId, correlationId) ← eventOrigin tenantId outcome.incidentId
  emitEvent
    { eventType := "notification." ++ outcome.status.value
      tenantId
      tripId
      correlationId
      actorId := some workerId
      details :=
        [("notification_id", .str outcome.notificationId.str),
          ("channel", .str outcome.channel),
          ("attempt_count", .num (.int outcome.attemptCount)),
          ("error_code", (outcome.lastErrorCode.map Json.str).getD .null)] }

/-- A job runs under its own control and under the tenant's automation. -/
def automationEnabled (tenantId : String) (controlName : RuntimeControlName) : Api Bool := do
  if ← controlEnabled svc tenantId controlName then
    controlEnabled svc tenantId .tenantAutomationEnabled
  else return false

/-- Process the due entries of a tenant's queue. -/
def dispatchNotifications (caller : Caller) : Api (List NotificationRecord) := do
  requireRole caller.actorRole [.tenantAdmin]
  let tenantId ← requireTenant caller.tenantId
  require (← automationEnabled svc tenantId .notificationsEnabled) 503
    "notification delivery automation is disabled"
  let workerId := textOr (← requireActorId svc caller.actorId)
    "tenant-admin-notification-dispatcher"
  let pending ← repo (.claimDueNotifications
    { tenantId := some tenantId, workerId, claimTtl := minutes 5 })
  pending.mapM fun item => do
    let outcome ← deliverNotification item
    emitDelivered tenantId workerId outcome
    return outcome

/-- One leased notification of the job: skipped while its tenant's controls are off. -/
def dispatchClaimedNotification (notification : NotificationRecord) :
    Api (List NotificationRecord) := do
  if ← automationEnabled svc notification.tenantId .notificationsEnabled then do
    let outcome ← deliverNotification notification
    emitDelivered notification.tenantId "internal-notification-dispatcher" outcome
    return [outcome]
  else return []

/-- The job over all tenants. -/
def dispatchDueNotificationsJob : Api (List NotificationRecord) := do
  let claimed ← repo (.claimDueNotifications
    { tenantId := none
      workerId := "internal-notification-dispatcher"
      claimTtl := minutes 5 })
  List.flatten <$> claimed.mapM (dispatchClaimedNotification svc)

/-- The body of an acknowledgement, on the record read before the key was claimed. -/
def acknowledged (notification : NotificationRecord) (actorId : String) :
    Api NotificationRecord := do
  require (notification.status = .delivered || notification.status = .acknowledged) 409
    "notification has not been delivered"
  if notification.status = .delivered then do
    let acknowledgedAt ← now
    let updated : NotificationRecord :=
      { notification with
        status := .acknowledged
        acknowledgedAt := some acknowledgedAt
        acknowledgementActorId := some actorId
        updatedAt := acknowledgedAt }
    repo (.saveNotification updated)
    return updated
  else return notification

/-- A manager acknowledges only for the trips it is assigned to. -/
def requireAcknowledgeAccess (tenantId : String) (caller : Caller)
    (notification : NotificationRecord) : Api Unit :=
  if caller.actorRole = some .travelManager then do
    let incidentId ← found notification.incidentId 403 "notification access denied"
    let _ ← requireIncidentTripAccess svc tenantId incidentId caller [.travelManager]
  else pure ()

def acknowledgeNotification (caller : Caller) (notificationId : Uuid) (actorId : String) :
    Api NotificationRecord := do
  requireRole caller.actorRole [.traveler, .travelManager, .tenantAdmin]
  let acknowledgementActorId ← requireActorMatchesPayload svc caller.actorId actorId
  let tenantId ← requireTenant caller.tenantId
  let notification ← found (← repo (.getNotification tenantId notificationId)) 404
    "notification not found"
  require (!(caller.actorRole = some .traveler &&
    acknowledgementActorId ≠ notification.travelerId)) 403 "notification access denied"
  requireAcknowledgeAccess svc tenantId caller notification
  mutation svc tenantId caller.idempotencyKey
    ("POST:/v1/notifications/" ++ notificationId.str ++ "/acknowledge") (.actor actorId) 200
    Response.ofNotification (acknowledged notification acknowledgementActorId)

/-! ### Actions -/

def sendAction (action : ActionDispatchRecord) : Api ActionDispatchResult := do
  match ← .attempt (.sendAction action) with
  | .ok result => return result
  | .error _ => return { dispatched := false, errorCode := some "action_sender_exception" }

/-- Commit an attempt under the lease of its record. -/
def commitAction (claim : Option DispatchClaim) (attempted : ActionDispatchRecord)
    (attempt : ActionDispatchAttempt) : Api ActionDispatchRecord :=
  match claim with
  | some claim => do
    let completed ← repo (.completeActionDispatch attempted attempt claim.claimId)
    return completed.getD attempted
  | none => do
    repo (.saveActionDispatch attempted)
    repo (.recordActionDispatchAttempt attempt)
    return attempted

/-- Hand one leased action to the sender and commit its outcome. -/
def attemptAction (action : ActionDispatchRecord) (timestamp : Time) :
    Api ActionDispatchRecord := do
  let result ← sendAction action
  let (attempted, outcome) := action.attempted result timestamp
  validate "ActionDispatchAttempt" (attempted.attemptCount ≤ 10 &&
    result.externalReference.all (fun text => text.length ≤ 256) && namedOrNone result.errorCode)
  let attemptId ← uuid4
  commitAction action.dispatchClaim attempted
    { attemptId
      actionDispatchId := action.actionDispatchId
      attemptNumber := attempted.attemptCount
      attemptedAt := timestamp
      outcome
      externalReference := result.externalReference
      errorCode := result.errorCode }

def dispatchApprovedAction (action : ActionDispatchRecord) : Api ActionDispatchRecord := do
  if action.waiting then do
    let timestamp ← now
    if action.attemptable timestamp then attemptAction action timestamp else return action
  else return action

def emitDispatched (tenantId : String) (incidentId : Uuid) (outcome : ActionDispatchRecord) :
    Api Unit := do
  let (tripId, correlationId) ← eventOrigin tenantId (some incidentId)
  emitEvent
    { eventType := "action." ++ outcome.status.value
      tenantId
      tripId
      correlationId
      actorId := some "internal-approved-action-dispatcher"
      details :=
        [("action_dispatch_id", .str outcome.actionDispatchId.str),
          ("attempt_count", .num (.int outcome.attemptCount)),
          ("error_code", (outcome.lastErrorCode.map Json.str).getD .null)] }

/-- One leased action of the job: skipped while its tenant's controls are off. -/
def dispatchClaimedAction (action : ActionDispatchRecord) : Api (List ActionDispatchRecord) := do
  if ← automationEnabled svc action.tenantId .approvalActionsEnabled then do
    let outcome ← dispatchApprovedAction action
    emitDispatched action.tenantId action.incidentId outcome
    return [outcome]
  else return []

/-- The job over all tenants. -/
def dispatchApprovedActionsJob : Api (List ActionDispatchRecord) := do
  let claimed ← repo (.claimDueActionDispatches
    { tenantId := none
      workerId := "internal-approved-action-dispatcher"
      claimTtl := minutes 5 })
  List.flatten <$> claimed.mapM (dispatchClaimedAction svc)

end Api

end RouteShield
