import RouteShield.Api.Access

/-!
Legal holds and requests for erasure, as an administrator or a traveler enters them.
-/

namespace RouteShield

/-- A hold of a request, in which the fields with a default factory may be left out. -/
structure LegalHoldBody where
  legalHoldId : Option Uuid := none
  tenantId : String
  scope : LegalHoldScope
  reason : String
  createdBy : String
  travelerId : Option String := none
  tripId : Option Uuid := none
  expiresAt : Option Time := none
  releasedAt : Option Time := none
  releasedBy : Option String := none
  releaseReason : Option String := none
  createdAt : Option Time := none
  validScope : ValidScope scope travelerId tripId releasedAt releasedBy := by decide

/-- An erasure request, in which the fields with a default factory may be left out. -/
structure DeletionRequestBody where
  deletionRequestId : Option Uuid := none
  tenantId : String
  travelerId : String
  scope : DeletionRequestScope := .travelerData
  requestedBy : String
  reason : String
  status : DeletionRequestStatus := .pending
  submittedAt : Option Time := none
  completedAt : Option Time := none
  blockedByHoldIds : List Uuid := []
  failureCode : Option String := none
  deriving DecidableEq

namespace Api

variable (svc : Service)

def parseLegalHold (body : LegalHoldBody) : Api LegalHoldRecord := do
  let legalHoldId ← orDrawn body.legalHoldId
  let createdAt ← orNow body.createdAt
  return { body with legalHoldId, createdAt }

/-- The body of a creation: the hold is stored as it was sent. -/
def saveHold (tenantId : String) (payload : LegalHoldRecord) : Api LegalHoldRecord := do
  repo (.saveLegalHold payload)
  let correlationId ← uuid4
  emitEvent
    { eventType := "privacy.legal_hold_created"
      tenantId
      tripId := payload.tripId
      correlationId
      actorId := some payload.createdBy
      details := [("legal_hold_id", .str payload.legalHoldId.str),
        ("scope", .str payload.scope.value)] }
  return payload

def createLegalHold (caller : Caller) (body : LegalHoldBody) : Api LegalHoldRecord := do
  let payload ← parseLegalHold body
  requireRole caller.actorRole [.tenantAdmin]
  let tenantId ← requireTenant caller.tenantId
  let _ ← requireActorMatchesPayload svc caller.actorId payload.createdBy
  require (payload.tenantId = tenantId) 403 "tenant mismatch"
  mutation svc tenantId caller.idempotencyKey "POST:/v1/privacy/legal-holds"
    (.legalHold payload) 201 Response.ofLegalHold (saveHold tenantId payload)

/-- The body of a release, on the hold read before the key was claimed. -/
def releaseHold (tenantId : String) (hold : LegalHoldRecord) (actorId : Option String)
    (hactor : truthy actorId = true) (reason : String) : Api LegalHoldRecord := do
  require (hold.releasedAt = none) 409 "legal hold is released"
  let releasedAt ← now
  let released := hold.release releasedAt actorId hactor reason
  repo (.saveLegalHold released)
  let correlationId ← uuid4
  emitEvent
    { eventType := "privacy.legal_hold_released"
      tenantId
      tripId := released.tripId
      correlationId
      actorId
      details := [("legal_hold_id", .str released.legalHoldId.str),
        ("scope", .str released.scope.value)] }
  return released

def releaseLegalHold (caller : Caller) (legalHoldId : Uuid) (reason : String) :
    Api LegalHoldRecord := do
  requireRole caller.actorRole [.tenantAdmin]
  let tenantId ← requireTenant caller.tenantId
  let actorId ← requireActorId svc caller.actorId
  if hactor : truthy actorId = true then do
    let hold ← found (← repo (.getLegalHold tenantId legalHoldId)) 404 "legal hold not found"
    mutation svc tenantId caller.idempotencyKey
      ("POST:/v1/privacy/legal-holds/" ++ legalHoldId.str ++ "/release") (.releaseReason reason)
      200 Response.ofLegalHold (releaseHold tenantId hold actorId hactor reason)
  else http 401 "actor required"

def parseDeletionRequest (body : DeletionRequestBody) : Api DeletionRequest := do
  let deletionRequestId ← orDrawn body.deletionRequestId
  let submittedAt ← orNow body.submittedAt
  return { body with deletionRequestId, submittedAt }

/-- The body of a submission: what a worker decides later is reset. -/
def submitDeletionRequest (tenantId requester : String) (payload : DeletionRequest) :
    Api DeletionRequest := do
  let request : DeletionRequest :=
    { payload with
      status := .pending
      completedAt := none
      blockedByHoldIds := []
      failureCode := none }
  repo (.saveDeletionRequest request)
  let correlationId ← uuid4
  emitEvent
    { eventType := "privacy.deletion_requested"
      tenantId
      tripId := none
      correlationId
      actorId := some requester
      details := [("deletion_request_id", .str request.deletionRequestId.str),
        ("scope", .str request.scope.value)] }
  return request

def createDeletionRequest (caller : Caller) (body : DeletionRequestBody) :
    Api DeletionRequest := do
  let payload ← parseDeletionRequest body
  requireRole caller.actorRole [.traveler, .tenantAdmin]
  let tenantId ← requireTenant caller.tenantId
  let requester ← requireActorMatchesPayload svc caller.actorId payload.requestedBy
  require (payload.tenantId = tenantId) 403 "tenant mismatch"
  require (!(caller.actorRole = some .traveler && requester ≠ payload.travelerId)) 403
    "deletion request denied"
  mutation svc tenantId caller.idempotencyKey "POST:/v1/privacy/deletion-requests"
    (.deletionRequest payload) 201 Response.ofDeletionRequest
    (submitDeletionRequest tenantId requester payload)

end Api

end RouteShield
