import RouteShield.Api.Effects

/-!
What every handler shares: who the caller is and what it may touch, the runtime controls,
the audit events, and the claim and completion of a keyed mutation. A keyed handler checks
the request, claims the key, and either replays the stored response or runs its body and
stores the response.
-/

namespace RouteShield

inductive UserRole where
  | traveler | travelManager | dutyOfCare | tenantAdmin | platformAdmin
  deriving DecidableEq

/-- The headers a handler reads. -/
structure Caller where
  tenantId : Option String := none
  actorRole : Option UserRole := none
  actorId : Option String := none
  idempotencyKey : Option String := none
  deriving DecidableEq

/-- The configuration of a deployed service, with the hashes it uses and the conversions of
JSON values to integers, truth values and trips that model validation accepts. -/
structure Service where
  requireOidc : Bool := false
  requireIdempotency : Bool := false
  idempotencyTtlSeconds : ℤ := 86400
  retentionDays : ℤ := 90
  defaultControlEnabled : RuntimeControlName → Bool := fun _ => false
  recoveryPolicy : CorporateTravelPolicy := {}
  coerceInt : Json → Option ℤ
  coerceBool : Json → Option Bool
  parseTrip : JsonObject → Option TripCreate
  sha256 : String → String
  fingerprint : String → Payload → String
  fingerprint_valid : ∀ scope payload, IsSha256 (fingerprint scope payload)

/-- A service with nothing switched on and a constant hash. -/
def Service.plain : Service where
  coerceInt _ := none
  coerceBool _ := none
  parseTrip _ := none
  sha256 _ := .ofList (List.replicate 64 '0')
  fingerprint _ _ := .ofList (List.replicate 64 '0')
  fingerprint_valid _ _ := by decide +kernel

/-- Every control is on by default. -/
def Service.switchedOn : Service := { Service.plain with defaultControlEnabled := fun _ => true }

/-- The first text that is not empty. -/
def textOr (text : Option String) (default : String) : String :=
  if truthy text then text.getD default else default

namespace Api

variable (svc : Service)

/-- A field's default factory runs when the body leaves the field out. -/
def orDrawn (id : Option Uuid) : Api Uuid :=
  match id with
  | some id => pure id
  | none => uuid4

def orNow (time : Option Time) : Api Time :=
  match time with
  | some time => pure time
  | none => now

/-- A model's constraints on the values it is built from. -/
def validate (model : String) (valid : Bool) : Api Unit :=
  if valid then pure () else .throw (.validation model)

/-- `min_length=1, max_length=128`. -/
def named (text : String) : Bool := lengthWithin text 1 128

/-- `max_length=128` on an optional text. -/
def namedOrNone (text : Option String) : Bool := ∀ t ∈ text, t.length ≤ 128

/-! ### Access -/

def requireTenant (tenantId : Option String) : Api String :=
  match tenantId with
  | some tenant => if tenant = "" then http 401 "X-Tenant-Id is required" else pure tenant
  | none => http 401 "X-Tenant-Id is required"

def requireRole (role : Option UserRole) (allowed : List UserRole) : Api Unit :=
  require (∃ r ∈ role, r ∈ allowed) 403 "insufficient role"

def requireActorId (actorId : Option String) : Api (Option String) := do
  require (!svc.requireOidc || truthy actorId) 401 "authenticated actor identity is required"
  return actorId

/-- `actor_id or payload_actor_id`, when the two do not differ. -/
def requireActorMatchesPayload (actorId : Option String) (payloadActorId : String) :
    Api String := do
  let actor ← requireActorId svc actorId
  require (!truthy actor || actor = some payloadActorId) 403 "actor identity mismatch"
  return payloadActorId

def requireTripAccess (trip : Trip) (caller : Caller) (allowed : List UserRole) : Api Unit := do
  requireRole caller.actorRole allowed
  let actor ← requireActorId svc caller.actorId
  require (!(caller.actorRole = some .traveler && truthy actor && actor ≠ some trip.travelerId))
    403 "trip access denied"
  require (!(caller.actorRole = some .travelManager && truthy actor &&
    trip.assignedManagerId ≠ actor)) 403 "trip access denied"

def requireIncidentTripAccess (tenantId : String) (incidentId : Uuid) (caller : Caller)
    (allowed : List UserRole) : Api (Incident × Trip) := do
  let incident ← found (← repo (.getIncident tenantId incidentId)) 404 "incident not found"
  let trip ← found (← repo (.getTrip tenantId incident.tripId)) 404 "trip not found"
  requireTripAccess svc trip caller allowed
  return (incident, trip)

/-! ### Runtime controls -/

def controlEnabled (tenantId : String) (controlName : RuntimeControlName) : Api Bool := do
  match ← repo (.getRuntimeControlOverride tenantId controlName) with
  | some override => return override.enabled
  | none =>
    match ← repo (.getPlatformControlOverride controlName) with
    | some platform => return platform.enabled
    | none => return svc.defaultControlEnabled controlName

/-! ### Audit -/

structure EventFields where
  eventType : String
  tenantId : String
  tripId : Option Uuid
  correlationId : Uuid
  actorId : Option String := none
  details : JsonObject := []

def recordEvent (fields : EventFields) (idempotencyKey : String) : Api Uuid := do
  let eventId ← uuid4
  let emittedAt ← now
  repo (.recordEvent
    { eventId
      eventType := fields.eventType
      tenantId := fields.tenantId
      tripId := fields.tripId
      correlationId := fields.correlationId
      idempotencyKey
      emittedAt
      actorId := fields.actorId
      details := fields.details })
  return eventId

def emitEvent (fields : EventFields) : Api Unit := do
  let _ ← recordEvent { fields with details := redactFields fields.details }
    (fields.eventType ++ ":" ++ fields.correlationId.str)

def recordMemoryAudit (tenantId travelerId action : String) (proposalId : Option Uuid)
    (actorId : Option String) (details : JsonObject) : Api Unit := do
  validate "MemoryAuditEvent" (named tenantId && named travelerId && namedOrNone actorId)
  let auditId ← uuid4
  let occurredAt ← now
  repo (.recordMemoryAudit
    { auditId, tenantId, travelerId, action, proposalId, actorId, details, occurredAt })

/-! ### Keyed mutations -/

/-- The fingerprint, and the record to replay if the request was completed before. -/
def claimMutation (tenantId idempotencyKey scope : String) (payload : Payload) :
    Api (String × Option MutationRecord) := do
  let requestHash := svc.fingerprint scope payload
  let claimedAt ← now
  let (disposition, record) ← repo (.claimIdempotency
    { tenantId, idempotencyKey, scope, requestHash
      expiresAt := claimedAt + seconds svc.idempotencyTtlSeconds })
  match disposition with
  | .execute => return (requestHash, none)
  | .replay => return (requestHash, some record)
  | .conflict => http 409 "Idempotency-Key was already used for a different request"
  | .inProgress => http 409 "A request with this Idempotency-Key is still in progress"

def completeMutation (tenantId idempotencyKey requestHash : String) (responseStatusCode : ℕ)
    (responsePayload : Response) : Api Unit := do
  let _ ← repo (.completeIdempotency
    { tenantId, idempotencyKey, requestHash, responseStatusCode, responsePayload })

/-- The key that counts: an empty one does not. -/
def keyed (idempotencyKey : Option String) : Option String :=
  idempotencyKey.filter (fun key => key ≠ "")

def claimOptionalMutation (tenantId : String) (idempotencyKey : Option String) (scope : String)
    (payload : Payload) : Api (Option String × Option MutationRecord) :=
  match keyed idempotencyKey with
  | none => do
    require (!svc.requireIdempotency) 400 "Idempotency-Key is required"
    return (none, none)
  | some key => do
    let (requestHash, replay) ← claimMutation svc tenantId key scope payload
    return (some requestHash, replay)

def completeOptionalMutation (tenantId : String) (idempotencyKey requestHash : Option String)
    (responseStatusCode : ℕ) (responsePayload : Response) : Api Unit :=
  match keyed idempotencyKey, requestHash with
  | some key, some requestHash =>
    completeMutation tenantId key requestHash responseStatusCode responsePayload
  | _, _ => pure ()

/-- How a handler's result is stored as a response, and what validation reads back. -/
structure Stored (α : Type) where
  encode : α → Response
  decode : Response → Option α

/-- The result is read back as it was stored. -/
def Stored.Faithful {α : Type} (stored : Stored α) (a : α) : Prop :=
  stored.decode (stored.encode a) = some a

/-- `model_validate(replay.response_payload)`. -/
def Stored.replay {α : Type} (stored : Stored α) (record : MutationRecord) : Api α :=
  match record.responsePayload.bind stored.decode with
  | some a => pure a
  | none => .throw (.validation "response_payload")

/-- Claim; then replay the stored response, or run the body and store its response. -/
def mutation {α : Type} (tenantId : String) (idempotencyKey : Option String) (scope : String)
    (payload : Payload) (responseStatusCode : ℕ) (stored : Stored α) (body : Api α) : Api α := do
  let (requestHash, replay) ← claimOptionalMutation svc tenantId idempotencyKey scope payload
  match replay with
  | some record => stored.replay record
  | none => do
    let a ← body
    completeOptionalMutation tenantId idempotencyKey requestHash responseStatusCode
      (stored.encode a)
    return a

end Api

/-! ### Stored responses

A model that was validated when it was built validates again; two of them are changed after. -/

namespace Response

open Api (Stored namedOrNone)

/-- A trip's texts are stripped when it is read back. -/
def ofTrip : Stored Trip where
  encode := .trip
  decode := fun | .trip a => some a.stripped | _ => none

def ofCandidateSet : Stored RecoveryCandidateSet where
  encode := .candidateSet
  decode := fun | .candidateSet a => some a | _ => none

def ofAssessment : Stored AssessmentResult where
  encode := .assessment
  decode := fun | .assessment a => some a | _ => none

def ofApproval : Stored ApprovalRecord where
  encode := .approval
  decode := fun | .approval a => some a | _ => none

def ofProfile : Stored TravelerPreferenceProfile where
  encode := .profile
  decode := fun | .profile a => some a | _ => none

def ofMemoryProposal : Stored MemoryUpdateProposal where
  encode := .memoryProposal
  decode := fun | .memoryProposal a => some a | _ => none

/-- A release copies the actor into the hold unchecked; reading it back checks its length. -/
def ofLegalHold : Stored LegalHoldRecord where
  encode := .legalHold
  decode := fun | .legalHold a => if namedOrNone a.releasedBy then some a else none | _ => none

def ofDeletionRequest : Stored DeletionRequest where
  encode := .deletionRequest
  decode := fun | .deletionRequest a => some a | _ => none

/-- An acknowledgement copies the actor into the record unchecked; reading it back checks
its length. -/
def ofNotification : Stored NotificationRecord where
  encode := .notification
  decode := fun
    | .notification a => if namedOrNone a.acknowledgementActorId then some a else none
    | _ => none

def ofChangeRecord : Stored ChangeRecord where
  encode := .changeRecord
  decode := fun | .changeRecord a => some a | _ => none

def ofControlChange : Stored RuntimeControlChange where
  encode := .controlChange
  decode := fun | .controlChange a => some a | _ => none

def ofPlatformControlChange : Stored PlatformRuntimeControlChange where
  encode := .platformControlChange
  decode := fun | .platformControlChange a => some a | _ => none

def ofPlaybook : Stored TenantPlaybook where
  encode := .playbook
  decode := fun | .playbook a => some a | _ => none

def ofOnboarding : Stored ProviderOnboardingRecord where
  encode := .onboarding
  decode := fun | .onboarding a => some a | _ => none

/-- A CSV import answers with the number of rows and the upload's identifier. -/
def ofCsvImport : Stored (ℕ × Uuid) where
  encode := fun a => .csvImport a.1 a.2
  decode := fun | .csvImport rows id => some (rows, id) | _ => none

/-- A response without a body replays its status code, whatever is stored. -/
def ofNoContent : Stored Unit where
  encode := fun _ => .noContent
  decode := fun _ => some ()

/-- A webhook replays what is stored as it is. -/
def asStored : Stored Response where
  encode := id
  decode := some

end Response

end RouteShield
