import RouteShield.Api.Access

/-!
Trips: creating one, assigning its manager, and replacing its evidence snapshot.
-/

namespace RouteShield

/-- An evidence item of a request, in which the fields with a default factory may be left out. -/
structure EvidenceBody where
  evidenceId : Option Uuid := none
  sourceName : String
  sourceType : String
  sourceUrlOrRecordId : String
  retrievedAt : Option Time := none
  observedAt : Option Time := none
  expiresAt : Option Time := none
  freshnessStatus : FreshnessStatus := .fresh
  normalizedPayload : JsonObject := []
  rawPayloadReference : Option String := none
  providerLatencyMs : Option ℕ := none
  providerRequestId : Option String := none
  errorCode : Option String := none
  deriving DecidableEq

namespace Api

variable (svc : Service)

/-- An item without an expiry expires a quarter of an hour after it is parsed. -/
def parseEvidence (body : EvidenceBody) : Api EvidenceEnvelope := do
  let evidenceId ← orDrawn body.evidenceId
  let retrievedAt ← orNow body.retrievedAt
  let expiresAt ← match body.expiresAt with
    | some time => pure time
    | none => do
      let parsedAt ← now
      pure (parsedAt + minutes 15)
  return { body with evidenceId, retrievedAt, expiresAt }

def createTrip (caller : Caller) (body : TripCreate) : Api Trip := do
  requireRole caller.actorRole [.travelManager, .tenantAdmin]
  let tenantId ← requireTenant caller.tenantId
  require (body.tenantId = tenantId) 403 "tenant mismatch"
  let actor ← requireActorId svc caller.actorId
  let assigns := caller.actorRole = some .travelManager && truthy actor
  require (!(assigns && truthy body.assignedManagerId && body.assignedManagerId ≠ actor)) 403
    "assignment mismatch"
  let tripPayload := if assigns then { body with assignedManagerId := actor } else body
  mutation svc tenantId caller.idempotencyKey "POST:/v1/trips" (.trip body) 201 Response.ofTrip do
    validate "Trip" (namedOrNone (tripPayload.assignedManagerId.map stripWhitespace))
    let tripId ← uuid4
    let createdAt ← now
    let trip : Trip := { tripPayload with
      assignedManagerId := tripPayload.assignedManagerId.map stripWhitespace
      tripId, createdAt }
    repo (.createTrip trip)
    let correlationId ← uuid4
    emitEvent { eventType := "trip.created", tenantId, tripId := some trip.tripId, correlationId }
    return trip

def assignTripManager (caller : Caller) (tripId : Uuid) (managerId : String) : Api Trip := do
  requireRole caller.actorRole [.tenantAdmin]
  let assignmentActorId ← requireActorId svc caller.actorId
  let tenantId ← requireTenant caller.tenantId
  let trip ← found (← repo (.getTrip tenantId tripId)) 404 "trip not found"
  mutation svc tenantId caller.idempotencyKey ("PUT:/v1/trips/" ++ tripId.str ++ "/assignment")
    (.manager managerId) 200 Response.ofTrip do
      let assigned : Trip := { trip with assignedManagerId := some managerId }
      repo (.saveTrip assigned)
      let correlationId ← uuid4
      emitEvent
        { eventType := "trip.manager_assigned"
          tenantId
          tripId := some trip.tripId
          correlationId
          actorId := assignmentActorId
          details := [("assigned_manager_id", .str managerId)] }
      return assigned

def putEvidence (caller : Caller) (tripId : Uuid) (bodies : List EvidenceBody) : Api Unit := do
  let payload ← bodies.mapM parseEvidence
  let tenantId ← requireTenant caller.tenantId
  let trip ← found (← repo (.getTrip tenantId tripId)) 404 "trip not found"
  requireTripAccess svc trip caller [.travelManager, .dutyOfCare, .tenantAdmin]
  mutation svc tenantId caller.idempotencyKey ("PUT:/v1/trips/" ++ tripId.str ++ "/evidence")
    (.evidence payload) 204 Response.ofNoContent do
      repo (.saveEvidence tenantId tripId payload)

end Api

end RouteShield
