import RouteShield.Api.Assess
import RouteShield.Api.Governance

/-!
The signed booking webhook: it saves the itinerary it carries, resets or adds to the trip's
evidence, and has the trip assessed under a key of its own.
-/

namespace RouteShield

/-- A delivery as the framework and the parsers of its parts leave it. -/
structure WebhookDelivery where
  /-- The secret, the signature and the timestamp are all there. -/
  credentials : Bool
  /-- `verify_webhook_signature`. -/
  signed : Bool
  /-- The timestamp of the header, or what is wrong with it. -/
  timestamp : Except String Time
  /-- The event of the body, or what is wrong with it. -/
  event : Except String BookingWebhookEvent
  tenantId : Option String := none

/-- `max_age` and `max_skew`. -/
def webhookWindow : ℤ := minutes 5

namespace Api

variable (svc : Service)

/-- A `ValueError` of a parser becomes a 422. -/
def parsed {α : Type} : Except String α → Api α
  | .ok a => pure a
  | .error message => http 422 message

theorem parsed_run_eq_ok {α : Type} {result : Except String α} {b : Backend} {env : Env}
    {w w' : World b} {a : α} (h : (parsed result).run env.exec w = (.ok a, w')) :
    result = .ok a := by
  cases result with
  | ok a' =>
    cases h
    rfl
  | error message => cases h

def parseWebhook (delivery : WebhookDelivery) : Api BookingWebhookEvent := do
  let timestamp ← parsed delivery.timestamp
  let time ← now
  require (|time - timestamp| ≤ webhookWindow) 422
    "webhook timestamp is outside the accepted replay window"
  let event ← parsed delivery.event
  require (|event.occurredAt - timestamp| ≤ webhookWindow) 422
    "webhook body timestamp does not match the signed timestamp"
  return event

/-- The parts of a delivery whose event is returned. -/
theorem parseWebhook_run {delivery : WebhookDelivery} {b : Backend} {env : Env} {w w' : World b}
    {event : BookingWebhookEvent}
    (h : (parseWebhook delivery).run env.exec w = (.ok event, w')) :
    (∃ time, delivery.timestamp = .ok time) ∧ delivery.event = .ok event := by
  obtain ⟨time, _, htime, h⟩ := Prog.run_bind_eq_ok.mp h
  obtain ⟨_, _, -, h⟩ := Prog.run_bind_eq_ok.mp h
  obtain ⟨_, _, -, h⟩ := Prog.run_bind_eq_ok.mp h
  obtain ⟨event', _, hevent, h⟩ := Prog.run_bind_eq_ok.mp h
  obtain ⟨_, _, -, h⟩ := Prog.run_bind_eq_ok.mp h
  cases h
  exact ⟨⟨time, parsed_run_eq_ok htime⟩, parsed_run_eq_ok hevent⟩

/-- `TripCreate.model_validate(webhook.data["trip"])`, for the webhook's tenant. -/
def webhookTrip (webhook : BookingWebhookEvent) : Api TripCreate := do
  let rawTrip ← match Json.get? webhook.data "trip" with
    | some (.obj fields) => pure fields
    | _ => http 422 (webhook.eventType ++ " requires a trip object")
  let trip ← found (svc.parseTrip rawTrip) 422 (webhook.eventType ++ " trip is invalid")
  require (trip.tenantId = webhook.tenantId) 403 "tenant mismatch"
  return trip

/-- The trip that the event has saved, and the name of the change. -/
def webhookChange (webhook : BookingWebhookEvent) : Api (Option (Trip × String)) := do
  if webhook.eventType = "itinerary.upsert" ∨ webhook.eventType = "itinerary.updated" then do
    let payload ← webhookTrip svc webhook
    let existing ← match webhook.tripId with
      | some id => repo (.getTrip webhook.tenantId id)
      | none => pure none
    if webhook.eventType = "itinerary.updated" then do
      require webhook.tripId.isSome 422 "itinerary.updated requires trip_id"
      require existing.isSome 404 "trip not found"
    else pure ()
    let tripId ← orDrawn webhook.tripId
    let createdAt ← orNow (existing.map Trip.createdAt)
    return some (({ payload with tripId, createdAt } : Trip),
      if existing.isSome then "itinerary_updated" else "itinerary_created")
  else if webhook.eventType = "itinerary.cancelled" then do
    let tripId ← found webhook.tripId 422 "itinerary.cancelled requires trip_id"
    let existing ← found (← repo (.getTrip webhook.tenantId tripId)) 404 "trip not found"
    return some ({ existing with status := .cancelled }, "itinerary_cancelled")
  else return none

/-- The evidence a cancellation leaves in place of the flight's. -/
def cancellationEvidence (messageId : String) : Api EvidenceEnvelope := do
  let evidenceId ← uuid4
  let retrievedAt ← now
  let parsedAt ← now
  return {
    evidenceId
    sourceName := "booking-webhook"
    sourceType := "flight_status"
    sourceUrlOrRecordId := "booking-webhook:" ++ messageId
    retrievedAt
    expiresAt := parsedAt + minutes 15
    normalizedPayload := [("risk_score", .num (.int 100)), ("booking_status", .str "cancelled")] }

def saveWebhookTrip (webhook : BookingWebhookEvent) (trip : Trip) (change : String) :
    Api Unit := do
  repo (.saveTrip trip)
  if change = "itinerary_updated" then repo (.saveEvidence trip.tenantId trip.tripId [])
  else if change = "itinerary_cancelled" then do
    let current ← repo (.getEvidence trip.tenantId trip.tripId)
    let item ← cancellationEvidence webhook.messageId
    repo (.saveEvidence trip.tenantId trip.tripId
      (current.filter (fun e => e.sourceType ≠ "flight_status") ++ [item]))
  else pure ()

/-- The caller that assesses the trip of a webhook. -/
def webhookCaller (tenantId idempotencyKey : String) : Caller where
  tenantId := some tenantId
  actorRole := some .tenantAdmin
  actorId := some "booking-webhook"
  idempotencyKey := some (assessmentKey idempotencyKey)

def webhookKey (messageId : String) : String := "booking-webhook:" ++ messageId

def acceptWebhook (webhook : BookingWebhookEvent) (change : Option (Trip × String)) :
    Api Response := do
  let idempotencyKey := webhookKey webhook.messageId
  let correlationId ← uuid4
  let materialChange := change.map Prod.snd
  let eventId ← recordEvent
    { eventType := "booking_webhook." ++ webhook.eventType
      tenantId := webhook.tenantId
      tripId := (change.map (fun c => c.1.tripId)).or webhook.tripId
      correlationId
      details :=
        [("message_id", .str webhook.messageId),
          ("occurred_at", .str (isoformat webhook.occurredAt)),
          ("payload_keys", .arr (((webhook.data.map Prod.fst).mergeSort
            (fun a b => a ≤ b)).map .str)),
          ("material_change", (materialChange.map Json.str).getD .null)] }
    idempotencyKey
  let assessmentId ← match change with
    | some (trip, name) => do
      saveWebhookTrip webhook trip name
      let result ← assessTrip svc (webhookCaller trip.tenantId idempotencyKey) trip.tripId none
      pure (some result.assessment.assessmentId)
    | none => pure none
  return .accepted webhook.messageId eventId (change.map (fun c => c.1.tripId)) assessmentId
    materialChange

def bookingWebhook (delivery : WebhookDelivery) : Api Response := do
  require delivery.credentials 401 "invalid webhook credentials"
  require delivery.signed 401 "invalid webhook signature"
  let webhook ← parseWebhook delivery
  require (!(truthy delivery.tenantId && delivery.tenantId ≠ some webhook.tenantId)) 403
    "tenant mismatch"
  let change ← webhookChange svc webhook
  mutation svc webhook.tenantId (some (webhookKey webhook.messageId)) "POST:/v1/webhooks/booking"
    (.booking webhook) 202 Response.asStored (acceptWebhook svc webhook change)

end Api

end RouteShield
