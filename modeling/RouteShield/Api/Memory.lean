import RouteShield.Api.Access

/-!
Traveler memory: explicit settings changes, consent-bound proposals and their confirmation,
and the erasure of both.
-/

namespace RouteShield

/-! ### Profiles -/

/-- A new profile, before any field is set. -/
def blankProfile (tenantId travelerId consentVersion : String) (now : Time) :
    TravelerPreferenceProfile where
  tenantId
  travelerId
  consentVersion
  version := 0
  updatedAt := now

namespace TravelerPreferenceUpdate

/-- The baseline with the fields the update supplies. -/
def apply (update : TravelerPreferenceUpdate) (baseline : TravelerPreferenceProfile) :
    TravelerPreferenceProfile :=
  { baseline with
    preferredAirports := update.preferredAirports.getD baseline.preferredAirports
    preferredCarriers := update.preferredCarriers.getD baseline.preferredCarriers
    cabinOrSeatPreference := update.cabinOrSeatPreference.or baseline.cabinOrSeatPreference
    minimumConnectionMinutes :=
      update.minimumConnectionMinutes.or baseline.minimumConnectionMinutes
    avoidOvernightConnections :=
      update.avoidOvernightConnections.or baseline.avoidOvernightConnections
    approvedGroundTransportPreferences :=
      update.approvedGroundTransportPreferences.getD baseline.approvedGroundTransportPreferences
    notificationChannel := update.notificationChannel.or baseline.notificationChannel
    language := update.language.getD baseline.language
    approvedAccessibilityAccommodations :=
      update.approvedAccessibilityAccommodations.getD baseline.approvedAccessibilityAccommodations
    consentVersion := update.consentVersion }

/-- `sorted(changed)`: the names of the fields the update supplies. -/
def changedFields (update : TravelerPreferenceUpdate) : List String :=
  [("approved_accessibility_accommodations", update.approvedAccessibilityAccommodations.isSome),
    ("approved_ground_transport_preferences", update.approvedGroundTransportPreferences.isSome),
    ("avoid_overnight_connections", update.avoidOvernightConnections.isSome),
    ("cabin_or_seat_preference", update.cabinOrSeatPreference.isSome),
    ("consent_version", true),
    ("language", update.language.isSome),
    ("minimum_connection_minutes", update.minimumConnectionMinutes.isSome),
    ("notification_channel", update.notificationChannel.isSome),
    ("preferred_airports", update.preferredAirports.isSome),
    ("preferred_carriers", update.preferredCarriers.isSome)].filterMap
      (fun field => if field.2 then some field.1 else none)

end TravelerPreferenceUpdate

namespace Json

def str? : Json → Option String
  | .str s => some s
  | _ => none

def strs? : Json → Option (List String)
  | .arr items => items.mapM str?
  | _ => none

/-- `null` is a value of an optional field. -/
def optional {α : Type} (decode : Json → Option α) : Json → Option (Option α)
  | .null => some none
  | value => (decode value).map some

end Json

/-- The fields that a proposal's patch may name. -/
def patchableFields : List String :=
  ["preferred_airports", "preferred_carriers", "cabin_or_seat_preference",
    "minimum_connection_minutes", "avoid_overnight_connections",
    "approved_ground_transport_preferences", "notification_channel", "language",
    "approved_accessibility_accommodations", "consent_version"]

/-- One field of the patch over a field of the baseline; a value that does not validate fails. -/
def patched {α : Type} (patch : JsonObject) (name : String) (decode : Json → Option α)
    (baseline : α) : Option α :=
  match Json.get? patch name with
  | some value => decode value
  | none => some baseline

/-- The profile that `TravelerPreferenceProfile(**{**baseline, **patch, ...})` builds. -/
def patchProfile (svc : Service) (baseline : TravelerPreferenceProfile) (patch : JsonObject) :
    Option TravelerPreferenceProfile := do
  let minutes? := fun value =>
    (svc.coerceInt value).bind (fun n => if 0 ≤ n ∧ n ≤ 480 then some n.toNat else none)
  let consent? := fun value =>
    (Json.str? value).bind (fun text => if lengthWithin text 1 64 then some text else none)
  let preferredAirports ←
    patched patch "preferred_airports" Json.strs? baseline.preferredAirports
  let preferredCarriers ←
    patched patch "preferred_carriers" Json.strs? baseline.preferredCarriers
  let cabinOrSeatPreference ← patched patch "cabin_or_seat_preference"
    (Json.optional Json.str?) baseline.cabinOrSeatPreference
  let minimumConnectionMinutes ← patched patch "minimum_connection_minutes"
    (Json.optional minutes?) baseline.minimumConnectionMinutes
  let avoidOvernightConnections ← patched patch "avoid_overnight_connections"
    (Json.optional svc.coerceBool) baseline.avoidOvernightConnections
  let approvedGroundTransportPreferences ←
    patched patch "approved_ground_transport_preferences" Json.strs?
      baseline.approvedGroundTransportPreferences
  let notificationChannel ← patched patch "notification_channel"
    (Json.optional Json.str?) baseline.notificationChannel
  let language ← patched patch "language" Json.str? baseline.language
  let approvedAccessibilityAccommodations ←
    patched patch "approved_accessibility_accommodations" Json.strs?
      baseline.approvedAccessibilityAccommodations
  let consentVersion ← patched patch "consent_version" consent? baseline.consentVersion
  return { baseline with
    preferredAirports, preferredCarriers, cabinOrSeatPreference, minimumConnectionMinutes
    avoidOvernightConnections, approvedGroundTransportPreferences, notificationChannel
    language, approvedAccessibilityAccommodations, consentVersion }

/-- A patch keeps the owner, the version and the time of its baseline. -/
theorem patchProfile_keeps {svc : Service} {baseline profile : TravelerPreferenceProfile}
    {patch : JsonObject} (h : patchProfile svc baseline patch = some profile) :
    profile.tenantId = baseline.tenantId ∧ profile.travelerId = baseline.travelerId ∧
      profile.version = baseline.version ∧ profile.updatedAt = baseline.updatedAt := by
  simp only [patchProfile, Option.bind_eq_bind, Option.bind_eq_some_iff, Option.pure_def,
    Option.some.injEq] at h
  obtain ⟨_, _, _, _, _, _, _, _, _, _, _, _, _, _, _, _, _, _, _, _, rfl⟩ := h
  exact ⟨rfl, rfl, rfl, rfl⟩

/-- A proposal of a request, in which the fields with a default factory may be left out. -/
structure MemoryProposalBody where
  proposalId : Option Uuid := none
  tenantId : String
  travelerId : String
  memoryType : String := "traveler_profile"
  recordId : String
  beforeValue : JsonObject := []
  patch : JsonObject
  sourceMessageId : String
  confidence : ℚ
  consentRequired : Bool := true
  status : MemoryProposalStatus := .pendingConfirmation
  actorId : String
  createdAt : Option Time := none
  resolvedAt : Option Time := none
  deriving DecidableEq

def sortedKeys (patch : JsonObject) : List String :=
  (patch.map Prod.fst).mergeSort (fun a b => a ≤ b)

def jsonStrings (items : List String) : Json := .arr (items.map .str)

namespace Api

variable (svc : Service)

def updatePreferences (caller : Caller) (travelerId : String) (update : TravelerPreferenceUpdate) :
    Api TravelerPreferenceProfile := do
  requireRole caller.actorRole [.traveler, .tenantAdmin]
  let tenantId ← requireTenant caller.tenantId
  let actorId ← requireActorId svc caller.actorId
  require (!(caller.actorRole = some .traveler && truthy actorId && actorId ≠ some travelerId)) 403
    "preference access denied"
  require (← controlEnabled svc tenantId .memoryWritesEnabled) 503 "memory writes disabled"
  mutation svc tenantId caller.idempotencyKey ("PUT:/v1/travelers/" ++ travelerId ++ "/preferences")
    (.preferences update) 200 Response.ofProfile do
      let existing ← repo (.getProfile tenantId travelerId)
      let updatedAt ← now
      let baseline := existing.getD
        (blankProfile tenantId travelerId update.consentVersion updatedAt)
      let profile := { update.apply baseline with version := baseline.version + 1, updatedAt }
      repo (.saveProfile profile)
      recordMemoryAudit tenantId travelerId "updated" none
        (some (if truthy actorId then actorId.getD "" else "local-compat-settings"))
        [("changed_fields", jsonStrings update.changedFields),
          ("previous_version", (existing.map (fun p => Json.num (.int p.version))).getD .null),
          ("profile_version", .num (.int profile.version)),
          ("source", .str "explicit_settings_api")]
      let correlationId ← uuid4
      emitEvent
        { eventType := "memory_update.explicit"
          tenantId
          tripId := none
          correlationId
          actorId
          details := [("traveler_id", .str travelerId),
            ("profile_version", .num (.int profile.version))] }
      return profile

def parseMemoryProposal (body : MemoryProposalBody) : Api MemoryUpdateProposal := do
  let proposalId ← orDrawn body.proposalId
  let createdAt ← orNow body.createdAt
  return { body with proposalId, createdAt }

def createMemoryProposal (caller : Caller) (body : MemoryProposalBody) :
    Api MemoryUpdateProposal := do
  let payload ← parseMemoryProposal body
  requireRole caller.actorRole [.travelManager, .tenantAdmin]
  let _ ← requireActorMatchesPayload svc caller.actorId payload.actorId
  let tenantId ← requireTenant caller.tenantId
  require (← controlEnabled svc tenantId .memoryWritesEnabled) 503 "memory writes disabled"
  require (payload.tenantId = tenantId) 403 "tenant mismatch"
  mutation svc tenantId caller.idempotencyKey "POST:/v1/memory/proposals"
    (.memoryProposal payload) 201 Response.ofMemoryProposal do
      repo (.saveMemoryProposal payload)
      recordMemoryAudit tenantId payload.travelerId "proposed" (some payload.proposalId)
        (some payload.actorId)
        [("changed_fields", jsonStrings (sortedKeys payload.patch)),
          ("consent_required", .bool payload.consentRequired)]
      return payload

/-- The body of a confirmation, on the proposal read before the key was claimed. -/
def confirmProposal (tenantId confirmedActorId : String) (proposal : MemoryUpdateProposal) :
    Api TravelerPreferenceProfile := do
  require (proposal.status = .pendingConfirmation) 409 "proposal is already resolved"
  let existing ← repo (.getProfile tenantId proposal.travelerId)
  require (∀ name ∈ proposal.patch.map Prod.fst, name ∈ patchableFields) 422
    "proposal contains restricted fields"
  let builtAt ← now
  let baseline := existing.getD (blankProfile tenantId proposal.travelerId "pending" builtAt)
  let profile ← match patchProfile svc { baseline with version := baseline.version + 1 }
      proposal.patch with
    | some profile => pure profile
    | none => .throw (.validation "TravelerPreferenceProfile")
  let resolvedAt ← now
  repo (.saveProfile profile)
  repo (.saveMemoryProposal
    { proposal with status := .confirmed, resolvedAt := some resolvedAt })
  recordMemoryAudit tenantId proposal.travelerId "confirmed" (some proposal.proposalId)
    (some confirmedActorId)
    [("changed_fields", jsonStrings (sortedKeys proposal.patch)),
      ("profile_version", .num (.int profile.version))]
  let tripId ← uuid4
  let correlationId ← uuid4
  emitEvent
    { eventType := "memory_update.confirmed"
      tenantId
      tripId := some tripId
      correlationId
      actorId := some confirmedActorId }
  return profile

def confirmMemoryProposal (caller : Caller) (proposalId : Uuid) (actorId : String) :
    Api TravelerPreferenceProfile := do
  requireRole caller.actorRole [.traveler]
  let confirmedActorId ← requireActorMatchesPayload svc caller.actorId actorId
  let tenantId ← requireTenant caller.tenantId
  require (← controlEnabled svc tenantId .memoryWritesEnabled) 503 "memory writes disabled"
  let proposal ← found (← repo (.getMemoryProposal tenantId proposalId)) 404
    "memory proposal not found"
  require (confirmedActorId = proposal.travelerId) 403 "consent actor mismatch"
  mutation svc tenantId caller.idempotencyKey
    ("POST:/v1/memory/proposals/" ++ proposalId.str ++ "/confirm") (.actor actorId) 200
    Response.ofProfile (confirmProposal svc tenantId confirmedActorId proposal)

def deleteTravelerMemory (caller : Caller) (travelerId actorId : String) : Api Unit := do
  requireRole caller.actorRole [.traveler, .tenantAdmin]
  let deletionActorId ← requireActorMatchesPayload svc caller.actorId actorId
  require (!(caller.actorRole = some .traveler && deletionActorId ≠ travelerId)) 403
    "memory deletion denied"
  let tenantId ← requireTenant caller.tenantId
  let holds ← repo (.activeLegalHoldsForTraveler tenantId travelerId)
  require (holds = []) 423 "memory deletion is blocked by an active legal hold"
  mutation svc tenantId caller.idempotencyKey
    ("DELETE:/v1/travelers/" ++ travelerId ++ "/preferences") (.actor actorId) 204
    Response.ofNoContent do
      let (profiles, memoryProposals) ← repo (.deleteTravelerMemory tenantId travelerId)
      recordMemoryAudit tenantId travelerId "deleted" none (some deletionActorId)
        [("deleted_record_counts", .obj
          [("profiles", .num (.int profiles)), ("memory_proposals", .num (.int memoryProposals))])]

end Api

end RouteShield
