import RouteShield.Api.Events
import RouteShield.Api.HandlerFootprints

/-!
What an itinerary update does to the trip that is stored. The trip is built anew from the object of
the webhook, and only its identifier and the time of its creation are copied: a status, a manager or
a criticality that the object does not have goes back to its default.
-/

namespace RouteShield

/-- A backend that reads a trip by its tenant. -/
class TripStore (b : Backend) [Framed b] where
  trip : b.State → String → Uuid → Option Trip
  trip_congr : ∀ {s s' : b.State},
    Framed.only s' .trips = Framed.only s .trips → trip s' = trip s
  id_of_trip : ∀ {s : b.State} {tenantId : String} {tripId : Uuid} {t : Trip},
    trip s tenantId tripId = some t → t.tripId = tripId
  getTrip : ∀ (tenantId : String) (tripId : Uuid) (now : Time) (fresh : ℕ → Uuid) (s : b.State),
    b.exec (.getTrip tenantId tripId) now fresh s = (.ok (trip s tenantId tripId), s)

instance : TripStore .memory where
  trip s := s.getTrip
  trip_congr h := by
    have h' := congrArg (fun s : InMemoryRepository Response => s.getTrip) h
    exact h'
  id_of_trip h := ((Table.find?_eq_some _).mp (Option.filter_eq_some_iff.mp h).1).2
  getTrip _ _ _ _ _ := rfl

instance : TripStore .postgres where
  trip s := s.getTrip
  trip_congr h := by
    have h' := congrArg (fun s : PostgresRepository Response => s.getTrip) h
    exact h'
  id_of_trip h := by
    obtain ⟨t, ht, rfl⟩ := Option.map_eq_some_iff.mp h
    obtain ⟨row, hrow, rfl⟩ := Option.map_eq_some_iff.mp ht
    exact ((Table.find?_eq_some _).mp (Option.filter_eq_some_iff.mp hrow).1).2
  getTrip _ _ _ _ _ := rfl

/-! ### What an update is to keep -/

/-- The object has a value for the field. -/
def Carries (fields : JsonObject) (field : String) : Prop :=
  ∃ value ∈ Json.get? fields field, value ≠ .null

instance (fields : JsonObject) (field : String) : Decidable (Carries fields field) :=
  inferInstanceAs (Decidable (∃ value ∈ Json.get? fields field, value ≠ .null))

/-- What validation promises of the fields that the object does not have. -/
structure ValidatesTrip (parseTrip : JsonObject → Option TripCreate) : Prop where
  required : ∀ {fields : JsonObject} {payload : TripCreate}, parseTrip fields = some payload →
    ∀ field ∈ ["tenant_id", "traveler_id", "ground_origin", "destination_country", "segments"],
      Carries fields field
  assignedManagerId : ∀ {fields : JsonObject} {payload : TripCreate},
    parseTrip fields = some payload → ¬Carries fields "assigned_manager_id" →
      payload.assignedManagerId = none
  tripCriticality : ∀ {fields : JsonObject} {payload : TripCreate},
    parseTrip fields = some payload → ¬Carries fields "trip_criticality" →
      payload.tripCriticality = .standard

/-- A trip keeps what the server holds and every attribute that the object does not have. -/
structure KeepsRest (fields : JsonObject) (existing trip : Trip) : Prop where
  tripId : trip.tripId = existing.tripId
  createdAt : trip.createdAt = existing.createdAt
  status : trip.status = existing.status
  tenantId : ¬Carries fields "tenant_id" → trip.tenantId = existing.tenantId
  travelerId : ¬Carries fields "traveler_id" → trip.travelerId = existing.travelerId
  assignedManagerId : ¬Carries fields "assigned_manager_id" →
    trip.assignedManagerId = existing.assignedManagerId
  tripCriticality : ¬Carries fields "trip_criticality" →
    trip.tripCriticality = existing.tripCriticality
  groundOrigin : ¬Carries fields "ground_origin" → trip.groundOrigin = existing.groundOrigin
  destinationCountry : ¬Carries fields "destination_country" →
    trip.destinationCountry = existing.destinationCountry
  segments : ¬Carries fields "segments" → trip.segments = existing.segments

/-- A stored trip has the default of what the object leaves out. -/
structure LeavesDefaults (fields : JsonObject) (existing : Trip) : Prop where
  status : existing.status = .active
  assignedManagerId : ¬Carries fields "assigned_manager_id" → existing.assignedManagerId = none
  tripCriticality : ¬Carries fields "trip_criticality" → existing.tripCriticality = .standard

/-- Building the trip anew keeps the rest where the rest has its defaults. -/
theorem keepsRest_iff {parseTrip : JsonObject → Option TripCreate} (hvalid : ValidatesTrip parseTrip)
    {fields : JsonObject} {payload : TripCreate} (hparsed : parseTrip fields = some payload)
    (existing : Trip) :
    KeepsRest fields existing
        { payload with tripId := existing.tripId, createdAt := existing.createdAt } ↔
      LeavesDefaults fields existing := by
  have hcarried := hvalid.required hparsed
  constructor
  · intro h
    exact
      { status := h.status.symm
        assignedManagerId := fun hmanager =>
          (h.assignedManagerId hmanager).symm.trans (hvalid.assignedManagerId hparsed hmanager)
        tripCriticality := fun hcriticality =>
          (h.tripCriticality hcriticality).symm.trans (hvalid.tripCriticality hparsed hcriticality) }
  · intro h
    exact
      { tripId := rfl
        createdAt := rfl
        status := h.status.symm
        tenantId := fun hnot => absurd (hcarried _ (by decide)) hnot
        travelerId := fun hnot => absurd (hcarried _ (by decide)) hnot
        assignedManagerId := fun hmanager =>
          (hvalid.assignedManagerId hparsed hmanager).trans (h.assignedManagerId hmanager).symm
        tripCriticality := fun hcriticality =>
          (hvalid.tripCriticality hparsed hcriticality).trans (h.tripCriticality hcriticality).symm
        groundOrigin := fun hnot => absurd (hcarried _ (by decide)) hnot
        destinationCountry := fun hnot => absurd (hcarried _ (by decide)) hnot
        segments := fun hnot => absurd (hcarried _ (by decide)) hnot }

/-- Every manager with access to the one trip has access to the other. -/
def ManagersKeep (svc : Service) (existing trip : Trip) : Prop :=
  ∀ (caller : Caller) (allowed : List UserRole), caller.actorRole = some .travelManager →
    Api.requireTripAccess svc existing caller allowed = pure () →
      Api.requireTripAccess svc trip caller allowed = pure ()

theorem requireTripAccess_manager {svc : Service} {trip : Trip} {caller : Caller}
    {allowed : List UserRole} (hrole : caller.actorRole = some .travelManager) :
    Api.requireTripAccess svc trip caller allowed = pure () ↔
      .travelManager ∈ allowed ∧ (svc.requireOidc = true → truthy caller.actorId = true) ∧
        (truthy caller.actorId = true → trip.assignedManagerId = caller.actorId) := by
  constructor
  · intro h
    obtain ⟨_, hallowed, h⟩ := (Api.callFree_requireRole _ _).bind_eq_pure h
    obtain ⟨actor, hactor, h⟩ := (Api.callFree_requireActorId _).bind_eq_pure h
    obtain ⟨_, -, h⟩ := (Api.callFree_require _ _ _).bind_eq_pure h
    obtain ⟨rfl, hoidc⟩ := Api.requireActorId_eq_pure hactor
    obtain ⟨role, hsome, hmem⟩ := Api.requireRole_eq_pure hallowed
    rw [hrole] at hsome
    cases hsome
    refine ⟨hmem, hoidc, fun hactor => ?_⟩
    simpa [hrole, hactor] using Api.require_eq_pure h
  · rintro ⟨hmem, hoidc, hassigned⟩
    have hallowed : Api.requireRole caller.actorRole allowed = pure () := by
      simp [Api.requireRole, Api.require, hrole, hmem]
    have hactor : Api.requireActorId svc caller.actorId = pure caller.actorId := by
      have hpassed : (!svc.requireOidc || truthy caller.actorId) = true := by
        cases hrequired : svc.requireOidc with
        | false => rfl
        | true => exact hoidc hrequired
      unfold Api.requireActorId
      rw [hpassed]
      rfl
    have hown : (!(caller.actorRole = some .travelManager && truthy caller.actorId &&
        trip.assignedManagerId ≠ caller.actorId)) = true := by
      cases hactor : truthy caller.actorId with
      | false => simp
      | true => simp [hassigned hactor]
    unfold Api.requireTripAccess
    rw [hallowed, hactor]
    change (Api.require _ 403 _ >>= fun _ => Api.require _ 403 _) = _
    rw [hown, hrole]
    rfl

/-- The access of managers is kept when the assigned manager is. -/
theorem managersKeep_iff {svc : Service} {existing trip : Trip} :
    ManagersKeep svc existing trip ↔ ∀ manager ≠ "", existing.assignedManagerId = some manager →
      trip.assignedManagerId = some manager := by
  constructor
  · intro h manager hnamed hassigned
    have hactor : truthy (some manager) = true := by simpa [truthy] using hnamed
    have hkept := h { actorRole := some .travelManager, actorId := some manager } [.travelManager]
      rfl ((requireTripAccess_manager rfl).mpr
        ⟨List.mem_cons_self, fun _ => hactor, fun _ => hassigned⟩)
    exact ((requireTripAccess_manager rfl).mp hkept).2.2 hactor
  · intro h caller allowed hrole haccess
    obtain ⟨hmem, hoidc, hassigned⟩ := (requireTripAccess_manager hrole).mp haccess
    refine (requireTripAccess_manager hrole).mpr ⟨hmem, hoidc, fun hactor => ?_⟩
    cases hcaller : caller.actorId with
    | none =>
      rw [hcaller] at hactor
      cases hactor
    | some manager =>
      rw [hcaller] at hactor hassigned
      exact h manager (by simpa [truthy] using hactor) (hassigned hactor)

/-! ### The trips that are saved -/

/-- The trips that a call saves. -/
def Effect.savedTrips : {α : Type} → Effect α → List Trip
  | _, .repo (.saveTrip trip) => [trip]
  | _, _ => []

variable {b : Backend} {env : Env} {svc : Service} {w w' : World b} {delivery : WebhookDelivery}
  {webhook : BookingWebhookEvent} {trip existing : Trip}

/-- The trips that a program saves, in the order of its calls. -/
def savedTrips (env : Env) {α : Type} (p : Api α) (w : World b) : List Trip :=
  p.traces env.exec Effect.savedTrips w

namespace Api

open Prog hiding pure

variable {α β : Type}

theorem savedTrips_leftBy : LeftBy .trips Effect.savedTrips := by
  intro γ op hop
  unfold Effect.savedTrips
  dsimp only
  split
  · exact absurd List.mem_cons_self hop
  · rfl

/-! ### The trip that a delivery saves -/

theorem mem_savedTrips_saveWebhookTrip {trip' : Trip} {change : String}
    (h : trip ∈ savedTrips env (saveWebhookTrip webhook trip' change) w) : trip = trip' := by
  unfold saveWebhookTrip at h
  rcases mem_traces_bind.mp h with h | ⟨_, w₁, -, h⟩
  · rw [repo, traces_perform] at h
    exact List.mem_singleton.mp h
  · -- what follows files evidence alone
    exfalso
    split at h
    · rw [repo, traces_perform] at h
      cases h
    · split at h
      · have hread : Writes [] (repo (.getEvidence trip'.tenantId trip'.tripId)) :=
          writes_repo fun _ h => absurd h List.not_mem_nil
        have hbuilt : Writes [] (cancellationEvidence webhook.messageId) := by
          unfold cancellationEvidence
          exact writes_bind writes_uuid4 fun _ => writes_bind writes_now fun _ =>
            writes_bind writes_now fun _ => writes_pure _
        obtain ⟨current, w₂, -, h⟩ :=
          (hread.mem_traces_bind savedTrips_leftBy List.not_mem_nil).mp h
        obtain ⟨item, w₃, -, h⟩ :=
          (hbuilt.mem_traces_bind savedTrips_leftBy List.not_mem_nil).mp h
        rw [repo, traces_perform] at h
        cases h
      · cases h

theorem mem_savedTrips_acceptWebhook {change : Option (Trip × String)}
    (h : trip ∈ savedTrips env (acceptWebhook svc webhook change) w) :
    ∃ name, change = some (trip, name) := by
  have hdrawn : Writes [] uuid4 := writes_uuid4
  unfold acceptWebhook at h
  obtain ⟨correlationId, w₁, -, h⟩ :=
    (hdrawn.mem_traces_bind savedTrips_leftBy List.not_mem_nil).mp h
  dsimp only at h
  have hrecorded : ∀ fields key, Writes [.events] (recordEvent fields key) :=
    writes_recordEvent List.mem_cons_self
  obtain ⟨eventId, w₂, -, h⟩ := ((hrecorded _ _).mem_traces_bind savedTrips_leftBy (by decide)).mp h
  cases change with
  | none =>
    exfalso
    cases h
  | some change =>
    obtain ⟨trip', name⟩ := change
    dsimp only at h
    rcases mem_traces_bind.mp h with h | ⟨_, w₃, -, h⟩
    · exact ⟨name, by rw [mem_savedTrips_saveWebhookTrip h]⟩
    · -- what follows is the assessment of the trip that was saved
      obtain ⟨result, w₄, -, h⟩ :=
        (writes_assessTrip.mem_traces_bind savedTrips_leftBy (by decide)).mp h
      cases h

variable [Framed b]

/-- A delivery saves the trip of its event, computed from the trips as they were. -/
theorem mem_savedTrips_bookingWebhook (h : trip ∈ savedTrips env (bookingWebhook svc delivery) w) :
    ∃ webhook name w₁ w₂, delivery.event = .ok webhook ∧ w₁.only .trips = w.only .trips ∧
      (webhookChange svc webhook).run env.exec w₁ = (.ok (some (trip, name)), w₂) := by
  have hrequire : ∀ condition status detail, Writes [] (require condition status detail) :=
    fun condition status detail => writes_require condition status detail
  have hparse : Writes [] (parseWebhook delivery) := writes_parseWebhook
  have hleft : LeftBy .trips Effect.savedTrips := savedTrips_leftBy
  unfold bookingWebhook at h
  obtain ⟨_, w₁, h₁, h⟩ := ((hrequire _ _ _).mem_traces_bind hleft List.not_mem_nil).mp h
  obtain ⟨_, w₂, h₂, h⟩ := ((hrequire _ _ _).mem_traces_bind hleft List.not_mem_nil).mp h
  obtain ⟨webhook, w₃, h₃, h⟩ := (hparse.mem_traces_bind hleft List.not_mem_nil).mp h
  obtain ⟨_, w₄, h₄, h⟩ := ((hrequire _ _ _).mem_traces_bind hleft List.not_mem_nil).mp h
  have hchanged : Writes [] (webhookChange svc webhook) := writes_webhookChange
  obtain ⟨change, w₅, hchange, h⟩ := (hchanged.mem_traces_bind hleft List.not_mem_nil).mp h
  obtain ⟨_, w₆, -, h⟩ := mem_traces_mutation hleft (by decide) h
  obtain ⟨name, rfl⟩ := mem_savedTrips_acceptWebhook h
  have hsame : w₄.only .trips = w.only .trips := calc
    w₄.only .trips = w₃.only .trips := (hrequire _ _ _).only_of_run List.not_mem_nil h₄
    _ = w₂.only .trips := hparse.only_of_run List.not_mem_nil h₃
    _ = w₁.only .trips := (hrequire _ _ _).only_of_run List.not_mem_nil h₂
    _ = w.only .trips := (hrequire _ _ _).only_of_run List.not_mem_nil h₁
  exact ⟨webhook, name, w₄, w₅, (parseWebhook_run h₃).2, hsame, hchange⟩

theorem callFree_webhookTrip (webhook : BookingWebhookEvent) :
    (webhookTrip svc webhook).CallFree := by
  unfold webhookTrip
  split
  · exact callFree_bind (callFree_pure _) fun _ _ => callFree_bind (callFree_found _ _ _) fun _ _ =>
      callFree_bind (callFree_require _ _ _) fun _ _ => callFree_pure _
  · exact callFree_http _ _

/-- The trip of a webhook is the one that its object validates to. -/
theorem webhookTrip_eq_pure {payload : TripCreate} (h : webhookTrip svc webhook = pure payload) :
    ∃ fields, Json.get? webhook.data "trip" = some (.obj fields) ∧
      svc.parseTrip fields = some payload := by
  unfold webhookTrip at h
  split at h
  · next fields hfields =>
    obtain ⟨payload', hpayload, h⟩ := (callFree_found _ _ _).bind_eq_pure h
    obtain ⟨_, -, h⟩ := (callFree_require _ _ _).bind_eq_pure h
    cases h
    exact ⟨fields, hfields, found_eq_pure hpayload⟩
  · cases h

variable [TripStore b] {tripId : Uuid} {name : String}

/-- An event that names a stored trip saves its object under the identifier and the creation time
of that trip. -/
theorem webhookChange_run_update
    (htype : webhook.eventType = "itinerary.upsert" ∨ webhook.eventType = "itinerary.updated")
    (hid : webhook.tripId = some tripId)
    (hstored : TripStore.trip w.store webhook.tenantId tripId = some existing)
    (h : (webhookChange svc webhook).run env.exec w = (.ok (some (trip, name)), w')) :
    ∃ fields payload, Json.get? webhook.data "trip" = some (.obj fields) ∧
      svc.parseTrip fields = some payload ∧
      trip = { payload with tripId := tripId, createdAt := existing.createdAt } := by
  unfold webhookChange at h
  rw [if_pos htype] at h
  obtain ⟨payload, w₁, hrun, hrest⟩ := run_bind_eq_ok.mp h
  obtain ⟨hpayload, rfl⟩ := (callFree_webhookTrip webhook).run_eq_ok hrun
  obtain ⟨fields, hfields, hparsed⟩ := webhookTrip_eq_pure hpayload
  refine ⟨fields, payload, hfields, hparsed, ?_⟩
  have hread : (repo (.getTrip webhook.tenantId tripId)).run env.exec w₁ =
      (.ok (some existing), env.after w₁ (.repo (.getTrip webhook.tenantId tripId))) := by
    rw [repo, run_perform, ← hstored]
    exact congrArg (·, _) (congrArg Prod.fst (TripStore.getTrip _ _ _ _ _))
  rw [hid] at hrest
  dsimp only at hrest
  rw [run_bind_ok hread] at hrest
  split at hrest
  · cases hrest
    rfl
  · cases hrest
    rfl

end Api

/-- An update of a stored trip keeps the rest when the rest has its defaults, and then managers
keep their access when the object has the manager of the stored trip. -/
theorem itinerary_update_keeps_iff [Framed b] [TripStore b] {tripId : Uuid} {fields : JsonObject}
    {payload : TripCreate} (hvalid : ValidatesTrip svc.parseTrip)
    (hevent : delivery.event = .ok webhook)
    (htype : webhook.eventType = "itinerary.upsert" ∨ webhook.eventType = "itinerary.updated")
    (hid : webhook.tripId = some tripId)
    (hstored : TripStore.trip w.store webhook.tenantId tripId = some existing)
    (hfields : Json.get? webhook.data "trip" = some (.obj fields))
    (hparsed : svc.parseTrip fields = some payload)
    (hsaved : trip ∈ savedTrips env (Api.bookingWebhook svc delivery) w) :
    (KeepsRest fields existing trip ↔ LeavesDefaults fields existing) ∧
      (KeepsRest fields existing trip ∧ ManagersKeep svc existing trip ↔
        LeavesDefaults fields existing ∧ ∀ manager ≠ "",
          existing.assignedManagerId = some manager →
            payload.assignedManagerId = some manager) := by
  obtain ⟨webhook', name, w₁, w₂, hevent', hsame, hchange⟩ := Api.mem_savedTrips_bookingWebhook hsaved
  rw [hevent] at hevent'
  cases hevent'
  rw [← TripStore.trip_congr hsame] at hstored
  obtain ⟨fields', payload', hfields', hparsed', rfl⟩ :=
    Api.webhookChange_run_update htype hid hstored hchange
  rw [hfields] at hfields'
  cases hfields'
  rw [hparsed] at hparsed'
  cases hparsed'
  cases TripStore.id_of_trip hstored
  have hrest := keepsRest_iff hvalid hparsed existing
  exact ⟨hrest, and_congr hrest managersKeep_iff⟩

/-! ### An update without a manager -/

/-- The object of an itinerary, with the attributes that it has to have. -/
def updatedFields : JsonObject :=
  [("tenant_id", .str "acme"), ("traveler_id", .str "ada"), ("ground_origin", .str "office"),
    ("destination_country", .str "US"),
    ("segments", .arr
      [.obj
        [("segment_id", .str "s1"), ("carrier_code", .str "RS"), ("flight_number", .str "1"),
          ("departure_airport", .str "AMS"), ("arrival_airport", .str "JFK"),
          ("scheduled_departure_at", .str "1970-01-01T10:00:00+00:00"),
          ("scheduled_arrival_at", .str "1970-01-01T18:00:00+00:00")]])]

def updatedPayload : TripCreate where
  tenantId := "acme"
  travelerId := "ada"
  groundOrigin := "office"
  destinationCountry := "US"
  segments :=
    [{ segmentId := "s1"
       carrierCode := "RS"
       flightNumber := "1"
       departureAirport := "AMS"
       arrivalAirport := "JFK"
       scheduledDepartureAt := minutes 600
       scheduledArrivalAt := minutes 1080 }]

/-- A service that meets one itinerary only. -/
def Service.updates : Service :=
  { Service.plain with
    parseTrip := fun fields => if fields = updatedFields then some updatedPayload else none }

theorem validatesTrip_updates : ValidatesTrip Service.updates.parseTrip := by
  have honly : ∀ {fields : JsonObject} {payload : TripCreate},
      Service.updates.parseTrip fields = some payload →
        fields = updatedFields ∧ payload = updatedPayload := by
    intro fields payload h
    change (if fields = updatedFields then some updatedPayload else none) = some payload at h
    split at h
    · next hfields => exact ⟨hfields, (Option.some.inj h).symm⟩
    · cases h
  constructor
  · intro fields payload h
    obtain ⟨rfl, rfl⟩ := honly h
    decide
  · intro fields payload h _
    obtain ⟨rfl, rfl⟩ := honly h
    rfl
  · intro fields payload h _
    obtain ⟨rfl, rfl⟩ := honly h
    rfl

def updateEvent : BookingWebhookEvent where
  messageId := "m1"
  tenantId := "acme"
  eventType := "itinerary.updated"
  occurredAt := 0
  tripId := some (.v5 "trip")
  data := [("trip", .obj updatedFields)]

def updateDelivery : WebhookDelivery where
  credentials := true
  signed := true
  timestamp := .ok 0
  event := .ok updateEvent

/-- The same itinerary as it is stored, with the manager it was assigned to. -/
def assignedTrip (manager : Option String) : Trip :=
  { updatedPayload with
    tripId := .v5 "trip"
    createdAt := 0
    assignedManagerId := manager }

def assignedWorld (manager : Option String) : World .memory where
  store := InMemoryRepository.saveTrip {} (assignedTrip manager)

/-- Nothing is wrong with the flight. -/
def Env.clear : Env :=
  { Env.still with
    collectEvidence := fun _ _ _ => .ok
      [{ evidenceId := .v5 "reading"
         sourceName := "fixture"
         sourceType := "flight_status"
         sourceUrlOrRecordId := "fixture"
         retrievedAt := 0
         expiresAt := minutes 15
         normalizedPayload := [("risk_score", .num (.int 0))] }] }

/-- A trip without a manager. -/
theorem itinerary_update_keeps_iff_unassigned :
    KeepsRest updatedFields (assignedTrip none) (assignedTrip none) ∧
      ManagersKeep .updates (assignedTrip none) (assignedTrip none) := by
  have hsaved : assignedTrip none ∈
      savedTrips .clear (Api.bookingWebhook .updates updateDelivery) (assignedWorld none) := by
    decide +kernel
  have hstored : TripStore.trip (assignedWorld none).store "acme" (.v5 "trip") =
      some (assignedTrip none) := by
    decide +kernel
  have hparsed : Service.updates.parseTrip updatedFields = some updatedPayload := by
    decide +kernel
  exact (itinerary_update_keeps_iff validatesTrip_updates rfl (.inr rfl) rfl hstored rfl hparsed
    hsaved).2.mpr ⟨⟨rfl, fun _ => rfl, fun _ => rfl⟩, fun _ _ h => by cases h⟩

/-- An accepted update whose object has no manager takes the trip from its manager. -/
theorem update_drops_manager :
    ¬∀ (svc : Service) (env : Env) (w : World .memory) (delivery : WebhookDelivery)
      (webhook : BookingWebhookEvent) (tripId : Uuid) (fields : JsonObject) (existing trip : Trip),
      ValidatesTrip svc.parseTrip → delivery.event = .ok webhook →
      webhook.eventType = "itinerary.updated" → webhook.tripId = some tripId →
      TripStore.trip w.store webhook.tenantId tripId = some existing →
      Json.get? webhook.data "trip" = some (.obj fields) →
      ((Api.bookingWebhook svc delivery).run env.exec w).1.isOk = true →
      trip ∈ savedTrips env (Api.bookingWebhook svc delivery) w →
      KeepsRest fields existing trip ∧ ManagersKeep svc existing trip := by
  intro h
  obtain ⟨hkept, -⟩ := h .updates .clear (assignedWorld (some "grace")) updateDelivery updateEvent
    (.v5 "trip") updatedFields (assignedTrip (some "grace")) (assignedTrip none)
    validatesTrip_updates rfl rfl rfl (by decide +kernel) rfl (by decide +kernel)
    (by decide +kernel)
  exact absurd (hkept.assignedManagerId (by decide)) (by decide)

end RouteShield
