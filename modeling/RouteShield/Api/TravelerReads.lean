import RouteShield.Api.ReadIsolation

/-!
What a traveler's reads show. Of an incident they show its traveler's view, and a preview shows the
message as well; beyond that they depend on the tenant's trips, profiles, notifications, deletion
requests and control overrides and on no other record. What managers write elsewhere, and the
recommendation of an incident that no one approved, leaves every answer but the preview as it was.
-/

namespace RouteShield

open Api (lift query)
open Prog (Only CallFree Alike Outcomes only_bind only_pure only_perform alike_pure alike_throw
  alike_bind alike_mapM)

variable {svc : Service} {env : Env} {caller : Caller} {tenantId : String} {α β : Type}

/-- Two rows of an incident that show its traveler the same. -/
structure Incident.SeenAlike (a b : Incident) : Prop where
  tenantId : a.tenantId = b.tenantId
  view : a.travelerView = b.travelerView

/-- Two stores with the same records of a tenant, as far as the tenant's travelers see them. -/
structure InMemoryRepository.SeenAlike (tenantId : String) (s s' : InMemoryRepository β) :
    Prop where
  trips : s.trips.rows.filter (fun trip => trip.tenantId = tenantId) =
    s'.trips.rows.filter (fun trip => trip.tenantId = tenantId)
  incidents : List.Forall₂ Incident.SeenAlike
    (s.incidents.rows.filter fun incident => incident.tenantId = tenantId)
    (s'.incidents.rows.filter fun incident => incident.tenantId = tenantId)
  profiles : s.profiles.rows.filter (fun profile => profile.tenantId = tenantId) =
    s'.profiles.rows.filter (fun profile => profile.tenantId = tenantId)
  notifications :
    s.notifications.rows.filter (fun notification => notification.tenantId = tenantId) =
      s'.notifications.rows.filter (fun notification => notification.tenantId = tenantId)
  deletionRequests : s.deletionRequests.rows.filter (fun request => request.tenantId = tenantId) =
    s'.deletionRequests.rows.filter (fun request => request.tenantId = tenantId)
  overrides : s.runtimeControlOverrides.rows.filter (fun record => record.tenantId = tenantId) =
    s'.runtimeControlOverrides.rows.filter (fun record => record.tenantId = tenantId)
  platformOverrides : s.platformControlOverrides = s'.platformControlOverrides

/-- The incident whose message a request asks for. -/
def Inquiry.previewed : Inquiry α → Option Uuid
  | .previewIncidentNotification incidentId _ => some incidentId
  | _ => none

/-- The two requests whose answers to a traveler are made of incidents. -/
def Inquiry.showsIncidents : Inquiry α → Bool
  | .listTravelerIncidents _ | .previewIncidentNotification _ _ => true
  | _ => false

/-- Two worlds that show a tenant's travelers the same, and the same message of one incident. -/
structure World.SeenAlike (tenantId : String) (previewed : Option Uuid) (w w' : World .memory) :
    Prop where
  tick : w.tick = w'.tick
  store : InMemoryRepository.SeenAlike tenantId w.store w'.store
  message : ∀ id ∈ previewed,
    (InMemoryRepository.getIncident w.store tenantId id).map Incident.previewMessage =
      (InMemoryRepository.getIncident w'.store tenantId id).map Incident.previewMessage

/-! ### Calls that answer alike -/

/-- The calls of which a traveler sees the whole answer. -/
inductive Shown (tenantId : String) : {α : Type} → ReadEffect α → Prop where
  | getTrip (tripId : Uuid) : Shown tenantId (.query tenantId (.getTrip tripId))
  | tripOf (tripId : Uuid) : Shown tenantId (.effect (.repo (.getTrip tenantId tripId)))
  | getProfile (travelerId : String) : Shown tenantId (.query tenantId (.getProfile travelerId))
  | listNotifications (statuses : Option (List NotificationStatus)) :
      Shown tenantId (.query tenantId (.listNotifications statuses))
  | listDeletionRequests (travelerId : Option String) :
      Shown tenantId (.query tenantId (.listDeletionRequests travelerId))
  | controlOverride (controlName : RuntimeControlName) :
      Shown tenantId (.effect (.repo (.getRuntimeControlOverride tenantId controlName)))
  | platformOverride (controlName : RuntimeControlName) :
      Shown tenantId (.effect (.repo (.getPlatformControlOverride controlName)))

section Calls

variable {previewed : Option Uuid} {w w' : World .memory}

theorem Shown.read_snd {op : ReadEffect α} (h : Shown tenantId op) (w : World .memory) :
    (env.read op w).2 = { w with tick := w.tick + 1 } := by
  cases h <;> rfl

theorem World.SeenAlike.later (hw : w.SeenAlike tenantId previewed w') :
    World.SeenAlike tenantId previewed { w with tick := w.tick + 1 }
      { w' with tick := w'.tick + 1 } :=
  { hw with tick := congrArg (· + 1) hw.tick }

theorem Shown.read_fst {op : ReadEffect α} (h : Shown tenantId op)
    (hw : w.SeenAlike tenantId previewed w') : (env.read op w).1 = (env.read op w').1 := by
  cases h with
  | getTrip tripId => exact congrArg Except.ok (Table.find?_filter_congr hw.store.trips tripId)
  | tripOf tripId => exact congrArg Except.ok (Table.find?_filter_congr hw.store.trips tripId)
  | getProfile travelerId =>
    exact congrArg Except.ok
      (Table.find?_congr_of_selected hw.store.profiles fun a ha => congrArg Prod.fst ha)
  | listNotifications statuses =>
    exact congrArg Except.ok (filter_and_congr hw.store.notifications)
  | listDeletionRequests travelerId =>
    exact congrArg (fun rows => Except.ok (sortedBy _ _ rows))
      (filter_and_congr hw.store.deletionRequests)
  | controlOverride controlName =>
    have hrow := Table.find?_congr_of_selected (k := (tenantId, controlName)) hw.store.overrides
      fun a ha => congrArg Prod.fst ha
    show Except.ok (Option.filter _ _) = Except.ok (Option.filter _ _)
    rw [hrow, hw.tick]
  | platformOverride controlName =>
    show Except.ok (((InMemoryRepository.platformControlOverrides w.store).find? controlName).filter
      fun record => record.toRuntimeControlUpdate.current (env.clock w.tick)) =
      Except.ok (((InMemoryRepository.platformControlOverrides w'.store).find? controlName).filter
        fun record => record.toRuntimeControlUpdate.current (env.clock w'.tick))
    rw [hw.store.platformOverrides, hw.tick]

/-- Programs of such calls answer alike. -/
theorem alike_of_shown {p : Read α} (hp : p.Only (Shown tenantId)) :
    Alike env.read (World.SeenAlike tenantId previewed) Eq p p :=
  hp.alike fun op hop v v' hv => ⟨hop.read_fst hv, by
    rw [hop.read_snd, hop.read_snd]
    exact hv.later⟩

theorem alike_query {q q' : TenantQuery α} {Q : α → α → Prop}
    (h : ∀ v v', World.SeenAlike tenantId previewed v v' →
      Q (q.answer tenantId v.store) (q'.answer tenantId v'.store)) :
    Alike env.read (World.SeenAlike tenantId previewed) Q (query tenantId q)
      (query tenantId q') :=
  Prog.alike_perform fun v v' hv => ⟨.ok (h v v' hv), hv.later⟩

/-- A lookup finds rows that show the same, or none. -/
theorem find?_seenAlike {rows rows' : List Incident}
    (h : List.Forall₂ Incident.SeenAlike rows rows') (incidentId : Uuid) :
    Option.Rel Incident.SeenAlike (rows.find? fun a => a.incidentId = incidentId)
      (rows'.find? fun a => a.incidentId = incidentId) := by
  induction h with
  | nil => exact .none
  | @cons a b rows rows' hab hrows ih =>
    have hid : a.incidentId = b.incidentId := congrArg TravelerIncidentView.incidentId hab.view
    rw [List.find?_cons, List.find?_cons, hid]
    cases decide (b.incidentId = incidentId) with
    | true => exact .some hab
    | false => exact ih

theorem InMemoryRepository.SeenAlike.getIncident {s s' : InMemoryRepository Response}
    (h : s.SeenAlike tenantId s') (incidentId : Uuid) :
    Option.Rel Incident.SeenAlike (s.getIncident tenantId incidentId)
      (s'.getIncident tenantId incidentId) := by
  have hselected : ∀ v : InMemoryRepository Response, v.getIncident tenantId incidentId =
      (v.incidents.rows.filter fun incident => incident.tenantId = tenantId).find?
        fun a => a.incidentId = incidentId := fun v =>
    (Table.find?_filter v.incidents (fun incident => incident.tenantId = tenantId) incidentId).symm
  rw [hselected, hselected]
  exact find?_seenAlike h.incidents incidentId

/-! ### A traveler's requests -/

/-- A check of the role that a traveler does not pass. -/
theorem only_refused {P : ∀ {γ : Type}, ReadEffect γ → Prop}
    (hrole : caller.actorRole = some .traveler) {allowed : List UserRole}
    (hallowed : .traveler ∉ allowed) (f : Unit → Read β) :
    (lift (Api.requireRole caller.actorRole allowed) >>= f).Only P := by
  have hrefused : Api.requireRole caller.actorRole allowed = Api.http 403 "insufficient role" := by
    rw [hrole]
    exact if_neg (by simpa using hallowed)
  rw [hrefused]
  trivial

/-- But for the two requests that show incidents, a traveler sees the whole answer of every call. -/
theorem only_shown (hrole : caller.actorRole = some .traveler) (inquiry : Inquiry α)
    (hother : inquiry.showsIncidents = false) :
    (Api.answer svc caller inquiry).Only (Shown caller.tenant) := by
  cases inquiry with
  | getTrip tripId =>
    refine only_tenant <| only_query (.getTrip _) fun _ => ?_
    refine only_check (Api.callFree_found _ _ _) fun _ => ?_
    exact only_check (Api.callFree_requireTripAccess _ _ _) fun _ => only_pure _
  | alternativesForTrip tripId => exact only_alternativesForTrip .tripOf
  | listTravelerIncidents travelerId => cases hother
  | previewIncidentNotification incidentId channel => cases hother
  | getPreferences travelerId =>
    refine only_tenant <| only_memoryReads .controlOverride .platformOverride fun _ => ?_
    refine only_check (Api.callFree_requireRole _ _) fun _ => ?_
    refine only_check (Api.callFree_requireActorId _) fun _ => ?_
    exact only_check (Api.callFree_require _ _ _) fun _ => only_perform (.getProfile _)
  | listMemoryAudit travelerId =>
    refine only_tenant <| only_memoryReads .controlOverride .platformOverride fun _ => ?_
    exact only_refused hrole (by decide) _
  | listDeletionRequests =>
    refine only_check (Api.callFree_requireRole _ _) fun _ => only_tenant ?_
    exact only_check (Api.callFree_requireActorId _) fun _ => only_perform (.listDeletionRequests _)
  | listNotifications status =>
    refine only_check (Api.callFree_requireRole _ _) fun _ => ?_
    refine only_check (Api.callFree_requireActorId _) fun actorId => only_tenant ?_
    refine only_query (.listNotifications _) fun notifications => ?_
    split
    · exact only_pure _
    · rw [hrole]
      exact only_pure _
  | runEvents | listIncidents | getIncident | listManagerFeedback | listIncidentActionDispatches
  | listCandidateSets | notificationAttemptHistory | listLegalHolds | listChangeRecords
  | listRuntimeControlChanges | listTenantPlaybooks | listProviderOnboarding
  | listPlatformRuntimeControls => exact only_refused hrole (by decide) _

theorem alike_check {p : Api α} {f f' : α → Read β} (hp : p.CallFree)
    (hf : ∀ a, Alike env.read (World.SeenAlike tenantId previewed) Eq (f a) (f' a)) :
    Alike env.read (World.SeenAlike tenantId previewed) Eq (lift p >>= f) (lift p >>= f') :=
  (CallFree.embed hp).alike_bind fun a _ => hf a

theorem alike_tenant {f : String → Read β}
    (hf : Alike env.read (World.SeenAlike tenantId previewed) Eq (f caller.tenant)
      (f caller.tenant)) :
    Alike env.read (World.SeenAlike tenantId previewed) Eq
      (lift (Api.requireTenant caller.tenantId) >>= f)
      (lift (Api.requireTenant caller.tenantId) >>= f) := by
  obtain ⟨r, hr⟩ := Api.callFree_requireTenant caller.tenantId
  rw [hr]
  cases r with
  | error fault => exact alike_throw fault
  | ok tenant =>
    have htenant : caller.tenant = tenant := by
      rw [Caller.tenant, (Api.requireTenant_eq_pure hr).1]
      rfl
    rw [htenant] at hf
    exact hf

/-- A round of the listing reads the view of its incident alone. -/
theorem alike_travelerView? {travelerId : String} {a b : Incident} (hab : a.SeenAlike b) :
    Alike env.read (World.SeenAlike tenantId previewed) Eq
      (Api.travelerView? tenantId travelerId a) (Api.travelerView? tenantId travelerId b) := by
  have htrip : a.tripId = b.tripId := congrArg TravelerIncidentView.tripId hab.view
  unfold Api.travelerView?
  rw [htrip, hab.view]
  exact alike_of_shown <| only_query (.getTrip _) fun trip => by cases trip <;> exact only_pure _

theorem alike_listTravelerIncidents {travelerId : String} :
    Alike env.read (World.SeenAlike caller.tenant previewed) Eq
      (Api.listTravelerIncidents svc caller travelerId)
      (Api.listTravelerIncidents svc caller travelerId) := by
  refine alike_check (Api.callFree_requireRole _ _) fun _ => ?_
  refine alike_check (Api.callFree_requireActorId _) fun _ => ?_
  refine alike_check (Api.callFree_require _ _ _) fun _ => alike_tenant ?_
  refine alike_bind (alike_query (Q := List.Forall₂ Incident.SeenAlike) fun v v' hv =>
    hv.store.incidents) fun incidents incidents' hincidents => ?_
  refine alike_bind (alike_mapM hincidents fun a b hab => alike_travelerView? hab) ?_
  rintro views views' hviews
  rw [List.forall₂_eq_eq_eq] at hviews
  exact alike_pure (congrArg _ hviews)

/-- A preview shows a traveler the view and the message of its incident. -/
theorem alike_previewIncidentNotification {incidentId : Uuid} {channel : Channel} :
    Alike env.read (World.SeenAlike caller.tenant (some incidentId)) Eq
      (Api.previewIncidentNotification svc caller incidentId channel)
      (Api.previewIncidentNotification svc caller incidentId channel) := by
  refine alike_tenant ?_
  refine alike_bind (alike_query (Q := fun o o' : Option Incident =>
    Option.Rel Incident.SeenAlike o o' ∧
      o.map Incident.previewMessage = o'.map Incident.previewMessage) fun v v' hv =>
    ⟨hv.store.getIncident incidentId, hv.message incidentId rfl⟩) ?_
  rintro o o' ⟨hrel, hmessage⟩
  cases hrel with
  | none => exact alike_throw _
  | @some a b hab =>
    have hsame : Api.previewOf svc caller caller.tenant incidentId channel a =
        Api.previewOf svc caller caller.tenant incidentId channel b := by
      have htrip : a.tripId = b.tripId := congrArg TravelerIncidentView.tripId hab.view
      have hseverity : a.severity = b.severity := congrArg TravelerIncidentView.severity hab.view
      have hmessage : a.previewMessage = b.previewMessage := Option.some.inj hmessage
      unfold Api.previewOf
      rw [htrip, hseverity, hmessage]
    show Alike env.read _ Eq (Api.previewOf svc caller caller.tenant incidentId channel a)
      (Api.previewOf svc caller caller.tenant incidentId channel b)
    rw [hsame]
    refine alike_of_shown <| only_query (.getTrip _) fun _ => ?_
    refine only_check (Api.callFree_found _ _ _) fun _ => ?_
    refine only_check (Api.callFree_requireTripAccess _ _ _) fun _ => ?_
    exact only_check (Api.callFree_validate _ _) fun _ => only_pure _

end Calls

/-- A traveler's request answers alike in stores that show travelers the same; for a preview, the
message of the incident is to be the same as well. -/
theorem traveler_reads (hrole : caller.actorRole = some .traveler) (inquiry : Inquiry α)
    {w w' : World .memory} (hw : w.SeenAlike caller.tenant inquiry.previewed w') :
    ((Api.answer svc caller inquiry).run env.read w).1 =
      ((Api.answer svc caller inquiry).run env.read w').1 := by
  cases hother : inquiry.showsIncidents with
  | false => exact (alike_of_shown (only_shown hrole inquiry hother) w w' hw).1.eq
  | true =>
    cases inquiry with
    | listTravelerIncidents travelerId => exact (alike_listTravelerIncidents w w' hw).1.eq
    | previewIncidentNotification incidentId channel =>
      exact (alike_previewIncidentNotification w w' hw).1.eq
    | _ => cases hother

/-! ### An incident that waits for a decision -/

def reviewedTrip : Trip where
  tenantId := "acme"
  travelerId := "ada"
  groundOrigin := "Oslo"
  destinationCountry := "SE"
  segments := []
  tripId := .v5 "trip"
  createdAt := 0

/-- The recommendation says so to the traveler, and no one has approved it. -/
def reviewedIncident (travelerMessage : String) : Incident where
  incidentId := .v5 "incident"
  tenantId := "acme"
  tripId := .v5 "trip"
  assessmentId := .v5 "assessment"
  severity := .high
  status := .pendingApproval
  correlationId := .v5 "correlation"
  createdAt := 0
  updatedAt := 0
  recommendation := some
    { recommendationId := .v5 "recommendation"
      incidentId := .v5 "incident"
      severityExplanation := "connection at risk"
      evidenceIds := []
      recommendedAction := "rebook"
      travelerMessage
      managerMessage := "check the fare"
      generatedAt := 0 }

def reviewedWorld (travelerMessage : String) : World .memory where
  store := InMemoryRepository.saveIncident (InMemoryRepository.saveTrip {} reviewedTrip)
    (reviewedIncident travelerMessage)

def adaCalls : Caller where
  tenantId := some "acme"
  actorRole := some .traveler
  actorId := some "ada"

/-- The listing shows a traveler neither of two recommendations. -/
theorem traveler_reads_reviewed :
    ((Api.answer .plain adaCalls (.listTravelerIncidents "ada")).run Env.still.read
        (reviewedWorld "Take the train.")).1 =
      ((Api.answer .plain adaCalls (.listTravelerIncidents "ada")).run Env.still.read
        (reviewedWorld "Stay at the hotel.")).1 :=
  traveler_reads rfl (.listTravelerIncidents "ada")
    { tick := rfl
      store :=
        { trips := rfl
          incidents := .cons ⟨rfl, rfl⟩ .nil
          profiles := rfl
          notifications := rfl
          deletionRequests := rfl
          overrides := rfl
          platformOverrides := rfl }
      message := fun _ hid => by cases hid }

/-- The preview shows the message before anyone has approved it. -/
example : (((Api.answer .plain adaCalls (.previewIncidentNotification (.v5 "incident")
    ⟨"email", by decide⟩)).run Env.still.read (reviewedWorld "Take the train.")).1.toOption.map
      fun notification => notification.body) = some "Take the train." := by decide +kernel

end RouteShield
