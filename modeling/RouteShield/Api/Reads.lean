import RouteShield.Api.Constraints
import RouteShield.Lib.TwoRuns
import RouteShield.Store.TenantReads

/-!
The requests that only read, against the in-memory repository. A handler of one shares the checks
of the other handlers, and besides looks records up and lists them. The arguments are the ones that
the service's query validation accepts.
-/

namespace RouteShield

/-- What a reading handler calls: what every handler calls, a query of a tenant's records, or the
platform's history. -/
inductive ReadEffect : Type → Type 1 where
  | effect {α : Type} (effect : Effect α) : ReadEffect α
  | query {α : Type} (tenantId : String) (query : TenantQuery α) : ReadEffect α
  | platformControlChanges : ReadEffect (List PlatformRuntimeControlChange)

/-- A query answers from the store and takes a tick. -/
def Env.read (env : Env) {α : Type} :
    ReadEffect α → World .memory → Except Fault α × World .memory
  | .effect e, w => env.exec e w
  | .query tenantId query, w =>
    (.ok (query.answer tenantId w.store), { w with tick := w.tick + 1 })
  | .platformControlChanges, w =>
    (.ok (InMemoryRepository.listPlatformControlChanges w.store), { w with tick := w.tick + 1 })

/-- A handler that reads. -/
abbrev Read := Prog ReadEffect Fault

/-- `ge=1, le=100`. -/
abbrev PageLimit := { n : ℕ // 1 ≤ n ∧ n ≤ 100 }

/-- `^(email|sms|push|in_app)$`. -/
abbrev Channel := { text : String // text ∈ ["email", "sms", "push", "in_app"] }

/-- An incident as its traveler sees it. -/
structure TravelerIncidentView where
  incidentId : Uuid
  tripId : Uuid
  severity : Severity
  status : IncidentStatus
  createdAt : Time
  updatedAt : Time
  approvedGuidance : Option String := none
  deriving DecidableEq

namespace Incident

variable (incident : Incident)

def elevated : Bool := incident.severity.value ∈ ["high", "critical"]

/-- The guidance of an approved incident. -/
def approvedGuidance : Option String :=
  if incident.status = .approved then
    incident.recommendation.map Recommendation.travelerMessage
  else none

def travelerView : TravelerIncidentView where
  incidentId := incident.incidentId
  tripId := incident.tripId
  severity := incident.severity
  status := incident.status
  createdAt := incident.createdAt
  updatedAt := incident.updatedAt
  approvedGuidance := incident.approvedGuidance

/-- What a preview says, whatever the status. -/
def previewMessage : String :=
  match incident.recommendation with
  | some recommendation => recommendation.travelerMessage
  | none =>
    "Your travel manager is reviewing a possible disruption. No itinerary change has been made."

end Incident

/-- `severity_order`. -/
def Severity.order : Severity → ℕ
  | .critical => 4
  | .high => 3
  | .watch => 2
  | .low => 1

/-- The most severe first, and among these the newest. -/
def listedBefore (a b : Incident) : Bool :=
  b.severity.order < a.severity.order ∨
    (b.severity.order = a.severity.order ∧ b.createdAt ≤ a.createdAt)

def NotificationCreate.valid (notification : NotificationCreate) : Bool :=
  lengthWithin notification.travelerId 1 128 &&
    lengthWithin notification.recipientReference 1 256 &&
    lengthWithin notification.subject 1 200 && lengthWithin notification.body 1 4000

namespace Api

variable (svc : Service)

/-- What handlers share, in a handler that reads. -/
def lift {α : Type} (p : Api α) : Read α := p.embed .effect

def query {α : Type} (tenantId : String) (query : TenantQuery α) : Read α :=
  .perform (.query tenantId query)

/-- A loop that keeps what its rounds append. -/
def collect {α β : Type} (xs : List α) (round : α → Read (Option β)) : Read (List β) := do
  return (← xs.mapM round).reduceOption

/-! ### Trips and runs -/

def getTrip (caller : Caller) (tripId : Uuid) : Read Trip := do
  let tenantId ← lift (requireTenant caller.tenantId)
  let trip ← lift (found (← query tenantId (.getTrip tripId)) 404 "trip not found")
  lift (requireTripAccess svc trip caller [.traveler, .travelManager, .dutyOfCare, .tenantAdmin])
  return trip

/-- The last `limit` events of the run of an incident. -/
def runEvents (caller : Caller) (runId : String) (limit : PageLimit) : Read (List EventRecord) := do
  lift (requireRole caller.actorRole [.travelManager, .dutyOfCare, .tenantAdmin])
  let tenantId ← lift (requireTenant caller.tenantId)
  let _ ← lift (requireActorId svc caller.actorId)
  let incidents ← query tenantId .listIncidents
  match incidents.find? fun item => item.correlationId.str = runId with
  | none => return []
  | some incident =>
    match ← query tenantId (.getTrip incident.tripId) with
    | none => return []
    | some trip => do
      lift (requireTripAccess svc trip caller [.travelManager, .dutyOfCare, .tenantAdmin])
      lift (require (!(caller.actorRole = some .dutyOfCare && !incident.elevated)) 403
        "incident access denied")
      let events := (← query tenantId .listEvents).filter fun item => item.correlationId.str = runId
      return events.drop (events.length - limit)

/-! ### Incidents -/

/-- Whether a trip is stored and assigned to the actor. -/
def assignedTo (tenantId : String) (tripId : Uuid) (actorId : Option String) : Read Bool := do
  match ← query tenantId (.getTrip tripId) with
  | some trip => return trip.assignedManagerId = actorId
  | none => return false

/-- A manager who is signed in sees the incidents of the trips assigned to them. -/
def scopedIncidents (caller : Caller) (tenantId : String) (incidents : List Incident) :
    Read (List Incident) :=
  if caller.actorRole = some .travelManager && truthy caller.actorId then
    collect incidents fun incident => do
      if ← assignedTo tenantId incident.tripId caller.actorId then return some incident
      else return none
  else return incidents

def listIncidents (caller : Caller) (limit : PageLimit) (offset : ℕ) : Read (List Incident) := do
  lift (requireRole caller.actorRole [.travelManager, .dutyOfCare, .tenantAdmin])
  let tenantId ← lift (requireTenant caller.tenantId)
  let _ ← lift (requireActorId svc caller.actorId)
  let incidents ← scopedIncidents caller tenantId (← query tenantId .listIncidents)
  let listed :=
    if caller.actorRole = some .dutyOfCare then incidents.filter Incident.elevated else incidents
  return ((listed.mergeSort listedBefore).drop offset).take limit

def getIncident (caller : Caller) (incidentId : Uuid) : Read Incident := do
  lift (requireRole caller.actorRole [.travelManager, .dutyOfCare, .tenantAdmin])
  let tenantId ← lift (requireTenant caller.tenantId)
  let incident ←
    lift (found (← query tenantId (.getIncident incidentId)) 404 "incident not found")
  let trip ← lift (found (← query tenantId (.getTrip incident.tripId)) 404 "trip not found")
  lift (requireTripAccess svc trip caller [.travelManager, .dutyOfCare, .tenantAdmin])
  lift (require (!(caller.actorRole = some .dutyOfCare && !incident.elevated)) 403
    "incident access denied")
  return incident

/-- The view of an incident of the traveler's trips. -/
def travelerView? (tenantId travelerId : String) (incident : Incident) :
    Read (Option TravelerIncidentView) := do
  match ← query tenantId (.getTrip incident.tripId) with
  | some trip => return if trip.travelerId = travelerId then some incident.travelerView else none
  | none => return none

def listTravelerIncidents (caller : Caller) (travelerId : String) :
    Read (List TravelerIncidentView) := do
  lift (requireRole caller.actorRole [.traveler])
  let actorId ← lift (requireActorId svc caller.actorId)
  lift (require (!truthy actorId || actorId = some travelerId) 403 "incident access denied")
  let tenantId ← lift (requireTenant caller.tenantId)
  collect (← query tenantId .listIncidents) (travelerView? tenantId travelerId)

/-- What hangs off an incident, for the roles that may see it. -/
def listOfIncident {α : Type} (allowed : List UserRole) (of : Uuid → TenantQuery (List α))
    (caller : Caller) (incidentId : Uuid) : Read (List α) := do
  lift (requireRole caller.actorRole allowed)
  let tenantId ← lift (requireTenant caller.tenantId)
  let _ ← lift (requireIncidentTripAccess svc tenantId incidentId caller allowed)
  query tenantId (of incidentId)

def listManagerFeedback : Caller → Uuid → Read (List ManagerFeedback) :=
  listOfIncident svc [.travelManager, .tenantAdmin] .listManagerFeedback

def listIncidentActionDispatches : Caller → Uuid → Read (List ActionDispatchRecord) :=
  listOfIncident svc [.travelManager, .tenantAdmin] .listActionDispatches

/-- Each candidate set with the outcomes that are recorded of it. -/
def listCandidateSets (caller : Caller) (incidentId : Uuid) : Read (List RecoveryCandidateSet) := do
  lift (requireRole caller.actorRole [.travelManager, .dutyOfCare, .tenantAdmin])
  let tenantId ← lift (requireTenant caller.tenantId)
  let _ ← lift (requireIncidentTripAccess svc tenantId incidentId caller
    [.travelManager, .dutyOfCare, .tenantAdmin])
  (← query tenantId (.listCandidateSets incidentId)).mapM fun candidateSet => do
    let outcomes ← query tenantId (.listCandidateOutcomes candidateSet.candidateSetId)
    return projectCandidateSetOutcomes candidateSet outcomes

/-! ### Memory and privacy -/

def requireMemoryReadsEnabled (tenantId : String) : Api Unit := do
  let enabled ← controlEnabled svc tenantId .memoryReadsEnabled
  require enabled 503 "memory reads disabled"

def getPreferences (caller : Caller) (travelerId : String) :
    Read (Option TravelerPreferenceProfile) := do
  let tenantId ← lift (requireTenant caller.tenantId)
  lift (requireMemoryReadsEnabled svc tenantId)
  lift (requireRole caller.actorRole [.traveler, .travelManager, .tenantAdmin])
  let actorId ← lift (requireActorId svc caller.actorId)
  lift (require (!(caller.actorRole = some .traveler && truthy actorId &&
    actorId ≠ some travelerId)) 403 "preference access denied")
  query tenantId (.getProfile travelerId)

def listMemoryAudit (caller : Caller) (travelerId : String) : Read (List MemoryAuditEvent) := do
  let tenantId ← lift (requireTenant caller.tenantId)
  lift (requireMemoryReadsEnabled svc tenantId)
  lift (requireRole caller.actorRole [.travelManager, .tenantAdmin])
  query tenantId (.listMemoryAudit (some travelerId))

def listDeletionRequests (caller : Caller) : Read (List DeletionRequest) := do
  lift (requireRole caller.actorRole [.traveler, .tenantAdmin])
  let tenantId ← lift (requireTenant caller.tenantId)
  let actorId ← lift (requireActorId svc caller.actorId)
  query tenantId (.listDeletionRequests
    (if caller.actorRole = some .traveler then actorId else none))

/-! ### Notifications -/

/-- The message about an incident, to the traveler of its trip. -/
def previewOf (caller : Caller) (tenantId : String) (incidentId : Uuid) (channel : Channel)
    (incident : Incident) : Read NotificationCreate := do
  let trip ← lift (found (← query tenantId (.getTrip incident.tripId)) 404 "trip not found")
  lift (requireTripAccess svc trip caller [.traveler, .travelManager, .dutyOfCare, .tenantAdmin])
  let notification : NotificationCreate :=
    { incidentId := some incidentId
      travelerId := trip.travelerId
      channel
      recipientReference := "traveler:" ++ trip.travelerId
      subject := "RouteShield travel update: " ++ incident.severity.value ++ " risk"
      body := incident.previewMessage }
  lift (validate "NotificationCreate" notification.valid)
  return notification

def previewIncidentNotification (caller : Caller) (incidentId : Uuid) (channel : Channel) :
    Read NotificationCreate := do
  let tenantId ← lift (requireTenant caller.tenantId)
  let incident ←
    lift (found (← query tenantId (.getIncident incidentId)) 404 "incident not found")
  previewOf svc caller tenantId incidentId channel incident

/-- The notification, when its incident's trip is assigned to the actor. -/
def scopedNotification (tenantId : String) (actorId : Option String)
    (notification : NotificationRecord) : Read (Option NotificationRecord) :=
  match notification.incidentId with
  | none => return none
  | some incidentId => do
    match ← query tenantId (.getIncident incidentId) with
    | none => return none
    | some incident => do
      if ← assignedTo tenantId incident.tripId actorId then return some notification
      else return none

def listNotifications (caller : Caller) (status : Option NotificationStatus) :
    Read (List NotificationRecord) := do
  lift (requireRole caller.actorRole [.traveler, .travelManager, .tenantAdmin])
  let actorId ← lift (requireActorId svc caller.actorId)
  let tenantId ← lift (requireTenant caller.tenantId)
  let notifications ← query tenantId (.listNotifications (status.map fun wanted => [wanted]))
  if caller.actorRole = some .traveler && truthy actorId then
    return notifications.filter fun item => some item.travelerId = actorId
  else if caller.actorRole = some .travelManager && truthy actorId then
    collect notifications (scopedNotification tenantId actorId)
  else return notifications

/-- A manager reads the attempts of a notification about an incident of theirs. -/
def requireAttemptAccess (tenantId : String) (caller : Caller) (notification : NotificationRecord) :
    Api Unit :=
  if caller.actorRole = some .travelManager then
    match notification.incidentId with
    | none => http 403 "notification access denied"
    | some incidentId => do
      let _ ← requireIncidentTripAccess svc tenantId incidentId caller [.travelManager]
  else pure ()

def notificationAttemptHistory (caller : Caller) (notificationId : Uuid) :
    Read (List NotificationAttempt) := do
  lift (requireRole caller.actorRole [.travelManager, .tenantAdmin])
  let tenantId ← lift (requireTenant caller.tenantId)
  let notification ← lift (found (← query tenantId (.getNotification notificationId)) 404
    "notification not found")
  lift (requireAttemptAccess svc tenantId caller notification)
  query tenantId (.listNotificationAttempts notificationId)

/-! ### Governance -/

/-- A register of the tenant, for the roles that may see it. -/
def listRegister {α : Type} (allowed : List UserRole) (register : TenantQuery (List α))
    (caller : Caller) : Read (List α) := do
  lift (requireRole caller.actorRole allowed)
  let tenantId ← lift (requireTenant caller.tenantId)
  query tenantId register

def listLegalHolds : Caller → Read (List LegalHoldRecord) :=
  listRegister [.tenantAdmin] .listLegalHolds

def listChangeRecords : Caller → Read (List ChangeRecord) :=
  listRegister [.tenantAdmin] .listChangeRecords

def listRuntimeControlChanges : Caller → Read (List RuntimeControlChange) :=
  listRegister [.tenantAdmin] .listRuntimeControlChanges

def listTenantPlaybooks : Caller → Read (List TenantPlaybook) :=
  listRegister [.travelManager, .dutyOfCare, .tenantAdmin] .listApprovedPlaybooks

def listProviderOnboarding : Caller → Read (List ProviderOnboardingRecord) :=
  listRegister [.tenantAdmin] .listProviderOnboarding

def listPlatformRuntimeControls (caller : Caller) : Read (List PlatformRuntimeControlChange) := do
  lift (requireRole caller.actorRole [.platformAdmin])
  .perform .platformControlChanges

end Api

/-! ### Requests -/

/-- The requests that read, by what they answer. -/
inductive Inquiry : Type → Type where
  | getTrip (tripId : Uuid) : Inquiry Trip
  | alternativesForTrip (tripId : Uuid) : Inquiry (List EvaluatedCandidate)
  | runEvents (runId : String) (limit : PageLimit) : Inquiry (List EventRecord)
  | listIncidents (limit : PageLimit) (offset : ℕ) : Inquiry (List Incident)
  | getIncident (incidentId : Uuid) : Inquiry Incident
  | listTravelerIncidents (travelerId : String) : Inquiry (List TravelerIncidentView)
  | listManagerFeedback (incidentId : Uuid) : Inquiry (List ManagerFeedback)
  | listIncidentActionDispatches (incidentId : Uuid) : Inquiry (List ActionDispatchRecord)
  | listCandidateSets (incidentId : Uuid) : Inquiry (List RecoveryCandidateSet)
  | getPreferences (travelerId : String) : Inquiry (Option TravelerPreferenceProfile)
  | listMemoryAudit (travelerId : String) : Inquiry (List MemoryAuditEvent)
  | listDeletionRequests : Inquiry (List DeletionRequest)
  | previewIncidentNotification (incidentId : Uuid) (channel : Channel) : Inquiry NotificationCreate
  | listNotifications (status : Option NotificationStatus) : Inquiry (List NotificationRecord)
  | notificationAttemptHistory (notificationId : Uuid) : Inquiry (List NotificationAttempt)
  | listLegalHolds : Inquiry (List LegalHoldRecord)
  | listChangeRecords : Inquiry (List ChangeRecord)
  | listRuntimeControlChanges : Inquiry (List RuntimeControlChange)
  | listTenantPlaybooks : Inquiry (List TenantPlaybook)
  | listProviderOnboarding : Inquiry (List ProviderOnboardingRecord)
  | listPlatformRuntimeControls : Inquiry (List PlatformRuntimeControlChange)

/-- The program of a request that reads. -/
def Api.answer (svc : Service) (caller : Caller) {α : Type} : Inquiry α → Read α
  | .getTrip tripId => getTrip svc caller tripId
  | .alternativesForTrip tripId =>
    lift (alternativesForTrip svc fixtureAlternatives caller tripId)
  | .runEvents runId limit => runEvents svc caller runId limit
  | .listIncidents limit offset => listIncidents svc caller limit offset
  | .getIncident incidentId => getIncident svc caller incidentId
  | .listTravelerIncidents travelerId => listTravelerIncidents svc caller travelerId
  | .listManagerFeedback incidentId => listManagerFeedback svc caller incidentId
  | .listIncidentActionDispatches incidentId => listIncidentActionDispatches svc caller incidentId
  | .listCandidateSets incidentId => listCandidateSets svc caller incidentId
  | .getPreferences travelerId => getPreferences svc caller travelerId
  | .listMemoryAudit travelerId => listMemoryAudit svc caller travelerId
  | .listDeletionRequests => listDeletionRequests svc caller
  | .previewIncidentNotification incidentId channel =>
    previewIncidentNotification svc caller incidentId channel
  | .listNotifications status => listNotifications svc caller status
  | .notificationAttemptHistory notificationId =>
    notificationAttemptHistory svc caller notificationId
  | .listLegalHolds => listLegalHolds caller
  | .listChangeRecords => listChangeRecords caller
  | .listRuntimeControlChanges => listRuntimeControlChanges caller
  | .listTenantPlaybooks => listTenantPlaybooks caller
  | .listProviderOnboarding => listProviderOnboarding caller
  | .listPlatformRuntimeControls => listPlatformRuntimeControls caller

/-! ### What a read answers -/

/-- From a store, a read answers so and leaves the store. -/
def Answers (env : Env) (s : InMemoryRepository Response) {α : Type} (p : Read α)
    (r : Except Fault α) : Prop :=
  ∀ w : World .memory, w.store = s → (p.run env.read w).1 = r ∧ (p.run env.read w).2.store = s

section Answers

open Api (lift query collect)

variable {env : Env} {s : InMemoryRepository Response} {α β : Type}

theorem lift_bind (p : Api α) (f : α → Api β) :
    lift (p >>= f) = lift p >>= fun a => lift (f a) := Prog.embed_bind p f

/-- What handlers share runs in a read as it does elsewhere. -/
theorem run_lift (p : Api α) (w : World .memory) : (lift p).run env.read w = p.run env.exec w :=
  Prog.run_embed (fun _ _ => rfl) p w

theorem answers_pure (a : α) : Answers env s (pure a) (.ok a) := fun _ hw => ⟨rfl, hw⟩

theorem answers_lift (r : Except Fault α) : Answers env s (lift (.ofExcept r)) r := by
  intro w hw
  cases r <;> exact ⟨rfl, hw⟩

theorem answers_query (tenantId : String) (q : TenantQuery α) :
    Answers env s (query tenantId q) (.ok (q.answer tenantId s)) := by
  intro w hw
  unfold query
  rw [Prog.run_perform]
  exact ⟨congrArg (fun store => Except.ok (q.answer tenantId store)) hw, hw⟩

theorem answers_bind {p : Read α} {a : α} {f : α → Read β} {r : Except Fault β}
    (hp : Answers env s p (.ok a)) (hf : Answers env s (f a) r) : Answers env s (p >>= f) r := by
  intro w hw
  obtain ⟨hanswer, hstore⟩ := hp w hw
  rw [Prog.run_bind_ok (Prod.ext hanswer rfl)]
  exact hf _ hstore

theorem answers_bind_error {p : Read α} {fault : Fault} (f : α → Read β)
    (hp : Answers env s p (.error fault)) : Answers env s (p >>= f) (.error fault) := by
  intro w hw
  obtain ⟨hanswer, hstore⟩ := hp w hw
  rw [Prog.run_bind]
  generalize p.run env.read w = x at hanswer hstore ⊢
  obtain ⟨r, w'⟩ := x
  cases hanswer
  exact ⟨rfl, hstore⟩

theorem answers_mapM {xs : List α} {f : α → Read β} {g : α → β}
    (h : ∀ x, Answers env s (f x) (.ok (g x))) : Answers env s (xs.mapM f) (.ok (xs.map g)) := by
  induction xs with
  | nil => exact answers_pure []
  | cons x xs ih =>
    rw [List.mapM_cons]
    exact answers_bind (h x) (answers_bind ih (answers_pure _))

theorem answers_collect (xs : List α) {round : α → Read (Option β)} {g : α → Option β}
    (h : ∀ x, Answers env s (round x) (.ok (g x))) :
    Answers env s (collect xs round) (.ok (xs.filterMap g)) := by
  have hkept : (xs.map g).reduceOption = xs.filterMap g := by
    show (xs.map g).filterMap id = _
    rw [List.filterMap_map]
    rfl
  rw [← hkept]
  exact answers_bind (answers_mapM h) (answers_pure _)

end Answers

end RouteShield
