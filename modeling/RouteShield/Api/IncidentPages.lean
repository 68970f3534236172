import RouteShield.Api.Checks
import RouteShield.Api.Reads

/-!
The listing of incidents. Every page is cut out of one listing, which depends on the caller and the
store alone: the incidents that the caller may see, each once, the most severe and then the newest
first. An incident of a stored trip is in it exactly when the caller may open the incident.
-/

namespace RouteShield

open Api (lift query)

/-- The trip is stored and assigned to the actor. -/
def InMemoryRepository.assigned {β : Type} (s : InMemoryRepository β) (tenantId : String)
    (tripId : Uuid) (actorId : Option String) : Bool :=
  (s.getTrip tenantId tripId).any fun trip => trip.assignedManagerId = actorId

namespace Caller

variable (caller : Caller)

/-- A manager who is signed in is confined to the trips assigned to them. -/
def confined : Bool := caller.actorRole = some .travelManager && truthy caller.actorId

/-- The severities that the caller's role is shown. -/
def shown (incident : Incident) : Bool :=
  !(caller.actorRole = some .dutyOfCare && !incident.elevated)

def listing (s : InMemoryRepository Response) (tenantId : String) : List Incident :=
  ((s.listIncidents tenantId).filter fun incident =>
    (!caller.confined || s.assigned tenantId incident.tripId caller.actorId) &&
      caller.shown incident).mergeSort listedBefore

end Caller

variable {svc : Service} {env : Env} {caller : Caller} {s : InMemoryRepository Response}
  {tenantId : String}

/-! ### The order -/

theorem listedBefore_iff (a b : Incident) : listedBefore a b = true ↔
    b.severity.order < a.severity.order ∨
      (b.severity.order = a.severity.order ∧ b.createdAt ≤ a.createdAt) := decide_eq_true_iff

theorem listedBefore_trans (a b c : Incident) (hab : listedBefore a b = true)
    (hbc : listedBefore b c = true) : listedBefore a c = true := by
  rw [listedBefore_iff] at *
  rcases hab with hab | ⟨hab, hab'⟩ <;> rcases hbc with hbc | ⟨hbc, hbc'⟩
  · exact .inl (hbc.trans hab)
  · exact .inl (hbc ▸ hab)
  · exact .inl (hab ▸ hbc)
  · exact .inr ⟨hbc.trans hab, hbc'.trans hab'⟩

theorem listedBefore_total (a b : Incident) : (listedBefore a b || listedBefore b a) = true := by
  rw [Bool.or_eq_true, listedBefore_iff, listedBefore_iff]
  rcases lt_trichotomy b.severity.order a.severity.order with h | h | h
  · exact .inl (.inl h)
  · rcases le_total b.createdAt a.createdAt with h' | h'
    · exact .inl (.inr ⟨h, h'⟩)
    · exact .inr (.inr ⟨h.symm, h'⟩)
  · exact .inr (.inl h)

theorem pairwise_listing :
    (caller.listing s tenantId).Pairwise fun a b => listedBefore a b = true :=
  List.pairwise_mergeSort listedBefore_trans listedBefore_total _

theorem mem_listing {incident : Incident} : incident ∈ caller.listing s tenantId ↔
    (incident ∈ s.incidents ∧ incident.tenantId = tenantId) ∧
      (caller.confined = true → s.assigned tenantId incident.tripId caller.actorId = true) ∧
      caller.shown incident = true := by
  have himp : ∀ {a b : Bool}, (!a || b) = true ↔ (a = true → b = true) := by decide
  unfold Caller.listing InMemoryRepository.listIncidents
  rw [List.mem_mergeSort, List.mem_filter, List.mem_filter, Bool.and_eq_true, himp,
    decide_eq_true_iff]
  rfl

theorem nodup_listing : ((caller.listing s tenantId).map Incident.incidentId).Nodup := by
  have hkept : ((s.listIncidents tenantId).map Incident.incidentId).Nodup :=
    s.incidents.nodup.sublist ((List.filter_sublist).map _)
  have hsorted := ((List.mergeSort_perm ((s.listIncidents tenantId).filter fun incident =>
    (!caller.confined || s.assigned tenantId incident.tripId caller.actorId) &&
      caller.shown incident) listedBefore).map Incident.incidentId).nodup_iff
  exact hsorted.mpr (hkept.sublist ((List.filter_sublist).map _))

/-! ### Pages -/

/-- The checks before a page, in their order. -/
def Api.admitted (svc : Service) (caller : Caller) : Api String := do
  requireRole caller.actorRole [.travelManager, .dutyOfCare, .tenantAdmin]
  let tenantId ← requireTenant caller.tenantId
  let _ ← requireActorId svc caller.actorId
  return tenantId

theorem callFree_admitted (svc : Service) (caller : Caller) : (Api.admitted svc caller).CallFree :=
  Prog.callFree_bind (Api.callFree_requireRole _ _) fun _ _ =>
    Prog.callFree_bind (Api.callFree_requireTenant _) fun _ _ =>
      Prog.callFree_bind (Api.callFree_requireActorId _) fun _ _ => Prog.callFree_pure _

/-- Who passes the checks. -/
theorem admitted_eq_pure (h : Api.admitted svc caller = pure tenantId) :
    (∃ r ∈ caller.actorRole, r ∈ [UserRole.travelManager, .dutyOfCare, .tenantAdmin]) ∧
      Api.requireTenant caller.tenantId = pure tenantId ∧
      Api.requireActorId svc caller.actorId = pure caller.actorId := by
  obtain ⟨_, hrole, h⟩ := (Api.callFree_requireRole _ _).bind_eq_pure h
  obtain ⟨tenant, htenant, h⟩ := (Api.callFree_requireTenant _).bind_eq_pure h
  obtain ⟨actor, hactor, h⟩ := (Api.callFree_requireActorId _).bind_eq_pure h
  obtain rfl := Prog.pure_injective h
  obtain ⟨rfl, -⟩ := Api.requireActorId_eq_pure hactor
  exact ⟨Api.requireRole_eq_pure hrole, htenant, hactor⟩

theorem answers_assignedTo (tripId : Uuid) (actorId : Option String) :
    Answers env s (Api.assignedTo tenantId tripId actorId)
      (.ok (s.assigned tenantId tripId actorId)) := by
  refine answers_bind (answers_query _ _) ?_
  have hanswer : TenantQuery.answer tenantId s (.getTrip tripId) = s.getTrip tenantId tripId := rfl
  rw [hanswer]
  unfold InMemoryRepository.assigned
  cases s.getTrip tenantId tripId with
  | none => exact answers_pure _
  | some trip => exact answers_pure _

theorem answers_scopedIncidents (incidents : List Incident) :
    Answers env s (Api.scopedIncidents caller tenantId incidents)
      (.ok (incidents.filter fun incident =>
        !caller.confined || s.assigned tenantId incident.tripId caller.actorId)) := by
  unfold Api.scopedIncidents
  split
  · next hconfined =>
    have hround : ∀ incident : Incident, Answers env s (do
        if ← Api.assignedTo tenantId incident.tripId caller.actorId then return some incident
        else return none) (.ok (Option.guard (fun incident : Incident =>
          !caller.confined || s.assigned tenantId incident.tripId caller.actorId) incident)) := by
      intro incident
      refine answers_bind (answers_assignedTo _ _) ?_
      have hconfined : caller.confined = true := hconfined
      simp only [Option.guard, hconfined, Bool.not_true, Bool.false_or]
      split
      · exact answers_pure _
      · exact answers_pure _
    have h := answers_collect incidents hround
    rwa [List.filterMap_eq_filter] at h
  · next hconfined =>
    have hfree : caller.confined = false := Bool.eq_false_iff.mpr hconfined
    have hall : (incidents.filter fun incident =>
        !caller.confined || s.assigned tenantId incident.tripId caller.actorId) = incidents := by
      rw [hfree]
      exact List.filter_eq_self.mpr fun _ _ => rfl
    rw [hall]
    exact answers_pure _

/-- A page, once the caller is admitted. -/
def Api.page (caller : Caller) (limit : PageLimit) (offset : ℕ) (tenantId : String) :
    Read (List Incident) := do
  let incidents ← scopedIncidents caller tenantId (← query tenantId .listIncidents)
  let listed :=
    if caller.actorRole = some .dutyOfCare then incidents.filter Incident.elevated else incidents
  return ((listed.mergeSort listedBefore).drop offset).take limit

theorem listIncidents_eq (limit : PageLimit) (offset : ℕ) :
    Api.listIncidents svc caller limit offset =
      lift (Api.admitted svc caller) >>= Api.page caller limit offset := by
  simp only [Api.admitted, lift_bind, bind_assoc]
  rfl

theorem answers_page (limit : PageLimit) (offset : ℕ) :
    Answers env s (Api.page caller limit offset tenantId)
      (.ok (((caller.listing s tenantId).drop offset).take limit)) := by
  have hlisted : ∀ incidents : List Incident,
      (if caller.actorRole = some .dutyOfCare then incidents.filter Incident.elevated
        else incidents) = incidents.filter caller.shown := by
    intro incidents
    split
    · next hrole => exact List.filter_congr fun incident _ => by simp [Caller.shown, hrole]
    · next hrole =>
      exact (List.filter_eq_self.mpr fun incident _ => by simp [Caller.shown, hrole]).symm
  refine answers_bind (answers_query _ _) (answers_bind (answers_scopedIncidents _) ?_)
  rw [hlisted, List.filter_filter]
  simp only [Bool.and_comm (caller.shown _)]
  exact answers_pure _

/-! ### Opening an incident -/

/-- A lookup of an incident finds the tenant's row of that identifier. -/
theorem getIncident_eq_some_iff {incidentId : Uuid} {incident : Incident} :
    s.getIncident tenantId incidentId = some incident ↔
      incident ∈ s.incidents ∧ incident.incidentId = incidentId ∧ incident.tenantId = tenantId := by
  unfold InMemoryRepository.getIncident
  rw [Option.filter_eq_some_iff, Table.find?_eq_some, decide_eq_true_iff, and_assoc]

/-- The checks on the incident and its trip, once the caller is admitted. -/
def Api.opened (svc : Service) (caller : Caller) (incident : Incident) (trip : Trip) :
    Api Incident := do
  requireTripAccess svc trip caller [.travelManager, .dutyOfCare, .tenantAdmin]
  require (!(caller.actorRole = some .dutyOfCare && !incident.elevated)) 403
    "incident access denied"
  return incident

theorem callFree_opened (svc : Service) (caller : Caller) (incident : Incident) (trip : Trip) :
    (Api.opened svc caller incident trip).CallFree :=
  Prog.callFree_bind (Api.callFree_requireTripAccess _ _ _) fun _ _ =>
    Prog.callFree_bind (Api.callFree_require _ _ _) fun _ _ => Prog.callFree_pure _

/-- An admitted caller opens what is shown to the role, of a trip that the caller is not kept
from. -/
theorem opened_eq_pure_iff (h : Api.admitted svc caller = pure tenantId)
    {incident opened : Incident} {trip : Trip} : Api.opened svc caller incident trip = pure opened ↔
      opened = incident ∧ (caller.confined = true → trip.assignedManagerId = caller.actorId) ∧
        caller.shown incident = true := by
  obtain ⟨⟨role, hrole, hallowed⟩, -, hactor⟩ := admitted_eq_pure h
  have hrequire : Api.requireRole caller.actorRole [.travelManager, .dutyOfCare, .tenantAdmin] =
      pure () := if_pos (decide_eq_true ⟨role, hrole, hallowed⟩)
  have htraveler : caller.actorRole ≠ some .traveler := by
    rw [Option.mem_def.mp hrole]
    rintro ⟨⟩
    simp at hallowed
  have hconfined : (!(caller.actorRole = some .travelManager && truthy caller.actorId &&
      trip.assignedManagerId ≠ caller.actorId)) = true ↔
        (caller.confined = true → trip.assignedManagerId = caller.actorId) := by
    unfold Caller.confined
    by_cases hmanager : caller.actorRole = some .travelManager <;> cases truthy caller.actorId <;>
      simp [hmanager]
  rw [← hconfined]
  have hopened : Api.opened svc caller incident trip =
      (do
        Api.require (!(caller.actorRole = some .travelManager && truthy caller.actorId &&
          trip.assignedManagerId ≠ caller.actorId)) 403 "trip access denied"
        Api.require (caller.shown incident) 403 "incident access denied"
        pure incident) := by
    unfold Api.opened Api.requireTripAccess
    simp only [hrequire, hactor, bind_assoc]
    simp only [htraveler, decide_false, Bool.false_and, Bool.not_false]
    rfl
  rw [hopened]
  cases !(caller.actorRole = some .travelManager && truthy caller.actorId &&
    trip.assignedManagerId ≠ caller.actorId) with
  | false => exact ⟨nofun, fun h => absurd h.2.1 Bool.false_ne_true⟩
  | true =>
    cases caller.shown incident with
    | false => exact ⟨nofun, fun h => absurd h.2.2 Bool.false_ne_true⟩
    | true => exact ⟨fun h => ⟨(Prog.pure_injective h).symm, rfl, rfl⟩, fun h => h.1 ▸ rfl⟩


/-- What an admitted caller reads to open an incident. -/
def Api.opening (svc : Service) (caller : Caller) (tenantId : String) (incidentId : Uuid) :
    Read Incident := do
  let incident ←
    lift (found (← query tenantId (.getIncident incidentId)) 404 "incident not found")
  let trip ← lift (found (← query tenantId (.getTrip incident.tripId)) 404 "trip not found")
  lift (opened svc caller incident trip)

theorem getIncident_eq (incidentId : Uuid) : Api.getIncident svc caller incidentId = (do
    lift (Api.requireRole caller.actorRole [.travelManager, .dutyOfCare, .tenantAdmin])
    Api.opening svc caller (← lift (Api.requireTenant caller.tenantId)) incidentId) := by
  simp only [Api.opening, Api.opened, lift_bind]
  rfl

theorem answers_opening (env : Env) (s : InMemoryRepository Response)
    (h : Api.admitted svc caller = pure tenantId) (incidentId : Uuid) :
    ∃ r, Answers env s (Api.opening svc caller tenantId incidentId) r ∧ ∀ incident,
      r = .ok incident ↔ incident ∈ caller.listing s tenantId ∧ incident.incidentId = incidentId ∧
        (s.getTrip tenantId incident.tripId).isSome = true := by
  have hstored : ∀ incident, incident ∈ caller.listing s tenantId →
      s.getIncident tenantId incident.incidentId = some incident := fun incident hincident =>
    getIncident_eq_some_iff.mpr ⟨(mem_listing.mp hincident).1.1, rfl, (mem_listing.mp hincident).1.2⟩
  cases hfind : s.getIncident tenantId incidentId with
  | none =>
    refine ⟨.error (.http 404 "incident not found"), ?_, fun incident => ⟨nofun, ?_⟩⟩
    · refine answers_bind (answers_query _ _) (answers_bind_error _ ?_)
      show Answers env s (lift (Api.found (s.getIncident tenantId incidentId) 404
        "incident not found")) _
      rw [hfind]
      exact answers_lift (.error _)
    · rintro ⟨hincident, rfl, -⟩
      rw [hstored incident hincident] at hfind
      cases hfind
  | some incident =>
    obtain ⟨hrow, rfl, htenant⟩ := getIncident_eq_some_iff.mp hfind
    have hsame : ∀ {other}, other ∈ caller.listing s tenantId →
        other.incidentId = incident.incidentId → other = incident := fun hother hid =>
      s.incidents.key_inj (mem_listing.mp hother).1.1 hrow hid
    have hfound : Answers env s (lift (Api.found (s.getIncident tenantId incident.incidentId) 404
        "incident not found")) (.ok incident) := by
      rw [hfind]
      exact answers_lift (.ok _)
    cases htrip : s.getTrip tenantId incident.tripId with
    | none =>
      refine ⟨.error (.http 404 "trip not found"), ?_, fun other => ⟨nofun, ?_⟩⟩
      · refine answers_bind (answers_query _ _) (answers_bind hfound ?_)
        refine answers_bind (answers_query _ _) (answers_bind_error _ ?_)
        show Answers env s (lift (Api.found (s.getTrip tenantId incident.tripId) 404
          "trip not found")) _
        rw [htrip]
        exact answers_lift (.error _)
      · rintro ⟨hother, hid, hstored⟩
        rw [hsame hother hid, htrip] at hstored
        cases hstored
    | some trip =>
      obtain ⟨r, hr⟩ := callFree_opened svc caller incident trip
      refine ⟨r, ?_, fun other => ?_⟩
      · refine answers_bind (answers_query _ _) (answers_bind hfound ?_)
        refine answers_bind (answers_query _ _) (answers_bind (a := trip) ?_ ?_)
        · show Answers env s (lift (Api.found (s.getTrip tenantId incident.tripId) 404
            "trip not found")) _
          rw [htrip]
          exact answers_lift (.ok _)
        · rw [hr]
          exact answers_lift r
      · have hassigned : s.assigned tenantId incident.tripId caller.actorId = true ↔
            trip.assignedManagerId = caller.actorId := by
          unfold InMemoryRepository.assigned
          rw [htrip]
          exact decide_eq_true_iff
        have hanswer : r = .ok other ↔ Api.opened svc caller incident trip = pure other := by
          rw [hr]
          cases r with
          | ok a => exact ⟨fun h => by cases h; rfl, fun h => congrArg _ (Prog.pure_injective h)⟩
          | error e => exact ⟨nofun, nofun⟩
        rw [hanswer, opened_eq_pure_iff h]
        constructor
        · rintro ⟨rfl, hconfined, hshown⟩
          exact ⟨mem_listing.mpr ⟨⟨hrow, htenant⟩, fun hc => hassigned.mpr (hconfined hc), hshown⟩,
            rfl, by rw [htrip]; rfl⟩
        · rintro ⟨hother, hid, -⟩
          obtain rfl := hsame hother hid
          obtain ⟨-, hconfined, hshown⟩ := mem_listing.mp hother
          exact ⟨rfl, fun hc => hassigned.mp (hconfined hc), hshown⟩
/-- No one else opens an incident. -/
theorem exists_admitted {w : World .memory} {incidentId : Uuid} {incident : Incident}
    (h : ((Api.getIncident svc caller incidentId).run env.read w).1 = .ok incident) :
    ∃ tenantId, Api.admitted svc caller = pure tenantId := by
  rw [getIncident_eq] at h
  obtain ⟨_, w₁, hrole, h⟩ := Prog.run_bind_eq_ok.mp (Prod.ext h rfl)
  obtain ⟨tenantId, w₂, htenant, h⟩ := Prog.run_bind_eq_ok.mp h
  obtain ⟨_, w₃, -, h⟩ := Prog.run_bind_eq_ok.mp h
  obtain ⟨found, w₄, -, h⟩ := Prog.run_bind_eq_ok.mp h
  obtain ⟨_, w₅, -, h⟩ := Prog.run_bind_eq_ok.mp h
  obtain ⟨trip, w₆, -, hopened⟩ := Prog.run_bind_eq_ok.mp h
  rw [run_lift] at hrole htenant hopened
  have hrole := ((Api.callFree_requireRole _ _).run_eq_ok hrole).1
  have htenant := ((Api.callFree_requireTenant _).run_eq_ok htenant).1
  have hopened := ((callFree_opened svc caller found trip).run_eq_ok hopened).1
  obtain ⟨_, haccess, -⟩ := (Api.callFree_requireTripAccess _ _ _).bind_eq_pure hopened
  obtain ⟨_, -, haccess⟩ := (Api.callFree_requireRole _ _).bind_eq_pure haccess
  obtain ⟨actor, hactor, -⟩ := (Api.callFree_requireActorId _).bind_eq_pure haccess
  refine ⟨tenantId, ?_⟩
  unfold Api.admitted
  rw [hrole, htenant, hactor]
  rfl

/-! ### The listing -/

/-- Every page is cut out of one listing, and the incidents of stored trips in it are those that
the caller may open. -/
structure Listed (svc : Service) (env : Env) (caller : Caller) (w : World .memory)
    (tenantId : String) (listing : List Incident) : Prop where
  page : ∀ limit offset, ((Api.listIncidents svc caller limit offset).run env.read w).1 =
    .ok ((listing.drop offset).take limit)
  pages : ∀ (limit : PageLimit) (n : ℕ) (answered : ℕ → List Incident),
    (∀ k < n, ((Api.listIncidents svc caller limit (k * limit)).run env.read w).1 =
      .ok (answered k)) → (List.range n).flatMap answered = listing.take (n * limit)
  ordered : listing.Pairwise fun a b => listedBefore a b = true
  distinct : (listing.map Incident.incidentId).Nodup
  stored : ∀ incident ∈ listing, incident ∈ w.store.incidents ∧ incident.tenantId = tenantId
  opened : ∀ incidentId incident,
    ((Api.getIncident svc caller incidentId).run env.read w).1 = .ok incident ↔
      incident ∈ listing ∧ incident.incidentId = incidentId ∧
        (w.store.getTrip tenantId incident.tripId).isSome = true

/-- Consecutive pieces of a list make up its beginning. -/
theorem flatMap_pieces {α : Type} (l : List α) (size n : ℕ) :
    ((List.range n).flatMap fun k => (l.drop (k * size)).take size) = l.take (n * size) := by
  induction n with
  | zero => simp
  | succ n ih =>
    rw [List.range_succ, List.flatMap_append, ih, List.flatMap_singleton, Nat.succ_mul,
      List.take_add]

/-- Either every page is refused for one reason and no incident opens, or there is a listing. -/
theorem incidents_listed (svc : Service) (env : Env) (caller : Caller) (w : World .memory) :
    (∃ fault, (∀ limit offset,
        ((Api.listIncidents svc caller limit offset).run env.read w).1 = .error fault) ∧
      ∀ incidentId incident,
        ((Api.getIncident svc caller incidentId).run env.read w).1 ≠ .ok incident) ∨
    ∃ tenantId listing, caller.tenantId = some tenantId ∧
      Listed svc env caller w tenantId listing := by
  obtain ⟨r, hadmitted⟩ := callFree_admitted svc caller
  cases r with
  | error fault =>
    refine .inl ⟨fault, fun limit offset => ?_, fun incidentId incident h => ?_⟩
    · rw [listIncidents_eq, hadmitted]
      exact (answers_bind_error _ (answers_lift (.error fault)) w rfl).1
    · obtain ⟨tenantId, hpure⟩ := exists_admitted h
      rw [hadmitted] at hpure
      cases hpure
  | ok tenantId =>
    obtain ⟨⟨role, hrole, hallowed⟩, htenant, -⟩ := admitted_eq_pure hadmitted
    have hpage : ∀ limit offset, ((Api.listIncidents svc caller limit offset).run env.read w).1 =
        .ok (((caller.listing w.store tenantId).drop offset).take limit) := by
      intro limit offset
      rw [listIncidents_eq, hadmitted]
      exact (answers_bind (answers_lift (.ok tenantId)) (answers_page limit offset) w rfl).1
    refine .inr ⟨tenantId, caller.listing w.store tenantId,
      (Api.requireTenant_eq_pure htenant).1, ?_⟩
    refine
      { page := hpage
        pages := fun limit n answered hanswered => ?_
        ordered := pairwise_listing
        distinct := nodup_listing
        stored := fun incident hincident => (mem_listing.mp hincident).1
        opened := fun incidentId incident => ?_ }
    · rw [← flatMap_pieces]
      refine List.flatMap_congr fun k hk => ?_
      have hk := hanswered k (List.mem_range.mp hk)
      rw [hpage] at hk
      exact (Except.ok.inj hk).symm
    · obtain ⟨r, hanswers, hr⟩ := answers_opening env w.store hadmitted incidentId
      have hrequire : Api.requireRole caller.actorRole [.travelManager, .dutyOfCare, .tenantAdmin] =
          pure () := if_pos (decide_eq_true ⟨role, hrole, hallowed⟩)
      rw [getIncident_eq, hrequire, htenant]
      have hopening : Answers env w.store (lift (pure ()) >>= fun _ => lift (pure tenantId) >>=
          fun tenant => Api.opening svc caller tenant incidentId) r :=
        answers_bind (answers_lift (.ok ())) (answers_bind (answers_lift (.ok tenantId)) hanswers)
      rw [(hopening w rfl).1]
      exact hr incident

end RouteShield
