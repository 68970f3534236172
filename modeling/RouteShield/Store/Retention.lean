import RouteShield.Store.Postgres

/-!
Retention, apart from any store. An archive is a set of operational records in which an
identifier names one trip, one incident and one action. A purge removes what hangs off the
expired trips no active hold names, and the expired records of the tenants and travelers
no active hold names. Both stores compute their deletions from the same lists of holds,
trips and incidents.
-/

namespace RouteShield

/-- An operational record with the columns it is selected by. -/
inductive OperationalRecord where
  | trip (trip : Trip)
  | evidence (tripId : Uuid) (item : EvidenceEnvelope)
  | assessment (tripId : Uuid) (item : RiskAssessment)
  | incident (incident : Incident)
  | approval (item : ApprovalRecord)
  | candidateSet (item : RecoveryCandidateSet)
  | candidateOutcome (item : RecoveryCandidateOutcome)
  | managerFeedback (item : ManagerFeedback)
  | actionDispatch (incidentId : Uuid) (item : ActionDispatchRecord)
  | actionDispatchAttempt (actionDispatchId : Uuid) (item : ActionDispatchAttempt)
  | profile (item : TravelerPreferenceProfile)
  | memoryProposal (item : MemoryUpdateProposal)
  | notification (item : NotificationRecord)
  | originalUpload (tenantId : String) (item : OriginalUploadRecord)

/-- A set of operational records with one trip, one incident and one action to an identifier. -/
structure Archive where
  records : Set OperationalRecord
  trip_inj : ∀ t u : Trip, .trip t ∈ records → .trip u ∈ records → t.tripId = u.tripId → t = u
  incident_inj : ∀ i j : Incident, .incident i ∈ records → .incident j ∈ records →
    i.incidentId = j.incidentId → i = j
  action_inj : ∀ (i j : Uuid) (a b : ActionDispatchRecord), .actionDispatch i a ∈ records →
    .actionDispatch j b ∈ records → a.actionDispatchId = b.actionDispatchId → i = j ∧ a = b

instance : Membership OperationalRecord Archive := ⟨fun archive record => record ∈ archive.records⟩

/-- The cutoffs of a purge; the two optional ones default to `before`. -/
structure Cutoffs where
  before : Time
  originalUploadBefore : Option Time := none
  auditBefore : Option Time := none

def Cutoffs.originalUpload (cutoffs : Cutoffs) : Time :=
  cutoffs.originalUploadBefore.getD cutoffs.before

def Cutoffs.audit (cutoffs : Cutoffs) : Time := cutoffs.auditBefore.getD cutoffs.before

/-! ### What a hold names -/

namespace LegalHoldRecord

/-- The hold names the trip by its tenant, its traveler or itself. -/
def holdsTrip (hold : LegalHoldRecord) (trip : Trip) : Bool :=
  hold.tenantId = trip.tenantId ∧
    (hold.scope = .tenant ∨ (hold.scope = .traveler ∧ hold.travelerId = some trip.travelerId) ∨
      (hold.scope = .trip ∧ hold.tripId = some trip.tripId))

/-- The hold names the traveler, alone or with the whole tenant. -/
def HoldsTraveler (hold : LegalHoldRecord) (tenantId travelerId : String) : Prop :=
  hold.tenantId = tenantId ∧
    (hold.scope = .tenant ∨ (hold.scope = .traveler ∧ hold.travelerId = some travelerId))

def HoldsTenant (hold : LegalHoldRecord) (tenantId : String) : Prop :=
  hold.tenantId = tenantId ∧ hold.scope = .tenant

end LegalHoldRecord

/-! ### The lists both stores delete by -/

section Lists

def activeHolds (holds : List LegalHoldRecord) (now : Time) : List LegalHoldRecord :=
  holds.filter (fun hold => hold.isActive now)

variable (active : List LegalHoldRecord)

def heldTripIds (trips : List Trip) : List Uuid :=
  (trips.filter (fun trip => active.any (fun hold => hold.holdsTrip trip))).map Trip.tripId

def heldTravelers : List (String × String) :=
  active.filterMap (fun hold =>
    if hold.scope = .traveler ∧ truthy hold.travelerId then
      hold.travelerId.map (fun travelerId => (hold.tenantId, travelerId))
    else none)

def heldTenants : List String :=
  (active.filter (fun hold => hold.scope = .tenant)).map LegalHoldRecord.tenantId

def expiredTripIds (trips : List Trip) (before : Time) : List Uuid :=
  ((trips.filter (fun trip => trip.createdAt < before)).map Trip.tripId).filter
    (fun tripId => tripId ∉ heldTripIds active trips)

def expiredIncidentIds (tripIds : List Uuid) (incidents : List Incident) : List Uuid :=
  (incidents.filter (fun incident => incident.tripId ∈ tripIds)).map Incident.incidentId

/-- Expired, and under no hold on its traveler or its tenant. -/
def expiredForTraveler (tenantId travelerId : String) (stamp before : Time) : Bool :=
  stamp < before ∧ (tenantId, travelerId) ∉ heldTravelers active ∧ tenantId ∉ heldTenants active

def expiredUpload (tenantId : String) (upload : OriginalUploadRecord) (before : Time) : Bool :=
  upload.createdAt < before ∧ tenantId ∉ heldTenants active

variable {active}

theorem mem_heldTenants {tenantId : String} :
    tenantId ∈ heldTenants active ↔ ∃ hold ∈ active, hold.HoldsTenant tenantId := by
  simp only [heldTenants, List.mem_map, List.mem_filter, decide_eq_true_eq,
    LegalHoldRecord.HoldsTenant]
  exact exists_congr fun hold => by tauto

/-- A hold on a traveler names one, by its validity. -/
theorem LegalHoldRecord.travelerId_truthy {hold : LegalHoldRecord} (h : hold.scope = .traveler) :
    truthy hold.travelerId = true := by
  have hv := hold.validScope.1
  simp only [h] at hv
  exact hv.1

theorem mem_heldTravelers {tenantId travelerId : String} :
    (tenantId, travelerId) ∈ heldTravelers active ↔ ∃ hold ∈ active,
      hold.tenantId = tenantId ∧ hold.scope = .traveler ∧ hold.travelerId = some travelerId := by
  simp only [heldTravelers, List.mem_filterMap]
  refine exists_congr fun hold => and_congr_right fun _ => ?_
  by_cases hs : hold.scope = .traveler
  · simp only [hs, hold.travelerId_truthy hs, and_self, if_true, Option.map_eq_some_iff,
      Prod.mk.injEq, true_and]
    constructor
    · rintro ⟨x, hx, rfl, rfl⟩
      exact ⟨rfl, hx⟩
    · rintro ⟨rfl, hx⟩
      exact ⟨travelerId, hx, rfl, rfl⟩
  · simp [hs]

/-- The two lists together: the holds that name the traveler. -/
theorem expiredForTraveler_iff {tenantId travelerId : String} {stamp before : Time} :
    expiredForTraveler active tenantId travelerId stamp before = true ↔
      stamp < before ∧ ∀ hold ∈ active, ¬hold.HoldsTraveler tenantId travelerId := by
  simp only [expiredForTraveler, decide_eq_true_eq, mem_heldTravelers, mem_heldTenants,
    LegalHoldRecord.HoldsTenant, LegalHoldRecord.HoldsTraveler, not_exists, not_and]
  refine and_congr_right fun _ => ⟨fun h hold hm ht => ?_, fun h => ⟨?_, ?_⟩⟩
  · rintro (hs | ⟨hs, hv⟩)
    · exact h.2 hold hm ht hs
    · exact h.1 hold hm ht hs hv
  · exact fun hold hm ht hs hv => h hold hm ht (.inr ⟨hs, hv⟩)
  · exact fun hold hm ht hs => h hold hm ht (.inl hs)

theorem expiredUpload_iff {tenantId : String} {upload : OriginalUploadRecord} {before : Time} :
    expiredUpload active tenantId upload before = true ↔
      upload.createdAt < before ∧ ∀ hold ∈ active, ¬hold.HoldsTenant tenantId := by
  simp [expiredUpload, mem_heldTenants]

theorem mem_heldTripIds {trips : List Trip} {tripId : Uuid} :
    tripId ∈ heldTripIds active trips ↔
      ∃ trip ∈ trips, trip.tripId = tripId ∧ ∃ hold ∈ active, hold.holdsTrip trip = true := by
  simp only [heldTripIds, List.mem_map, List.mem_filter, List.any_eq_true]
  exact exists_congr fun trip => by tauto

/-- In a list with one trip to an identifier, the expired trips are the old ones no hold names. -/
theorem mem_expiredTripIds {trips : List Trip} {before : Time} {tripId : Uuid}
    (hinj : ∀ t ∈ trips, ∀ u ∈ trips, t.tripId = u.tripId → t = u) :
    tripId ∈ expiredTripIds active trips before ↔
      ∃ trip ∈ trips, trip.tripId = tripId ∧ trip.createdAt < before ∧
        ∀ hold ∈ active, hold.holdsTrip trip = false := by
  unfold expiredTripIds
  rw [List.mem_filter, List.mem_map, decide_eq_true_iff, mem_heldTripIds]
  constructor
  · rintro ⟨⟨trip, hm, rfl⟩, hn⟩
    simp only [List.mem_filter, decide_eq_true_eq] at hm
    refine ⟨trip, hm.1, rfl, hm.2, fun hold hh => ?_⟩
    rw [← Bool.not_eq_true]
    exact fun ht => hn ⟨trip, hm.1, rfl, hold, hh, ht⟩
  · rintro ⟨trip, hm, rfl, hb, hn⟩
    refine ⟨⟨trip, by simp [hm, hb], rfl⟩, ?_⟩
    rintro ⟨u, hu, hid, hold, hh, ht⟩
    rw [hinj u hu trip hm hid, hn hold hh] at ht
    cases ht

theorem mem_expiredIncidentIds {tripIds : List Uuid} {incidents : List Incident} {id : Uuid} :
    id ∈ expiredIncidentIds tripIds incidents ↔
      ∃ incident ∈ incidents, incident.incidentId = id ∧ incident.tripId ∈ tripIds := by
  simp only [expiredIncidentIds, List.mem_map, List.mem_filter, decide_eq_true_eq]
  exact exists_congr fun incident => by tauto

end Lists

/-! ### The purge of an archive -/

namespace Archive

variable (archive : Archive) (active : List LegalHoldRecord) (cutoffs : Cutoffs)

/-- A stored trip older than the cutoff that no active hold names. -/
def ExpiredTrip (trip : Trip) : Prop :=
  .trip trip ∈ archive ∧ trip.createdAt < cutoffs.before ∧
    ∀ hold ∈ active, hold.holdsTrip trip = false

def OnExpiredTrip (tripId : Uuid) : Prop :=
  ∃ trip, archive.ExpiredTrip active cutoffs trip ∧ trip.tripId = tripId

def OnExpiredIncident (incidentId : Uuid) : Prop :=
  ∃ incident, .incident incident ∈ archive ∧ incident.incidentId = incidentId ∧
    archive.OnExpiredTrip active cutoffs incident.tripId

/-- What a purge removes. `orphans` says whether attempts of no stored action go too. -/
def Removed (orphans : Prop) : OperationalRecord → Prop
  | .trip trip => archive.OnExpiredTrip active cutoffs trip.tripId
  | .evidence tripId _ => archive.OnExpiredTrip active cutoffs tripId
  | .assessment tripId _ => archive.OnExpiredTrip active cutoffs tripId
  | .incident incident => archive.OnExpiredIncident active cutoffs incident.incidentId
  | .approval item => archive.OnExpiredIncident active cutoffs item.incidentId
  | .candidateSet item => archive.OnExpiredIncident active cutoffs item.incidentId
  | .candidateOutcome item => archive.OnExpiredIncident active cutoffs item.incidentId
  | .managerFeedback item => archive.OnExpiredIncident active cutoffs item.incidentId
  | .actionDispatch incidentId _ => archive.OnExpiredIncident active cutoffs incidentId
  | .actionDispatchAttempt actionId _ =>
    (∃ incidentId action, .actionDispatch incidentId action ∈ archive ∧
      action.actionDispatchId = actionId ∧ archive.OnExpiredIncident active cutoffs incidentId) ∨
    (orphans ∧ ∀ incidentId action, .actionDispatch incidentId action ∈ archive →
      action.actionDispatchId ≠ actionId)
  | .profile item => item.updatedAt < cutoffs.before ∧
    ∀ hold ∈ active, ¬hold.HoldsTraveler item.tenantId item.travelerId
  | .memoryProposal item => item.createdAt < cutoffs.before ∧
    ∀ hold ∈ active, ¬hold.HoldsTraveler item.tenantId item.travelerId
  | .notification item => item.createdAt < cutoffs.before
  | .originalUpload tenantId item => item.createdAt < cutoffs.originalUpload ∧
    ∀ hold ∈ active, ¬hold.HoldsTenant tenantId

def purge (orphans : Prop) : Archive where
  records := {record ∈ archive.records | ¬archive.Removed active cutoffs orphans record}
  trip_inj t u ht hu := archive.trip_inj t u ht.1 hu.1
  incident_inj i j hi hj := archive.incident_inj i j hi.1 hj.1
  action_inj i j a b ha hb := archive.action_inj i j a b ha.1 hb.1

variable {archive active cutoffs}

@[simp] theorem mem_purge {orphans : Prop} {record : OperationalRecord} :
    record ∈ archive.purge active cutoffs orphans ↔
      record ∈ archive ∧ ¬archive.Removed active cutoffs orphans record := Iff.rfl

@[ext] theorem ext {a b : Archive} (h : ∀ record, record ∈ a ↔ record ∈ b) : a = b := by
  cases a
  cases b
  congr
  exact Set.ext h

end Archive

end RouteShield
