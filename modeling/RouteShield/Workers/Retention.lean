import RouteShield.Api.Access

/-!
The retention worker. It turns periods in days into the cutoffs of a purge, and a purge
dates a trip by the day it was booked, not by the day it ends. What hangs off a trip that
is not over survives exactly when every trip a purge takes is over.
-/

namespace RouteShield

def days (n : ℤ) : ℤ := n * 24 * 60 * 60 * 1000000

structure RetentionPeriods where
  retentionDays : ℤ
  originalUploadRetentionDays : ℤ := 30
  auditRetentionDays : ℤ := 365

/-- The cutoffs `run_retention` purges by. -/
def RetentionPeriods.cutoffs (periods : RetentionPeriods) (timestamp : Time) :
    Except Fault Cutoffs :=
  if min periods.retentionDays
      (min periods.originalUploadRetentionDays periods.auditRetentionDays) < 1 then
    .error (.value "retention periods must be at least one day")
  else
    .ok {
      before := timestamp - days periods.retentionDays
      originalUploadBefore := some (timestamp - days periods.originalUploadRetentionDays)
      auditBefore := some (timestamp - days periods.auditRetentionDays) }

/-- `run_retention` over a repository with the given purge. -/
def runRetention {σ : Type} (purgeExpired : Cutoffs → PurgeCounts × σ) (periods : RetentionPeriods)
    (timestamp : Time) : Except Fault (PurgeCounts × σ) :=
  (periods.cutoffs timestamp).map purgeExpired

/-- The counts under the names in which they are reported. -/
def PurgeCounts.fields (counts : PurgeCounts) : JsonObject :=
  [("trips", counts.trips), ("evidence", counts.evidence), ("assessments", counts.assessments),
    ("incidents", counts.incidents), ("profiles", counts.profiles),
    ("memory_proposals", counts.memoryProposals), ("notifications", counts.notifications),
    ("original_uploads", counts.originalUploads), ("audit_events", counts.auditEvents),
    ("memory_audits", counts.memoryAudits)].map fun (name, n) => (name, .num (.int (n : ℕ)))

/-- `date().isoformat()`, up to the spelling. -/
def isodate (time : Time) : String := toString (time / days 1)

/-- The job: a run over the repository of the service, and an event about it. -/
def Api.runRetentionJob (svc : Service) : Api PurgeCounts := do
  let timestamp ← now
  let cutoffs ← .ofExcept (RetentionPeriods.cutoffs ⟨svc.retentionDays, 30, 365⟩ timestamp)
  let result ← repo (.purgeExpired cutoffs)
  let correlationId ← uuid4
  let today ← now
  let _ ← recordEvent
    { eventType := "retention.completed"
      tenantId := "system"
      tripId := none
      correlationId
      details :=
        [("deleted_record_counts", .obj result.fields),
          ("retention_days", .num (.int svc.retentionDays))] }
    ("retention:" ++ isodate today)
  return result

/-- No cutoff of a run lies in the future. -/
theorem RetentionPeriods.cutoffs_before_lt {periods : RetentionPeriods} {timestamp : Time}
    {cutoffs : Cutoffs} (h : periods.cutoffs timestamp = .ok cutoffs) :
    cutoffs.before < timestamp := by
  unfold RetentionPeriods.cutoffs at h
  split_ifs at h with hp
  cases h
  have hd : 0 < periods.retentionDays * 24 * 60 * 60 * 1000000 := by omega
  exact Int.sub_lt_self timestamp hd

/-- The trip is over: its last segment was to arrive before the cutoff. -/
def Trip.OverBefore (trip : Trip) (before : Time) : Prop :=
  ∃ segment, trip.segments.getLast? = some segment ∧ segment.scheduledArrivalAt < before

namespace Archive

variable (archive : Archive)

def OnTripOfIncident (incidentId tripId : Uuid) : Prop :=
  ∃ incident, .incident incident ∈ archive ∧ incident.incidentId = incidentId ∧
    incident.tripId = tripId

/-- The record is the trip, or hangs off it directly, by its incident or by its action. -/
def HangsOff (tripId : Uuid) : OperationalRecord → Prop
  | .trip trip => trip.tripId = tripId
  | .evidence id _ => id = tripId
  | .assessment id _ => id = tripId
  | .incident incident => incident.tripId = tripId
  | .approval item => archive.OnTripOfIncident item.incidentId tripId
  | .candidateSet item => archive.OnTripOfIncident item.incidentId tripId
  | .candidateOutcome item => archive.OnTripOfIncident item.incidentId tripId
  | .managerFeedback item => archive.OnTripOfIncident item.incidentId tripId
  | .actionDispatch incidentId _ => archive.OnTripOfIncident incidentId tripId
  | .actionDispatchAttempt actionId _ =>
    ∃ incidentId action, .actionDispatch incidentId action ∈ archive ∧
      action.actionDispatchId = actionId ∧ archive.OnTripOfIncident incidentId tripId
  | .profile _ => False
  | .memoryProposal _ => False
  | .notification _ => False
  | .originalUpload _ _ => False

/-- Between the two archives nothing of a stored trip went unless the trip was over. -/
def RemovesOnlyPastTrips (kept : Archive) (before : Time) : Prop :=
  ∀ trip, .trip trip ∈ archive → ∀ record ∈ archive, archive.HangsOff trip.tripId record →
    record ∉ kept → trip.OverBefore before

/-- Every stored trip booked before the cutoff and under no active hold is over. -/
def BookedTripsOver (active : List LegalHoldRecord) (before : Time) : Prop :=
  ∀ trip, .trip trip ∈ archive → trip.createdAt < before →
    (∀ hold ∈ active, hold.holdsTrip trip = false) → trip.OverBefore before

variable {archive} {active : List LegalHoldRecord} {cutoffs : Cutoffs} {tripId : Uuid}

theorem onExpiredIncident_iff {incidentId : Uuid}
    (h : archive.OnTripOfIncident incidentId tripId) :
    archive.OnExpiredIncident active cutoffs incidentId ↔
      archive.OnExpiredTrip active cutoffs tripId := by
  obtain ⟨incident, hi, rfl, rfl⟩ := h
  constructor
  · rintro ⟨other, ho, hid, htrip⟩
    rwa [archive.incident_inj other incident ho hi hid] at htrip
  · exact fun htrip => ⟨incident, hi, rfl, htrip⟩

/-- A purge takes what hangs off a trip exactly when it takes the trip. -/
theorem removed_iff_of_hangsOff {record : OperationalRecord} {orphans : Prop}
    (hr : record ∈ archive) (h : archive.HangsOff tripId record) :
    archive.Removed active cutoffs orphans record ↔
      archive.OnExpiredTrip active cutoffs tripId := by
  cases record with
  | trip trip => exact h ▸ Iff.rfl
  | evidence id item => exact h ▸ Iff.rfl
  | assessment id item => exact h ▸ Iff.rfl
  | incident incident => exact onExpiredIncident_iff ⟨incident, hr, rfl, h⟩
  | approval item => exact onExpiredIncident_iff h
  | candidateSet item => exact onExpiredIncident_iff h
  | candidateOutcome item => exact onExpiredIncident_iff h
  | managerFeedback item => exact onExpiredIncident_iff h
  | actionDispatch incidentId item => exact onExpiredIncident_iff h
  | actionDispatchAttempt actionId item =>
    obtain ⟨incidentId, action, ha, hid, ht⟩ := h
    rw [← onExpiredIncident_iff ht]
    constructor
    · rintro (⟨other, b, hb, hbid, hexp⟩ | ⟨-, hno⟩)
      · rwa [(archive.action_inj _ _ _ _ hb ha (hbid.trans hid.symm)).1] at hexp
      · exact absurd hid (hno incidentId action ha)
    · exact fun hexp => .inl ⟨incidentId, action, ha, hid, hexp⟩
  | profile item => exact h.elim
  | memoryProposal item => exact h.elim
  | notification item => exact h.elim
  | originalUpload tenantId item => exact h.elim

theorem removesOnlyPastTrips_purge_iff {orphans : Prop} :
    archive.RemovesOnlyPastTrips (archive.purge active cutoffs orphans) cutoffs.before ↔
      archive.BookedTripsOver active cutoffs.before := by
  constructor
  · intro h trip ht hb hn
    refine h trip ht (.trip trip) ht rfl fun hkept => ?_
    exact (mem_purge.mp hkept).2 ⟨trip, ⟨ht, hb, hn⟩, rfl⟩
  · intro h trip ht record hr hoff hgone
    have hremoved : archive.Removed active cutoffs orphans record := by
      by_contra hn
      exact hgone (mem_purge.mpr ⟨hr, hn⟩)
    obtain ⟨other, ⟨ho, hb, hn⟩, hid⟩ := (removed_iff_of_hangsOff hr hoff).mp hremoved
    rw [archive.trip_inj other trip ho ht hid] at hb hn
    exact h trip ht hb hn

/-- Where the booked trips are over, a run keeps every trip with no arrival behind it. -/
theorem mem_purge_of_ahead {orphans : Prop} {periods : RetentionPeriods} {timestamp : Time}
    {trip : Trip} (hover : archive.BookedTripsOver active cutoffs.before)
    (hc : periods.cutoffs timestamp = .ok cutoffs) (ht : .trip trip ∈ archive)
    (hahead : ∀ segment ∈ trip.segments, timestamp ≤ segment.scheduledArrivalAt) :
    .trip trip ∈ archive.purge active cutoffs orphans := by
  by_contra hgone
  obtain ⟨segment, hs, hb⟩ :=
    removesOnlyPastTrips_purge_iff.mpr hover trip ht (.trip trip) ht rfl hgone
  have harrives := hahead segment (List.mem_of_getLast? hs)
  exact absurd (harrives.trans_lt hb) (RetentionPeriods.cutoffs_before_lt hc).not_gt

end Archive

variable {β : Type}

/-- Both stores keep the live trips exactly when every trip they take for expired is over. -/
theorem purge_removes_only_past_trips_iff (repo : InMemoryRepository β)
    (database : PostgresRepository β) (now : Time) (cutoffs : Cutoffs) :
    (repo.archive.RemovesOnlyPastTrips (repo.purgeExpired now cutoffs).2.archive cutoffs.before ↔
      repo.archive.BookedTripsOver (repo.active now) cutoffs.before) ∧
    (database.archive.RemovesOnlyPastTrips (database.purgeExpired now cutoffs).2.archive
        cutoffs.before ↔
      database.archive.BookedTripsOver (database.active now) cutoffs.before) := by
  rw [InMemoryRepository.archive_purgeExpired, PostgresRepository.archive_purgeExpired]
  exact ⟨Archive.removesOnlyPastTrips_purge_iff, Archive.removesOnlyPastTrips_purge_iff⟩

/-- A trip booked on the first day, to depart on the two hundredth. -/
def bookedTrip : Trip where
  tenantId := "acme"
  travelerId := "ada"
  groundOrigin := "Oslo"
  destinationCountry := "SE"
  segments := [{
    segmentId := "1"
    carrierCode := "SK"
    flightNumber := "865"
    departureAirport := "OSL"
    arrivalAirport := "ARN"
    scheduledDepartureAt := days 200
    scheduledArrivalAt := days 200 + minutes 60 }]
  tripId := .v5 "trip"
  createdAt := days 1

/-- The daily run of the hundredth day, with the 90 days of the schedule. -/
def hundredthDay : Cutoffs where
  before := days 10
  originalUploadBefore := some (days 70)
  auditBefore := some (days (-265))

example : ({ retentionDays := 90 } : RetentionPeriods).cutoffs (days 100) = .ok hundredthDay := rfl

theorem bookedTrip_not_over : ¬bookedTrip.OverBefore hundredthDay.before := by
  rintro ⟨segment, hs, hb⟩
  cases hs
  exact absurd hb (by decide)

def bookedRepository : InMemoryRepository Unit := InMemoryRepository.saveTrip {} bookedTrip

def bookedDatabase : PostgresRepository Unit where
  trips := ({} : PostgresRepository Unit).trips.put ⟨"acme", bookedTrip⟩
  tripSegments :=
    ⟨bookedTrip.segments.map (fun s => ⟨bookedTrip.tripId, bookedTrip.tenantId, s⟩), by decide⟩

example : PostgresRepository.saveTrip {} bookedTrip = .ok bookedDatabase := rfl

/-- The hundredth day's run removes a trip that departs a hundred days later. -/
theorem booked_trip_purged :
    ¬bookedRepository.archive.RemovesOnlyPastTrips
        (bookedRepository.purgeExpired (days 100) hundredthDay).2.archive hundredthDay.before ∧
      ¬bookedDatabase.archive.RemovesOnlyPastTrips
        (bookedDatabase.purgeExpired (days 100) hundredthDay).2.archive hundredthDay.before := by
  rw [InMemoryRepository.archive_purgeExpired, PostgresRepository.archive_purgeExpired,
    Archive.removesOnlyPastTrips_purge_iff, Archive.removesOnlyPastTrips_purge_iff]
  refine ⟨fun h => ?_, fun h => ?_⟩
  · refine bookedTrip_not_over (h bookedTrip (Table.mem_put_self _ _) (by decide) ?_)
    exact fun hold hh => absurd hh List.not_mem_nil
  · refine bookedTrip_not_over (h bookedTrip ⟨_, Table.mem_put_self _ _, rfl⟩ (by decide) ?_)
    exact fun hold hh => absurd hh List.not_mem_nil

end RouteShield
