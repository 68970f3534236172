import RouteShield.Lib.Mirror
import RouteShield.Store.Histories
import RouteShield.Store.IdempotencyRuns

/-!
The two repositories as stores of the same records. A PostgreSQL repository mirrors an in-memory
one when each of its tables is the other's collection, with the tenant of a document in the row's
column: then every read answers alike. A write keeps this when it inserts no row under a taken key
and moves no document to another tenant; only then does PostgreSQL accept the row, and file it
where the document says.
-/

namespace RouteShield

variable {α κ β : Type}

/-! ### Rows that carry their tenant -/

/-- The row of a document in its own tenant's column. -/
def TenantRow.of (tenantOf : α → String) (a : α) : TenantRow α := ⟨tenantOf a, a⟩

namespace Table

variable [DecidableEq κ] {id : α → κ} {tenantOf : α → String} {t : Table id}
  {rows : Table (fun row : TenantRow α => id row.payload)}

omit [DecidableEq κ] in
/-- A mirrored document sits in its own tenant's column. -/
theorem Mirrors.owned (h : t.Mirrors (TenantRow.of tenantOf) rows) : rows.Owned tenantOf := by
  intro row hrow
  rw [mem_def, h] at hrow
  obtain ⟨a, -, rfl⟩ := List.mem_map.mp hrow
  rfl

theorem Mirrors.payload?_eq (h : t.Mirrors (TenantRow.of tenantOf) rows) (tenantId : String)
    (k : κ) : rows.payload? tenantId k = (t.find? k).filter (fun a => tenantOf a = tenantId) := by
  have hpayload : TenantRow.payload ∘ TenantRow.of tenantOf = fun a => a := rfl
  rw [h.owned.payload?_eq, h.find? fun _ => rfl, Option.map_map, hpayload, Option.map_id']

/-- An upsert over a document of the same tenant. -/
theorem Mirrors.upsertPayload (h : t.Mirrors (TenantRow.of tenantOf) rows) {a : α}
    (hsame : ∀ current ∈ t.find? (id a), tenantOf current = tenantOf a) :
    (t.put a).Mirrors (TenantRow.of tenantOf) (rows.upsertPayload (tenantOf a) a) := by
  have hcolumn : ((rows.find? (id a)).map TenantRow.tenantId).getD (tenantOf a) = tenantOf a := by
    rw [h.find? fun _ => rfl]
    cases hfind : t.find? (id a) with
    | none => rfl
    | some current => exact hsame current hfind
  unfold Table.upsertPayload
  rw [hcolumn]
  exact h.put (fun _ => rfl) a

theorem inserted_of_new {key : α → κ} {t : Table key} {a : α} (hnew : t.find? (key a) = none)
    (table : String) : t.inserted a table = .ok (t.put a) := by
  unfold inserted
  rw [insert_eq_some.mpr ⟨hnew, rfl⟩]

/-- A row under a new key ends the rows. -/
theorem inserted_rows {key : α → κ} {t : Table key} {rows : List α} (h : t.rows = rows) {a : α}
    (hnew : ∀ b ∈ rows, key b ≠ key a) (table : String) :
    t.inserted a table = .ok (t.put a) ∧ (t.put a).rows = rows ++ [a] := by
  have hfree : t.find? (key a) = none :=
    t.find?_eq_none.mpr fun b hb => hnew b (h ▸ hb)
  exact ⟨inserted_of_new hfree table, by rw [t.rows_put hfree, h]⟩

end Table

/-! ### The relation -/

/-- The records of the in-memory repository are those of the PostgreSQL one. -/
structure Mirrored (m : InMemoryRepository β) (p : PostgresRepository β) : Prop where
  trips : m.trips.Mirrors (TenantRow.of fun trip => trip.tenantId) p.trips
  stripped : ∀ trip ∈ m.trips, trip.stripped = trip
  tripSegments : m.tripSegments.Files TripSegmentRow.tripId TripSegmentRow.segment p.tripSegments
  evidence : m.evidence.Files EvidenceRow.tripId EvidenceRow.payload p.evidenceItems
  owned : ∀ row ∈ p.evidenceItems, (m.getTrip row.tenantId row.tripId).isSome
  assessments : m.assessments.Files (fun row => row.payload.tripId) TenantRow.payload p.assessments
  incidents : m.incidents.Mirrors (TenantRow.of Incident.tenantId) p.incidents
  approvals : p.approvals = m.approvals
  events : p.events.rows = m.events
  profiles : p.preferences = m.profiles
  memoryProposals :
    m.memoryProposals.Mirrors (TenantRow.of MemoryUpdateProposal.tenantId) p.memoryProposals
  idempotencyRecords : p.idempotencyRecords.find? = m.idempotencyRecords.find?
  allValid : m.idempotencyRecords.AllValid
  candidateSets : m.candidateSets.Mirrors (fun saved => ⟨saved.1, saved.2⟩) p.candidateSets
  candidateOutcomes :
    m.candidateOutcomes.Mirrors (fun saved => ⟨saved.1, saved.2⟩) p.candidateOutcomes
  managerFeedback : p.managerFeedback = m.managerFeedback
  tenantPlaybooks : p.tenantPlaybooks = m.tenantPlaybooks
  notifications :
    m.notifications.Mirrors (TenantRow.of NotificationRecord.tenantId) p.notifications
  notificationAttempts :
    m.notificationAttempts.Files NotificationAttempt.notificationId (fun a => a)
      p.notificationAttempts
  actionDispatches :
    m.actionDispatches.Mirrors (fun a => ⟨a.tenantId, a.incidentId, a⟩) p.actionDispatches
  actionDispatchAttempts :
    m.actionDispatchAttempts.Files ActionDispatchAttempt.actionDispatchId (fun a => a)
      p.actionDispatchAttempts
  memoryAudits : p.memoryAuditEvents.rows =
    m.memoryAudits.map (fun event => { event with details := redactFields event.details })
  changeRecords : p.changeRecords = m.changeRecords
  providerOnboardingRecords : p.providerOnboardingRecords = m.providerOnboardingRecords
  legalHolds : m.legalHolds.Mirrors (TenantRow.of LegalHoldRecord.tenantId) p.legalHolds
  deletionRequests :
    m.deletionRequests.Mirrors (fun r => ⟨r.tenantId, r.travelerId, r⟩) p.deletionRequests
  runtimeControlOverrides : p.runtimeControlOverrides = m.runtimeControlOverrides
  runtimeControlChanges : p.runtimeControlChanges.rows = m.runtimeControlChanges
  platformControlOverrides : p.platformControlOverrides = m.platformControlOverrides
  platformControlChanges : p.platformControlChanges.rows = m.platformControlChanges
  originalUploads :
    m.originalUploads.Mirrors (TenantRow.of OriginalUploadRecord.tenantId) p.originalUploads

namespace Mirrored

theorem empty : Mirrored ({} : InMemoryRepository β) {} where
  trips := Table.mirrors_empty
  stripped _ h := absurd h (Table.notMem_empty _)
  tripSegments := Table.files_empty
  evidence := Table.files_empty
  owned _ h := absurd h (Table.notMem_empty _)
  assessments := Table.files_empty
  incidents := Table.mirrors_empty
  approvals := rfl
  events := rfl
  profiles := rfl
  memoryProposals := Table.mirrors_empty
  idempotencyRecords := rfl
  allValid := allValid_empty
  candidateSets := Table.mirrors_empty
  candidateOutcomes := Table.mirrors_empty
  managerFeedback := rfl
  tenantPlaybooks := rfl
  notifications := Table.mirrors_empty
  notificationAttempts := Table.files_empty
  actionDispatches := Table.mirrors_empty
  actionDispatchAttempts := Table.files_empty
  memoryAudits := rfl
  changeRecords := rfl
  providerOnboardingRecords := rfl
  legalHolds := Table.mirrors_empty
  deletionRequests := Table.mirrors_empty
  runtimeControlOverrides := rfl
  runtimeControlChanges := rfl
  platformControlOverrides := rfl
  platformControlChanges := rfl
  originalUploads := Table.mirrors_empty

variable {m : InMemoryRepository β} {p : PostgresRepository β}

/-! ### Trips -/

theorem getTrip_eq (h : Mirrored m p) (tenantId : String) (tripId : Uuid) :
    p.getTrip tenantId tripId = m.getTrip tenantId tripId := by
  unfold PostgresRepository.getTrip InMemoryRepository.getTrip
  rw [h.trips.payload?_eq]
  cases hfind : m.trips.find? tripId with
  | none => rfl
  | some trip =>
    rw [Option.filter_some]
    split_ifs
    · exact congrArg some (h.stripped trip (m.trips.find?_eq_some.mp hfind).1)
    · rfl

theorem listTrips_eq (h : Mirrored m p) : p.listTrips = m.listTrips := by
  show p.trips.rows.map (fun row => row.payload.stripped) = m.trips.rows
  rw [h.trips, List.map_map]
  exact (List.map_congr_left fun trip htrip => h.stripped trip htrip).trans (List.map_id' _)

/-- What `_replace_trip_segments` leaves. -/
theorem replaceTripSegments (h : Mirrored m p) {trip : Trip}
    (hsegments : (trip.segments.map FlightSegment.segmentId).Nodup) :
    ∃ p', p.replaceTripSegments trip = .ok p' ∧
      Mirrored { m with tripSegments := m.tripSegments.put ⟨trip.tripId, trip.segments⟩ } p' := by
  set rows := trip.segments.map (fun s => (⟨trip.tripId, trip.tenantId, s⟩ : TripSegmentRow))
    with hrows
  set others := p.tripSegments.filter (fun row => row.tripId ≠ trip.tripId) with hothers
  have hkeys : rows.map (fun row => (row.tripId, row.segment.segmentId)) =
      (trip.segments.map FlightSegment.segmentId).map (fun id => (trip.tripId, id)) := by
    rw [hrows, List.map_map, List.map_map]
    rfl
  have hnodup : ((others.rows ++ rows).map
      (fun row => (row.tripId, row.segment.segmentId))).Nodup := by
    rw [List.map_append, List.nodup_append]
    refine ⟨others.nodup, ?_, ?_⟩
    · rw [hkeys]
      exact hsegments.map fun a b hab => congrArg Prod.snd hab
    · rintro _ hold k hnew rfl
      obtain ⟨row, hrow, rfl⟩ := List.mem_map.mp hold
      obtain ⟨id, -, hid⟩ := List.mem_map.mp (hkeys ▸ hnew)
      have hother : row.tripId ≠ trip.tripId :=
        of_decide_eq_true (List.mem_filter.mp hrow).2
      exact hother (congrArg Prod.fst hid).symm
  obtain ⟨u, hu, -⟩ := others.insertAll_of_nodup hnodup
  refine ⟨{ p with tripSegments := u }, ?_, ?_⟩
  · rw [hothers, hrows] at hu
    simp only [PostgresRepository.replaceTripSegments, hu]
  · have hitems : rows.map TripSegmentRow.segment = trip.segments := by
      rw [hrows, List.map_map]
      exact List.map_id' _
    have hfiled := h.tripSegments.replace (k := trip.tripId)
      (fun row hrow => by
        obtain ⟨s, -, rfl⟩ := List.mem_map.mp hrow
        rfl) (fun _ _ => rfl) hu
    rw [hitems] at hfiled
    exact { h with tripSegments := hfiled }

/-- A trip of no other tenant's, under a key of its own or over itself. -/
theorem putTrip (h : Mirrored m p) {trip : Trip} (hstripped : trip.stripped = trip)
    (hsame : ∀ current ∈ m.trips.find? trip.tripId, current.tenantId = trip.tenantId) :
    Mirrored { m with trips := m.trips.put trip }
      { p with trips := p.trips.put ⟨trip.tenantId, trip⟩ } := by
  have htrips := h.trips.put (fun _ => rfl) trip
  refine { h with trips := htrips, stripped := ?_, owned := ?_ }
  · intro stored hstored
    rcases (m.trips.mem_put trip stored).mp hstored with rfl | ⟨hstored, -⟩
    · exact hstripped
    · exact h.stripped stored hstored
  · intro row hrow
    obtain ⟨current, hcurrent⟩ := Option.isSome_iff_exists.mp (h.owned row hrow)
    obtain ⟨hfind, htenant⟩ := Option.filter_eq_some_iff.mp hcurrent
    show (((m.trips.put trip).find? row.tripId).filter
      (fun stored => stored.tenantId = row.tenantId)).isSome
    rw [Table.find?_put]
    split_ifs with hid
    · rw [hid] at hfind
      have htrip : trip.tenantId = row.tenantId :=
        (hsame current hfind).symm.trans (of_decide_eq_true htenant)
      rw [Option.filter_some, if_pos (decide_eq_true htrip)]
      rfl
    · exact h.owned row hrow

theorem createTrip (h : Mirrored m p) {trip : Trip} (hstripped : trip.stripped = trip)
    (hsegments : (trip.segments.map FlightSegment.segmentId).Nodup)
    (hnew : m.trips.find? trip.tripId = none) :
    ∃ p', p.createTrip trip = .ok p' ∧ Mirrored (m.createTrip trip) p' := by
  have hnew' : p.trips.find? trip.tripId = none := by
    rw [h.trips.find? (fun _ => rfl), hnew]
    rfl
  have hput := h.putTrip hstripped (by rw [hnew]; exact fun _ hnone => by cases hnone)
  obtain ⟨p', hp', hmirrored⟩ := hput.replaceTripSegments hsegments
  refine ⟨p', ?_, hmirrored⟩
  unfold PostgresRepository.createTrip
  rw [Table.inserted_of_new hnew']
  exact hp'

theorem saveTrip (h : Mirrored m p) {trip : Trip} (hstripped : trip.stripped = trip)
    (hsegments : (trip.segments.map FlightSegment.segmentId).Nodup)
    (hsame : ∀ current ∈ m.trips.find? trip.tripId, current.tenantId = trip.tenantId) :
    ∃ p', p.saveTrip trip = .ok p' ∧ Mirrored (m.saveTrip trip) p' :=
  (h.putTrip hstripped hsame).replaceTripSegments hsegments

/-! ### Evidence and assessments -/

/-- The rows of a trip are in the column of the trip's tenant. -/
theorem row_tenant (h : Mirrored m p) {tenantId : String} {tripId : Uuid}
    (htrip : (m.getTrip tenantId tripId).isSome) {row : EvidenceRow} (hrow : row ∈ p.evidenceItems)
    (hid : row.tripId = tripId) : row.tenantId = tenantId := by
  obtain ⟨current, hcurrent⟩ := Option.isSome_iff_exists.mp (h.owned row hrow)
  obtain ⟨trip, hget⟩ := Option.isSome_iff_exists.mp htrip
  rw [hid] at hcurrent
  obtain ⟨hfind, htenant⟩ := Option.filter_eq_some_iff.mp hcurrent
  obtain ⟨hfind', htenant'⟩ := Option.filter_eq_some_iff.mp hget
  cases hfind.symm.trans hfind'
  exact (of_decide_eq_true htenant).symm.trans (of_decide_eq_true htenant')

theorem getEvidence_eq (h : Mirrored m p) (tenantId : String) (tripId : Uuid) :
    p.getEvidence tenantId tripId = m.getEvidence tenantId tripId := by
  unfold PostgresRepository.getEvidence InMemoryRepository.getEvidence
  by_cases htrip : (m.getTrip tenantId tripId).isSome
  · rw [if_neg (by simpa [Option.isSome_iff_ne_none] using htrip), ← h.evidence tripId]
    refine congrArg (List.map EvidenceRow.payload) (List.filter_congr fun row hrow => ?_)
    rw [decide_eq_decide]
    exact and_iff_right_of_imp fun hid => h.row_tenant htrip hrow hid
  · rw [if_pos (by simpa using htrip)]
    refine List.map_eq_nil_iff.mpr (List.filter_eq_nil_iff.mpr fun row hrow hmine => ?_)
    obtain ⟨rfl, rfl⟩ := of_decide_eq_true hmine
    exact htrip (h.owned row hrow)

/-- Items under identifiers that no other trip's evidence has. -/
theorem saveEvidence (h : Mirrored m p) {tenantId : String} {tripId : Uuid}
    {evidence : List EvidenceEnvelope} (htrip : (m.getTrip tenantId tripId).isSome)
    (hids : (evidence.map EvidenceEnvelope.evidenceId).Nodup)
    (hnew : ∀ bucket ∈ m.evidence.rows, bucket.id ≠ tripId → ∀ item ∈ bucket.items,
      item.evidenceId ∉ evidence.map EvidenceEnvelope.evidenceId) :
    ∃ m' p', m.saveEvidence tenantId tripId evidence = .ok m' ∧
      p.saveEvidence tenantId tripId evidence = .ok p' ∧ Mirrored m' p' := by
  set rows := evidence.map (fun item => (⟨tenantId, tripId, item⟩ : EvidenceRow)) with hrows
  set others := p.evidenceItems.filter
    (fun row => ¬(row.tenantId = tenantId ∧ row.tripId = tripId)) with hothers
  have hother : ∀ row ∈ p.evidenceItems,
      decide (¬(row.tenantId = tenantId ∧ row.tripId = tripId)) =
        decide (row.tripId ≠ tripId) := by
    intro row hrow
    rw [decide_eq_decide, not_iff_not]
    exact and_iff_right_of_imp fun hid => h.row_tenant htrip hrow hid
  have hkeys : rows.map (fun row => row.payload.evidenceId) =
      evidence.map EvidenceEnvelope.evidenceId := by
    rw [hrows, List.map_map]
    rfl
  have hnodup : ((others.rows ++ rows).map (fun row => row.payload.evidenceId)).Nodup := by
    rw [List.map_append, List.nodup_append, hkeys]
    refine ⟨others.nodup, hids, ?_⟩
    rintro _ hold k hk rfl
    obtain ⟨row, hrow, rfl⟩ := List.mem_map.mp hold
    obtain ⟨hmem, hout⟩ := List.mem_filter.mp hrow
    obtain ⟨bucket, hbucket, hid, hitem⟩ := h.evidence.mem_items hmem
    rw [hother row hmem] at hout
    exact hnew bucket hbucket (hid ▸ of_decide_eq_true hout) row.payload hitem hk
  obtain ⟨u, hu, -⟩ := others.insertAll_of_nodup hnodup
  refine ⟨_, { p with evidenceItems := u },
    if_neg (by simpa [Option.isSome_iff_ne_none] using htrip), ?_, ?_⟩
  · rw [hothers, hrows] at hu
    simp only [PostgresRepository.saveEvidence, hu]
  · have hfiled := h.evidence.replace (k := tripId)
      (fun row hrow => by
        obtain ⟨item, -, rfl⟩ := List.mem_map.mp hrow
        rfl) hother hu
    have hitems : rows.map EvidenceRow.payload = evidence := by
      rw [hrows, List.map_map]
      exact List.map_id' _
    rw [hitems] at hfiled
    refine { h with evidence := hfiled, owned := ?_ }
    intro row hrow
    rw [Table.mem_def, (Table.insertAll_eq_some.mp hu).2, List.mem_append] at hrow
    rcases hrow with hrow | hrow
    · exact h.owned row (List.mem_filter.mp hrow).1
    · obtain ⟨item, -, rfl⟩ := List.mem_map.mp hrow
      exact htrip

/-- An assessment of a trip of the tenant's, under an identifier of its own. -/
theorem saveAssessment (h : Mirrored m p) {tenantId : String} {assessment : RiskAssessment}
    (htrip : (m.getTrip tenantId assessment.tripId).isSome)
    (hnew : ∀ bucket ∈ m.assessments.rows, ∀ a ∈ bucket.items,
      a.assessmentId ≠ assessment.assessmentId) :
    ∃ m' p', m.saveAssessment tenantId assessment = .ok m' ∧
      p.saveAssessment tenantId assessment = .ok p' ∧ Mirrored m' p' := by
  have hfree : p.assessments.find? assessment.assessmentId = none :=
    h.assessments.find?_eq_none RiskAssessment.assessmentId (fun _ => rfl) hnew
  refine ⟨_, { p with assessments := p.assessments.put ⟨tenantId, assessment⟩ },
    if_neg (by simpa [Option.isSome_iff_ne_none] using htrip), ?_, ?_⟩
  · unfold PostgresRepository.saveAssessment
    rw [Table.inserted_of_new hfree]
    rfl
  · exact { h with assessments := h.assessments.push (b := ⟨tenantId, assessment⟩) hfree }

/-! ### Candidates, events and attempts -/

theorem saveCandidateSet (h : Mirrored m p) {tenantId : String}
    {candidateSet : RecoveryCandidateSet}
    (hnew : m.candidateSets.find? candidateSet.candidateSetId = none) :
    ∃ p', p.saveCandidateSet tenantId candidateSet = .ok p' ∧
      Mirrored (m.saveCandidateSet tenantId candidateSet) p' := by
  have hfree : p.candidateSets.find? candidateSet.candidateSetId = none := by
    rw [h.candidateSets.find? (fun _ => rfl), hnew]
    rfl
  refine ⟨{ p with candidateSets := p.candidateSets.put ⟨tenantId, candidateSet⟩ }, ?_, ?_⟩
  · unfold PostgresRepository.saveCandidateSet
    rw [Table.inserted_of_new hfree]
    rfl
  · have hput := h.candidateSets.put (fun _ => rfl) (tenantId, candidateSet)
    exact { h with candidateSets := hput }

theorem recordCandidateOutcome (h : Mirrored m p) {tenantId : String}
    {outcome : RecoveryCandidateOutcome}
    (hnew : m.candidateOutcomes.find? outcome.outcomeId = none) :
    ∃ p', p.recordCandidateOutcome tenantId outcome = .ok p' ∧
      Mirrored (m.recordCandidateOutcome tenantId outcome) p' := by
  have hfree : p.candidateOutcomes.find? outcome.outcomeId = none := by
    rw [h.candidateOutcomes.find? (fun _ => rfl), hnew]
    rfl
  refine ⟨{ p with candidateOutcomes := p.candidateOutcomes.put ⟨tenantId, outcome⟩ }, ?_, ?_⟩
  · unfold PostgresRepository.recordCandidateOutcome
    rw [Table.inserted_of_new hfree]
    rfl
  · have hput := h.candidateOutcomes.put (fun _ => rfl) (tenantId, outcome)
    exact { h with candidateOutcomes := hput }

theorem getCandidateSet_eq (h : Mirrored m p) (tenantId : String)
    (incidentId candidateSetId : Uuid) :
    p.getCandidateSet tenantId incidentId candidateSetId =
      m.getCandidateSet tenantId incidentId candidateSetId := by
  unfold PostgresRepository.getCandidateSet InMemoryRepository.getCandidateSet Table.payload?
  rw [h.candidateSets.find? fun _ => rfl]
  cases m.candidateSets.find? candidateSetId with
  | none => rfl
  | some saved =>
    by_cases htenant : saved.1 = tenantId <;>
      by_cases hincident : saved.2.incidentId = incidentId <;>
      simp [Option.filter, htenant, hincident]

theorem listCandidateOutcomes_eq (h : Mirrored m p) (tenantId : String) (candidateSetId : Uuid) :
    p.listCandidateOutcomes tenantId candidateSetId =
      m.listCandidateOutcomes tenantId candidateSetId :=
  congrArg (sortedBy RecoveryCandidateOutcome.occurredAt RecoveryCandidateOutcome.outcomeId)
    (h.candidateOutcomes.map_filter (fun _ => rfl) fun _ => rfl)

theorem recordEvent (h : Mirrored m p) {event : EventRecord}
    (hnew : ∀ e ∈ m.events, e.eventId ≠ event.eventId) :
    ∃ p', p.recordEvent event = .ok p' ∧ Mirrored (m.recordEvent event) p' := by
  obtain ⟨hinserted, hrows⟩ := Table.inserted_rows h.events
    (a := { event with details := redactFields event.details }) hnew "audit_events"
  refine ⟨{ p with events := p.events.put { event with details := redactFields event.details } },
    ?_, { h with events := hrows }⟩
  unfold PostgresRepository.recordEvent
  rw [hinserted]
  rfl

/-- PostgreSQL redacts what the in-memory repository keeps as it is. -/
theorem recordMemoryAudit (h : Mirrored m p) {event : MemoryAuditEvent}
    (hnew : ∀ e ∈ m.memoryAudits, e.auditId ≠ event.auditId) :
    ∃ p', p.recordMemoryAudit event = .ok p' ∧ Mirrored (m.recordMemoryAudit event) p' := by
  obtain ⟨hinserted, hrows⟩ := Table.inserted_rows h.memoryAudits
    (a := { event with details := redactFields event.details })
    (List.forall_mem_map.mpr hnew) "memory_audit_events"
  refine ⟨{ p with memoryAuditEvents :=
      p.memoryAuditEvents.put { event with details := redactFields event.details } }, ?_, ?_⟩
  · unfold PostgresRepository.recordMemoryAudit
    rw [hinserted]
    rfl
  · refine { h with memoryAudits := hrows.trans ?_ }
    show _ = (m.memoryAudits ++ [event]).map _
    rw [List.map_append]
    rfl

/-- An attempt identifier that no stored attempt has. -/
theorem actionAttempt_new (h : Mirrored m p) {attemptId : Uuid}
    (hnew : ∀ bucket ∈ m.actionDispatchAttempts.rows, ∀ a ∈ bucket.items,
      a.attemptId ≠ attemptId) : p.actionDispatchAttempts.find? attemptId = none :=
  h.actionDispatchAttempts.find?_eq_none ActionDispatchAttempt.attemptId (fun _ => rfl) hnew

theorem notificationAttempt_new (h : Mirrored m p) {attemptId : Uuid}
    (hnew : ∀ bucket ∈ m.notificationAttempts.rows, ∀ a ∈ bucket.items,
      a.attemptId ≠ attemptId) : p.notificationAttempts.find? attemptId = none :=
  h.notificationAttempts.find?_eq_none NotificationAttempt.attemptId (fun _ => rfl) hnew

theorem recordActionDispatchAttempt (h : Mirrored m p) {attempt : ActionDispatchAttempt}
    (hnew : ∀ bucket ∈ m.actionDispatchAttempts.rows, ∀ a ∈ bucket.items,
      a.attemptId ≠ attempt.attemptId) :
    ∃ p', p.recordActionDispatchAttempt attempt = .ok p' ∧
      Mirrored (m.recordActionDispatchAttempt attempt) p' := by
  have hfree := h.actionAttempt_new hnew
  refine ⟨{ p with actionDispatchAttempts := p.actionDispatchAttempts.put attempt }, ?_,
    { h with actionDispatchAttempts := h.actionDispatchAttempts.push hfree }⟩
  unfold PostgresRepository.recordActionDispatchAttempt
  rw [Table.inserted_of_new hfree]
  rfl

theorem recordNotificationAttempt (h : Mirrored m p) {attempt : NotificationAttempt}
    (hnew : ∀ bucket ∈ m.notificationAttempts.rows, ∀ a ∈ bucket.items,
      a.attemptId ≠ attempt.attemptId) :
    ∃ p', p.recordNotificationAttempt attempt = .ok p' ∧
      Mirrored (m.recordNotificationAttempt attempt) p' := by
  have hfree := h.notificationAttempt_new hnew
  refine ⟨{ p with notificationAttempts := p.notificationAttempts.put attempt }, ?_,
    { h with notificationAttempts := h.notificationAttempts.push hfree }⟩
  unfold PostgresRepository.recordNotificationAttempt
  rw [Table.inserted_of_new hfree]
  rfl

/-! ### Outboxes -/

/-- A dispatch under an identifier of its own, or over one of its tenant and incident. -/
theorem putActionDispatch (h : Mirrored m p) {action : ActionDispatchRecord}
    (hsame : ∀ current ∈ m.actionDispatches.find? action.actionDispatchId,
      current.tenantId = action.tenantId ∧ current.incidentId = action.incidentId) :
    Mirrored (m.saveActionDispatch action) (p.saveActionDispatch action) := by
  have hcolumns : ((p.actionDispatches.find? action.actionDispatchId).map
      (fun row => (row.tenantId, row.incidentId))).getD (action.tenantId, action.incidentId) =
      (action.tenantId, action.incidentId) := by
    rw [h.actionDispatches.find? fun _ => rfl]
    cases hfind : m.actionDispatches.find? action.actionDispatchId with
    | none => rfl
    | some current => exact Prod.ext (hsame current hfind).1 (hsame current hfind).2
  have hput := h.actionDispatches.put (fun _ => rfl) action
  unfold PostgresRepository.saveActionDispatch
  rw [hcolumns]
  exact { h with actionDispatches := hput }

theorem claimDueActionDispatches (h : Mirrored m p) {request : LeaseRequest} (now : Time)
    (fresh : ℕ → Uuid)
    (hlimit : (m.actionDispatches.rows.filter (fun action =>
      request.admits action.tenantId && action.waiting)).length ≤ request.limit) :
    (p.claimDueActionDispatches request now fresh).1 =
        (m.claimDueActionDispatches request now fresh).1 ∧
      Mirrored (m.claimDueActionDispatches request now fresh).2
        (p.claimDueActionDispatches request now fresh).2 := by
  have hclaimed := h.actionDispatches.take_filter_zipIdx
    (fun row => request.admits row.tenantId && row.payload.waiting)
    (fun row => row.payload.leasable now)
    (fun due => due.1.leased (request.claim now (fresh due.2)))
    (fun due => { due.1 with payload := due.1.payload.leased (request.claim now (fresh due.2)) })
    (fun _ => rfl) (fun _ => rfl) hlimit (fun _ _ => rfl)
  refine ⟨(congrArg (List.map ActionDispatchRow.payload) hclaimed).trans ?_, ?_⟩
  · rw [List.map_map]
    exact List.map_id' _
  · have hput := h.actionDispatches.foldl_put (fun _ => rfl) hclaimed
    exact { h with actionDispatches := hput }

theorem claimDueNotifications (h : Mirrored m p) {request : LeaseRequest} (now : Time)
    (fresh : ℕ → Uuid)
    (hlimit : (m.notifications.rows.filter (fun notification =>
      request.admits notification.tenantId && notification.waiting)).length ≤ request.limit) :
    (p.claimDueNotifications request now fresh).1 =
        (m.claimDueNotifications request now fresh).1 ∧
      Mirrored (m.claimDueNotifications request now fresh).2
        (p.claimDueNotifications request now fresh).2 := by
  have hclaimed := h.notifications.take_filter_zipIdx
    (fun row => request.admits row.tenantId && row.payload.waiting)
    (fun row => row.payload.leasable now)
    (fun due => due.1.leased (request.claim now (fresh due.2)))
    (fun due => { due.1 with payload := due.1.payload.leased (request.claim now (fresh due.2)) })
    (fun _ => rfl) (fun _ => rfl) hlimit (fun _ _ => rfl)
  refine ⟨(congrArg (List.map TenantRow.payload) hclaimed).trans ?_, ?_⟩
  · rw [List.map_map]
    exact List.map_id' _
  · have hput := h.notifications.foldl_put (fun _ => rfl) hclaimed
    exact { h with notifications := hput }

/-- A completion under the lease of the stored record, for its tenant and incident and with an
attempt of its own. -/
theorem completeActionDispatch (h : Mirrored m p) {action : ActionDispatchRecord}
    {attempt : ActionDispatchAttempt} {claimId : Uuid}
    (hfits : ∀ current ∈ m.actionDispatches.find? action.actionDispatchId,
      current.dispatchClaim.map DispatchClaim.claimId = some claimId →
        current.tenantId = action.tenantId ∧ current.incidentId = action.incidentId ∧
          ∀ bucket ∈ m.actionDispatchAttempts.rows, ∀ a ∈ bucket.items,
            a.attemptId ≠ attempt.attemptId) :
    (p.completeActionDispatch action attempt claimId).1 =
        .ok (m.completeActionDispatch action attempt claimId).1 ∧
      Mirrored (m.completeActionDispatch action attempt claimId).2
        (p.completeActionDispatch action attempt claimId).2 := by
  unfold PostgresRepository.completeActionDispatch InMemoryRepository.completeActionDispatch
  rw [h.actionDispatches.find? fun _ => rfl]
  cases hfind : m.actionDispatches.find? action.actionDispatchId with
  | none => exact ⟨rfl, h⟩
  | some current =>
    simp only [Option.map_some]
    split_ifs with hclaim
    · obtain ⟨htenant, hincident, hnew⟩ := hfits current hfind hclaim
      rw [Table.insert_eq_some.mpr ⟨h.actionAttempt_new hnew, rfl⟩, htenant, hincident]
      have hput := h.actionDispatches.put (fun _ => rfl) action.released
      have hpush := h.actionDispatchAttempts.push (h.actionAttempt_new hnew)
      exact ⟨rfl, { h with actionDispatches := hput, actionDispatchAttempts := hpush }⟩
    · exact ⟨rfl, h⟩

theorem completeNotificationDelivery (h : Mirrored m p) {notification : NotificationRecord}
    {attempt : NotificationAttempt} {claimId : Uuid}
    (hfits : ∀ current ∈ m.notifications.find? notification.notificationId,
      current.dispatchClaim.map DispatchClaim.claimId = some claimId →
        current.tenantId = notification.tenantId ∧
          ∀ bucket ∈ m.notificationAttempts.rows, ∀ a ∈ bucket.items,
            a.attemptId ≠ attempt.attemptId) :
    (p.completeNotificationDelivery notification attempt claimId).1 =
        .ok (m.completeNotificationDelivery notification attempt claimId).1 ∧
      Mirrored (m.completeNotificationDelivery notification attempt claimId).2
        (p.completeNotificationDelivery notification attempt claimId).2 := by
  unfold PostgresRepository.completeNotificationDelivery
    InMemoryRepository.completeNotificationDelivery
  rw [h.notifications.find? fun _ => rfl]
  cases hfind : m.notifications.find? notification.notificationId with
  | none => exact ⟨rfl, h⟩
  | some current =>
    simp only [Option.map_some, TenantRow.of]
    split_ifs with hclaim
    · obtain ⟨htenant, hnew⟩ := hfits current hfind hclaim
      rw [Table.insert_eq_some.mpr ⟨h.notificationAttempt_new hnew, rfl⟩, htenant]
      have hput := h.notifications.put (fun _ => rfl) notification.released
      have hpush := h.notificationAttempts.push (h.notificationAttempt_new hnew)
      exact ⟨rfl, { h with notifications := hput, notificationAttempts := hpush }⟩
    · exact ⟨rfl, h⟩

/-! ### Idempotency -/

theorem claimIdempotency (h : Mirrored m p) {claim : Claim} (now : Time)
    (hclaim : (claim.record 0 : IdempotencyRecord β).Valid) :
    (p.claimIdempotency claim now).1 = (m.claimIdempotency claim now).1 ∧
      Mirrored (m.claimIdempotency claim now).2 (p.claimIdempotency claim now).2 := by
  have hvalid : (claim.record now : IdempotencyRecord β).Valid := Claim.valid_record hclaim
  have hall : p.idempotencyRecords.AllValid := by
    rw [IdempotencyRecords.allValid_iff, h.idempotencyRecords]
    exact (IdempotencyRecords.allValid_iff _).mp h.allValid
  obtain ⟨hanswer, hfind⟩ := Memory.claimIdempotency_valid m.idempotencyRecords claim now hvalid
  obtain ⟨hanswer', hfind'⟩ :=
    Postgres.claimIdempotency_valid p.idempotencyRecords claim now hvalid hall
  rw [h.idempotencyRecords] at hanswer' hfind'
  have hkept : IdempotencyRecords.AllValid
      (Memory.claimIdempotency m.idempotencyRecords claim now).2 := by
    rw [IdempotencyRecords.allValid_iff, hfind]
    exact IdempotencyLedger.step_valid ((IdempotencyRecords.allValid_iff _).mp h.allValid) now
      (show (IdempotencyCall.claim claim : IdempotencyCall β).Valid from hclaim)
  have hlookups := hfind'.trans hfind.symm
  exact ⟨hanswer'.trans hanswer.symm,
    { h with idempotencyRecords := hlookups, allValid := hkept }⟩

/-- A completion of a record of its own request. -/
theorem completeIdempotency (h : Mirrored m p) {completion : Completion β} (now : Time)
    (hstatus : 100 ≤ completion.responseStatusCode ∧ completion.responseStatusCode ≤ 599)
    (hhash : ∀ record ∈ m.idempotencyRecords.find? completion.key,
      record.requestHash = completion.requestHash) :
    (p.completeIdempotency completion now).1 = (m.completeIdempotency completion now).1 ∧
      Mirrored (m.completeIdempotency completion now).2
        (p.completeIdempotency completion now).2 := by
  have hvalid := (IdempotencyRecords.allValid_iff m.idempotencyRecords).mp h.allValid
  have hall : p.idempotencyRecords.AllValid := by
    rw [IdempotencyRecords.allValid_iff, h.idempotencyRecords]
    exact hvalid
  have hfind := (completeIdempotency_valid .memory m.idempotencyRecords completion now
    h.allValid).2
  have hfind' := (completeIdempotency_valid .postgres p.idempotencyRecords completion now hall).2
  rw [h.idempotencyRecords] at hfind'
  have hkept : IdempotencyRecords.AllValid
      (Memory.completeIdempotency m.idempotencyRecords completion now).2 := by
    rw [IdempotencyRecords.allValid_iff]
    refine fun key record hrecord => ?_
    have hrecord' := (congrFun hfind key).symm.trans hrecord
    exact IdempotencyLedger.step_valid hvalid now
      (show (IdempotencyCall.complete completion).Valid from hstatus) key record hrecord'
  have hlookups := hfind'.trans hfind.symm
  refine ⟨?_, { h with idempotencyRecords := hlookups, allValid := hkept }⟩
  show (Postgres.completeIdempotency p.idempotencyRecords completion now).1 =
    (Memory.completeIdempotency m.idempotencyRecords completion now).1
  unfold Postgres.completeIdempotency Memory.completeIdempotency
  rw [h.idempotencyRecords]
  cases hrecord : m.idempotencyRecords.find? completion.key with
  | none => rfl
  | some record =>
    simp only
    rw [if_pos (hvalid _ record hrecord), if_neg (not_not.mpr (hhash record hrecord)),
      if_neg (not_not.mpr (hhash record hrecord))]

/-! ### Traveler memory -/

theorem deleteTravelerMemory (h : Mirrored m p) (tenantId travelerId : String) :
    (p.deleteTravelerMemory tenantId travelerId).1 =
        (m.deleteTravelerMemory tenantId travelerId).1 ∧
      Mirrored (m.deleteTravelerMemory tenantId travelerId).2
        (p.deleteTravelerMemory tenantId travelerId).2 := by
  have hmine := h.memoryProposals.rows_filter
    (q := fun row => row.tenantId = tenantId ∧ row.payload.travelerId = travelerId)
    (p := fun a => a.tenantId = tenantId ∧ a.travelerId = travelerId) fun _ => rfl
  have hkept := h.memoryProposals.filter
    (q := fun row => !decide (row.tenantId = tenantId ∧ row.payload.travelerId = travelerId))
    (p := fun a => !decide (a.tenantId = tenantId ∧ a.travelerId = travelerId)) fun _ => rfl
  have hprofiles := congrArg (Table.erase · (tenantId, travelerId)) h.profiles
  refine ⟨?_, { h with profiles := hprofiles, memoryProposals := hkept }⟩
  show (((p.preferences.find? (tenantId, travelerId)).isSome.toNat, _) : ℕ × ℕ) = (_, _)
  rw [h.profiles, hmine, List.length_map]

theorem getPlaybook_eq (h : Mirrored m p) (tenantId : String) (playbookId : Uuid) :
    p.getPlaybook tenantId playbookId = m.getPlaybook tenantId playbookId := by
  unfold PostgresRepository.getPlaybook InMemoryRepository.getPlaybook
  rw [h.tenantPlaybooks]

theorem listApprovedPlaybooks_eq (h : Mirrored m p) (tenantId : String) :
    p.listApprovedPlaybooks tenantId = m.listApprovedPlaybooks tenantId := by
  unfold PostgresRepository.listApprovedPlaybooks PostgresRepository.playbooksOf
  rw [h.tenantPlaybooks]
  rfl

theorem savePlaybook (h : Mirrored m p) (playbook : TenantPlaybook) :
    (p.savePlaybook playbook).1 = (m.savePlaybook playbook).1 ∧
      Mirrored (m.savePlaybook playbook).2 (p.savePlaybook playbook).2 := by
  unfold PostgresRepository.savePlaybook InMemoryRepository.savePlaybook
  rw [h.tenantPlaybooks]
  cases m.tenantPlaybooks.find? playbook.playbookId with
  | some existing => exact ⟨rfl, h⟩
  | none => exact ⟨rfl, { h with tenantPlaybooks := rfl }⟩

/-- An erasure of nothing but traveler memory. -/
theorem erasePreferenceMemory (h : Mirrored m p) {tenantId travelerId : String}
    {scope : DeletionRequestScope} (hscope : scope = .preferenceMemory) :
    (p.eraseTravelerData tenantId travelerId scope).1 =
        (m.eraseTravelerData tenantId travelerId scope).1 ∧
      Mirrored (m.eraseTravelerData tenantId travelerId scope).2
        (p.eraseTravelerData tenantId travelerId scope).2 := by
  obtain ⟨hcounts, hmirrored⟩ := h.deleteTravelerMemory tenantId travelerId
  subst hscope
  refine ⟨?_, hmirrored⟩
  show [("profiles", (p.deleteTravelerMemory tenantId travelerId).1.1),
    ("memory_proposals", (p.deleteTravelerMemory tenantId travelerId).1.2)] = _
  rw [hcounts]
  rfl

/-! ### Histories -/

theorem saveManagerFeedback (h : Mirrored m p) {feedback : ManagerFeedback}
    (hnew : m.managerFeedback.find? feedback.feedbackId = none) :
    ∃ p', p.saveManagerFeedback feedback = .ok p' ∧
      Mirrored (m.saveManagerFeedback feedback) p' := by
  have hput := congrArg (Table.put · feedback) h.managerFeedback
  refine ⟨{ p with managerFeedback := p.managerFeedback.put feedback }, ?_,
    { h with managerFeedback := hput }⟩
  unfold PostgresRepository.saveManagerFeedback
  rw [Table.inserted_of_new (h.managerFeedback ▸ hnew)]
  rfl

theorem saveChangeRecord (h : Mirrored m p) {record : ChangeRecord}
    (hnew : m.changeRecords.find? record.changeId = none) :
    ∃ p', p.saveChangeRecord record = .ok p' ∧ Mirrored (m.saveChangeRecord record) p' := by
  have hput := congrArg (Table.put · record) h.changeRecords
  refine ⟨{ p with changeRecords := p.changeRecords.put record }, ?_,
    { h with changeRecords := hput }⟩
  unfold PostgresRepository.saveChangeRecord
  rw [Table.inserted_of_new (h.changeRecords ▸ hnew)]
  rfl

theorem saveProviderOnboarding (h : Mirrored m p) {record : ProviderOnboardingRecord}
    (hnew : m.providerOnboardingRecords.find? record.providerOnboardingId = none) :
    ∃ p', p.saveProviderOnboarding record = .ok p' ∧
      Mirrored (m.saveProviderOnboarding record) p' := by
  have hput := congrArg (Table.put · record) h.providerOnboardingRecords
  refine ⟨{ p with providerOnboardingRecords := p.providerOnboardingRecords.put record }, ?_,
    { h with providerOnboardingRecords := hput }⟩
  unfold PostgresRepository.saveProviderOnboarding
  rw [Table.inserted_of_new (h.providerOnboardingRecords ▸ hnew)]
  rfl

theorem saveRuntimeControlChange (h : Mirrored m p) {record : RuntimeControlChange}
    (hnew : ∀ r ∈ m.runtimeControlChanges, r.controlChangeId ≠ record.controlChangeId) :
    ∃ p', p.saveRuntimeControlChange record = .ok p' ∧
      Mirrored (m.saveRuntimeControlChange record) p' := by
  obtain ⟨hinserted, hrows⟩ :=
    Table.inserted_rows h.runtimeControlChanges hnew "runtime_control_changes"
  have hput := congrArg (Table.put · record) h.runtimeControlOverrides
  refine ⟨{ p with
      runtimeControlChanges := p.runtimeControlChanges.put record
      runtimeControlOverrides := p.runtimeControlOverrides.put record }, ?_,
    { h with runtimeControlChanges := hrows, runtimeControlOverrides := hput }⟩
  unfold PostgresRepository.saveRuntimeControlChange
  rw [hinserted]
  rfl

theorem savePlatformControlChange (h : Mirrored m p) {record : PlatformRuntimeControlChange}
    (hnew : ∀ r ∈ m.platformControlChanges, r.controlChangeId ≠ record.controlChangeId) :
    ∃ p', p.savePlatformControlChange record = .ok p' ∧
      Mirrored (m.savePlatformControlChange record) p' := by
  obtain ⟨hinserted, hrows⟩ :=
    Table.inserted_rows h.platformControlChanges hnew "platform_runtime_control_changes"
  have hput := congrArg (Table.put · record) h.platformControlOverrides
  refine ⟨{ p with
      platformControlChanges := p.platformControlChanges.put record
      platformControlOverrides := p.platformControlOverrides.put record }, ?_,
    { h with platformControlChanges := hrows, platformControlOverrides := hput }⟩
  unfold PostgresRepository.savePlatformControlChange
  rw [hinserted]
  rfl

theorem getRuntimeControlOverride_eq (h : Mirrored m p) (tenantId : String)
    (controlName : RuntimeControlName) (now : Time) :
    p.getRuntimeControlOverride tenantId controlName now =
      m.getRuntimeControlOverride tenantId controlName now := by
  unfold PostgresRepository.getRuntimeControlOverride InMemoryRepository.getRuntimeControlOverride
  rw [h.runtimeControlOverrides]

theorem getPlatformControlOverride_eq (h : Mirrored m p) (controlName : RuntimeControlName)
    (now : Time) :
    p.getPlatformControlOverride controlName now =
      m.getPlatformControlOverride controlName now := by
  unfold PostgresRepository.getPlatformControlOverride
    InMemoryRepository.getPlatformControlOverride
  rw [h.platformControlOverrides]

/-! ### Holds and erasure requests -/

/-- A request under an identifier of its own, or over one of its tenant and traveler. -/
theorem saveDeletionRequest (h : Mirrored m p) {request : DeletionRequest}
    (hsame : ∀ current ∈ m.deletionRequests.find? request.deletionRequestId,
      current.tenantId = request.tenantId ∧ current.travelerId = request.travelerId) :
    Mirrored (m.saveDeletionRequest request) (p.saveDeletionRequest request) := by
  have hcolumns : ((p.deletionRequests.find? request.deletionRequestId).map
      (fun row => (row.tenantId, row.travelerId))).getD (request.tenantId, request.travelerId) =
      (request.tenantId, request.travelerId) := by
    rw [h.deletionRequests.find? fun _ => rfl]
    cases hfind : m.deletionRequests.find? request.deletionRequestId with
    | none => rfl
    | some current => exact Prod.ext (hsame current hfind).1 (hsame current hfind).2
  have hput := h.deletionRequests.put (fun _ => rfl) request
  unfold PostgresRepository.saveDeletionRequest
  rw [hcolumns]
  exact { h with deletionRequests := hput }

/-- Where the times of a tenant's holds ascend with their identifiers. -/
theorem activeLegalHoldsForTraveler_eq (h : Mirrored m p) {tenantId : String}
    (htimes : ∀ a ∈ m.legalHolds.rows.filter (fun hold => hold.tenantId = tenantId),
      ∀ b ∈ m.legalHolds.rows.filter (fun hold => hold.tenantId = tenantId),
        a.legalHoldId.str ≤ b.legalHoldId.str → a.createdAt ≤ b.createdAt)
    (travelerId : String) (now : Time) :
    p.activeLegalHoldsForTraveler tenantId travelerId now =
      m.activeLegalHoldsForTraveler tenantId travelerId now := by
  have hrows : (p.legalHolds.rows.filter (fun row => row.tenantId = tenantId)).map
      TenantRow.payload = m.legalHolds.rows.filter (fun hold => hold.tenantId = tenantId) :=
    (h.legalHolds.map_filter (fun _ => rfl) (fun _ => rfl)).trans (List.map_id' _)
  have hnodup : ((m.legalHolds.filter (fun hold => hold.tenantId = tenantId)).rows.map
    LegalHoldRecord.legalHoldId).Nodup := Table.nodup _
  have hlist : p.listLegalHolds tenantId = m.listLegalHolds tenantId := by
    show orderedBy LegalHoldRecord.legalHoldId (List.map TenantRow.payload _) = _
    rw [hrows]
    exact (orderedBy_eq_sortedBy_iff hnodup hnodup).mpr ⟨fun _ => Iff.rfl, htimes⟩
  unfold PostgresRepository.activeLegalHoldsForTraveler
    InMemoryRepository.activeLegalHoldsForTraveler
  rw [hlist, h.listTrips_eq]
  rfl

theorem listPendingDeletionRequests_eq (h : Mirrored m p)
    (htimes : ∀ a ∈ m.deletionRequests.rows.filter DeletionRequest.pending,
      ∀ b ∈ m.deletionRequests.rows.filter DeletionRequest.pending,
        a.deletionRequestId.str ≤ b.deletionRequestId.str → a.submittedAt ≤ b.submittedAt) :
    p.listPendingDeletionRequests = m.listPendingDeletionRequests := by
  have hrows : (p.deletionRequests.rows.filter (fun row => row.payload.pending)).map
      DeletionRequestRow.payload = m.deletionRequests.rows.filter DeletionRequest.pending :=
    (h.deletionRequests.map_filter (fun _ => rfl) (fun _ => rfl)).trans (List.map_id' _)
  have hnodup : ((m.deletionRequests.filter DeletionRequest.pending).rows.map
    DeletionRequest.deletionRequestId).Nodup := Table.nodup _
  show orderedBy DeletionRequest.deletionRequestId (List.map DeletionRequestRow.payload _) = _
  rw [hrows]
  exact (orderedBy_eq_sortedBy_iff hnodup hnodup).mpr ⟨fun _ => Iff.rfl, htimes⟩

end Mirrored

end RouteShield
