import RouteShield.Store.Erase
import RouteShield.Store.Purge

/-!
What the records of both repositories refer to, and what deletions leave of it. A repository is
intact when every list and every record belongs to a trip, an incident, a notification or an action
that is stored.
-/

namespace RouteShield

variable {β : Type}

namespace InMemoryRepository

/-- Every record belongs to one that is stored. -/
structure Intact (repo : InMemoryRepository β) : Prop where
  tripSegments : repo.tripSegments.Refers Bucket.id repo.trips
  evidence : repo.evidence.Refers Bucket.id repo.trips
  assessments : repo.assessments.Refers Bucket.id repo.trips
  incidents : repo.incidents.Refers Incident.tripId repo.trips
  approvals : repo.approvals.Refers ApprovalRecord.incidentId repo.incidents
  candidateSets : repo.candidateSets.Refers (fun s => s.2.incidentId) repo.incidents
  candidateOutcomes : repo.candidateOutcomes.Refers (fun o => o.2.incidentId) repo.incidents
  managerFeedback : repo.managerFeedback.Refers ManagerFeedback.incidentId repo.incidents
  actionDispatches : repo.actionDispatches.Refers ActionDispatchRecord.incidentId repo.incidents
  notificationAttempts : repo.notificationAttempts.Refers Bucket.id repo.notifications
  actionDispatchAttempts : repo.actionDispatchAttempts.Refers Bucket.id repo.actionDispatches

variable {repo : InMemoryRepository β} {tenantId travelerId : String}

theorem mem_travelerIncidentIds {incident : Incident} (h : incident ∈ repo.incidents) :
    incident.incidentId ∈ repo.travelerIncidentIds tenantId travelerId ↔
      incident.tenantId = tenantId ∧ incident.tripId ∈ repo.travelerTripIds tenantId travelerId :=
  (repo.incidents.key_mem_filter h _).trans decide_eq_true_iff

/-- The operational part of an erasure leaves no orphans where no other tenant has an incident on
the traveler's trips. -/
theorem Intact.eraseOperationalData_iff (h : repo.Intact) :
    (repo.eraseOperationalData tenantId travelerId).Intact ↔ ∀ incident ∈ repo.incidents,
      incident.tripId ∈ repo.travelerTripIds tenantId travelerId → incident.tenantId = tenantId := by
  have hincidents : (repo.eraseOperationalData tenantId travelerId).incidents.Refers
      Incident.tripId (repo.eraseOperationalData tenantId travelerId).trips ↔
      ∀ incident ∈ repo.incidents,
        incident.tripId ∈ repo.travelerTripIds tenantId travelerId →
          incident.tenantId = tenantId := by
    refine (Table.refers_filter_iff (h.incidents.filter_left _) _).trans
      ⟨fun hout incident hmem hon => ?_, fun hsame incident hmem hon => ?_⟩
    · by_contra hother
      refine hout incident ((Table.mem_filter _ _ _).mpr ⟨hmem, decide_eq_true ?_⟩) hon
      exact fun hin => hother ((mem_travelerIncidentIds hmem).mp hin).1
    · obtain ⟨hmem, hkept⟩ := (Table.mem_filter _ _ _).mp hmem
      exact of_decide_eq_true hkept
        ((mem_travelerIncidentIds hmem).mpr ⟨hsame incident hmem hon, hon⟩)
  refine ⟨fun hintact => hincidents.mp hintact.incidents, fun hsame => ?_⟩
  exact
    { tripSegments := h.tripSegments.drop _
      evidence := h.evidence.drop _
      assessments := h.assessments.drop _
      incidents := hincidents.mpr hsame
      approvals := h.approvals.drop _
      candidateSets := h.candidateSets.drop _
      candidateOutcomes := h.candidateOutcomes.drop _
      managerFeedback := h.managerFeedback.drop _
      actionDispatches := h.actionDispatches.drop _
      notificationAttempts := Table.refers_of_isSome
      actionDispatchAttempts := Table.refers_of_isSome }

/-- Erasing traveler memory touches none of these records. -/
theorem Intact.deleteTravelerMemory (h : repo.Intact) :
    (repo.deleteTravelerMemory tenantId travelerId).2.Intact :=
  ⟨h.1, h.2, h.3, h.4, h.5, h.6, h.7, h.8, h.9, h.10, h.11⟩

theorem Intact.eraseTravelerData_iff (h : repo.Intact) (scope : DeletionRequestScope) :
    (repo.eraseTravelerData tenantId travelerId scope).2.Intact ↔ scope = .preferenceMemory ∨
      ∀ incident ∈ repo.incidents, incident.tripId ∈ repo.travelerTripIds tenantId travelerId →
        incident.tenantId = tenantId := by
  have hmemory : (repo.deleteTravelerMemory tenantId travelerId).2.Intact :=
    h.deleteTravelerMemory
  unfold eraseTravelerData
  by_cases hscope : scope = .preferenceMemory
  · simp only [hscope, if_true, true_or, iff_true]
    exact hmemory
  · simp only [hscope, if_false, false_or]
    exact hmemory.eraseOperationalData_iff

/-- A purge leaves no orphans where no expired trip has a segment list: it drops every list and
record of the trip but that one. -/
theorem Intact.purgeExpired_iff (h : repo.Intact) (now : Time) (cutoffs : Cutoffs) :
    (repo.purgeExpired now cutoffs).2.Intact ↔
      ∀ b ∈ repo.tripSegments, ¬repo.archive.OnExpiredTrip (repo.active now) cutoffs b.id := by
  have hsegments : (repo.purgeExpired now cutoffs).2.tripSegments.Refers Bucket.id
      (repo.purgeExpired now cutoffs).2.trips ↔
      ∀ b ∈ repo.tripSegments, ¬repo.archive.OnExpiredTrip (repo.active now) cutoffs b.id :=
    (Table.refers_filter_iff h.tripSegments _).trans
      (forall₂_congr fun _ _ => not_congr mem_expiredTripIds)
  refine ⟨fun hintact => hsegments.mp hintact.tripSegments, fun hnone => ?_⟩
  have hincidents : (repo.purgeExpired now cutoffs).2.incidents.Refers Incident.tripId
      (repo.purgeExpired now cutoffs).2.trips := by
    refine (Table.refers_filter_iff (h.incidents.filter_left _) _).mpr fun incident hmem hon => ?_
    obtain ⟨hmem, hkept⟩ := (Table.mem_filter _ _ _).mp hmem
    exact of_decide_eq_true hkept
      ((repo.incidents.key_mem_filter hmem _).mpr (decide_eq_true hon))
  exact
    { tripSegments := hsegments.mpr hnone
      evidence := h.evidence.drop _
      assessments := h.assessments.drop _
      incidents := hincidents
      approvals := h.approvals.drop _
      candidateSets := h.candidateSets.drop _
      candidateOutcomes := h.candidateOutcomes.drop _
      managerFeedback := h.managerFeedback.drop _
      actionDispatches := h.actionDispatches.drop _
      notificationAttempts := h.notificationAttempts.drop _
      actionDispatchAttempts := Table.refers_of_isSome }

end InMemoryRepository

namespace PostgresRepository

/-- Every row belongs to one that is stored. -/
structure Intact (repo : PostgresRepository β) : Prop where
  tripSegments : repo.tripSegments.Refers TripSegmentRow.tripId repo.trips
  evidenceItems : repo.evidenceItems.Refers EvidenceRow.tripId repo.trips
  assessments : repo.assessments.Refers (fun row => row.payload.tripId) repo.trips
  incidents : repo.incidents.Refers (fun row => row.payload.tripId) repo.trips
  approvals : repo.approvals.Refers ApprovalRecord.incidentId repo.incidents
  candidateSets : repo.candidateSets.Refers (fun row => row.payload.incidentId) repo.incidents
  candidateOutcomes :
    repo.candidateOutcomes.Refers (fun row => row.payload.incidentId) repo.incidents
  managerFeedback : repo.managerFeedback.Refers ManagerFeedback.incidentId repo.incidents
  actionDispatches : repo.actionDispatches.Refers ActionDispatchRow.incidentId repo.incidents
  notificationAttempts :
    repo.notificationAttempts.Refers NotificationAttempt.notificationId repo.notifications
  actionDispatchAttempts : repo.actionDispatchAttempts.Refers
    ActionDispatchAttempt.actionDispatchId repo.actionDispatches

variable {repo : PostgresRepository β} {tenantId travelerId : String}

theorem mem_travelerIncidentIds {row : TenantRow Incident} (h : row ∈ repo.incidents) :
    row.payload.incidentId ∈ repo.travelerIncidentIds tenantId travelerId ↔
      row.payload.tenantId = tenantId ∧
        row.payload.tripId ∈ repo.travelerTripIds tenantId travelerId :=
  (repo.incidents.key_mem_filter h _).trans decide_eq_true_iff

/-- The actions on some incidents, by their identifiers or by their incidents. -/
theorem actionDispatches_filter_incidents (incidentIds : List Uuid) :
    repo.actionDispatches.filter (fun row => row.incidentId ∉ incidentIds) =
      repo.actionDispatches.filter
        (fun row => row.payload.actionDispatchId ∉ repo.actionIdsOf incidentIds) := by
  refine Table.ext (List.filter_congr fun row hrow => decide_eq_decide.mpr (not_congr ?_))
  exact ((repo.actionDispatches.key_mem_filter hrow _).trans decide_eq_true_iff).symm

theorem Intact.eraseOperationalData_iff (h : repo.Intact) :
    (repo.eraseOperationalData tenantId travelerId).Intact ↔ ∀ row ∈ repo.incidents,
      row.payload.tripId ∈ repo.travelerTripIds tenantId travelerId →
        row.payload.tenantId = tenantId := by
  have hincidents : (repo.eraseOperationalData tenantId travelerId).incidents.Refers
      (fun row => row.payload.tripId) (repo.eraseOperationalData tenantId travelerId).trips ↔
      ∀ row ∈ repo.incidents, row.payload.tripId ∈ repo.travelerTripIds tenantId travelerId →
        row.payload.tenantId = tenantId := by
    refine (Table.refers_filter_iff (h.incidents.filter_left _) _).trans
      ⟨fun hout row hmem hon => ?_, fun hsame row hmem hon => ?_⟩
    · by_contra hother
      refine hout row ((Table.mem_filter _ _ _).mpr ⟨hmem, decide_eq_true ?_⟩) hon
      exact fun hin => hother ((mem_travelerIncidentIds hmem).mp hin).1
    · obtain ⟨hmem, hkept⟩ := (Table.mem_filter _ _ _).mp hmem
      exact of_decide_eq_true hkept ((mem_travelerIncidentIds hmem).mpr ⟨hsame row hmem hon, hon⟩)
  have hattempts : (repo.eraseOperationalData tenantId travelerId).actionDispatchAttempts.Refers
      ActionDispatchAttempt.actionDispatchId
      (repo.eraseOperationalData tenantId travelerId).actionDispatches := by
    have hdrop := h.actionDispatchAttempts.drop
      (repo.actionIdsOf (repo.travelerIncidentIds tenantId travelerId))
    rw [← actionDispatches_filter_incidents] at hdrop
    exact hdrop
  refine ⟨fun hintact => hincidents.mp hintact.incidents, fun hsame => ?_⟩
  exact
    { tripSegments := h.tripSegments.drop _
      evidenceItems := h.evidenceItems.drop _
      assessments := h.assessments.drop _
      incidents := hincidents.mpr hsame
      approvals := h.approvals.drop _
      candidateSets := h.candidateSets.drop _
      candidateOutcomes := h.candidateOutcomes.drop _
      managerFeedback := h.managerFeedback.drop _
      actionDispatches := h.actionDispatches.drop _
      notificationAttempts := h.notificationAttempts.drop _
      actionDispatchAttempts := hattempts }

theorem Intact.deleteTravelerMemory (h : repo.Intact) :
    (repo.deleteTravelerMemory tenantId travelerId).2.Intact :=
  ⟨h.1, h.2, h.3, h.4, h.5, h.6, h.7, h.8, h.9, h.10, h.11⟩

theorem Intact.eraseTravelerData_iff (h : repo.Intact) (scope : DeletionRequestScope) :
    (repo.eraseTravelerData tenantId travelerId scope).2.Intact ↔ scope = .preferenceMemory ∨
      ∀ row ∈ repo.incidents, row.payload.tripId ∈ repo.travelerTripIds tenantId travelerId →
        row.payload.tenantId = tenantId := by
  have hmemory : (repo.deleteTravelerMemory tenantId travelerId).2.Intact :=
    h.deleteTravelerMemory
  unfold eraseTravelerData
  by_cases hscope : scope = .preferenceMemory
  · simp only [hscope, if_true, true_or, iff_true]
    exact hmemory
  · simp only [hscope, if_false, false_or]
    exact hmemory.eraseOperationalData_iff

theorem Intact.purgeExpired_iff (h : repo.Intact) (now : Time) (cutoffs : Cutoffs) :
    (repo.purgeExpired now cutoffs).2.Intact ↔ ∀ row ∈ repo.tripSegments,
      ¬repo.archive.OnExpiredTrip (repo.active now) cutoffs row.tripId := by
  have hsegments : (repo.purgeExpired now cutoffs).2.tripSegments.Refers TripSegmentRow.tripId
      (repo.purgeExpired now cutoffs).2.trips ↔ ∀ row ∈ repo.tripSegments,
        ¬repo.archive.OnExpiredTrip (repo.active now) cutoffs row.tripId :=
    (Table.refers_filter_iff h.tripSegments _).trans
      (forall₂_congr fun _ _ => not_congr mem_expiredTripIds)
  refine ⟨fun hintact => hsegments.mp hintact.tripSegments, fun hnone => ?_⟩
  have hincidents : (repo.purgeExpired now cutoffs).2.incidents.Refers
      (fun row => row.payload.tripId) (repo.purgeExpired now cutoffs).2.trips := by
    refine (Table.refers_filter_iff (h.incidents.filter_left _) _).mpr fun row hmem hon => ?_
    obtain ⟨hmem, hkept⟩ := (Table.mem_filter _ _ _).mp hmem
    refine of_decide_eq_true hkept (mem_expiredIncidentIds.mpr ?_)
    exact ⟨row.payload, mem_incidentPayloads.mp (List.mem_map_of_mem hmem), rfl,
      mem_expiredTripIds.mp hon⟩
  have hattempts : (repo.purgeExpired now cutoffs).2.actionDispatchAttempts.Refers
      ActionDispatchAttempt.actionDispatchId
      (repo.purgeExpired now cutoffs).2.actionDispatches := by
    have hdrop := h.actionDispatchAttempts.drop (repo.actionIdsOf (expiredIncidentIds
      (expiredTripIds (repo.active now) repo.tripPayloads cutoffs.before) repo.incidentPayloads))
    rw [← actionDispatches_filter_incidents] at hdrop
    exact hdrop
  exact
    { tripSegments := hsegments.mpr hnone
      evidenceItems := h.evidenceItems.drop _
      assessments := h.assessments.drop _
      incidents := hincidents
      approvals := h.approvals.drop _
      candidateSets := h.candidateSets.drop _
      candidateOutcomes := h.candidateOutcomes.drop _
      managerFeedback := h.managerFeedback.drop _
      actionDispatches := h.actionDispatches.drop _
      notificationAttempts := h.notificationAttempts.drop _
      actionDispatchAttempts := hattempts }

end PostgresRepository

/-- When deletions leave no orphans, in either repository. -/
theorem deletion_leaves_no_orphans_iff (mem : InMemoryRepository β) (db : PostgresRepository β)
    (hmem : mem.Intact) (hdb : db.Intact) (tenantId travelerId : String)
    (scope : DeletionRequestScope) (now : Time) (cutoffs : Cutoffs) :
    ((mem.eraseTravelerData tenantId travelerId scope).2.Intact ↔ scope = .preferenceMemory ∨
      ∀ incident ∈ mem.incidents, incident.tripId ∈ mem.travelerTripIds tenantId travelerId →
        incident.tenantId = tenantId) ∧
    ((mem.purgeExpired now cutoffs).2.Intact ↔
      ∀ b ∈ mem.tripSegments, ¬mem.archive.OnExpiredTrip (mem.active now) cutoffs b.id) ∧
    ((db.eraseTravelerData tenantId travelerId scope).2.Intact ↔ scope = .preferenceMemory ∨
      ∀ row ∈ db.incidents, row.payload.tripId ∈ db.travelerTripIds tenantId travelerId →
        row.payload.tenantId = tenantId) ∧
    ((db.purgeExpired now cutoffs).2.Intact ↔
      ∀ row ∈ db.tripSegments, ¬db.archive.OnExpiredTrip (db.active now) cutoffs row.tripId) :=
  ⟨hmem.eraseTravelerData_iff scope, hmem.purgeExpired_iff now cutoffs,
    hdb.eraseTravelerData_iff scope, hdb.purgeExpired_iff now cutoffs⟩

/-! ### A trip that was created with its segments -/

def flownTrip : Trip where
  tenantId := "acme"
  travelerId := "ada"
  groundOrigin := "Oslo"
  destinationCountry := "SE"
  segments := [{
    segmentId := "1"
    carrierCode := "SK"
    flightNumber := "865"
    departureAirport := "OSL"
    arrivalAirport := "ARN"
    scheduledDepartureAt := 0
    scheduledArrivalAt := minutes 60 }]
  tripId := .v5 "trip"
  createdAt := 0

def flownInMemory : InMemoryRepository Unit := ({} : InMemoryRepository Unit).createTrip flownTrip

def flownInDatabase : PostgresRepository Unit where
  trips := Table.empty.put ⟨"acme", flownTrip⟩
  tripSegments := Table.empty.put
    ⟨flownTrip.tripId, "acme", flownTrip.segments.head (by decide)⟩

theorem flownInMemory_intact : flownInMemory.Intact :=
  ⟨by decide, by decide, by decide, by decide, by decide, by decide, by decide, by decide,
    by decide, by decide, by decide⟩

theorem flownInDatabase_intact : flownInDatabase.Intact :=
  ⟨by decide, by decide, by decide, by decide, by decide, by decide, by decide, by decide,
    by decide, by decide, by decide⟩

/-- The trip is past the cutoff, and its segments outlive it. -/
theorem purged_trip_leaves_segments :
    ({} : PostgresRepository Unit).createTrip flownTrip = .ok flownInDatabase ∧
      flownInMemory.Intact ∧
      ¬(flownInMemory.purgeExpired (minutes 120) { before := minutes 90 }).2.Intact ∧
      flownInDatabase.Intact ∧
      ¬(flownInDatabase.purgeExpired (minutes 120) { before := minutes 90 }).2.Intact :=
  ⟨rfl, flownInMemory_intact, fun h => absurd h.tripSegments (by decide), flownInDatabase_intact,
    fun h => absurd h.tripSegments (by decide)⟩

/-- Before the cutoff the trip stays, and an erasure takes its segments too. -/
theorem deletion_leaves_no_orphans_iff_sample :
    (flownInMemory.eraseTravelerData "acme" "ada" .travelerData).2.Intact ∧
      (flownInMemory.purgeExpired 0 { before := 0 }).2.Intact ∧
      (flownInDatabase.eraseTravelerData "acme" "ada" .travelerData).2.Intact ∧
      (flownInDatabase.purgeExpired 0 { before := 0 }).2.Intact := by
  obtain ⟨hmemErase, hmemPurge, hdbErase, hdbPurge⟩ := deletion_leaves_no_orphans_iff flownInMemory
    flownInDatabase flownInMemory_intact flownInDatabase_intact "acme" "ada" .travelerData 0
    { before := 0 }
  refine ⟨hmemErase.mpr (.inr (by decide)), hmemPurge.mpr fun b hb hon => ?_,
    hdbErase.mpr (.inr (by decide)), hdbPurge.mpr fun row hrow hon => ?_⟩
  · have hnone : expiredTripIds (flownInMemory.active 0) flownInMemory.trips.rows 0 = [] := by
      decide
    exact List.not_mem_nil (hnone ▸ InMemoryRepository.mem_expiredTripIds.mpr hon)
  · have hnone : expiredTripIds (flownInDatabase.active 0) flownInDatabase.tripPayloads 0 = [] := by
      decide
    exact List.not_mem_nil (hnone ▸ PostgresRepository.mem_expiredTripIds.mpr hon)

end RouteShield
