import RouteShield.Store.Retention

/-!
`purge_expired` in both repositories, each read off its own code, and the archive each
repository keeps. On archives both are the purge of `RouteShield.Archive`; they part over
the attempts of actions that are not stored.
-/

namespace RouteShield

/-- The aggregate counts a purge returns. -/
structure PurgeCounts where
  trips : ℕ
  evidence : ℕ
  assessments : ℕ
  incidents : ℕ
  profiles : ℕ
  memoryProposals : ℕ
  notifications : ℕ
  originalUploads : ℕ
  auditEvents : ℕ
  memoryAudits : ℕ
  deriving DecidableEq

variable {β : Type}

/-! ### In memory -/

namespace InMemoryRepository

variable (repo : InMemoryRepository β)

def active (now : Time) : List LegalHoldRecord := activeHolds repo.legalHolds.rows now

def purgeExpired (now : Time) (cutoffs : Cutoffs) : PurgeCounts × InMemoryRepository β :=
  let active := repo.active now
  let expiredTripIds := expiredTripIds active repo.trips.rows cutoffs.before
  let expiredIncidentIds := expiredIncidentIds expiredTripIds repo.incidents.rows
  let expiredProfile : TravelerPreferenceProfile → Bool := fun profile =>
    expiredForTraveler active profile.tenantId profile.travelerId profile.updatedAt cutoffs.before
  let expiredProposal : MemoryUpdateProposal → Bool := fun proposal =>
    expiredForTraveler active proposal.tenantId proposal.travelerId proposal.createdAt
      cutoffs.before
  let expiredNotification : NotificationRecord → Bool := fun notification =>
    notification.createdAt < cutoffs.before
  let expiredNotificationIds :=
    (repo.notifications.rows.filter expiredNotification).map NotificationRecord.notificationId
  let expiredUpload : OriginalUploadRecord → Bool := fun upload =>
    expiredUpload active upload.tenantId upload cutoffs.originalUpload
  let counts : PurgeCounts := {
    trips := expiredTripIds.length
    evidence := (repo.evidence.rows.filter (fun b => b.id ∈ expiredTripIds)).length
    assessments := (repo.assessments.rows.filter (fun b => b.id ∈ expiredTripIds)).length
    incidents := expiredIncidentIds.length
    profiles := (repo.profiles.rows.filter expiredProfile).length
    memoryProposals := (repo.memoryProposals.rows.filter expiredProposal).length
    notifications := (repo.notifications.rows.filter expiredNotification).length
    originalUploads := (repo.originalUploads.rows.filter expiredUpload).length
    auditEvents := (repo.events.filter (fun event => event.emittedAt < cutoffs.audit)).length
    memoryAudits :=
      (repo.memoryAudits.filter (fun event => event.occurredAt < cutoffs.audit)).length }
  let actionDispatches :=
    repo.actionDispatches.filter (fun action => action.incidentId ∉ expiredIncidentIds)
  (counts,
    { repo with
      trips := repo.trips.filter (fun trip => trip.tripId ∉ expiredTripIds)
      evidence := repo.evidence.filter (fun b => b.id ∉ expiredTripIds)
      assessments := repo.assessments.filter (fun b => b.id ∉ expiredTripIds)
      incidents := repo.incidents.filter (fun i => i.incidentId ∉ expiredIncidentIds)
      approvals := repo.approvals.filter (fun a => a.incidentId ∉ expiredIncidentIds)
      candidateSets := repo.candidateSets.filter (fun s => s.2.incidentId ∉ expiredIncidentIds)
      candidateOutcomes :=
        repo.candidateOutcomes.filter (fun o => o.2.incidentId ∉ expiredIncidentIds)
      managerFeedback := repo.managerFeedback.filter (fun f => f.incidentId ∉ expiredIncidentIds)
      profiles := repo.profiles.filter (fun profile => !expiredProfile profile)
      memoryProposals := repo.memoryProposals.filter (fun proposal => !expiredProposal proposal)
      notifications :=
        repo.notifications.filter (fun n => n.notificationId ∉ expiredNotificationIds)
      notificationAttempts :=
        repo.notificationAttempts.filter (fun b => b.id ∉ expiredNotificationIds)
      originalUploads := repo.originalUploads.filter (fun upload => !expiredUpload upload)
      actionDispatches
      actionDispatchAttempts := repo.actionDispatchAttempts.filter
        (fun b => (actionDispatches.find? b.id).isSome)
      events := repo.events.filter (fun event => cutoffs.audit ≤ event.emittedAt)
      memoryAudits := repo.memoryAudits.filter (fun event => cutoffs.audit ≤ event.occurredAt)
      idempotencyRecords :=
        repo.idempotencyRecords.filter (fun record => cutoffs.before ≤ record.expiresAt) })

def Stores : OperationalRecord → Prop
  | .trip trip => trip ∈ repo.trips
  | .evidence tripId item => ∃ b ∈ repo.evidence, b.id = tripId ∧ item ∈ b.items
  | .assessment tripId item => ∃ b ∈ repo.assessments, b.id = tripId ∧ item ∈ b.items
  | .incident incident => incident ∈ repo.incidents
  | .approval item => item ∈ repo.approvals
  | .candidateSet item => ∃ saved ∈ repo.candidateSets, saved.2 = item
  | .candidateOutcome item => ∃ saved ∈ repo.candidateOutcomes, saved.2 = item
  | .managerFeedback item => item ∈ repo.managerFeedback
  | .actionDispatch incidentId item => item ∈ repo.actionDispatches ∧ item.incidentId = incidentId
  | .actionDispatchAttempt actionId item =>
    ∃ b ∈ repo.actionDispatchAttempts, b.id = actionId ∧ item ∈ b.items
  | .profile item => item ∈ repo.profiles
  | .memoryProposal item => item ∈ repo.memoryProposals
  | .notification item => item ∈ repo.notifications
  | .originalUpload tenantId item => item ∈ repo.originalUploads ∧ item.tenantId = tenantId

def archive : Archive where
  records := {record | repo.Stores record}
  trip_inj _ _ ht hu h := repo.trips.key_inj ht hu h
  incident_inj _ _ hi hj h := repo.incidents.key_inj hi hj h
  action_inj i j a b ha hb h := by
    have hab : a = b := repo.actionDispatches.key_inj ha.1 hb.1 h
    exact ⟨ha.2.symm.trans (hab ▸ hb.2), hab⟩

variable {repo}

theorem mem_archive {record : OperationalRecord} :
    record ∈ repo.archive ↔ repo.Stores record := Iff.rfl

variable {now : Time} {cutoffs : Cutoffs}

theorem mem_expiredTripIds {tripId : Uuid} :
    tripId ∈ expiredTripIds (repo.active now) repo.trips.rows cutoffs.before ↔
      repo.archive.OnExpiredTrip (repo.active now) cutoffs tripId := by
  rw [RouteShield.mem_expiredTripIds (fun t ht u hu h => repo.trips.key_inj ht hu h)]
  exact exists_congr fun trip =>
    ⟨fun h => ⟨⟨h.1, h.2.2⟩, h.2.1⟩, fun h => ⟨h.1.1, h.2, h.1.2⟩⟩

theorem mem_expiredIncidentIds {incidentId : Uuid} :
    incidentId ∈ expiredIncidentIds
        (expiredTripIds (repo.active now) repo.trips.rows cutoffs.before) repo.incidents.rows ↔
      repo.archive.OnExpiredIncident (repo.active now) cutoffs incidentId := by
  simp only [RouteShield.mem_expiredIncidentIds, mem_expiredTripIds]
  exact Iff.rfl

/-- The identifiers of the expired notifications belong to the expired notifications. -/
theorem mem_expiredNotificationIds {notification : NotificationRecord}
    (h : notification ∈ repo.notifications) {before : Time} :
    notification.notificationId ∈
        (repo.notifications.rows.filter (fun n => n.createdAt < before)).map
          NotificationRecord.notificationId ↔ notification.createdAt < before := by
  simp only [List.mem_map, List.mem_filter, decide_eq_true_eq]
  constructor
  · rintro ⟨n, ⟨hn, hb⟩, hid⟩
    rwa [← repo.notifications.key_inj hn h hid]
  · exact fun hb => ⟨notification, ⟨h, hb⟩, rfl⟩

/-- The attempts that stay are those of the actions that stay. -/
theorem isSome_find?_actions {actionId : Uuid} (ids : List Uuid) :
    ((repo.actionDispatches.filter (fun a => a.incidentId ∉ ids)).find? actionId).isSome ↔
      ∃ action ∈ repo.actionDispatches, action.actionDispatchId = actionId ∧
        action.incidentId ∉ ids := by
  simp only [Table.isSome_find?_filter, decide_eq_true_eq]

/-- An attempt stays when its action is stored and off every expired incident. -/
theorem attempt_kept_iff {actionId : Uuid} {item : ActionDispatchAttempt} :
    ¬repo.archive.Removed (repo.active now) cutoffs True (.actionDispatchAttempt actionId item) ↔
      ∃ action ∈ repo.actionDispatches, action.actionDispatchId = actionId ∧
        ¬repo.archive.OnExpiredIncident (repo.active now) cutoffs action.incidentId := by
  simp only [Archive.Removed, mem_archive, Stores, true_and, not_or, not_exists, not_and,
    not_forall, not_not]
  constructor
  · rintro ⟨hexp, incidentId, action, ⟨ha, rfl⟩, hid⟩
    exact ⟨action, ha, hid, hexp _ action ⟨ha, rfl⟩ hid⟩
  · rintro ⟨action, ha, hid, hexp⟩
    refine ⟨?_, _, action, ⟨ha, rfl⟩, hid⟩
    rintro incidentId other ⟨ho, hi⟩ hoid
    rwa [← hi, repo.actionDispatches.key_inj ho ha (hoid.trans hid.symm)]

/-- On archives the in-memory purge is the abstract one; orphaned attempts go too. -/
theorem archive_purgeExpired :
    (repo.purgeExpired now cutoffs).2.archive =
      repo.archive.purge (repo.active now) cutoffs True := by
  ext record
  rw [Archive.mem_purge, mem_archive, mem_archive]
  cases record with
  | trip trip =>
    simp only [Stores, purgeExpired, Table.mem_filter, decide_eq_true_eq, mem_expiredTripIds,
      Archive.Removed]
  | evidence tripId item =>
    simp only [Stores, purgeExpired, Table.mem_filter, decide_eq_true_eq, mem_expiredTripIds,
      Archive.Removed]
    grind
  | assessment tripId item =>
    simp only [Stores, purgeExpired, Table.mem_filter, decide_eq_true_eq, mem_expiredTripIds,
      Archive.Removed]
    grind
  | incident incident =>
    simp only [Stores, purgeExpired, Table.mem_filter, decide_eq_true_eq, mem_expiredIncidentIds,
      Archive.Removed]
  | approval item =>
    simp only [Stores, purgeExpired, Table.mem_filter, decide_eq_true_eq, mem_expiredIncidentIds,
      Archive.Removed]
  | candidateSet item =>
    simp only [Stores, purgeExpired, Table.mem_filter, decide_eq_true_eq, mem_expiredIncidentIds,
      Archive.Removed]
    grind
  | candidateOutcome item =>
    simp only [Stores, purgeExpired, Table.mem_filter, decide_eq_true_eq, mem_expiredIncidentIds,
      Archive.Removed]
    grind
  | managerFeedback item =>
    simp only [Stores, purgeExpired, Table.mem_filter, decide_eq_true_eq, mem_expiredIncidentIds,
      Archive.Removed]
  | actionDispatch incidentId item =>
    simp only [Stores, purgeExpired, Table.mem_filter, decide_eq_true_eq, mem_expiredIncidentIds,
      Archive.Removed]
    grind
  | actionDispatchAttempt actionId item =>
    rw [attempt_kept_iff]
    simp only [Stores, purgeExpired, Table.mem_filter, isSome_find?_actions,
      mem_expiredIncidentIds]
    grind
  | profile item =>
    simp only [Stores, purgeExpired, Table.mem_filter, Bool.not_eq_true', Archive.Removed,
      ← expiredForTraveler_iff, Bool.not_eq_true]
  | memoryProposal item =>
    simp only [Stores, purgeExpired, Table.mem_filter, Bool.not_eq_true', Archive.Removed,
      ← expiredForTraveler_iff, Bool.not_eq_true]
  | notification item =>
    simp only [Stores, purgeExpired, Table.mem_filter, decide_eq_true_eq, Archive.Removed]
    exact and_congr_right fun h => not_congr (mem_expiredNotificationIds h)
  | originalUpload tenantId item =>
    simp only [Stores, purgeExpired, Table.mem_filter, Bool.not_eq_true', Archive.Removed,
      ← Bool.not_eq_true, expiredUpload_iff]
    grind

end InMemoryRepository

/-! ### In the database -/

namespace PostgresRepository

variable (repo : PostgresRepository β)

def active (now : Time) : List LegalHoldRecord :=
  activeHolds (repo.legalHolds.rows.map TenantRow.payload) now

def tripPayloads : List Trip := repo.trips.rows.map TenantRow.payload

def incidentPayloads : List Incident := repo.incidents.rows.map TenantRow.payload

def purgeExpired (now : Time) (cutoffs : Cutoffs) : PurgeCounts × PostgresRepository β :=
  let active := repo.active now
  let expiredTripIds := expiredTripIds active repo.tripPayloads cutoffs.before
  let expiredIncidentIds := expiredIncidentIds expiredTripIds repo.incidentPayloads
  let expiredProfile : TravelerPreferenceProfile → Bool := fun profile =>
    expiredForTraveler active profile.tenantId profile.travelerId profile.updatedAt cutoffs.before
  let expiredProposal : TenantRow MemoryUpdateProposal → Bool := fun row =>
    expiredForTraveler active row.payload.tenantId row.payload.travelerId row.payload.createdAt
      cutoffs.before
  let expiredNotification : TenantRow NotificationRecord → Bool := fun row =>
    row.payload.createdAt < cutoffs.before
  let expiredNotificationIds :=
    (repo.notifications.rows.filter expiredNotification).map (fun row => row.payload.notificationId)
  let expiredUpload : TenantRow OriginalUploadRecord → Bool := fun row =>
    expiredUpload active row.tenantId row.payload cutoffs.originalUpload
  let expiredActionIds := (repo.actionDispatches.rows.filter
    (fun row => row.incidentId ∈ expiredIncidentIds)).map (fun row => row.payload.actionDispatchId)
  let counts : PurgeCounts := {
    trips := expiredTripIds.length
    evidence := expiredTripIds.length
    assessments := expiredTripIds.length
    incidents := expiredIncidentIds.length
    profiles := (repo.preferences.rows.filter expiredProfile).length
    memoryProposals := (repo.memoryProposals.rows.filter expiredProposal).length
    notifications := expiredNotificationIds.length
    originalUploads := (repo.originalUploads.rows.filter expiredUpload).length
    auditEvents := (repo.events.rows.filter (fun event => event.emittedAt < cutoffs.audit)).length
    memoryAudits :=
      (repo.memoryAuditEvents.rows.filter (fun event => event.occurredAt < cutoffs.audit)).length }
  (counts,
    { repo with
      evidenceItems := repo.evidenceItems.filter (fun row => row.tripId ∉ expiredTripIds)
      assessments := repo.assessments.filter (fun row => row.payload.tripId ∉ expiredTripIds)
      approvals := repo.approvals.filter (fun a => a.incidentId ∉ expiredIncidentIds)
      candidateSets :=
        repo.candidateSets.filter (fun row => row.payload.incidentId ∉ expiredIncidentIds)
      candidateOutcomes :=
        repo.candidateOutcomes.filter (fun row => row.payload.incidentId ∉ expiredIncidentIds)
      managerFeedback := repo.managerFeedback.filter (fun f => f.incidentId ∉ expiredIncidentIds)
      actionDispatchAttempts := repo.actionDispatchAttempts.filter
        (fun attempt => attempt.actionDispatchId ∉ expiredActionIds)
      actionDispatches :=
        repo.actionDispatches.filter (fun row => row.incidentId ∉ expiredIncidentIds)
      incidents := repo.incidents.filter (fun row => row.payload.incidentId ∉ expiredIncidentIds)
      trips := repo.trips.filter (fun row => row.payload.tripId ∉ expiredTripIds)
      preferences := repo.preferences.filter (fun profile => !expiredProfile profile)
      memoryProposals := repo.memoryProposals.filter (fun row => !expiredProposal row)
      notificationAttempts := repo.notificationAttempts.filter
        (fun attempt => attempt.notificationId ∉ expiredNotificationIds)
      notifications := repo.notifications.filter
        (fun row => row.payload.notificationId ∉ expiredNotificationIds)
      originalUploads := repo.originalUploads.filter (fun row => !expiredUpload row)
      events := repo.events.filter (fun event => cutoffs.audit ≤ event.emittedAt)
      memoryAuditEvents :=
        repo.memoryAuditEvents.filter (fun event => cutoffs.audit ≤ event.occurredAt) })

def Stores : OperationalRecord → Prop
  | .trip trip => ∃ row ∈ repo.trips, row.payload = trip
  | .evidence tripId item => ∃ row ∈ repo.evidenceItems, row.tripId = tripId ∧ row.payload = item
  | .assessment tripId item => ∃ row ∈ repo.assessments, row.payload = item ∧ item.tripId = tripId
  | .incident incident => ∃ row ∈ repo.incidents, row.payload = incident
  | .approval item => item ∈ repo.approvals
  | .candidateSet item => ∃ row ∈ repo.candidateSets, row.payload = item
  | .candidateOutcome item => ∃ row ∈ repo.candidateOutcomes, row.payload = item
  | .managerFeedback item => item ∈ repo.managerFeedback
  | .actionDispatch incidentId item =>
    ∃ row ∈ repo.actionDispatches, row.incidentId = incidentId ∧ row.payload = item
  | .actionDispatchAttempt actionId item =>
    item ∈ repo.actionDispatchAttempts ∧ item.actionDispatchId = actionId
  | .profile item => item ∈ repo.preferences
  | .memoryProposal item => ∃ row ∈ repo.memoryProposals, row.payload = item
  | .notification item => ∃ row ∈ repo.notifications, row.payload = item
  | .originalUpload tenantId item =>
    ∃ row ∈ repo.originalUploads, row.tenantId = tenantId ∧ row.payload = item

def archive : Archive where
  records := {record | repo.Stores record}
  trip_inj := by
    rintro _ _ ⟨r, hr, rfl⟩ ⟨s, hs, rfl⟩ h
    rw [repo.trips.key_inj hr hs h]
  incident_inj := by
    rintro _ _ ⟨r, hr, rfl⟩ ⟨s, hs, rfl⟩ h
    rw [repo.incidents.key_inj hr hs h]
  action_inj := by
    rintro _ _ _ _ ⟨r, hr, rfl, rfl⟩ ⟨s, hs, rfl, rfl⟩ h
    rw [repo.actionDispatches.key_inj hr hs h]
    exact ⟨rfl, rfl⟩

variable {repo}

theorem mem_archive {record : OperationalRecord} :
    record ∈ repo.archive ↔ repo.Stores record := Iff.rfl

theorem mem_tripPayloads {trip : Trip} : trip ∈ repo.tripPayloads ↔ .trip trip ∈ repo.archive :=
  List.mem_map

theorem mem_incidentPayloads {incident : Incident} :
    incident ∈ repo.incidentPayloads ↔ .incident incident ∈ repo.archive := List.mem_map

variable {now : Time} {cutoffs : Cutoffs}

theorem mem_expiredTripIds {tripId : Uuid} :
    tripId ∈ expiredTripIds (repo.active now) repo.tripPayloads cutoffs.before ↔
      repo.archive.OnExpiredTrip (repo.active now) cutoffs tripId := by
  rw [RouteShield.mem_expiredTripIds (fun t ht u hu h =>
    repo.archive.trip_inj t u (mem_tripPayloads.mp ht) (mem_tripPayloads.mp hu) h)]
  simp only [mem_tripPayloads]
  exact exists_congr fun trip =>
    ⟨fun h => ⟨⟨h.1, h.2.2⟩, h.2.1⟩, fun h => ⟨h.1.1, h.2, h.1.2⟩⟩

theorem mem_expiredIncidentIds {incidentId : Uuid} :
    incidentId ∈ expiredIncidentIds
        (expiredTripIds (repo.active now) repo.tripPayloads cutoffs.before) repo.incidentPayloads ↔
      repo.archive.OnExpiredIncident (repo.active now) cutoffs incidentId := by
  simp only [RouteShield.mem_expiredIncidentIds, mem_expiredTripIds, mem_incidentPayloads]
  exact Iff.rfl

theorem mem_expiredNotificationIds {row : TenantRow NotificationRecord}
    (h : row ∈ repo.notifications) {before : Time} :
    row.payload.notificationId ∈
        (repo.notifications.rows.filter (fun n => n.payload.createdAt < before)).map
          (fun n => n.payload.notificationId) ↔ row.payload.createdAt < before := by
  simp only [List.mem_map, List.mem_filter, decide_eq_true_eq]
  constructor
  · rintro ⟨n, ⟨hn, hb⟩, hid⟩
    rwa [← repo.notifications.key_inj hn h hid]
  · exact fun hb => ⟨row, ⟨h, hb⟩, rfl⟩

/-- The attempts that go are those of the actions that go. -/
theorem mem_expiredActionIds {actionId : Uuid} {ids : List Uuid} :
    actionId ∈ (repo.actionDispatches.rows.filter (fun row => row.incidentId ∈ ids)).map
        (fun row => row.payload.actionDispatchId) ↔
      ∃ incidentId action, .actionDispatch incidentId action ∈ repo.archive ∧
        action.actionDispatchId = actionId ∧ incidentId ∈ ids := by
  simp only [List.mem_map, List.mem_filter, decide_eq_true_eq, mem_archive, Stores]
  constructor
  · rintro ⟨row, ⟨hr, hi⟩, rfl⟩
    exact ⟨_, _, ⟨row, hr, rfl, rfl⟩, rfl, hi⟩
  · rintro ⟨_, _, ⟨row, hr, rfl, rfl⟩, rfl, hi⟩
    exact ⟨row, ⟨hr, hi⟩, rfl⟩

/-- On archives the database's purge is the abstract one; orphaned attempts stay. -/
theorem archive_purgeExpired :
    (repo.purgeExpired now cutoffs).2.archive =
      repo.archive.purge (repo.active now) cutoffs False := by
  ext record
  rw [Archive.mem_purge, mem_archive, mem_archive]
  cases record with
  | trip trip =>
    simp only [Stores, purgeExpired, Table.mem_filter, decide_eq_true_eq, mem_expiredTripIds,
      Archive.Removed]
    grind
  | evidence tripId item =>
    simp only [Stores, purgeExpired, Table.mem_filter, decide_eq_true_eq, mem_expiredTripIds,
      Archive.Removed]
    grind
  | assessment tripId item =>
    simp only [Stores, purgeExpired, Table.mem_filter, decide_eq_true_eq, mem_expiredTripIds,
      Archive.Removed]
    grind
  | incident incident =>
    simp only [Stores, purgeExpired, Table.mem_filter, decide_eq_true_eq, mem_expiredIncidentIds,
      Archive.Removed]
    grind
  | approval item =>
    simp only [Stores, purgeExpired, Table.mem_filter, decide_eq_true_eq, mem_expiredIncidentIds,
      Archive.Removed]
  | candidateSet item =>
    simp only [Stores, purgeExpired, Table.mem_filter, decide_eq_true_eq, mem_expiredIncidentIds,
      Archive.Removed]
    grind
  | candidateOutcome item =>
    simp only [Stores, purgeExpired, Table.mem_filter, decide_eq_true_eq, mem_expiredIncidentIds,
      Archive.Removed]
    grind
  | managerFeedback item =>
    simp only [Stores, purgeExpired, Table.mem_filter, decide_eq_true_eq, mem_expiredIncidentIds,
      Archive.Removed]
  | actionDispatch incidentId item =>
    simp only [Stores, purgeExpired, Table.mem_filter, decide_eq_true_eq, mem_expiredIncidentIds,
      Archive.Removed]
    grind
  | actionDispatchAttempt actionId item =>
    simp only [Stores, purgeExpired, Table.mem_filter, decide_eq_true_eq, mem_expiredActionIds,
      mem_expiredIncidentIds, Archive.Removed, false_and, or_false]
    grind
  | profile item =>
    simp only [Stores, purgeExpired, Table.mem_filter, Bool.not_eq_true', Archive.Removed,
      ← expiredForTraveler_iff, Bool.not_eq_true]
  | memoryProposal item =>
    simp only [Stores, purgeExpired, Table.mem_filter, Bool.not_eq_true', Archive.Removed,
      ← expiredForTraveler_iff, Bool.not_eq_true]
    grind
  | notification item =>
    simp only [Stores, purgeExpired, Table.mem_filter, decide_eq_true_eq, Archive.Removed]
    constructor
    · rintro ⟨row, ⟨hr, hn⟩, rfl⟩
      exact ⟨⟨row, hr, rfl⟩, fun hb => hn ((mem_expiredNotificationIds hr).mpr hb)⟩
    · rintro ⟨⟨row, hr, rfl⟩, hb⟩
      exact ⟨row, ⟨hr, fun hn => hb ((mem_expiredNotificationIds hr).mp hn)⟩, rfl⟩
  | originalUpload tenantId item =>
    simp only [Stores, purgeExpired, Table.mem_filter, Bool.not_eq_true', Archive.Removed,
      ← Bool.not_eq_true, expiredUpload_iff]
    grind

end PostgresRepository

end RouteShield
