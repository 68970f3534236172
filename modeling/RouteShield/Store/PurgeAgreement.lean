import RouteShield.Store.Orphans

/-!
The two purges beside each other. A repository is read as the records that it holds of each kind;
on repositories that hold the same records, both purges keep the same records of every kind but
two: only the in-memory purge drops outdated idempotency records and the attempts of actions that
are not stored. What they count as evidence and assessments is lists in memory and trips in the
database.
-/

namespace RouteShield

variable {β : Type}

/-! ### What a repository holds -/

inductive Kind where
  | trip | tripSegment | evidence | assessment | incident | approval | event | profile
  | memoryProposal | idempotencyRecord | candidateSet | candidateOutcome | managerFeedback
  | tenantPlaybook | notification | notificationAttempt | actionDispatch | actionDispatchAttempt
  | memoryAudit | changeRecord | providerOnboarding | legalHold | deletionRequest
  | runtimeControlOverride | runtimeControlChange | platformControlOverride
  | platformControlChange | originalUpload

/-- A record of a kind, with the key that it is filed under or the column it is selected by. -/
@[reducible] def Kind.Record (β : Type) : Kind → Type
  | .trip => Trip
  | .tripSegment => Uuid × FlightSegment
  | .evidence => Uuid × EvidenceEnvelope
  | .assessment => Uuid × RiskAssessment
  | .incident => Incident
  | .approval => ApprovalRecord
  | .event => EventRecord
  | .profile => TravelerPreferenceProfile
  | .memoryProposal => MemoryUpdateProposal
  | .idempotencyRecord => IdempotencyRecord β
  | .candidateSet => String × RecoveryCandidateSet
  | .candidateOutcome => String × RecoveryCandidateOutcome
  | .managerFeedback => ManagerFeedback
  | .tenantPlaybook => TenantPlaybook
  | .notification => NotificationRecord
  | .notificationAttempt => Uuid × NotificationAttempt
  | .actionDispatch => Uuid × ActionDispatchRecord
  | .actionDispatchAttempt => Uuid × ActionDispatchAttempt
  | .memoryAudit => MemoryAuditEvent
  | .changeRecord => ChangeRecord
  | .providerOnboarding => ProviderOnboardingRecord
  | .legalHold => LegalHoldRecord
  | .deletionRequest => DeletionRequest
  | .runtimeControlOverride => RuntimeControlChange
  | .runtimeControlChange => RuntimeControlChange
  | .platformControlOverride => PlatformRuntimeControlChange
  | .platformControlChange => PlatformRuntimeControlChange
  | .originalUpload => String × OriginalUploadRecord

abbrev Contents (β : Type) := (kind : Kind) → List (kind.Record β)

/-- The items of all lists, each with the key of its list. -/
def Table.filed {κ α : Type} (t : Table (Bucket.id (κ := κ) (α := α))) : List (κ × α) :=
  t.rows.flatMap (fun b => b.items.map (fun item => (b.id, item)))

def InMemoryRepository.contents (repo : InMemoryRepository β) : Contents β
  | .trip => repo.trips.rows
  | .tripSegment => repo.tripSegments.filed
  | .evidence => repo.evidence.filed
  | .assessment => repo.assessments.filed
  | .incident => repo.incidents.rows
  | .approval => repo.approvals.rows
  | .event => repo.events
  | .profile => repo.profiles.rows
  | .memoryProposal => repo.memoryProposals.rows
  | .idempotencyRecord => repo.idempotencyRecords.rows
  | .candidateSet => repo.candidateSets.rows
  | .candidateOutcome => repo.candidateOutcomes.rows
  | .managerFeedback => repo.managerFeedback.rows
  | .tenantPlaybook => repo.tenantPlaybooks.rows
  | .notification => repo.notifications.rows
  | .notificationAttempt => repo.notificationAttempts.filed
  | .actionDispatch => repo.actionDispatches.rows.map (fun a => (a.incidentId, a))
  | .actionDispatchAttempt => repo.actionDispatchAttempts.filed
  | .memoryAudit => repo.memoryAudits
  | .changeRecord => repo.changeRecords.rows
  | .providerOnboarding => repo.providerOnboardingRecords.rows
  | .legalHold => repo.legalHolds.rows
  | .deletionRequest => repo.deletionRequests.rows
  | .runtimeControlOverride => repo.runtimeControlOverrides.rows
  | .runtimeControlChange => repo.runtimeControlChanges
  | .platformControlOverride => repo.platformControlOverrides.rows
  | .platformControlChange => repo.platformControlChanges
  | .originalUpload => repo.originalUploads.rows.map (fun upload => (upload.tenantId, upload))

def PostgresRepository.contents (repo : PostgresRepository β) : Contents β
  | .trip => repo.tripPayloads
  | .tripSegment => repo.tripSegments.rows.map (fun row => (row.tripId, row.segment))
  | .evidence => repo.evidenceItems.rows.map (fun row => (row.tripId, row.payload))
  | .assessment => repo.assessments.rows.map (fun row => (row.payload.tripId, row.payload))
  | .incident => repo.incidentPayloads
  | .approval => repo.approvals.rows
  | .event => repo.events.rows
  | .profile => repo.preferences.rows
  | .memoryProposal => repo.memoryProposals.rows.map TenantRow.payload
  | .idempotencyRecord => repo.idempotencyRecords.rows
  | .candidateSet => repo.candidateSets.rows.map (fun row => (row.tenantId, row.payload))
  | .candidateOutcome => repo.candidateOutcomes.rows.map (fun row => (row.tenantId, row.payload))
  | .managerFeedback => repo.managerFeedback.rows
  | .tenantPlaybook => repo.tenantPlaybooks.rows
  | .notification => repo.notifications.rows.map TenantRow.payload
  | .notificationAttempt =>
    repo.notificationAttempts.rows.map (fun attempt => (attempt.notificationId, attempt))
  | .actionDispatch => repo.actionDispatches.rows.map (fun row => (row.incidentId, row.payload))
  | .actionDispatchAttempt =>
    repo.actionDispatchAttempts.rows.map (fun attempt => (attempt.actionDispatchId, attempt))
  | .memoryAudit => repo.memoryAuditEvents.rows
  | .changeRecord => repo.changeRecords.rows
  | .providerOnboarding => repo.providerOnboardingRecords.rows
  | .legalHold => repo.legalHolds.rows.map TenantRow.payload
  | .deletionRequest => repo.deletionRequests.rows.map DeletionRequestRow.payload
  | .runtimeControlOverride => repo.runtimeControlOverrides.rows
  | .runtimeControlChange => repo.runtimeControlChanges.rows
  | .platformControlOverride => repo.platformControlOverrides.rows
  | .platformControlChange => repo.platformControlChanges.rows
  | .originalUpload => repo.originalUploads.rows.map (fun row => (row.tenantId, row.payload))

/-- The same records of every kind, in some order. -/
def Contents.Same (c c' : Contents β) : Prop := ∀ kind, (c kind).Perm (c' kind)

/-! ### What both purges keep -/

/-- The lists that a purge selects by. -/
structure Expiry where
  active : List LegalHoldRecord
  tripIds : List Uuid
  incidentIds : List Uuid
  notificationIds : List Uuid
  actionIds : List Uuid

/-- What the database's purge keeps. -/
def Expiry.keeps (e : Expiry) (cutoffs : Cutoffs) : (kind : Kind) → kind.Record β → Bool
  | .trip, trip => trip.tripId ∉ e.tripIds
  | .evidence, item => item.1 ∉ e.tripIds
  | .assessment, item => item.1 ∉ e.tripIds
  | .incident, incident => incident.incidentId ∉ e.incidentIds
  | .approval, approval => approval.incidentId ∉ e.incidentIds
  | .event, event => cutoffs.audit ≤ event.emittedAt
  | .profile, profile => !expiredForTraveler e.active profile.tenantId profile.travelerId
    profile.updatedAt cutoffs.before
  | .memoryProposal, proposal => !expiredForTraveler e.active proposal.tenantId
    proposal.travelerId proposal.createdAt cutoffs.before
  | .candidateSet, item => item.2.incidentId ∉ e.incidentIds
  | .candidateOutcome, item => item.2.incidentId ∉ e.incidentIds
  | .managerFeedback, feedback => feedback.incidentId ∉ e.incidentIds
  | .notification, notification => notification.notificationId ∉ e.notificationIds
  | .notificationAttempt, item => item.1 ∉ e.notificationIds
  | .actionDispatch, item => item.1 ∉ e.incidentIds
  | .actionDispatchAttempt, item => item.1 ∉ e.actionIds
  | .memoryAudit, event => cutoffs.audit ≤ event.occurredAt
  | .originalUpload, item => !expiredUpload e.active item.1 item.2 cutoffs.originalUpload
  | _, _ => true

/-- The same selections, in some order. -/
structure Expiry.Same (e e' : Expiry) : Prop where
  active : e.active.Perm e'.active
  tripIds : e.tripIds.Perm e'.tripIds
  incidentIds : e.incidentIds.Perm e'.incidentIds
  notificationIds : e.notificationIds.Perm e'.notificationIds
  actionIds : e.actionIds.Perm e'.actionIds

section Lists

variable {active active' : List LegalHoldRecord}

theorem heldTenants_perm (h : active.Perm active') :
    (heldTenants active).Perm (heldTenants active') := (h.filter _).map _

theorem heldTravelers_perm (h : active.Perm active') :
    (heldTravelers active).Perm (heldTravelers active') := h.filterMap _

theorem expiredForTraveler_congr (h : active.Perm active') :
    expiredForTraveler active = expiredForTraveler active' := by
  funext tenantId travelerId stamp before
  unfold expiredForTraveler
  simp only [(heldTravelers_perm h).mem_iff, (heldTenants_perm h).mem_iff]

theorem expiredUpload_congr (h : active.Perm active') :
    expiredUpload active = expiredUpload active' := by
  funext tenantId upload before
  unfold expiredUpload
  simp only [(heldTenants_perm h).mem_iff]

theorem expiredTripIds_perm (h : active.Perm active') {trips trips' : List Trip}
    (htrips : trips.Perm trips') (before : Time) :
    (expiredTripIds active trips before).Perm (expiredTripIds active' trips' before) := by
  have hheld : (heldTripIds active trips).Perm (heldTripIds active' trips') := by
    have hany : ∀ trip : Trip, active.any (fun hold => hold.holdsTrip trip) =
        active'.any (fun hold => hold.holdsTrip trip) := fun trip => h.any_eq
    unfold heldTripIds
    simp only [hany]
    exact (htrips.filter _).map _
  unfold expiredTripIds
  have hsame : (fun tripId => decide (tripId ∉ heldTripIds active trips)) =
      fun tripId => decide (tripId ∉ heldTripIds active' trips') :=
    funext fun tripId => decide_eq_decide.mpr (not_congr hheld.mem_iff)
  rw [hsame]
  exact ((htrips.filter _).map _).filter _

theorem expiredIncidentIds_perm {tripIds tripIds' : List Uuid} (h : tripIds.Perm tripIds')
    {incidents incidents' : List Incident} (hincidents : incidents.Perm incidents') :
    (expiredIncidentIds tripIds incidents).Perm (expiredIncidentIds tripIds' incidents') := by
  unfold expiredIncidentIds
  simp only [h.mem_iff]
  exact (hincidents.filter _).map _

end Lists

theorem Expiry.Same.keeps_eq {e e' : Expiry} (h : e.Same e') (cutoffs : Cutoffs) (kind : Kind) :
    (e.keeps cutoffs kind : kind.Record β → Bool) = e'.keeps cutoffs kind := by
  funext record
  cases kind <;>
    simp only [keeps, h.tripIds.mem_iff, h.incidentIds.mem_iff, h.notificationIds.mem_iff,
      h.actionIds.mem_iff, expiredForTraveler_congr h.active, expiredUpload_congr h.active]

/-! ### The two purges on their contents -/

theorem Table.mem_filed {κ α : Type} {t : Table (Bucket.id (κ := κ) (α := α))} {item : κ × α} :
    item ∈ t.filed ↔ ∃ b ∈ t, b.id = item.1 ∧ item.2 ∈ b.items := by
  simp only [filed, List.mem_flatMap, List.mem_map, mem_def]
  refine exists_congr fun b => and_congr_right fun _ => ⟨?_, ?_⟩
  · rintro ⟨a, ha, rfl⟩
    exact ⟨rfl, ha⟩
  · exact fun ⟨hid, hmem⟩ => ⟨item.2, hmem, Prod.ext hid rfl⟩

theorem Table.filed_filter {κ α : Type} (t : Table (Bucket.id (κ := κ) (α := α))) (p : κ → Bool) :
    (t.filter (fun b => p b.id)).filed = t.filed.filter (fun item => p item.1) := by
  unfold filed
  rw [filter_rows]
  induction t.rows with
  | nil => rfl
  | cons b rows ih =>
    have hitems : ∀ item ∈ b.items.map (fun item => (b.id, item)), p item.1 = p b.id := by
      intro item hitem
      obtain ⟨a, -, rfl⟩ := List.mem_map.mp hitem
      rfl
    rw [List.flatMap_cons, List.filter_append, List.filter_congr hitems, ← ih]
    rw [List.filter_cons]
    cases p b.id with
    | true => rw [if_pos rfl, List.flatMap_cons, List.filter_true]
    | false => rw [if_neg Bool.false_ne_true, List.filter_false, List.nil_append]

namespace InMemoryRepository

variable (repo : InMemoryRepository β) (now : Time) (cutoffs : Cutoffs)

def expiry : Expiry where
  active := repo.active now
  tripIds := expiredTripIds (repo.active now) repo.trips.rows cutoffs.before
  incidentIds := expiredIncidentIds
    (expiredTripIds (repo.active now) repo.trips.rows cutoffs.before) repo.incidents.rows
  notificationIds := (repo.notifications.rows.filter (fun n => n.createdAt < cutoffs.before)).map
    NotificationRecord.notificationId
  actionIds := (repo.actionDispatches.rows.filter (fun a => a.incidentId ∈ expiredIncidentIds
    (expiredTripIds (repo.active now) repo.trips.rows cutoffs.before) repo.incidents.rows)).map
      ActionDispatchRecord.actionDispatchId

/-- The action of an attempt is stored. -/
def HasAction (actionId : Uuid) : Prop :=
  ∃ action ∈ repo.actionDispatches, action.actionDispatchId = actionId

/-- The in-memory purge filters what it holds, as the database's does but for two kinds. -/
theorem contents_purgeExpired {kind : Kind} (hidempotency : kind ≠ .idempotencyRecord)
    (hattempt : kind ≠ .actionDispatchAttempt) :
    (repo.purgeExpired now cutoffs).2.contents kind =
      (repo.contents kind).filter ((repo.expiry now cutoffs).keeps cutoffs kind) := by
  cases kind with
  | idempotencyRecord => exact absurd rfl hidempotency
  | actionDispatchAttempt => exact absurd rfl hattempt
  | evidence => exact repo.evidence.filed_filter (fun id => id ∉ (repo.expiry now cutoffs).tripIds)
  | assessment => exact repo.assessments.filed_filter (fun id => id ∉ (repo.expiry now cutoffs).tripIds)
  | notificationAttempt =>
    exact repo.notificationAttempts.filed_filter
      (fun id => id ∉ (repo.expiry now cutoffs).notificationIds)
  | _ =>
    dsimp only [contents]
    first | rfl | exact (List.filter_true _).symm | (rw [List.filter_map]; rfl)

variable {repo now cutoffs}

/-- An action is left when it is stored and does not go. -/
theorem isSome_find?_left {actionId : Uuid} :
    ((repo.purgeExpired now cutoffs).2.actionDispatches.find? actionId).isSome ↔
      repo.HasAction actionId ∧ actionId ∉ (repo.expiry now cutoffs).actionIds := by
  refine (isSome_find?_actions _).trans ⟨?_, ?_⟩
  · rintro ⟨action, hmem, rfl, hout⟩
    refine ⟨⟨action, hmem, rfl⟩, fun hin => hout ?_⟩
    exact of_decide_eq_true ((repo.actionDispatches.key_mem_filter hmem _).mp hin)
  · rintro ⟨⟨action, hmem, rfl⟩, hout⟩
    refine ⟨action, hmem, rfl, fun hin => hout ?_⟩
    exact (repo.actionDispatches.key_mem_filter hmem _).mpr (decide_eq_true hin)

theorem attempts_purgeExpired :
    (repo.purgeExpired now cutoffs).2.contents .actionDispatchAttempt =
      (repo.contents .actionDispatchAttempt).filter (fun item =>
        ((repo.purgeExpired now cutoffs).2.actionDispatches.find? item.1).isSome) :=
  repo.actionDispatchAttempts.filed_filter
    (fun id => ((repo.purgeExpired now cutoffs).2.actionDispatches.find? id).isSome)

end InMemoryRepository

namespace PostgresRepository

variable (repo : PostgresRepository β) (now : Time) (cutoffs : Cutoffs)

def expiry : Expiry where
  active := repo.active now
  tripIds := expiredTripIds (repo.active now) repo.tripPayloads cutoffs.before
  incidentIds := expiredIncidentIds
    (expiredTripIds (repo.active now) repo.tripPayloads cutoffs.before) repo.incidentPayloads
  notificationIds := (repo.notifications.rows.filter
    (fun row => row.payload.createdAt < cutoffs.before)).map (fun row => row.payload.notificationId)
  actionIds := (repo.actionDispatches.rows.filter (fun row => row.incidentId ∈ expiredIncidentIds
    (expiredTripIds (repo.active now) repo.tripPayloads cutoffs.before) repo.incidentPayloads)).map
      (fun row => row.payload.actionDispatchId)

/-- The database's purge filters what it holds. -/
theorem contents_purgeExpired (kind : Kind) :
    (repo.purgeExpired now cutoffs).2.contents kind =
      (repo.contents kind).filter ((repo.expiry now cutoffs).keeps cutoffs kind) := by
  cases kind <;> dsimp only [contents, tripPayloads, incidentPayloads] <;>
    first | rfl | exact (List.filter_true _).symm | (rw [List.filter_map]; rfl)

end PostgresRepository

/-! ### Where the two part -/

/-- Two filters of the same records agree where the weaker one keeps no more. -/
theorem filter_perm_filter_iff {α : Type} {l l' : List α} (h : l.Perm l') {p q : α → Bool}
    (hpq : ∀ a, p a = true → q a = true) :
    (l.filter p).Perm (l'.filter q) ↔ ∀ a ∈ l, q a = true → p a = true := by
  have hswap : (l.filter p).Perm (l'.filter q) ↔ (l.filter p).Perm (l.filter q) :=
    ⟨fun hperm => hperm.trans (h.filter q).symm, fun hperm => hperm.trans (h.filter q)⟩
  rw [hswap]
  constructor
  · intro hperm a ha hq
    exact (List.mem_filter.mp (hperm.mem_iff.mpr (List.mem_filter.mpr ⟨ha, hq⟩))).2
  · intro hqp
    rw [List.filter_congr fun a ha => Bool.eq_iff_iff.mpr ⟨hpq a, hqp a ha⟩]

variable {mem : InMemoryRepository β} {db : PostgresRepository β} {now : Time} {cutoffs : Cutoffs}

theorem Contents.Same.expiry (h : mem.contents.Same db.contents) :
    (mem.expiry now cutoffs).Same (db.expiry now cutoffs) := by
  have hactive : (mem.active now).Perm (db.active now) := (h .legalHold).filter _
  have htrips := expiredTripIds_perm hactive (h .trip) cutoffs.before
  have hincidents := expiredIncidentIds_perm htrips (h .incident)
  have hsent := ((h .notification).filter (fun n => n.createdAt < cutoffs.before)).map
    NotificationRecord.notificationId
  have hgone := ((h .actionDispatch).filter (fun item =>
    item.1 ∈ (mem.expiry now cutoffs).incidentIds)).map (fun item => item.2.actionDispatchId)
  refine ⟨hactive, htrips, hincidents, ?_, ?_⟩
  · refine hsent.trans (.of_eq ?_)
    show ((db.notifications.rows.map TenantRow.payload).filter _).map _ = _
    rw [List.filter_map, List.map_map]
    rfl
  · have hmem : (mem.expiry now cutoffs).actionIds = ((mem.contents .actionDispatch).filter
        (fun item => item.1 ∈ (mem.expiry now cutoffs).incidentIds)).map
          (fun item => item.2.actionDispatchId) := by
      show _ = ((mem.actionDispatches.rows.map _).filter _).map _
      rw [List.filter_map, List.map_map]
      rfl
    have hdb : ((db.contents .actionDispatch).filter (fun item =>
        item.1 ∈ (mem.expiry now cutoffs).incidentIds)).map (fun item => item.2.actionDispatchId) =
          (db.expiry now cutoffs).actionIds := by
      have hsame : ∀ id, id ∈ (mem.expiry now cutoffs).incidentIds ↔
          id ∈ (db.expiry now cutoffs).incidentIds := fun id => hincidents.mem_iff
      simp only [hsame]
      show ((db.actionDispatches.rows.map _).filter _).map _ = _
      rw [List.filter_map, List.map_map]
      rfl
    rw [hmem]
    exact hgone.trans (.of_eq hdb)

/-- What the purges keep of a kind differs for two kinds alone. -/
theorem purged_perm (h : mem.contents.Same db.contents) {kind : Kind}
    (hidempotency : kind ≠ .idempotencyRecord) (hattempt : kind ≠ .actionDispatchAttempt) :
    ((mem.purgeExpired now cutoffs).2.contents kind).Perm
      ((db.purgeExpired now cutoffs).2.contents kind) := by
  rw [mem.contents_purgeExpired now cutoffs hidempotency hattempt, db.contents_purgeExpired,
    ← h.expiry.keeps_eq cutoffs kind]
  exact (h kind).filter _

theorem purged_idempotency_iff (h : mem.contents.Same db.contents) :
    ((mem.purgeExpired now cutoffs).2.contents .idempotencyRecord).Perm
        ((db.purgeExpired now cutoffs).2.contents .idempotencyRecord) ↔
      ∀ record ∈ mem.idempotencyRecords, cutoffs.before ≤ record.expiresAt := by
  rw [db.contents_purgeExpired]
  refine (filter_perm_filter_iff (h .idempotencyRecord)
    (p := fun record => decide (cutoffs.before ≤ record.expiresAt)) fun _ _ => rfl).trans ?_
  exact forall₂_congr fun record _ => ⟨fun hkept => of_decide_eq_true (hkept rfl),
    fun hlate _ => decide_eq_true hlate⟩

/-- An attempt that the database keeps stays in memory when its action is stored. -/
theorem purged_attempts_iff (h : mem.contents.Same db.contents) :
    ((mem.purgeExpired now cutoffs).2.contents .actionDispatchAttempt).Perm
        ((db.purgeExpired now cutoffs).2.contents .actionDispatchAttempt) ↔
      ∀ b ∈ mem.actionDispatchAttempts, b.items ≠ [] → mem.HasAction b.id := by
  rw [db.contents_purgeExpired, ← h.expiry.keeps_eq cutoffs .actionDispatchAttempt,
    InMemoryRepository.attempts_purgeExpired]
  refine (filter_perm_filter_iff (h .actionDispatchAttempt) fun item hitem => ?_).trans ?_
  · exact decide_eq_true (InMemoryRepository.isSome_find?_left.mp hitem).2
  constructor
  · intro hkept b hb hitems
    obtain ⟨a, ha⟩ := List.exists_mem_of_ne_nil _ hitems
    have hitem : (b.id, a) ∈ mem.contents .actionDispatchAttempt :=
      Table.mem_filed.mpr ⟨b, hb, rfl, ha⟩
    by_cases hout : b.id ∈ (mem.expiry now cutoffs).actionIds
    · obtain ⟨action, haction, hid⟩ := List.mem_map.mp hout
      exact ⟨action, (List.mem_filter.mp haction).1, hid⟩
    · have hleft := hkept (b.id, a) hitem (decide_eq_true hout)
      exact (InMemoryRepository.isSome_find?_left.mp hleft).1
  · intro hhas item hitem hout
    obtain ⟨b, hb, hid, hmem⟩ := Table.mem_filed.mp hitem
    refine InMemoryRepository.isSome_find?_left.mpr ⟨?_, of_decide_eq_true hout⟩
    exact hid ▸ hhas b hb (List.ne_nil_of_mem hmem)

/-! ### What the purges count -/

namespace PurgeCounts

/-- The counts that go by records in both repositories. -/
def recordCounts (counts : PurgeCounts) : List (Kind × ℕ) :=
  [(.trip, counts.trips), (.incident, counts.incidents), (.profile, counts.profiles),
    (.memoryProposal, counts.memoryProposals), (.notification, counts.notifications),
    (.originalUpload, counts.originalUploads), (.event, counts.auditEvents),
    (.memoryAudit, counts.memoryAudits)]

def byKind (counts : PurgeCounts) : List (Kind × ℕ) :=
  (.evidence, counts.evidence) :: (.assessment, counts.assessments) :: counts.recordCounts

end PurgeCounts

/-- As many records of the kind went as are counted. -/
def Counts (before after : Contents β) (count : Kind × ℕ) : Prop :=
  count.2 + (after count.1).length = (before count.1).length

theorem counts_of_filter {c c' : Contents β} {kind : Kind} {n : ℕ} {p : kind.Record β → Bool}
    (hafter : c' kind = (c kind).filter p)
    (hn : n = ((c kind).filter (fun record => !p record)).length) : Counts c c' (kind, n) := by
  show n + (c' kind).length = (c kind).length
  rw [hafter, hn, Nat.add_comm]
  exact (List.length_eq_length_filter_add p).symm

/-- As many rows have the keys of some rows as there are such rows. -/
theorem Table.length_keys {α κ : Type} [DecidableEq κ] {key : α → κ} (t : Table key)
    (p : α → Bool) : ((t.rows.filter p).map key).length =
      (t.rows.filter (fun a => !decide (key a ∉ (t.rows.filter p).map key))).length := by
  rw [List.length_map]
  refine congrArg List.length (List.filter_congr fun a ha => ?_)
  rw [decide_not, Bool.not_not, Bool.eq_iff_iff, decide_eq_true_iff]
  exact (t.key_mem_filter ha p).symm

theorem length_expiredTripIds {active : List LegalHoldRecord} {trips : List Trip}
    (h : (trips.map Trip.tripId).Nodup) (before : Time) :
    (expiredTripIds active trips before).length = (trips.filter (fun trip =>
      !decide (trip.tripId ∉ expiredTripIds active trips before))).length := by
  have hfilter : expiredTripIds active trips before = (trips.filter (fun trip =>
      decide (trip.tripId ∉ heldTripIds active trips) && decide (trip.createdAt < before))).map
        Trip.tripId := by
    unfold expiredTripIds
    rw [List.filter_map, List.filter_filter]
    rfl
  rw [hfilter]
  exact (⟨trips, h⟩ : Table Trip.tripId).length_keys _

theorem length_expiredIncidentIds {tripIds : List Uuid} {incidents : List Incident}
    (h : (incidents.map Incident.incidentId).Nodup) :
    (expiredIncidentIds tripIds incidents).length = (incidents.filter (fun incident =>
      !decide (incident.incidentId ∉ expiredIncidentIds tripIds incidents))).length :=
  (⟨incidents, h⟩ : Table Incident.incidentId).length_keys _

namespace InMemoryRepository

theorem counts_purgeExpired (repo : InMemoryRepository β) (now : Time) (cutoffs : Cutoffs) :
    ∀ count ∈ (repo.purgeExpired now cutoffs).1.recordCounts,
      Counts repo.contents (repo.purgeExpired now cutoffs).2.contents count := by
  have hfilter : ∀ kind : Kind, kind ≠ .idempotencyRecord → kind ≠ .actionDispatchAttempt →
      ∀ {n : ℕ}, n = ((repo.contents kind).filter
        (fun record => !(repo.expiry now cutoffs).keeps cutoffs kind record)).length →
      Counts repo.contents (repo.purgeExpired now cutoffs).2.contents (kind, n) :=
    fun kind hidempotency hattempt n hn => counts_of_filter
      (repo.contents_purgeExpired now cutoffs hidempotency hattempt) hn
  simp only [PurgeCounts.recordCounts, List.forall_mem_cons]
  refine ⟨hfilter .trip nofun nofun ?_, hfilter .incident nofun nofun ?_,
    hfilter .profile nofun nofun ?_, hfilter .memoryProposal nofun nofun ?_,
    hfilter .notification nofun nofun ?_, hfilter .originalUpload nofun nofun ?_,
    hfilter .event nofun nofun ?_, hfilter .memoryAudit nofun nofun ?_, nofun⟩
  · exact length_expiredTripIds repo.trips.nodup cutoffs.before
  · exact length_expiredIncidentIds repo.incidents.nodup
  · exact congrArg List.length (List.filter_congr fun _ _ => (Bool.not_not _).symm)
  · exact congrArg List.length (List.filter_congr fun _ _ => (Bool.not_not _).symm)
  · exact (List.length_map NotificationRecord.notificationId).symm.trans
      (repo.notifications.length_keys _)
  · show _ = ((repo.originalUploads.rows.map _).filter _).length
    rw [List.filter_map, List.length_map]
    exact congrArg List.length (List.filter_congr fun _ _ => (Bool.not_not _).symm)
  · refine congrArg List.length (List.filter_congr fun event _ => ?_)
    exact (decide_eq_decide.mpr not_le.symm).trans decide_not
  · refine congrArg List.length (List.filter_congr fun event _ => ?_)
    exact (decide_eq_decide.mpr not_le.symm).trans decide_not

end InMemoryRepository

namespace PostgresRepository

theorem counts_purgeExpired (repo : PostgresRepository β) (now : Time) (cutoffs : Cutoffs) :
    ∀ count ∈ (repo.purgeExpired now cutoffs).1.recordCounts,
      Counts repo.contents (repo.purgeExpired now cutoffs).2.contents count := by
  have hfilter : ∀ (kind : Kind) {n : ℕ}, n = ((repo.contents kind).filter
        (fun record => !(repo.expiry now cutoffs).keeps cutoffs kind record)).length →
      Counts repo.contents (repo.purgeExpired now cutoffs).2.contents (kind, n) :=
    fun kind n hn => counts_of_filter (repo.contents_purgeExpired now cutoffs kind) hn
  have htrips : (repo.tripPayloads.map Trip.tripId).Nodup := by
    unfold tripPayloads
    rw [List.map_map]
    exact repo.trips.nodup
  have hincidents : (repo.incidentPayloads.map Incident.incidentId).Nodup := by
    unfold incidentPayloads
    rw [List.map_map]
    exact repo.incidents.nodup
  simp only [PurgeCounts.recordCounts, List.forall_mem_cons]
  refine ⟨hfilter .trip ?_, hfilter .incident ?_, hfilter .profile ?_, hfilter .memoryProposal ?_,
    hfilter .notification ?_, hfilter .originalUpload ?_, hfilter .event ?_,
    hfilter .memoryAudit ?_, nofun⟩
  · exact length_expiredTripIds htrips cutoffs.before
  · exact length_expiredIncidentIds hincidents
  · exact congrArg List.length (List.filter_congr fun _ _ => (Bool.not_not _).symm)
  · show _ = ((repo.memoryProposals.rows.map _).filter _).length
    rw [List.filter_map, List.length_map]
    exact congrArg List.length (List.filter_congr fun _ _ => (Bool.not_not _).symm)
  · show _ = ((repo.notifications.rows.map _).filter _).length
    rw [List.filter_map, List.length_map]
    exact repo.notifications.length_keys _
  · show _ = ((repo.originalUploads.rows.map _).filter _).length
    rw [List.filter_map, List.length_map]
    exact congrArg List.length (List.filter_congr fun _ _ => (Bool.not_not _).symm)
  · refine congrArg List.length (List.filter_congr fun event _ => ?_)
    exact (decide_eq_decide.mpr not_le.symm).trans decide_not
  · refine congrArg List.length (List.filter_congr fun event _ => ?_)
    exact (decide_eq_decide.mpr not_le.symm).trans decide_not

end PostgresRepository

/-! ### When the two agree -/

/-- Both purges leave the same records, return the same counts, and count what they removed. -/
structure SameRetention (mem : InMemoryRepository β) (db : PostgresRepository β) (now : Time)
    (cutoffs : Cutoffs) : Prop where
  left : (mem.purgeExpired now cutoffs).2.contents.Same (db.purgeExpired now cutoffs).2.contents
  counts : (mem.purgeExpired now cutoffs).1 = (db.purgeExpired now cutoffs).1
  memCounts : ∀ count ∈ (mem.purgeExpired now cutoffs).1.byKind,
    Counts mem.contents (mem.purgeExpired now cutoffs).2.contents count
  dbCounts : ∀ count ∈ (db.purgeExpired now cutoffs).1.byKind,
    Counts db.contents (db.purgeExpired now cutoffs).2.contents count

/-- No idempotency record is outdated, every attempt has its action, and the expired trips have
a list of evidence and of assessments each, with as many items in all as there are trips. -/
structure InMemoryRepository.PurgesAlike (repo : InMemoryRepository β) (now : Time)
    (cutoffs : Cutoffs) : Prop where
  idempotency : ∀ record ∈ repo.idempotencyRecords, cutoffs.before ≤ record.expiresAt
  attempts : ∀ b ∈ repo.actionDispatchAttempts, b.items ≠ [] → repo.HasAction b.id
  evidence : ∀ tripId, repo.archive.OnExpiredTrip (repo.active now) cutoffs tripId →
    ∃ b ∈ repo.evidence, b.id = tripId
  assessments : ∀ tripId, repo.archive.OnExpiredTrip (repo.active now) cutoffs tripId →
    ∃ b ∈ repo.assessments, b.id = tripId
  evidenceItems : (repo.evidence.filed.filter (fun item => item.1 ∈ expiredTripIds
    (repo.active now) repo.trips.rows cutoffs.before)).length =
      (expiredTripIds (repo.active now) repo.trips.rows cutoffs.before).length
  assessmentItems : (repo.assessments.filed.filter (fun item => item.1 ∈ expiredTripIds
    (repo.active now) repo.trips.rows cutoffs.before)).length =
      (expiredTripIds (repo.active now) repo.trips.rows cutoffs.before).length

/-- As many lists are under some keys as there are keys, when each key has one. -/
theorem Table.length_lists_iff {κ α : Type} [DecidableEq κ]
    (t : Table (Bucket.id (κ := κ) (α := α))) {ks : List κ} (hks : ks.Nodup) :
    (t.rows.filter (fun b => b.id ∈ ks)).length = ks.length ↔ ∀ k ∈ ks, ∃ b ∈ t, b.id = k := by
  have hsub : (t.rows.filter (fun b => b.id ∈ ks)).map Bucket.id ⊆ ks := by
    intro k hk
    obtain ⟨b, hb, rfl⟩ := List.mem_map.mp hk
    exact of_decide_eq_true (List.mem_filter.mp hb).2
  have hnodup : ((t.rows.filter (fun b => b.id ∈ ks)).map Bucket.id).Nodup :=
    t.nodup.sublist (List.filter_sublist.map _)
  rw [← List.length_map Bucket.id]
  constructor
  · intro hlength k hk
    have hperm := (hnodup.subperm hsub).perm_of_length_le hlength.ge
    obtain ⟨b, hb, hid⟩ := List.mem_map.mp (hperm.mem_iff.mpr hk)
    exact ⟨b, (List.mem_filter.mp hb).1, hid⟩
  · intro hall
    refine ((List.perm_ext_iff_of_nodup hnodup hks).mpr fun k => ⟨@hsub k, fun hk => ?_⟩).length_eq
    obtain ⟨b, hb, rfl⟩ := hall k hk
    exact List.mem_map_of_mem (List.mem_filter.mpr ⟨hb, decide_eq_true hk⟩)

theorem nodup_expiredTripIds {active : List LegalHoldRecord} {trips : List Trip}
    (h : (trips.map Trip.tripId).Nodup) (before : Time) :
    (expiredTripIds active trips before).Nodup :=
  (h.sublist (List.filter_sublist.map _)).sublist List.filter_sublist

theorem eq_of_counts {c c' d d' : Contents β} {kind : Kind} {n m : ℕ}
    (hbefore : (c kind).Perm (d kind)) (hafter : (c' kind).Perm (d' kind))
    (hn : Counts c c' (kind, n)) (hm : Counts d d' (kind, m)) : n = m := by
  have hn : n + (c' kind).length = (c kind).length := hn
  have hm : m + (d' kind).length = (d kind).length := hm
  rw [hbefore.length_eq, hafter.length_eq] at hn
  omega

/-- On the same records both purges count the records of eight kinds alike. -/
theorem recordCounts_eq (h : mem.contents.Same db.contents) :
    (mem.purgeExpired now cutoffs).1.recordCounts =
      (db.purgeExpired now cutoffs).1.recordCounts := by
  have hmem := mem.counts_purgeExpired now cutoffs
  have hdb := db.counts_purgeExpired now cutoffs
  have heq : ∀ (kind : Kind) {n m : ℕ}, kind ≠ .idempotencyRecord →
      kind ≠ .actionDispatchAttempt →
      Counts mem.contents (mem.purgeExpired now cutoffs).2.contents (kind, n) →
      Counts db.contents (db.purgeExpired now cutoffs).2.contents (kind, m) → n = m :=
    fun kind _ _ hidempotency hattempt hn hm =>
      eq_of_counts (h kind) (purged_perm h hidempotency hattempt) hn hm
  simp only [PurgeCounts.recordCounts, List.forall_mem_cons] at hmem hdb
  obtain ⟨hm₁, hm₂, hm₃, hm₄, hm₅, hm₆, hm₇, hm₈, -⟩ := hmem
  obtain ⟨hd₁, hd₂, hd₃, hd₄, hd₅, hd₆, hd₇, hd₈, -⟩ := hdb
  unfold PurgeCounts.recordCounts
  rw [heq .trip nofun nofun hm₁ hd₁, heq .incident nofun nofun hm₂ hd₂,
    heq .profile nofun nofun hm₃ hd₃, heq .memoryProposal nofun nofun hm₄ hd₄,
    heq .notification nofun nofun hm₅ hd₅, heq .originalUpload nofun nofun hm₆ hd₆,
    heq .event nofun nofun hm₇ hd₇, heq .memoryAudit nofun nofun hm₈ hd₈]

theorem purgeCounts_eq_iff (h : mem.contents.Same db.contents) :
    (mem.purgeExpired now cutoffs).1 = (db.purgeExpired now cutoffs).1 ↔
      (∀ tripId, mem.archive.OnExpiredTrip (mem.active now) cutoffs tripId →
        ∃ b ∈ mem.evidence, b.id = tripId) ∧
      ∀ tripId, mem.archive.OnExpiredTrip (mem.active now) cutoffs tripId →
        ∃ b ∈ mem.assessments, b.id = tripId := by
  have hids : (mem.expiry now cutoffs).tripIds.Nodup :=
    nodup_expiredTripIds mem.trips.nodup cutoffs.before
  have hdb : (db.expiry now cutoffs).tripIds.length = (mem.expiry now cutoffs).tripIds.length :=
    h.expiry.tripIds.length_eq.symm
  have hevidence : (mem.purgeExpired now cutoffs).1.evidence =
      (db.purgeExpired now cutoffs).1.evidence ↔ ∀ tripId,
        mem.archive.OnExpiredTrip (mem.active now) cutoffs tripId →
          ∃ b ∈ mem.evidence, b.id = tripId := by
    show _ = (db.expiry now cutoffs).tripIds.length ↔ _
    rw [hdb]
    simp only [← InMemoryRepository.mem_expiredTripIds]
    exact mem.evidence.length_lists_iff hids
  have hassessments : (mem.purgeExpired now cutoffs).1.assessments =
      (db.purgeExpired now cutoffs).1.assessments ↔ ∀ tripId,
        mem.archive.OnExpiredTrip (mem.active now) cutoffs tripId →
          ∃ b ∈ mem.assessments, b.id = tripId := by
    show _ = (db.expiry now cutoffs).tripIds.length ↔ _
    rw [hdb]
    simp only [← InMemoryRepository.mem_expiredTripIds]
    exact mem.assessments.length_lists_iff hids
  rw [← hevidence, ← hassessments]
  refine ⟨fun heq => ⟨congrArg _ heq, congrArg _ heq⟩, fun ⟨he, ha⟩ => ?_⟩
  have hrest : (mem.purgeExpired now cutoffs).1.recordCounts =
    (db.purgeExpired now cutoffs).1.recordCounts := recordCounts_eq h
  generalize (mem.purgeExpired now cutoffs).1 = counts at he ha hrest
  generalize (db.purgeExpired now cutoffs).1 = counts' at he ha hrest
  cases counts
  cases counts'
  simp_all [PurgeCounts.recordCounts]

/-- The lists of some kind on the expired trips are counted, not their items. -/
theorem counts_lists_iff {α : Type} (t : Table (Bucket.id (κ := Uuid) (α := α))) (ids : List Uuid) :
    (t.rows.filter (fun b => b.id ∈ ids)).length +
        (t.filed.filter (fun item => item.1 ∉ ids)).length = t.filed.length ↔
      (t.filed.filter (fun item => item.1 ∈ ids)).length =
        (t.rows.filter (fun b => b.id ∈ ids)).length := by
  rw [List.length_eq_length_filter_add (l := t.filed) (fun item => decide (item.1 ∈ ids))]
  simp only [decide_not]
  omega

/-- On repositories that hold the same records, the retention is the same exactly when the
in-memory purge drops nothing that the database's keeps and each count is one per trip. -/
theorem sameRetention_iff (mem : InMemoryRepository β) (db : PostgresRepository β) (now : Time)
    (cutoffs : Cutoffs) (h : mem.contents.Same db.contents) :
    SameRetention mem db now cutoffs ↔ mem.PurgesAlike now cutoffs := by
  have hids : (mem.expiry now cutoffs).tripIds.Nodup :=
    nodup_expiredTripIds mem.trips.nodup cutoffs.before
  have hlists : ∀ {α : Type} (t : Table (Bucket.id (κ := Uuid) (α := α))),
      (∀ tripId, mem.archive.OnExpiredTrip (mem.active now) cutoffs tripId →
        ∃ b ∈ t, b.id = tripId) →
      (t.rows.filter (fun b => b.id ∈ (mem.expiry now cutoffs).tripIds)).length =
        (mem.expiry now cutoffs).tripIds.length := by
    intro α t hall
    exact (t.length_lists_iff hids).mpr
      fun tripId hid => hall tripId (InMemoryRepository.mem_expiredTripIds.mp hid)
  have hcounted : (∀ count ∈ (mem.purgeExpired now cutoffs).1.byKind,
      Counts mem.contents (mem.purgeExpired now cutoffs).2.contents count) ↔
      (mem.evidence.filed.filter (fun item => item.1 ∈ (mem.expiry now cutoffs).tripIds)).length =
        (mem.purgeExpired now cutoffs).1.evidence ∧
      (mem.assessments.filed.filter
          (fun item => item.1 ∈ (mem.expiry now cutoffs).tripIds)).length =
        (mem.purgeExpired now cutoffs).1.assessments := by
    have hevidence : (mem.purgeExpired now cutoffs).2.contents .evidence =
        (mem.contents .evidence).filter _ := mem.contents_purgeExpired now cutoffs nofun nofun
    have hassessments : (mem.purgeExpired now cutoffs).2.contents .assessment =
        (mem.contents .assessment).filter _ := mem.contents_purgeExpired now cutoffs nofun nofun
    unfold PurgeCounts.byKind
    rw [List.forall_mem_cons, List.forall_mem_cons, ← and_assoc,
      and_iff_left (mem.counts_purgeExpired now cutoffs)]
    unfold Counts
    rw [hevidence, hassessments]
    exact and_congr (counts_lists_iff mem.evidence _) (counts_lists_iff mem.assessments _)
  constructor
  · intro hsame
    obtain ⟨hevidence, hassessments⟩ := (purgeCounts_eq_iff h).mp hsame.counts
    obtain ⟨hevidenceItems, hassessmentItems⟩ := hcounted.mp hsame.memCounts
    exact ⟨(purged_idempotency_iff h).mp (hsame.left .idempotencyRecord),
      (purged_attempts_iff h).mp (hsame.left .actionDispatchAttempt), hevidence, hassessments,
      hevidenceItems.trans (hlists mem.evidence hevidence),
      hassessmentItems.trans (hlists mem.assessments hassessments)⟩
  · intro halike
    have hcounts : (mem.purgeExpired now cutoffs).1 = (db.purgeExpired now cutoffs).1 :=
      (purgeCounts_eq_iff h).mpr ⟨halike.evidence, halike.assessments⟩
    have hleft : (mem.purgeExpired now cutoffs).2.contents.Same
        (db.purgeExpired now cutoffs).2.contents := by
      intro kind
      by_cases hidempotency : kind = .idempotencyRecord
      · subst hidempotency
        exact (purged_idempotency_iff h).mpr halike.idempotency
      by_cases hattempt : kind = .actionDispatchAttempt
      · subst hattempt
        exact (purged_attempts_iff h).mpr halike.attempts
      exact purged_perm h hidempotency hattempt
    have hmem : ∀ count ∈ (mem.purgeExpired now cutoffs).1.byKind,
        Counts mem.contents (mem.purgeExpired now cutoffs).2.contents count :=
      hcounted.mpr ⟨halike.evidenceItems.trans (hlists mem.evidence halike.evidence).symm,
        halike.assessmentItems.trans (hlists mem.assessments halike.assessments).symm⟩
    refine ⟨hleft, hcounts, hmem, fun count hcount => ?_⟩
    have hcounted := hmem count (hcounts ▸ hcount)
    unfold Counts at hcounted ⊢
    rw [← (h count.1).length_eq, ← (hleft count.1).length_eq]
    exact hcounted

theorem flown_same : flownInMemory.contents.Same flownInDatabase.contents := by
  intro kind
  cases kind <;> exact .refl _

/-- A trip without evidence expires: in memory no evidence is counted, in the database a list. -/
theorem purges_count_apart :
    flownInMemory.contents.Same flownInDatabase.contents ∧
      (flownInMemory.purgeExpired (minutes 120) { before := minutes 90 }).1.evidence = 0 ∧
      (flownInDatabase.purgeExpired (minutes 120) { before := minutes 90 }).1.evidence = 1 ∧
      ¬SameRetention flownInMemory flownInDatabase (minutes 120) { before := minutes 90 } :=
  ⟨flown_same, by decide, by decide, fun hsame =>
    absurd (congrArg PurgeCounts.evidence hsame.counts) (by decide)⟩

/-- What was observed of the flown trip. -/
def flownEvidence : EvidenceEnvelope where
  evidenceId := .v4 1
  sourceName := "airline"
  sourceType := "flight_status"
  sourceUrlOrRecordId := "SK865"
  retrievedAt := 0
  expiresAt := minutes 10

def flownAssessment : RiskAssessment where
  assessmentId := .v4 2
  tripId := flownTrip.tripId
  policyVersion := "mvp-2026-07-14"
  riskScore := ⟨0, by norm_num⟩
  severity := .low
  factorContributions := []
  assessmentTime := 0
  evidenceIds := [.v4 1]
  unknownFactors := []
  uncertainty := "low"

def assessedInMemory : InMemoryRepository Unit :=
  { flownInMemory with
    evidence := Table.empty.put ⟨flownTrip.tripId, [flownEvidence]⟩
    assessments := Table.empty.push flownTrip.tripId flownAssessment }

def assessedInDatabase : PostgresRepository Unit :=
  { flownInDatabase with
    evidenceItems := Table.empty.put ⟨"acme", flownTrip.tripId, flownEvidence⟩
    assessments := Table.empty.put ⟨"acme", flownAssessment⟩ }

/-- With one item of evidence and one assessment, a trip that expires is counted alike. -/
theorem sameRetention_iff_sample :
    SameRetention assessedInMemory assessedInDatabase (minutes 120) { before := minutes 90 } ∧
      (assessedInMemory.purgeExpired (minutes 120) { before := minutes 90 }).1.trips = 1 ∧
      (assessedInMemory.purgeExpired (minutes 120) { before := minutes 90 }).1.evidence = 1 ∧
      (assessedInMemory.purgeExpired (minutes 120) { before := minutes 90 }).1.assessments = 1 := by
  have hsame : assessedInMemory.contents.Same assessedInDatabase.contents := by
    intro kind
    cases kind <;> exact .refl _
  have hexpired : ∀ tripId, assessedInMemory.archive.OnExpiredTrip
      (assessedInMemory.active (minutes 120)) { before := minutes 90 } tripId →
        tripId = flownTrip.tripId := by
    intro tripId hon
    have hids : expiredTripIds (assessedInMemory.active (minutes 120)) assessedInMemory.trips.rows
        (minutes 90) = [flownTrip.tripId] := by decide
    exact List.mem_singleton.mp (hids ▸ InMemoryRepository.mem_expiredTripIds.mpr hon)
  refine ⟨(sameRetention_iff assessedInMemory assessedInDatabase (minutes 120)
    { before := minutes 90 } hsame).mpr ⟨nofun, nofun, fun tripId hon => ?_, fun tripId hon => ?_,
      by decide, by decide⟩, by decide, by decide, by decide⟩
  · exact ⟨_, List.mem_singleton_self _, (hexpired tripId hon).symm⟩
  · exact ⟨_, List.mem_singleton_self _, (hexpired tripId hon).symm⟩

end RouteShield
