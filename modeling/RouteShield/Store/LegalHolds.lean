import RouteShield.Store.Purge

/-!
What a legal hold covers, and when a purge respects every active hold. Trips, memory and
uploads are tested against the holds before they go; notifications are not, and neither is
an incident apart from its trip.
-/

namespace RouteShield

namespace Archive

variable (archive : Archive)

/-- The hold names the stored trip under an identifier by its traveler or by itself. -/
def OnNamedTrip (hold : LegalHoldRecord) (tripId : Uuid) : Prop :=
  hold.scope ≠ .tenant ∧
    ∃ trip, .trip trip ∈ archive ∧ trip.tripId = tripId ∧ hold.holdsTrip trip = true

def OnNamedIncident (hold : LegalHoldRecord) (incidentId : Uuid) : Prop :=
  ∃ incident, .incident incident ∈ archive ∧ incident.incidentId = incidentId ∧
    archive.OnNamedTrip hold incident.tripId

/-- A tenant's hold covers the tenant's trips, incidents, profiles, proposals, notifications
and uploads; the narrower ones cover the trips they name and all that hangs off them. -/
def Covers (hold : LegalHoldRecord) : OperationalRecord → Prop
  | .trip trip => hold.holdsTrip trip = true
  | .evidence tripId _ => archive.OnNamedTrip hold tripId
  | .assessment tripId _ => archive.OnNamedTrip hold tripId
  | .incident incident =>
    hold.HoldsTenant incident.tenantId ∨ archive.OnNamedTrip hold incident.tripId
  | .approval item => archive.OnNamedIncident hold item.incidentId
  | .candidateSet item => archive.OnNamedIncident hold item.incidentId
  | .candidateOutcome item => archive.OnNamedIncident hold item.incidentId
  | .managerFeedback item => archive.OnNamedIncident hold item.incidentId
  | .actionDispatch incidentId _ => archive.OnNamedIncident hold incidentId
  | .actionDispatchAttempt actionId _ =>
    ∃ incidentId action, .actionDispatch incidentId action ∈ archive ∧
      action.actionDispatchId = actionId ∧ archive.OnNamedIncident hold incidentId
  | .profile item => hold.HoldsTraveler item.tenantId item.travelerId
  | .memoryProposal item => hold.HoldsTraveler item.tenantId item.travelerId
  | .notification item => hold.HoldsTraveler item.tenantId item.travelerId ∨
    (hold.scope = .trip ∧ ∃ incidentId ∈ item.incidentId, archive.OnNamedIncident hold incidentId)
  | .originalUpload tenantId _ => hold.HoldsTenant tenantId

/-- Every record of the archive that an active hold covers is still there. -/
def RespectedBy (active : List LegalHoldRecord) (after : Archive) : Prop :=
  ∀ hold ∈ active, ∀ record ∈ archive, archive.Covers hold record → record ∈ after

/-- No covered notification is older than the cutoff. -/
def CoveredNotificationsRecent (active : List LegalHoldRecord) (cutoffs : Cutoffs) : Prop :=
  ∀ hold ∈ active, ∀ item, .notification item ∈ archive →
    archive.Covers hold (.notification item) → cutoffs.before ≤ item.createdAt

/-- No incident of a tenant under a hold sits on an old trip, of another tenant, that no hold names. -/
def HeldIncidentsOnKeptTrips (active : List LegalHoldRecord) (cutoffs : Cutoffs) : Prop :=
  ∀ hold ∈ active, ∀ incident, .incident incident ∈ archive →
    hold.HoldsTenant incident.tenantId → ∀ trip, .trip trip ∈ archive →
    trip.tripId = incident.tripId → trip.tenantId ≠ hold.tenantId →
    cutoffs.before ≤ trip.createdAt ∨ ∃ other ∈ active, other.holdsTrip trip = true

variable {archive} {active : List LegalHoldRecord} {cutoffs : Cutoffs} {hold : LegalHoldRecord}

/-- A trip that an active hold names is not expired, nor is anything on it. -/
theorem not_onExpiredTrip (hm : hold ∈ active) {tripId : Uuid}
    (h : archive.OnNamedTrip hold tripId) : ¬archive.OnExpiredTrip active cutoffs tripId := by
  obtain ⟨-, trip, ht, rfl, hh⟩ := h
  rintro ⟨other, ⟨ho, -, hn⟩, hid⟩
  rw [archive.trip_inj other trip ho ht hid] at hn
  rw [hn hold hm] at hh
  cases hh

theorem not_onExpiredIncident (hm : hold ∈ active) {incidentId : Uuid}
    (h : archive.OnNamedIncident hold incidentId) :
    ¬archive.OnExpiredIncident active cutoffs incidentId := by
  obtain ⟨incident, hi, rfl, ht⟩ := h
  rintro ⟨other, ho, hid, hexp⟩
  rw [archive.incident_inj other incident ho hi hid] at hexp
  exact not_onExpiredTrip hm ht hexp

/-- Apart from notifications and incidents, what an active hold covers is not removed. -/
theorem not_removed {orphans : Prop} (hm : hold ∈ active) {record : OperationalRecord}
    (hr : record ∈ archive) (hc : archive.Covers hold record)
    (hi : ∀ incident, record ≠ .incident incident) (hn : ∀ item, record ≠ .notification item) :
    ¬archive.Removed active cutoffs orphans record := by
  cases record with
  | trip trip =>
    rintro ⟨other, ⟨ho, -, hexp⟩, hid⟩
    rw [archive.trip_inj other trip ho hr hid] at hexp
    have hh : hold.holdsTrip trip = true := hc
    rw [hexp hold hm] at hh
    cases hh
  | evidence tripId item => exact not_onExpiredTrip hm hc
  | assessment tripId item => exact not_onExpiredTrip hm hc
  | incident incident => exact absurd rfl (hi incident)
  | approval item => exact not_onExpiredIncident hm hc
  | candidateSet item => exact not_onExpiredIncident hm hc
  | candidateOutcome item => exact not_onExpiredIncident hm hc
  | managerFeedback item => exact not_onExpiredIncident hm hc
  | actionDispatch incidentId item => exact not_onExpiredIncident hm hc
  | actionDispatchAttempt actionId item =>
    obtain ⟨incidentId, action, ha, hid, hnamed⟩ := hc
    rintro (⟨otherId, other, ho, hoid, hexp⟩ | ⟨-, hnone⟩)
    · rw [(archive.action_inj _ _ _ _ ho ha (hoid.trans hid.symm)).1] at hexp
      exact not_onExpiredIncident hm hnamed hexp
    · exact hnone incidentId action ha hid
  | profile item => exact fun h => h.2 hold hm hc
  | memoryProposal item => exact fun h => h.2 hold hm hc
  | notification item => exact absurd rfl (hn item)
  | originalUpload tenantId item => exact fun h => h.2 hold hm hc

/-- A covered incident goes exactly when its trip is old, of another tenant and under no hold. -/
theorem incident_kept_iff (hm : hold ∈ active) {incident : Incident}
    (hi : .incident incident ∈ archive) (hc : archive.Covers hold (.incident incident)) :
    ¬archive.OnExpiredIncident active cutoffs incident.incidentId ↔
      (hold.HoldsTenant incident.tenantId → ∀ trip, .trip trip ∈ archive →
        trip.tripId = incident.tripId → trip.tenantId ≠ hold.tenantId →
        cutoffs.before ≤ trip.createdAt ∨ ∃ other ∈ active, other.holdsTrip trip = true) := by
  constructor
  · intro hkept _ trip ht hid _
    by_contra hexp
    push Not at hexp
    exact hkept ⟨incident, hi, rfl, trip,
      ⟨ht, hexp.1, fun other ho => by simpa using hexp.2 other ho⟩, hid⟩
  · rintro h ⟨other, ho, hid, trip, ⟨ht, hb, hn⟩, htrip⟩
    rw [archive.incident_inj other incident ho hi hid] at htrip
    rcases hc with hten | hnamed
    · by_cases hsame : trip.tenantId = hold.tenantId
      · have hh : hold.holdsTrip trip = true := by
          simp [LegalHoldRecord.holdsTrip, hsame, hten.2]
        rw [hn hold hm] at hh
        cases hh
      · rcases h hten trip ht htrip hsame with hle | ⟨x, hx, hxt⟩
        · exact absurd hb (not_lt.mpr hle)
        · rw [hn x hx] at hxt
          cases hxt
    · exact not_onExpiredTrip hm hnamed ⟨trip, ⟨ht, hb, hn⟩, htrip⟩

/-- A purge respects the holds exactly when what it fails to test does not come up. -/
theorem respectedBy_purge_iff {orphans : Prop} :
    archive.RespectedBy active (archive.purge active cutoffs orphans) ↔
      archive.CoveredNotificationsRecent active cutoffs ∧
        archive.HeldIncidentsOnKeptTrips active cutoffs := by
  constructor
  · intro h
    refine ⟨fun hold hm item hr hc => not_lt.mp (h hold hm _ hr hc).2, ?_⟩
    intro hold hm incident hi hten
    have hc : archive.Covers hold (.incident incident) := .inl hten
    exact (incident_kept_iff hm hi hc).mp (h hold hm _ hi hc).2 hten
  · rintro ⟨hrecent, hincidents⟩ hold hm record hr hc
    refine ⟨hr, ?_⟩
    by_cases hnot : ∃ item, record = .notification item
    · obtain ⟨item, rfl⟩ := hnot
      exact not_lt.mpr (hrecent hold hm item hr hc)
    by_cases hinc : ∃ incident, record = .incident incident
    · obtain ⟨incident, rfl⟩ := hinc
      exact (incident_kept_iff hm hr hc).mpr (hincidents hold hm incident hr)
    push Not at hnot hinc
    exact not_removed hm hr hc hinc hnot

end Archive

/-! ### Both repositories -/

/-- `purge_expired` keeps all that the active holds cover exactly when no covered notification
is older than the cutoff and no incident of a held tenant sits on another tenant's old and
unheld trip. -/
theorem purge_respects_holds_iff {β : Type} (now : Time) (cutoffs : Cutoffs) :
    (∀ repo : InMemoryRepository β,
      repo.archive.RespectedBy (repo.active now) (repo.purgeExpired now cutoffs).2.archive ↔
        repo.archive.CoveredNotificationsRecent (repo.active now) cutoffs ∧
          repo.archive.HeldIncidentsOnKeptTrips (repo.active now) cutoffs) ∧
    (∀ repo : PostgresRepository β,
      repo.archive.RespectedBy (repo.active now) (repo.purgeExpired now cutoffs).2.archive ↔
        repo.archive.CoveredNotificationsRecent (repo.active now) cutoffs ∧
          repo.archive.HeldIncidentsOnKeptTrips (repo.active now) cutoffs) := by
  constructor
  · intro repo
    rw [InMemoryRepository.archive_purgeExpired]
    exact Archive.respectedBy_purge_iff
  · intro repo
    rw [PostgresRepository.archive_purgeExpired]
    exact Archive.respectedBy_purge_iff

/-- A hold on the whole of tenant `t`. -/
def sampleTenantHold : LegalHoldRecord where
  legalHoldId := .v4 0
  tenantId := "t"
  scope := .tenant
  reason := "litigation"
  createdBy := "admin"
  createdAt := 0
  validScope := .onTenant

/-- A notification of tenant `t`, queued at time 0. -/
def sampleNotification : NotificationRecord where
  notificationId := .v4 1
  tenantId := "t"
  travelerId := "ana"
  channel := "in_app"
  recipientReference := "ref"
  subject := "Delay"
  body := "Your flight is delayed."
  nextAttemptAt := 0
  createdAt := 0
  updatedAt := 0

/-- Under a hold on its tenant, a notification older than the cutoff is purged by both stores. -/
theorem purge_drops_held_notification :
    let memory : InMemoryRepository Unit :=
      { legalHolds := Table.empty.put sampleTenantHold
        notifications := Table.empty.put sampleNotification }
    let postgres : PostgresRepository Unit :=
      { legalHolds := Table.empty.put ⟨"t", sampleTenantHold⟩
        notifications := Table.empty.put ⟨"t", sampleNotification⟩ }
    ¬memory.archive.RespectedBy (memory.active 5)
        (memory.purgeExpired 5 { before := 10 }).2.archive ∧
      ¬postgres.archive.RespectedBy (postgres.active 5)
        (postgres.purgeExpired 5 { before := 10 }).2.archive := by
  intro memory postgres
  have hcov : ∀ archive : Archive,
      archive.Covers sampleTenantHold (.notification sampleNotification) :=
    fun archive => .inl ⟨rfl, .inl rfl⟩
  constructor
  · intro h
    have hkept : .notification sampleNotification ∈
        (memory.purgeExpired 5 { before := 10 }).2.archive :=
      h sampleTenantHold (by decide) (.notification sampleNotification)
        (Table.mem_put_self _ _) (hcov _)
    have hgone : sampleNotification ∉ (memory.purgeExpired 5 { before := 10 }).2.notifications := by
      decide
    exact hgone hkept
  · intro h
    have hkept : .notification sampleNotification ∈
        (postgres.purgeExpired 5 { before := 10 }).2.archive :=
      h sampleTenantHold (by decide) (.notification sampleNotification)
        ⟨⟨"t", sampleNotification⟩, Table.mem_put_self _ _, rfl⟩ (hcov _)
    have hgone : (postgres.purgeExpired 5 { before := 10 }).2.notifications = Table.empty := by
      decide
    obtain ⟨row, hrow, -⟩ := hkept
    rw [hgone] at hrow
    exact Table.notMem_empty row hrow

end RouteShield
