import RouteShield.Store.Histories

/-!
What a tenant can read of the in-memory repository. Every query that takes a tenant reads the
tenant's own records alone: two states that agree on them answer it alike, whatever other tenants
stored. Evidence and attempts carry no tenant, and are read through the trip, the notification or
the action that they belong to.
-/

namespace RouteShield

variable {α β κ : Type}

/-! ### The remaining listings -/

namespace InMemoryRepository

variable (repo : InMemoryRepository β)

def listEvents (tenantId : String) : List EventRecord :=
  repo.events.filter (fun event => event.tenantId = tenantId)

def listManagerFeedback (tenantId : String) (incidentId : Uuid) : List ManagerFeedback :=
  sortedBy (·.createdAt) (·.feedbackId) (repo.managerFeedback.rows.filter
    (fun feedback => feedback.tenantId = tenantId ∧ feedback.incidentId = incidentId))

def listNotifications (tenantId : String) (statuses : Option (List NotificationStatus)) :
    List NotificationRecord :=
  repo.notifications.rows.filter (fun notification => notification.tenantId = tenantId ∧
    ∀ wanted ∈ statuses, notification.status ∈ wanted)

def listNotificationAttempts (tenantId : String) (notificationId : Uuid) :
    List NotificationAttempt :=
  if (repo.getNotification tenantId notificationId).isNone then []
  else repo.notificationAttempts.items notificationId

def listActionDispatchAttempts (tenantId : String) (actionDispatchId : Uuid) :
    List ActionDispatchAttempt :=
  if ((repo.actionDispatches.find? actionDispatchId).filter
    (fun action => action.tenantId = tenantId)).isNone then []
  else repo.actionDispatchAttempts.items actionDispatchId

def listMemoryAudit (tenantId : String) (travelerId : Option String) : List MemoryAuditEvent :=
  repo.memoryAudits.filter (fun event => event.tenantId = tenantId ∧
    (travelerId = none ∨ travelerId = some event.travelerId))

def listChangeRecords (tenantId : String) : List ChangeRecord :=
  repo.changeRecords.rows.filter (fun record => record.tenantId = tenantId)

def listProviderOnboarding (tenantId : String) : List ProviderOnboardingRecord :=
  repo.providerOnboardingRecords.rows.filter (fun record => record.tenantId = tenantId)

def getOriginalUpload (tenantId : String) (originalUploadId : Uuid) : Option OriginalUploadRecord :=
  (repo.originalUploads.find? originalUploadId).filter (fun record => record.tenantId = tenantId)

end InMemoryRepository

/-! ### Queries -/

/-- The queries that take a tenant, by what they answer. -/
inductive TenantQuery : Type → Type where
  | getTrip (tripId : Uuid) : TenantQuery (Option Trip)
  | getEvidence (tripId : Uuid) : TenantQuery (List EvidenceEnvelope)
  | getIncident (incidentId : Uuid) : TenantQuery (Option Incident)
  | listIncidents : TenantQuery (List Incident)
  | listEvents : TenantQuery (List EventRecord)
  | getCandidateSet (incidentId candidateSetId : Uuid) : TenantQuery (Option RecoveryCandidateSet)
  | listCandidateSets (incidentId : Uuid) : TenantQuery (List RecoveryCandidateSet)
  | listCandidateOutcomes (candidateSetId : Uuid) : TenantQuery (List RecoveryCandidateOutcome)
  | listManagerFeedback (incidentId : Uuid) : TenantQuery (List ManagerFeedback)
  | getPlaybook (playbookId : Uuid) : TenantQuery (Option TenantPlaybook)
  | listApprovedPlaybooks : TenantQuery (List TenantPlaybook)
  | getProfile (travelerId : String) : TenantQuery (Option TravelerPreferenceProfile)
  | getMemoryProposal (proposalId : Uuid) : TenantQuery (Option MemoryUpdateProposal)
  | getNotification (notificationId : Uuid) : TenantQuery (Option NotificationRecord)
  | listNotifications (statuses : Option (List NotificationStatus)) :
      TenantQuery (List NotificationRecord)
  | listNotificationAttempts (notificationId : Uuid) : TenantQuery (List NotificationAttempt)
  | listActionDispatches (incidentId : Uuid) : TenantQuery (List ActionDispatchRecord)
  | listActionDispatchAttempts (actionDispatchId : Uuid) : TenantQuery (List ActionDispatchAttempt)
  | listMemoryAudit (travelerId : Option String) : TenantQuery (List MemoryAuditEvent)
  | listChangeRecords : TenantQuery (List ChangeRecord)
  | listProviderOnboarding : TenantQuery (List ProviderOnboardingRecord)
  | getRuntimeControlOverride (controlName : RuntimeControlName) (now : Time) :
      TenantQuery (Option RuntimeControlChange)
  | listRuntimeControlChanges : TenantQuery (List RuntimeControlChange)
  | getOriginalUpload (originalUploadId : Uuid) : TenantQuery (Option OriginalUploadRecord)
  | getLegalHold (legalHoldId : Uuid) : TenantQuery (Option LegalHoldRecord)
  | listLegalHolds : TenantQuery (List LegalHoldRecord)
  | activeLegalHoldsForTraveler (travelerId : String) (now : Time) :
      TenantQuery (List LegalHoldRecord)
  | getDeletionRequest (deletionRequestId : Uuid) : TenantQuery (Option DeletionRequest)
  | listDeletionRequests (travelerId : Option String) : TenantQuery (List DeletionRequest)

def TenantQuery.answer (tenantId : String) (repo : InMemoryRepository β) : TenantQuery α → α
  | getTrip tripId => repo.getTrip tenantId tripId
  | getEvidence tripId => repo.getEvidence tenantId tripId
  | getIncident incidentId => repo.getIncident tenantId incidentId
  | listIncidents => repo.listIncidents tenantId
  | listEvents => repo.listEvents tenantId
  | getCandidateSet incidentId candidateSetId =>
    repo.getCandidateSet tenantId incidentId candidateSetId
  | listCandidateSets incidentId => repo.listCandidateSets tenantId incidentId
  | listCandidateOutcomes candidateSetId => repo.listCandidateOutcomes tenantId candidateSetId
  | listManagerFeedback incidentId => repo.listManagerFeedback tenantId incidentId
  | getPlaybook playbookId => repo.getPlaybook tenantId playbookId
  | listApprovedPlaybooks => repo.listApprovedPlaybooks tenantId
  | getProfile travelerId => repo.getProfile tenantId travelerId
  | getMemoryProposal proposalId => repo.getMemoryProposal tenantId proposalId
  | getNotification notificationId => repo.getNotification tenantId notificationId
  | listNotifications statuses => repo.listNotifications tenantId statuses
  | listNotificationAttempts notificationId => repo.listNotificationAttempts tenantId notificationId
  | listActionDispatches incidentId => repo.listActionDispatches tenantId incidentId
  | listActionDispatchAttempts actionDispatchId =>
    repo.listActionDispatchAttempts tenantId actionDispatchId
  | listMemoryAudit travelerId => repo.listMemoryAudit tenantId travelerId
  | listChangeRecords => repo.listChangeRecords tenantId
  | listProviderOnboarding => repo.listProviderOnboarding tenantId
  | getRuntimeControlOverride controlName now =>
    repo.getRuntimeControlOverride tenantId controlName now
  | listRuntimeControlChanges => repo.listRuntimeControlChanges tenantId
  | getOriginalUpload originalUploadId => repo.getOriginalUpload tenantId originalUploadId
  | getLegalHold legalHoldId => repo.getLegalHold tenantId legalHoldId
  | listLegalHolds => repo.listLegalHolds tenantId
  | activeLegalHoldsForTraveler travelerId now =>
    repo.activeLegalHoldsForTraveler tenantId travelerId now
  | getDeletionRequest deletionRequestId => repo.getDeletionRequest tenantId deletionRequestId
  | listDeletionRequests travelerId => repo.listDeletionRequests tenantId travelerId

/-! ### The tenant's records -/

/-- Two states hold the same records of a tenant, each collection in its own order. -/
structure InMemoryRepository.AgreeOn (tenantId : String) (s s' : InMemoryRepository β) : Prop where
  trips : s.trips.rows.filter (fun trip => trip.tenantId = tenantId) =
    s'.trips.rows.filter (fun trip => trip.tenantId = tenantId)
  evidence : ∀ trip ∈ s.trips, trip.tenantId = tenantId →
    s.evidence.items trip.tripId = s'.evidence.items trip.tripId
  assessments : ∀ trip ∈ s.trips, trip.tenantId = tenantId →
    s.assessments.items trip.tripId = s'.assessments.items trip.tripId
  incidents : s.incidents.rows.filter (fun incident => incident.tenantId = tenantId) =
    s'.incidents.rows.filter (fun incident => incident.tenantId = tenantId)
  events : s.events.filter (fun event => event.tenantId = tenantId) =
    s'.events.filter (fun event => event.tenantId = tenantId)
  profiles : s.profiles.rows.filter (fun profile => profile.tenantId = tenantId) =
    s'.profiles.rows.filter (fun profile => profile.tenantId = tenantId)
  memoryProposals : s.memoryProposals.rows.filter (fun proposal => proposal.tenantId = tenantId) =
    s'.memoryProposals.rows.filter (fun proposal => proposal.tenantId = tenantId)
  candidateSets : s.candidateSets.rows.filter (fun saved => saved.1 = tenantId) =
    s'.candidateSets.rows.filter (fun saved => saved.1 = tenantId)
  candidateOutcomes : s.candidateOutcomes.rows.filter (fun saved => saved.1 = tenantId) =
    s'.candidateOutcomes.rows.filter (fun saved => saved.1 = tenantId)
  managerFeedback : s.managerFeedback.rows.filter (fun feedback => feedback.tenantId = tenantId) =
    s'.managerFeedback.rows.filter (fun feedback => feedback.tenantId = tenantId)
  tenantPlaybooks : s.tenantPlaybooks.rows.filter (fun playbook => playbook.tenantId = tenantId) =
    s'.tenantPlaybooks.rows.filter (fun playbook => playbook.tenantId = tenantId)
  notifications :
    s.notifications.rows.filter (fun notification => notification.tenantId = tenantId) =
      s'.notifications.rows.filter (fun notification => notification.tenantId = tenantId)
  notificationAttempts : ∀ notification ∈ s.notifications, notification.tenantId = tenantId →
    s.notificationAttempts.items notification.notificationId =
      s'.notificationAttempts.items notification.notificationId
  actionDispatches : s.actionDispatches.rows.filter (fun action => action.tenantId = tenantId) =
    s'.actionDispatches.rows.filter (fun action => action.tenantId = tenantId)
  actionDispatchAttempts : ∀ action ∈ s.actionDispatches, action.tenantId = tenantId →
    s.actionDispatchAttempts.items action.actionDispatchId =
      s'.actionDispatchAttempts.items action.actionDispatchId
  memoryAudits : s.memoryAudits.filter (fun event => event.tenantId = tenantId) =
    s'.memoryAudits.filter (fun event => event.tenantId = tenantId)
  changeRecords : s.changeRecords.rows.filter (fun record => record.tenantId = tenantId) =
    s'.changeRecords.rows.filter (fun record => record.tenantId = tenantId)
  providerOnboardingRecords :
    s.providerOnboardingRecords.rows.filter (fun record => record.tenantId = tenantId) =
      s'.providerOnboardingRecords.rows.filter (fun record => record.tenantId = tenantId)
  legalHolds : s.legalHolds.rows.filter (fun hold => hold.tenantId = tenantId) =
    s'.legalHolds.rows.filter (fun hold => hold.tenantId = tenantId)
  deletionRequests : s.deletionRequests.rows.filter (fun request => request.tenantId = tenantId) =
    s'.deletionRequests.rows.filter (fun request => request.tenantId = tenantId)
  runtimeControlOverrides :
    s.runtimeControlOverrides.rows.filter (fun record => record.tenantId = tenantId) =
      s'.runtimeControlOverrides.rows.filter (fun record => record.tenantId = tenantId)
  runtimeControlChanges :
    s.runtimeControlChanges.filter (fun record => record.tenantId = tenantId) =
      s'.runtimeControlChanges.filter (fun record => record.tenantId = tenantId)
  originalUploads : s.originalUploads.rows.filter (fun record => record.tenantId = tenantId) =
    s'.originalUploads.rows.filter (fun record => record.tenantId = tenantId)

/-! ### Reading through a filter -/

/-- A finer filter of one selection. -/
theorem filter_and_congr {rows rows' : List α} {p q : α → Prop} [DecidablePred p] [DecidablePred q]
    (h : rows.filter (fun a => p a) = rows'.filter (fun a => p a)) :
    rows.filter (fun a => p a ∧ q a) = rows'.filter (fun a => p a ∧ q a) := by
  have hsplit : ∀ l : List α,
      l.filter (fun a => p a ∧ q a) = (l.filter (fun a => p a)).filter (fun a => q a) := fun l => by
    rw [List.filter_filter]
    exact List.filter_congr fun a _ => by rw [Bool.decide_and, Bool.and_comm]
  rw [hsplit, hsplit, h]

section Lookup

variable [DecidableEq κ] {key : α → κ} {t u : Table key} {p : α → Prop} [DecidablePred p]

/-- A lookup that filters its row reads the selected rows alone. -/
theorem Table.find?_filter_congr (h : t.rows.filter (fun a => p a) = u.rows.filter (fun a => p a))
    (k : κ) : (t.find? k).filter (fun a => p a) = (u.find? k).filter (fun a => p a) := by
  rw [← Table.find?_filter, ← Table.find?_filter]
  exact congrArg (fun v : Table key => v.find? k) (Table.ext h)

theorem Table.find?_filter_and_congr {q : α → Prop} [DecidablePred q]
    (h : t.rows.filter (fun a => p a) = u.rows.filter (fun a => p a)) (k : κ) :
    (t.find? k).filter (fun a => p a ∧ q a) = (u.find? k).filter (fun a => p a ∧ q a) :=
  Table.find?_filter_congr (filter_and_congr h) k

/-- A lookup under a key of the selection needs no filter. -/
theorem Table.find?_congr_of_selected
    (h : t.rows.filter (fun a => p a) = u.rows.filter (fun a => p a)) {k : κ}
    (hk : ∀ a, key a = k → p a) : t.find? k = u.find? k := by
  have hself : ∀ v : Table key, (v.find? k).filter (fun a => p a) = v.find? k := fun v => by
    cases hfind : v.find? k with
    | none => rfl
    | some a => exact if_pos (decide_eq_true (hk a ((v.find?_eq_some).mp hfind).2))
  rw [← hself t, ← hself u]
  exact Table.find?_filter_congr h k

/-- What hangs off a row of the selection is found through it. -/
theorem Table.read_through {γ : Type} {items items' : κ → List γ}
    (h : t.rows.filter (fun a => p a) = u.rows.filter (fun a => p a))
    (hitems : ∀ a ∈ t, p a → items (key a) = items' (key a)) (k : κ) :
    (if ((t.find? k).filter (fun a => p a)).isNone then [] else items k) =
      if ((u.find? k).filter (fun a => p a)).isNone then [] else items' k := by
  rw [← Table.find?_filter_congr h k]
  cases hfind : (t.find? k).filter (fun a => p a) with
  | none => rfl
  | some a =>
    obtain ⟨hrow, hp⟩ := Option.filter_eq_some_iff.mp hfind
    obtain ⟨ha, rfl⟩ := t.find?_eq_some.mp hrow
    exact hitems a ha (of_decide_eq_true hp)

end Lookup

/-! ### Isolation -/

section Isolation

variable {tenantId : String} {s s' : InMemoryRepository β}

theorem InMemoryRepository.AgreeOn.listLegalHolds (h : s.AgreeOn tenantId s') :
    s.listLegalHolds tenantId = s'.listLegalHolds tenantId :=
  congrArg (sortedBy _ _) h.legalHolds

/-- Holds are found through the traveler's trips, which are the tenant's. -/
theorem InMemoryRepository.AgreeOn.activeLegalHolds (h : s.AgreeOn tenantId s')
    (travelerId : String) (now : Time) :
    s.activeLegalHoldsForTraveler tenantId travelerId now =
      s'.activeLegalHoldsForTraveler tenantId travelerId now := by
  have htrips : s.trips.rows.filter
      (fun trip => trip.tenantId = tenantId ∧ trip.travelerId = travelerId) =
      s'.trips.rows.filter (fun trip => trip.tenantId = tenantId ∧ trip.travelerId = travelerId) :=
    filter_and_congr h.trips
  unfold InMemoryRepository.activeLegalHoldsForTraveler
  rw [h.listLegalHolds, htrips]

/-- One case per query: each reads its collection through the tenant. -/
theorem InMemoryRepository.AgreeOn.answer_eq (h : s.AgreeOn tenantId s') (query : TenantQuery α) :
    query.answer tenantId s = query.answer tenantId s' := by
  cases query with
  | getTrip tripId => exact Table.find?_filter_congr h.trips tripId
  | getEvidence tripId => exact Table.read_through h.trips h.evidence tripId
  | getIncident incidentId => exact Table.find?_filter_congr h.incidents incidentId
  | listIncidents => exact h.incidents
  | listEvents => exact h.events
  | getCandidateSet incidentId candidateSetId =>
    exact congrArg (Option.map Prod.snd)
      (Table.find?_filter_and_congr h.candidateSets candidateSetId)
  | listCandidateSets incidentId =>
    exact congrArg (List.map Prod.snd) (filter_and_congr h.candidateSets)
  | listCandidateOutcomes candidateSetId =>
    exact congrArg (fun rows => sortedBy _ _ (List.map Prod.snd rows))
      (filter_and_congr h.candidateOutcomes)
  | listManagerFeedback incidentId =>
    exact congrArg (sortedBy _ _) (filter_and_congr h.managerFeedback)
  | getPlaybook playbookId => exact Table.find?_filter_congr h.tenantPlaybooks playbookId
  | listApprovedPlaybooks => exact congrArg (fun rows => List.mergeSort rows _) h.tenantPlaybooks
  | getProfile travelerId =>
    exact Table.find?_congr_of_selected h.profiles fun a ha => congrArg Prod.fst ha
  | getMemoryProposal proposalId => exact Table.find?_filter_congr h.memoryProposals proposalId
  | getNotification notificationId => exact Table.find?_filter_congr h.notifications notificationId
  | listNotifications statuses => exact filter_and_congr h.notifications
  | listNotificationAttempts notificationId =>
    exact Table.read_through h.notifications h.notificationAttempts notificationId
  | listActionDispatches incidentId => exact filter_and_congr h.actionDispatches
  | listActionDispatchAttempts actionDispatchId =>
    exact Table.read_through h.actionDispatches h.actionDispatchAttempts actionDispatchId
  | listMemoryAudit travelerId => exact filter_and_congr h.memoryAudits
  | listChangeRecords => exact h.changeRecords
  | listProviderOnboarding => exact h.providerOnboardingRecords
  | getRuntimeControlOverride controlName now =>
    exact congrArg (Option.filter _)
      (Table.find?_congr_of_selected h.runtimeControlOverrides fun a ha => congrArg Prod.fst ha)
  | listRuntimeControlChanges => exact h.runtimeControlChanges
  | getOriginalUpload originalUploadId =>
    exact Table.find?_filter_congr h.originalUploads originalUploadId
  | getLegalHold legalHoldId => exact Table.find?_filter_congr h.legalHolds legalHoldId
  | listLegalHolds => exact h.listLegalHolds
  | activeLegalHoldsForTraveler travelerId now => exact h.activeLegalHolds travelerId now
  | getDeletionRequest deletionRequestId =>
    exact Table.find?_filter_congr h.deletionRequests deletionRequestId
  | listDeletionRequests travelerId =>
    exact congrArg (sortedBy _ _) (filter_and_congr h.deletionRequests)

/-! ### Claims -/

/-- A leased record up to the identifier of its lease. -/
def DispatchClaim.unnamed (claim : DispatchClaim) : DispatchClaim := { claim with claimId := .v4 0 }

def NotificationRecord.unnamed (notification : NotificationRecord) : NotificationRecord :=
  { notification with dispatchClaim := notification.dispatchClaim.map DispatchClaim.unnamed }

def ActionDispatchRecord.unnamed (action : ActionDispatchRecord) : ActionDispatchRecord :=
  { action with dispatchClaim := action.dispatchClaim.map DispatchClaim.unnamed }

/-- Under a tenant's filter a claim picks among the tenant's rows. -/
theorem claimable_congr {rows rows' : List α} {tenantOf : α → String} (due : α → Bool)
    {request : LeaseRequest} (hrequest : request.tenantId = some tenantId) (htenant : tenantId ≠ "")
    (h : rows.filter (fun a => tenantOf a = tenantId) =
      rows'.filter (fun a => tenantOf a = tenantId)) :
    rows.filter (fun a => request.admits (tenantOf a) && due a) =
      rows'.filter (fun a => request.admits (tenantOf a) && due a) := by
  have hsplit : ∀ l : List α, l.filter (fun a => request.admits (tenantOf a) && due a) =
      (l.filter (fun a => tenantOf a = tenantId)).filter due := fun l => by
    rw [List.filter_filter]
    refine List.filter_congr fun a _ => ?_
    have hadmits : request.admits (tenantOf a) = decide (tenantOf a = tenantId) := by
      simp [LeaseRequest.admits, hrequest, truthy, htenant, eq_comm]
    rw [hadmits, Bool.and_comm]
  rw [hsplit, hsplit, h]

theorem InMemoryRepository.AgreeOn.claimedNotifications (h : s.AgreeOn tenantId s')
    (htenant : tenantId ≠ "") {request : LeaseRequest} (hrequest : request.tenantId = some tenantId)
    (now : Time) (fresh fresh' : ℕ → Uuid) :
    (s.claimDueNotifications request now fresh).1.map NotificationRecord.unnamed =
      (s'.claimDueNotifications request now fresh').1.map NotificationRecord.unnamed := by
  have hdue := claimable_congr (fun n : NotificationRecord => n.waiting && n.leasable now) hrequest
    htenant h.notifications
  simp only [← Bool.and_assoc] at hdue
  simp only [InMemoryRepository.claimDueNotifications, hdue]
  rw [List.map_map, List.map_map]
  exact List.map_congr_left fun _ _ => rfl

theorem InMemoryRepository.AgreeOn.claimedActions (h : s.AgreeOn tenantId s')
    (htenant : tenantId ≠ "") {request : LeaseRequest} (hrequest : request.tenantId = some tenantId)
    (now : Time) (fresh fresh' : ℕ → Uuid) :
    (s.claimDueActionDispatches request now fresh).1.map ActionDispatchRecord.unnamed =
      (s'.claimDueActionDispatches request now fresh').1.map ActionDispatchRecord.unnamed := by
  have hdue := claimable_congr (fun a : ActionDispatchRecord => a.waiting && a.leasable now) hrequest
    htenant h.actionDispatches
  simp only [← Bool.and_assoc] at hdue
  simp only [InMemoryRepository.claimDueActionDispatches, hdue]
  rw [List.map_map, List.map_map]
  exact List.map_congr_left fun _ _ => rfl

/-- Two states that agree on a tenant's records answer every query of the tenant alike, and lease it
the same records, whatever identifiers the leases draw. -/
theorem tenant_reads_isolated (htenant : tenantId ≠ "") (h : s.AgreeOn tenantId s') :
    (∀ (α : Type) (query : TenantQuery α), query.answer tenantId s = query.answer tenantId s') ∧
      ∀ (request : LeaseRequest), request.tenantId = some tenantId →
        ∀ (now : Time) (fresh fresh' : ℕ → Uuid),
          (s.claimDueNotifications request now fresh).1.map NotificationRecord.unnamed =
              (s'.claimDueNotifications request now fresh').1.map NotificationRecord.unnamed ∧
            (s.claimDueActionDispatches request now fresh).1.map ActionDispatchRecord.unnamed =
              (s'.claimDueActionDispatches request now fresh').1.map
                ActionDispatchRecord.unnamed := by
  refine ⟨fun α query => h.answer_eq query, fun request hrequest now fresh fresh' => ⟨?_, ?_⟩⟩
  · exact h.claimedNotifications htenant hrequest now fresh fresh'
  · exact h.claimedActions htenant hrequest now fresh fresh'

/-- A hold of one tenant, beside a hold of another. -/
theorem tenant_reads_isolated_holds :
    ((InMemoryRepository.saved [.legalHold (listedHold 1 0)] :
        InMemoryRepository Unit).listLegalHolds "acme") =
      ((InMemoryRepository.saved [.legalHold { listedHold 2 0 with tenantId := "other" },
        .legalHold (listedHold 1 0)] : InMemoryRepository Unit).listLegalHolds "acme") :=
  (tenant_reads_isolated (by decide)
    { trips := rfl, evidence := by simp, assessments := by simp, incidents := rfl, events := rfl,
      profiles := rfl, memoryProposals := rfl, candidateSets := rfl, candidateOutcomes := rfl,
      managerFeedback := rfl, tenantPlaybooks := rfl, notifications := rfl,
      notificationAttempts := by simp, actionDispatches := rfl, actionDispatchAttempts := by simp,
      memoryAudits := rfl, changeRecords := rfl, providerOnboardingRecords := rfl,
      legalHolds := by decide +kernel, deletionRequests := rfl, runtimeControlOverrides := rfl,
      runtimeControlChanges := rfl, originalUploads := rfl }).1 _ .listLegalHolds

end Isolation

end RouteShield
