import RouteShield.Api.Effects

/-!
Which collections a repository call writes. A collection is the rows of one kind with what
is filed under them; both repositories leave every other collection as it is.
-/

namespace RouteShield

inductive Collection where
  | trips | evidence | assessments | incidents | approvals | candidates | feedback | playbooks
  | profiles | proposals | idempotency | events | memoryAudits | notifications | actions
  | governance | controls | uploads | holds | deletionRequests
  deriving DecidableEq

/-- What an erasure may write. -/
def erasedCollections : List Collection :=
  [.profiles, .proposals, .trips, .evidence, .assessments, .incidents, .approvals, .candidates,
    .feedback, .notifications, .actions]

/-- What a purge may write. -/
def purgedCollections : List Collection :=
  erasedCollections ++ [.uploads, .events, .memoryAudits, .idempotency]

def RepoOp.writes {α : Type} : RepoOp α → List Collection
  | .createTrip _ => [.trips]
  | .saveTrip _ => [.trips]
  | .getTrip _ _ => []
  | .listTrips => []
  | .saveEvidence _ _ _ => [.evidence]
  | .getEvidence _ _ => []
  | .saveAssessment _ _ => [.assessments]
  | .saveIncident _ => [.incidents]
  | .getIncident _ _ => []
  | .saveApproval _ => [.approvals]
  | .saveCandidateSet _ _ => [.candidates]
  | .getCandidateSet _ _ _ => []
  | .recordCandidateOutcome _ _ => [.candidates]
  | .listCandidateOutcomes _ _ => []
  | .saveManagerFeedback _ => [.feedback]
  | .saveActionDispatch _ => [.actions]
  | .claimDueActionDispatches _ => [.actions]
  | .completeActionDispatch _ _ _ => [.actions]
  | .recordActionDispatchAttempt _ => [.actions]
  | .claimIdempotency _ => [.idempotency]
  | .completeIdempotency _ => [.idempotency]
  | .recordEvent _ => [.events]
  | .recordMemoryAudit _ => [.memoryAudits]
  | .getProfile _ _ => []
  | .saveProfile _ => [.profiles]
  | .saveMemoryProposal _ => [.proposals]
  | .getMemoryProposal _ _ => []
  | .deleteTravelerMemory _ _ => [.profiles, .proposals]
  | .getPlaybook _ _ => []
  | .savePlaybook _ => [.playbooks]
  | .listApprovedPlaybooks _ => []
  | .saveNotification _ => [.notifications]
  | .getNotification _ _ => []
  | .claimDueNotifications _ => [.notifications]
  | .completeNotificationDelivery _ _ _ => [.notifications]
  | .recordNotificationAttempt _ => [.notifications]
  | .saveChangeRecord _ => [.governance]
  | .saveProviderOnboarding _ => [.governance]
  | .getRuntimeControlOverride _ _ => []
  | .saveRuntimeControlChange _ => [.controls]
  | .getPlatformControlOverride _ => []
  | .savePlatformControlChange _ => [.controls]
  | .saveOriginalUpload _ => [.uploads]
  | .saveLegalHold _ => [.holds]
  | .getLegalHold _ _ => []
  | .activeLegalHoldsForTraveler _ _ _ => []
  | .saveDeletionRequest _ => [.deletionRequests]
  | .listPendingDeletionRequests => []
  | .eraseTravelerData _ _ _ => erasedCollections
  | .purgeExpired _ => purgedCollections

def Effect.writes {α : Type} : Effect α → List Collection
  | .repo op => op.writes
  | _ => []

/-! ### One collection of a repository -/

/-- The repository with one of its collections. -/
def InMemoryRepository.only {β : Type} (s : InMemoryRepository β) :
    Collection → InMemoryRepository β
  | .trips => { trips := s.trips, tripSegments := s.tripSegments }
  | .evidence => { evidence := s.evidence }
  | .assessments => { assessments := s.assessments }
  | .incidents => { incidents := s.incidents }
  | .approvals => { approvals := s.approvals }
  | .candidates => { candidateSets := s.candidateSets, candidateOutcomes := s.candidateOutcomes }
  | .feedback => { managerFeedback := s.managerFeedback }
  | .playbooks => { tenantPlaybooks := s.tenantPlaybooks }
  | .profiles => { profiles := s.profiles }
  | .proposals => { memoryProposals := s.memoryProposals }
  | .idempotency => { idempotencyRecords := s.idempotencyRecords }
  | .events => { events := s.events }
  | .memoryAudits => { memoryAudits := s.memoryAudits }
  | .notifications =>
    { notifications := s.notifications, notificationAttempts := s.notificationAttempts }
  | .actions =>
    { actionDispatches := s.actionDispatches, actionDispatchAttempts := s.actionDispatchAttempts }
  | .governance =>
    { changeRecords := s.changeRecords, providerOnboardingRecords := s.providerOnboardingRecords }
  | .controls =>
    { runtimeControlOverrides := s.runtimeControlOverrides
      runtimeControlChanges := s.runtimeControlChanges
      platformControlOverrides := s.platformControlOverrides
      platformControlChanges := s.platformControlChanges }
  | .uploads => { originalUploads := s.originalUploads }
  | .holds => { legalHolds := s.legalHolds }
  | .deletionRequests => { deletionRequests := s.deletionRequests }

def PostgresRepository.only {β : Type} (s : PostgresRepository β) :
    Collection → PostgresRepository β
  | .trips => { trips := s.trips, tripSegments := s.tripSegments }
  | .evidence => { evidenceItems := s.evidenceItems }
  | .assessments => { assessments := s.assessments }
  | .incidents => { incidents := s.incidents }
  | .approvals => { approvals := s.approvals }
  | .candidates => { candidateSets := s.candidateSets, candidateOutcomes := s.candidateOutcomes }
  | .feedback => { managerFeedback := s.managerFeedback }
  | .playbooks => { tenantPlaybooks := s.tenantPlaybooks }
  | .profiles => { preferences := s.preferences }
  | .proposals => { memoryProposals := s.memoryProposals }
  | .idempotency => { idempotencyRecords := s.idempotencyRecords }
  | .events => { events := s.events }
  | .memoryAudits => { memoryAuditEvents := s.memoryAuditEvents }
  | .notifications =>
    { notifications := s.notifications, notificationAttempts := s.notificationAttempts }
  | .actions =>
    { actionDispatches := s.actionDispatches, actionDispatchAttempts := s.actionDispatchAttempts }
  | .governance =>
    { changeRecords := s.changeRecords, providerOnboardingRecords := s.providerOnboardingRecords }
  | .controls =>
    { runtimeControlOverrides := s.runtimeControlOverrides
      runtimeControlChanges := s.runtimeControlChanges
      platformControlOverrides := s.platformControlOverrides
      platformControlChanges := s.platformControlChanges }
  | .uploads => { originalUploads := s.originalUploads }
  | .holds => { legalHolds := s.legalHolds }
  | .deletionRequests => { deletionRequests := s.deletionRequests }

/-- A backend whose calls leave every collection that they do not write. -/
class Framed (b : Backend) where
  only : b.State → Collection → b.State
  frame : ∀ {α : Type} (op : RepoOp α) (now : Time) (fresh : ℕ → Uuid) (s : b.State)
    {c : Collection}, c ∉ op.writes → only (b.exec op now fresh s).2 c = only s c

instance : Framed .memory where
  only := InMemoryRepository.only
  frame op now fresh s c hc := by
    cases op with
    | saveEvidence tenantId tripId evidence =>
      simp only [Backend.memory, InMemoryRepository.saveEvidence]
      split <;> cases c <;> first | rfl | exact absurd (List.mem_singleton.mpr rfl) hc
    | saveAssessment tenantId assessment =>
      simp only [Backend.memory, InMemoryRepository.saveAssessment]
      split <;> cases c <;> first | rfl | exact absurd (List.mem_singleton.mpr rfl) hc
    | savePlaybook playbook =>
      simp only [Backend.memory, InMemoryRepository.savePlaybook, answered]
      split <;> cases c <;> first | rfl | exact absurd (List.mem_singleton.mpr rfl) hc
    | completeActionDispatch action attempt claimId =>
      simp only [Backend.memory, InMemoryRepository.completeActionDispatch, answered]
      split
      · rfl
      · split <;> cases c <;> first | rfl | exact absurd (List.mem_singleton.mpr rfl) hc
    | completeNotificationDelivery notification attempt claimId =>
      simp only [Backend.memory, InMemoryRepository.completeNotificationDelivery, answered]
      split
      · rfl
      · split <;> cases c <;> first | rfl | exact absurd (List.mem_singleton.mpr rfl) hc
    | deleteTravelerMemory tenantId travelerId =>
      simp only [RepoOp.writes, List.mem_cons, not_or] at hc
      cases c <;> first | rfl | exact absurd rfl hc.1 | exact absurd rfl hc.2.1
    | eraseTravelerData tenantId travelerId scope =>
      have hc' : c ∉ erasedCollections := hc
      simp only [Backend.memory, InMemoryRepository.eraseTravelerData, answered]
      split <;> cases c <;> first | rfl | exact absurd (by decide) hc'
    | purgeExpired cutoffs =>
      have hc' : c ∉ purgedCollections := hc
      cases c <;> first | rfl | exact absurd (by decide) hc'
    | _ => cases c <;> first | rfl | exact absurd (List.mem_singleton.mpr rfl) hc

/-- A write that leaves a collection when it succeeds leaves it when it fails. -/
theorem PostgresRepository.only_committed {s : PostgresRepository Response}
    {r : Except Fault (PostgresRepository Response)} {c : Collection}
    (h : ∀ s', r = .ok s' → s'.only c = s.only c) : (committed s r).2.only c = s.only c := by
  cases r with
  | ok s' => exact h s' rfl
  | error fault => rfl

theorem PostgresRepository.only_replaceTripSegments {s s' : PostgresRepository Response}
    {trip : Trip} {c : Collection} (hc : c ≠ .trips) (h : s.replaceTripSegments trip = .ok s') :
    s'.only c = s.only c := by
  simp only [replaceTripSegments] at h
  split at h
  · cases h
    cases c <;> first | rfl | exact absurd rfl hc
  · cases h

instance : Framed .postgres where
  only := PostgresRepository.only
  frame op now fresh s c hc := by
    cases op with
    | createTrip trip =>
      have hc' : c ≠ .trips := fun h => hc (List.mem_singleton.mpr h)
      refine PostgresRepository.only_committed fun s' h => ?_
      obtain ⟨rows, -, hs'⟩ := except_bind_eq_ok.mp h
      rw [PostgresRepository.only_replaceTripSegments hc' hs']
      cases c <;> first | rfl | exact absurd rfl hc'
    | saveTrip trip =>
      have hc' : c ≠ .trips := fun h => hc (List.mem_singleton.mpr h)
      refine PostgresRepository.only_committed fun s' h => ?_
      rw [PostgresRepository.only_replaceTripSegments hc' h]
      cases c <;> first | rfl | exact absurd rfl hc'
    | saveEvidence tenantId tripId evidence =>
      simp only [Backend.postgres, PostgresRepository.saveEvidence]
      split <;> cases c <;> first | rfl | exact absurd (List.mem_singleton.mpr rfl) hc
    | completeActionDispatch action attempt claimId =>
      simp only [Backend.postgres, PostgresRepository.completeActionDispatch]
      split
      · rfl
      · split
        · split <;> cases c <;> first | rfl | exact absurd (List.mem_singleton.mpr rfl) hc
        · rfl
    | completeNotificationDelivery notification attempt claimId =>
      simp only [Backend.postgres, PostgresRepository.completeNotificationDelivery]
      split
      · rfl
      · split
        · split <;> cases c <;> first | rfl | exact absurd (List.mem_singleton.mpr rfl) hc
        · rfl
    | savePlaybook playbook =>
      simp only [Backend.postgres, PostgresRepository.savePlaybook, answered]
      split <;> cases c <;> first | rfl | exact absurd (List.mem_singleton.mpr rfl) hc
    | saveAssessment | saveCandidateSet | recordCandidateOutcome | saveManagerFeedback
    | recordActionDispatchAttempt | recordEvent | recordMemoryAudit | recordNotificationAttempt
    | saveChangeRecord | saveProviderOnboarding | saveRuntimeControlChange
    | savePlatformControlChange =>
      refine PostgresRepository.only_committed fun s' h => ?_
      obtain ⟨rows, -, hs'⟩ := except_bind_eq_ok.mp h
      cases hs'
      cases c <;> first | rfl | exact absurd (List.mem_singleton.mpr rfl) hc
    | deleteTravelerMemory tenantId travelerId =>
      simp only [RepoOp.writes, List.mem_cons, not_or] at hc
      cases c <;> first | rfl | exact absurd rfl hc.1 | exact absurd rfl hc.2.1
    | eraseTravelerData tenantId travelerId scope =>
      have hc' : c ∉ erasedCollections := hc
      simp only [Backend.postgres, PostgresRepository.eraseTravelerData, answered]
      split <;> cases c <;> first | rfl | exact absurd (by decide) hc'
    | purgeExpired cutoffs =>
      have hc' : c ∉ purgedCollections := hc
      cases c <;> first | rfl | exact absurd (by decide) hc'
    | _ => cases c <;> first | rfl | exact absurd (List.mem_singleton.mpr rfl) hc

end RouteShield
