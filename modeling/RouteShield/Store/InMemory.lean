import RouteShield.Domain.Records
import RouteShield.Domain.Recovery
import RouteShield.Store.Idempotency
import RouteShield.Api.Security

/-!
The in-memory repository. Each collection is a dictionary of the service, in insertion
order; a method reads or updates whole collections. A clock reading or a drawn identifier
is an argument.
-/

namespace RouteShield

/-- `β` is what a stored response holds. -/
structure InMemoryRepository (β : Type) where
  trips : Table Trip.tripId := .empty
  tripSegments : Table (Bucket.id (κ := Uuid) (α := FlightSegment)) := .empty
  evidence : Table (Bucket.id (κ := Uuid) (α := EvidenceEnvelope)) := .empty
  assessments : Table (Bucket.id (κ := Uuid) (α := RiskAssessment)) := .empty
  incidents : Table Incident.incidentId := .empty
  approvals : Table ApprovalRecord.incidentId := .empty
  events : List EventRecord := []
  profiles : Table (fun p : TravelerPreferenceProfile => (p.tenantId, p.travelerId)) := .empty
  memoryProposals : Table MemoryUpdateProposal.proposalId := .empty
  idempotencyRecords : IdempotencyRecords β := .empty
  candidateSets : Table (fun s : String × RecoveryCandidateSet => s.2.candidateSetId) := .empty
  candidateOutcomes : Table (fun o : String × RecoveryCandidateOutcome => o.2.outcomeId) := .empty
  managerFeedback : Table ManagerFeedback.feedbackId := .empty
  tenantPlaybooks : Table TenantPlaybook.playbookId := .empty
  notifications : Table NotificationRecord.notificationId := .empty
  notificationAttempts : Table (Bucket.id (κ := Uuid) (α := NotificationAttempt)) := .empty
  actionDispatches : Table ActionDispatchRecord.actionDispatchId := .empty
  actionDispatchAttempts : Table (Bucket.id (κ := Uuid) (α := ActionDispatchAttempt)) := .empty
  memoryAudits : List MemoryAuditEvent := []
  changeRecords : Table ChangeRecord.changeId := .empty
  providerOnboardingRecords : Table ProviderOnboardingRecord.providerOnboardingId := .empty
  legalHolds : Table LegalHoldRecord.legalHoldId := .empty
  deletionRequests : Table DeletionRequest.deletionRequestId := .empty
  runtimeControlOverrides :
    Table (fun c : RuntimeControlChange => (c.tenantId, c.controlName)) := .empty
  runtimeControlChanges : List RuntimeControlChange := []
  platformControlOverrides : Table PlatformRuntimeControlChange.controlName := .empty
  platformControlChanges : List PlatformRuntimeControlChange := []
  originalUploads : Table OriginalUploadRecord.originalUploadId := .empty

/-- Stable sort by a time and then by the text of an identifier. -/
def sortedBy {α : Type} (time : α → Time) (id : α → Uuid) (items : List α) : List α :=
  items.mergeSort (fun a b => time a < time b ∨ (time a = time b ∧ (id a).str ≤ (id b).str))

theorem sortedBy_perm {α : Type} (time : α → Time) (id : α → Uuid) (items : List α) :
    (sortedBy time id items).Perm items := List.mergeSort_perm _ _

theorem sortedBy_trans {α : Type} {time : α → Time} {id : α → Uuid} {a b c : α}
    (hab : time a < time b ∨ (time a = time b ∧ (id a).str ≤ (id b).str))
    (hbc : time b < time c ∨ (time b = time c ∧ (id b).str ≤ (id c).str)) :
    time a < time c ∨ (time a = time c ∧ (id a).str ≤ (id c).str) := by
  rcases hab with hab | ⟨hab, hab'⟩ <;> rcases hbc with hbc | ⟨hbc, hbc'⟩
  · exact .inl (hab.trans hbc)
  · exact .inl (hbc ▸ hab)
  · exact .inl (hab ▸ hbc)
  · exact .inr ⟨hab.trans hbc, String.le_trans hab' hbc'⟩

theorem sortedBy_total {α : Type} (time : α → Time) (id : α → Uuid) (a b : α) :
    (time a < time b ∨ (time a = time b ∧ (id a).str ≤ (id b).str)) ∨
      (time b < time a ∨ (time b = time a ∧ (id b).str ≤ (id a).str)) := by
  rcases lt_trichotomy (time a) (time b) with h | h | h
  · exact .inl (.inl h)
  · rcases String.le_total (id a).str (id b).str with h' | h'
    · exact .inl (.inr ⟨h, h'⟩)
    · exact .inr (.inr ⟨h.symm, h'⟩)
  · exact .inr (.inl h)

theorem sortedBy_antisymm {α : Type} {time : α → Time} {id : α → Uuid} {a b : α}
    (hab : time a < time b ∨ (time a = time b ∧ (id a).str ≤ (id b).str))
    (hba : time b < time a ∨ (time b = time a ∧ (id b).str ≤ (id a).str)) : id a = id b := by
  rcases hab with hab | ⟨hab, hab'⟩ <;> rcases hba with hba | ⟨hba, hba'⟩
  · exact absurd hba (lt_asymm hab)
  · exact absurd (hba ▸ hab) (lt_irrefl _)
  · exact absurd (hab ▸ hba) (lt_irrefl _)
  · exact Uuid.str_injective (String.le_antisymm hab' hba')

theorem pairwise_sortedBy {α : Type} (time : α → Time) (id : α → Uuid) (items : List α) :
    (sortedBy time id items).Pairwise (fun a b =>
      time a < time b ∨ (time a = time b ∧ (id a).str ≤ (id b).str)) := by
  refine (List.pairwise_mergeSort ?_ ?_ items).imp fun h => of_decide_eq_true h
  · intro a b c hab hbc
    exact decide_eq_true (sortedBy_trans (of_decide_eq_true hab) (of_decide_eq_true hbc))
  · intro a b
    rw [Bool.or_eq_true, decide_eq_true_eq, decide_eq_true_eq]
    exact sortedBy_total time id a b

/-- The order of rows with identifiers of their own depends on nothing else. -/
theorem sortedBy_congr {α : Type} {time : α → Time} {id : α → Uuid} {items items' : List α}
    (hperm : items.Perm items') (hid : ∀ a ∈ items, ∀ b ∈ items, id a = id b → a = b) :
    sortedBy time id items = sortedBy time id items' := by
  refine List.Perm.eq_of_pairwise (fun a b ha hb hab hba => ?_) (pairwise_sortedBy time id items)
    (pairwise_sortedBy time id items')
    (((sortedBy_perm time id items).trans hperm).trans (sortedBy_perm time id items').symm)
  have ha' : a ∈ items := (sortedBy_perm time id items).mem_iff.mp ha
  have hb' : b ∈ items := hperm.mem_iff.mpr ((sortedBy_perm time id items').mem_iff.mp hb)
  exact hid a ha' b hb' (sortedBy_antisymm hab hba)

/-- An override counts until its expiry. -/
def RuntimeControlUpdate.current (update : RuntimeControlUpdate) (now : Time) : Bool :=
  ∀ expiresAt ∈ update.expiresAt, now < expiresAt

/-! ### Leases on the outboxes -/

/-- The arguments of `claim_due_notifications` and `claim_due_action_dispatches`. -/
structure LeaseRequest where
  tenantId : Option String
  workerId : String
  claimTtl : ℤ
  limit : ℕ := 100

/-- An empty filter is no filter. -/
def LeaseRequest.admits (request : LeaseRequest) (tenantId : String) : Bool :=
  truthy request.tenantId = false ∨ request.tenantId = some tenantId

def LeaseRequest.claim (request : LeaseRequest) (now : Time) (claimId : Uuid) : DispatchClaim where
  claimId
  claimedBy := request.workerId
  claimedAt := now
  expiresAt := now + request.claimTtl

/-- No worker holds an unexpired lease. -/
def unclaimed (claim : Option DispatchClaim) (now : Time) : Bool := ∀ c ∈ claim, c.expiresAt ≤ now

namespace NotificationRecord

def waiting (notification : NotificationRecord) : Bool :=
  notification.status = .queued ∨ notification.status = .retryScheduled

def leasable (notification : NotificationRecord) (now : Time) : Bool :=
  notification.nextAttemptAt ≤ now ∧ unclaimed notification.dispatchClaim now

def leased (notification : NotificationRecord) (claim : DispatchClaim) : NotificationRecord :=
  { notification with dispatchClaim := some claim }

def released (notification : NotificationRecord) : NotificationRecord :=
  { notification with dispatchClaim := none }

end NotificationRecord

namespace ActionDispatchRecord

def waiting (action : ActionDispatchRecord) : Bool :=
  action.status = .queued ∨ action.status = .retryScheduled

def leasable (action : ActionDispatchRecord) (now : Time) : Bool :=
  action.nextAttemptAt ≤ now ∧ unclaimed action.dispatchClaim now

def leased (action : ActionDispatchRecord) (claim : DispatchClaim) : ActionDispatchRecord :=
  { action with dispatchClaim := some claim }

def released (action : ActionDispatchRecord) : ActionDispatchRecord :=
  { action with dispatchClaim := none }

end ActionDispatchRecord

namespace InMemoryRepository

variable {β : Type} (repo : InMemoryRepository β)

/-! ### Trips -/

def saveTrip (trip : Trip) : InMemoryRepository β :=
  { repo with
    trips := repo.trips.put trip
    tripSegments := repo.tripSegments.put ⟨trip.tripId, trip.segments⟩ }

/-- `create_trip` and `save_trip` have one body here. -/
def createTrip (trip : Trip) : InMemoryRepository β := repo.saveTrip trip

def getTrip (tenantId : String) (tripId : Uuid) : Option Trip :=
  (repo.trips.find? tripId).filter (fun trip => trip.tenantId = tenantId)

def listTrips : List Trip := repo.trips.rows

def saveEvidence (tenantId : String) (tripId : Uuid) (evidence : List EvidenceEnvelope) :
    Except Fault (InMemoryRepository β) :=
  if (repo.getTrip tenantId tripId).isNone then .error (.key "trip not found")
  else .ok { repo with evidence := repo.evidence.put ⟨tripId, evidence⟩ }

def getEvidence (tenantId : String) (tripId : Uuid) : List EvidenceEnvelope :=
  if (repo.getTrip tenantId tripId).isNone then [] else repo.evidence.items tripId

def saveAssessment (tenantId : String) (assessment : RiskAssessment) :
    Except Fault (InMemoryRepository β) :=
  if (repo.getTrip tenantId assessment.tripId).isNone then .error (.key "trip not found")
  else .ok { repo with assessments := repo.assessments.push assessment.tripId assessment }

/-! ### Incidents and what hangs off them -/

def saveIncident (incident : Incident) : InMemoryRepository β :=
  { repo with incidents := repo.incidents.put incident }

def getIncident (tenantId : String) (incidentId : Uuid) : Option Incident :=
  (repo.incidents.find? incidentId).filter (fun incident => incident.tenantId = tenantId)

def listIncidents (tenantId : String) : List Incident :=
  repo.incidents.rows.filter (fun incident => incident.tenantId = tenantId)

def saveApproval (approval : ApprovalRecord) : InMemoryRepository β :=
  { repo with approvals := repo.approvals.put approval }

def saveCandidateSet (tenantId : String) (candidateSet : RecoveryCandidateSet) :
    InMemoryRepository β :=
  { repo with candidateSets := repo.candidateSets.put (tenantId, candidateSet) }

def getCandidateSet (tenantId : String) (incidentId candidateSetId : Uuid) :
    Option RecoveryCandidateSet :=
  ((repo.candidateSets.find? candidateSetId).filter
    (fun saved => saved.1 = tenantId ∧ saved.2.incidentId = incidentId)).map Prod.snd

def listCandidateSets (tenantId : String) (incidentId : Uuid) : List RecoveryCandidateSet :=
  (repo.candidateSets.rows.filter
    (fun saved => saved.1 = tenantId ∧ saved.2.incidentId = incidentId)).map Prod.snd

def recordCandidateOutcome (tenantId : String) (outcome : RecoveryCandidateOutcome) :
    InMemoryRepository β :=
  { repo with candidateOutcomes := repo.candidateOutcomes.put (tenantId, outcome) }

def listCandidateOutcomes (tenantId : String) (candidateSetId : Uuid) :
    List RecoveryCandidateOutcome :=
  sortedBy (·.occurredAt) (·.outcomeId)
    ((repo.candidateOutcomes.rows.filter
      (fun saved => saved.1 = tenantId ∧ saved.2.candidateSetId = candidateSetId)).map Prod.snd)

def saveManagerFeedback (feedback : ManagerFeedback) : InMemoryRepository β :=
  { repo with managerFeedback := repo.managerFeedback.put feedback }

def saveActionDispatch (action : ActionDispatchRecord) : InMemoryRepository β :=
  { repo with actionDispatches := repo.actionDispatches.put action }

def listActionDispatches (tenantId : String) (incidentId : Uuid) : List ActionDispatchRecord :=
  repo.actionDispatches.rows.filter
    (fun action => action.tenantId = tenantId ∧ action.incidentId = incidentId)

/-- Lease the first due records of the outbox, in its order, up to the limit. -/
def claimDueActionDispatches (request : LeaseRequest) (now : Time) (fresh : ℕ → Uuid) :
    List ActionDispatchRecord × InMemoryRepository β :=
  let due := repo.actionDispatches.rows.filter (fun action =>
    request.admits action.tenantId && action.waiting && action.leasable now)
  let claimed := (due.take request.limit).zipIdx.map (fun (action, i) =>
    action.leased (request.claim now (fresh i)))
  (claimed, { repo with actionDispatches := claimed.foldl Table.put repo.actionDispatches })

/-- Commit a leased dispatch and its attempt, if the lease is still the record's. -/
def completeActionDispatch (action : ActionDispatchRecord) (attempt : ActionDispatchAttempt)
    (claimId : Uuid) : Option ActionDispatchRecord × InMemoryRepository β :=
  match repo.actionDispatches.find? action.actionDispatchId with
  | none => (none, repo)
  | some current =>
    if current.dispatchClaim.map DispatchClaim.claimId = some claimId then
      (some action.released,
        { repo with
          actionDispatches := repo.actionDispatches.put action.released
          actionDispatchAttempts :=
            repo.actionDispatchAttempts.push attempt.actionDispatchId attempt })
    else (none, repo)

def recordActionDispatchAttempt (attempt : ActionDispatchAttempt) : InMemoryRepository β :=
  { repo with
    actionDispatchAttempts := repo.actionDispatchAttempts.push attempt.actionDispatchId attempt }

/-! ### Idempotency and audit -/

def claimIdempotency (claim : Claim) (now : Time) :
    Except Fault (IdempotencyDisposition × IdempotencyRecord β) × InMemoryRepository β :=
  let (answer, records) := Memory.claimIdempotency repo.idempotencyRecords claim now
  (answer, { repo with idempotencyRecords := records })

def completeIdempotency (completion : Completion β) (now : Time) :
    Except Fault (IdempotencyRecord β) × InMemoryRepository β :=
  let (answer, records) := Memory.completeIdempotency repo.idempotencyRecords completion now
  (answer, { repo with idempotencyRecords := records })

def recordEvent (event : EventRecord) : InMemoryRepository β :=
  { repo with events := repo.events ++ [{ event with details := redactFields event.details }] }

def recordMemoryAudit (event : MemoryAuditEvent) : InMemoryRepository β :=
  { repo with memoryAudits := repo.memoryAudits ++ [event] }

/-! ### Traveler memory and playbooks -/

def getProfile (tenantId travelerId : String) : Option TravelerPreferenceProfile :=
  repo.profiles.find? (tenantId, travelerId)

def saveProfile (profile : TravelerPreferenceProfile) : InMemoryRepository β :=
  { repo with profiles := repo.profiles.put profile }

def saveMemoryProposal (proposal : MemoryUpdateProposal) : InMemoryRepository β :=
  { repo with memoryProposals := repo.memoryProposals.put proposal }

def getMemoryProposal (tenantId : String) (proposalId : Uuid) : Option MemoryUpdateProposal :=
  (repo.memoryProposals.find? proposalId).filter (fun proposal => proposal.tenantId = tenantId)

/-- The numbers of profiles and proposals deleted, and the repository without them. -/
def deleteTravelerMemory (tenantId travelerId : String) : (ℕ × ℕ) × InMemoryRepository β :=
  let deletedProfile := (repo.profiles.find? (tenantId, travelerId)).isSome.toNat
  let mine : MemoryUpdateProposal → Bool :=
    fun proposal => proposal.tenantId = tenantId ∧ proposal.travelerId = travelerId
  ((deletedProfile, (repo.memoryProposals.rows.filter mine).length),
    { repo with
      profiles := repo.profiles.erase (tenantId, travelerId)
      memoryProposals := repo.memoryProposals.filter (fun proposal => !mine proposal) })

def getPlaybook (tenantId : String) (playbookId : Uuid) : Option TenantPlaybook :=
  (repo.tenantPlaybooks.find? playbookId).filter (fun playbook => playbook.tenantId = tenantId)

/-- The first playbook saved under an identifier stays. -/
def savePlaybook (playbook : TenantPlaybook) : TenantPlaybook × InMemoryRepository β :=
  match repo.tenantPlaybooks.find? playbook.playbookId with
  | some existing => (existing, repo)
  | none => (playbook, { repo with tenantPlaybooks := repo.tenantPlaybooks.put playbook })

/-- Sorted by name and version. -/
def listApprovedPlaybooks (tenantId : String) : List TenantPlaybook :=
  (repo.tenantPlaybooks.rows.filter (fun playbook => playbook.tenantId = tenantId)).mergeSort
    (fun a b => a.name < b.name ∨ (a.name = b.name ∧ a.version ≤ b.version))

/-! ### Notifications -/

def saveNotification (notification : NotificationRecord) : InMemoryRepository β :=
  { repo with notifications := repo.notifications.put notification }

def getNotification (tenantId : String) (notificationId : Uuid) : Option NotificationRecord :=
  (repo.notifications.find? notificationId).filter
    (fun notification => notification.tenantId = tenantId)

def claimDueNotifications (request : LeaseRequest) (now : Time) (fresh : ℕ → Uuid) :
    List NotificationRecord × InMemoryRepository β :=
  let due := repo.notifications.rows.filter (fun notification =>
    request.admits notification.tenantId && notification.waiting && notification.leasable now)
  let claimed := (due.take request.limit).zipIdx.map (fun (notification, i) =>
    notification.leased (request.claim now (fresh i)))
  (claimed, { repo with notifications := claimed.foldl Table.put repo.notifications })

def completeNotificationDelivery (notification : NotificationRecord)
    (attempt : NotificationAttempt) (claimId : Uuid) :
    Option NotificationRecord × InMemoryRepository β :=
  match repo.notifications.find? notification.notificationId with
  | none => (none, repo)
  | some current =>
    if current.dispatchClaim.map DispatchClaim.claimId = some claimId then
      (some notification.released,
        { repo with
          notifications := repo.notifications.put notification.released
          notificationAttempts := repo.notificationAttempts.push attempt.notificationId attempt })
    else (none, repo)

def recordNotificationAttempt (attempt : NotificationAttempt) : InMemoryRepository β :=
  { repo with
    notificationAttempts := repo.notificationAttempts.push attempt.notificationId attempt }

/-! ### Governance -/

def saveChangeRecord (record : ChangeRecord) : InMemoryRepository β :=
  { repo with changeRecords := repo.changeRecords.put record }

def saveProviderOnboarding (record : ProviderOnboardingRecord) : InMemoryRepository β :=
  { repo with providerOnboardingRecords := repo.providerOnboardingRecords.put record }

def getRuntimeControlOverride (tenantId : String) (controlName : RuntimeControlName) (now : Time) :
    Option RuntimeControlChange :=
  (repo.runtimeControlOverrides.find? (tenantId, controlName)).filter
    (fun record => record.toRuntimeControlUpdate.current now)

def saveRuntimeControlChange (record : RuntimeControlChange) : InMemoryRepository β :=
  { repo with
    runtimeControlOverrides := repo.runtimeControlOverrides.put record
    runtimeControlChanges := repo.runtimeControlChanges ++ [record] }

def getPlatformControlOverride (controlName : RuntimeControlName) (now : Time) :
    Option PlatformRuntimeControlChange :=
  (repo.platformControlOverrides.find? controlName).filter
    (fun record => record.toRuntimeControlUpdate.current now)

def savePlatformControlChange (record : PlatformRuntimeControlChange) : InMemoryRepository β :=
  { repo with
    platformControlOverrides := repo.platformControlOverrides.put record
    platformControlChanges := repo.platformControlChanges ++ [record] }

def saveOriginalUpload (record : OriginalUploadRecord) : InMemoryRepository β :=
  { repo with originalUploads := repo.originalUploads.put record }

/-! ### Holds and erasure requests -/

def saveLegalHold (hold : LegalHoldRecord) : InMemoryRepository β :=
  { repo with legalHolds := repo.legalHolds.put hold }

def getLegalHold (tenantId : String) (legalHoldId : Uuid) : Option LegalHoldRecord :=
  (repo.legalHolds.find? legalHoldId).filter (fun hold => hold.tenantId = tenantId)

def listLegalHolds (tenantId : String) : List LegalHoldRecord :=
  sortedBy (·.createdAt) (·.legalHoldId)
    (repo.legalHolds.rows.filter (fun hold => hold.tenantId = tenantId))

def activeLegalHoldsForTraveler (tenantId travelerId : String) (now : Time) :
    List LegalHoldRecord :=
  let tripIds := (repo.trips.rows.filter
    (fun trip => trip.tenantId = tenantId ∧ trip.travelerId = travelerId)).map Trip.tripId
  (repo.listLegalHolds tenantId).filter (fun hold => hold.isActive now ∧
    (hold.scope = .tenant ∨ (hold.scope = .traveler ∧ hold.travelerId = some travelerId) ∨
      (hold.scope = .trip ∧ ∃ tripId ∈ hold.tripId, tripId ∈ tripIds)))

def saveDeletionRequest (request : DeletionRequest) : InMemoryRepository β :=
  { repo with deletionRequests := repo.deletionRequests.put request }

def getDeletionRequest (tenantId : String) (deletionRequestId : Uuid) : Option DeletionRequest :=
  (repo.deletionRequests.find? deletionRequestId).filter (fun request => request.tenantId = tenantId)

end InMemoryRepository

end RouteShield
