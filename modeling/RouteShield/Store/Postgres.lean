import RouteShield.Store.InMemory

/-!
The PostgreSQL repository. A row keeps the document it was written with and the columns
that the service selects on; a column that every write copies from the document, the key
among them, is read off the document. A plain insert of a taken key fails. Each method is
one transaction. Rows are kept in the order of their first insert, columns take texts of any width,
and floats come back as they were written; what a database changes of this is said apart. No stored
text is taken to hold U+0000, which neither a text nor a JSONB column takes.
-/

namespace RouteShield

/-- A document and the tenant column beside it. -/
structure TenantRow (α : Type) where
  tenantId : String
  payload : α
  deriving DecidableEq

structure TripSegmentRow where
  tripId : Uuid
  tenantId : String
  segment : FlightSegment
  deriving DecidableEq

structure EvidenceRow where
  tenantId : String
  tripId : Uuid
  payload : EvidenceEnvelope
  deriving DecidableEq

structure ActionDispatchRow where
  tenantId : String
  incidentId : Uuid
  payload : ActionDispatchRecord
  deriving DecidableEq

structure DeletionRequestRow where
  tenantId : String
  travelerId : String
  payload : DeletionRequest
  deriving DecidableEq

/-- `β` is what a stored response holds. -/
structure PostgresRepository (β : Type) where
  trips : Table (fun row : TenantRow Trip => row.payload.tripId) := .empty
  tripSegments : Table (fun row : TripSegmentRow => (row.tripId, row.segment.segmentId)) := .empty
  evidenceItems : Table (fun row : EvidenceRow => row.payload.evidenceId) := .empty
  assessments : Table (fun row : TenantRow RiskAssessment => row.payload.assessmentId) := .empty
  incidents : Table (fun row : TenantRow Incident => row.payload.incidentId) := .empty
  preferences : Table (fun p : TravelerPreferenceProfile => (p.tenantId, p.travelerId)) := .empty
  approvals : Table ApprovalRecord.incidentId := .empty
  events : Table EventRecord.eventId := .empty
  memoryProposals : Table (fun row : TenantRow MemoryUpdateProposal => row.payload.proposalId) :=
    .empty
  idempotencyRecords : IdempotencyRecords β := .empty
  candidateSets : Table (fun row : TenantRow RecoveryCandidateSet => row.payload.candidateSetId) :=
    .empty
  candidateOutcomes :
    Table (fun row : TenantRow RecoveryCandidateOutcome => row.payload.outcomeId) := .empty
  managerFeedback : Table ManagerFeedback.feedbackId := .empty
  tenantPlaybooks : Table TenantPlaybook.playbookId := .empty
  notifications : Table (fun row : TenantRow NotificationRecord => row.payload.notificationId) :=
    .empty
  notificationAttempts : Table NotificationAttempt.attemptId := .empty
  actionDispatches : Table (fun row : ActionDispatchRow => row.payload.actionDispatchId) := .empty
  actionDispatchAttempts : Table ActionDispatchAttempt.attemptId := .empty
  memoryAuditEvents : Table MemoryAuditEvent.auditId := .empty
  changeRecords : Table ChangeRecord.changeId := .empty
  providerOnboardingRecords : Table ProviderOnboardingRecord.providerOnboardingId := .empty
  legalHolds : Table (fun row : TenantRow LegalHoldRecord => row.payload.legalHoldId) := .empty
  deletionRequests : Table (fun row : DeletionRequestRow => row.payload.deletionRequestId) := .empty
  runtimeControlOverrides :
    Table (fun c : RuntimeControlChange => (c.tenantId, c.controlName)) := .empty
  runtimeControlChanges : Table RuntimeControlChange.controlChangeId := .empty
  platformControlOverrides : Table PlatformRuntimeControlChange.controlName := .empty
  platformControlChanges : Table PlatformRuntimeControlChange.controlChangeId := .empty
  originalUploads : Table (fun row : TenantRow OriginalUploadRecord => row.payload.originalUploadId) :=
    .empty

/-- `on_conflict_do_update` of the document alone: a row that exists keeps its tenant column. -/
def Table.upsertPayload {α κ : Type} [DecidableEq κ] {id : α → κ}
    (rows : Table (fun row : TenantRow α => id row.payload)) (tenantId : String) (payload : α) :
    Table (fun row : TenantRow α => id row.payload) :=
  rows.put ⟨((rows.find? (id payload)).map TenantRow.tenantId).getD tenantId, payload⟩

/-- The document under a key, for the tenant of its row. -/
def Table.payload? {α κ : Type} [DecidableEq κ] {id : α → κ}
    (rows : Table (fun row : TenantRow α => id row.payload)) (tenantId : String) (key : κ) :
    Option α :=
  ((rows.find? key).filter (fun row => row.tenantId = tenantId)).map TenantRow.payload

namespace Table

variable {α κ : Type} [DecidableEq κ] {id : α → κ}
  (rows : Table (fun row : TenantRow α => id row.payload))

/-- The document under a key after an upsert, whatever its tenant column. -/
theorem payload_upsertPayload (tenantId : String) (payload : α) (k : κ) :
    ((rows.upsertPayload tenantId payload).find? k).map TenantRow.payload =
      if k = id payload then some payload else (rows.find? k).map TenantRow.payload := by
  rw [upsertPayload, find?_put]
  split_ifs <;> rfl

theorem payload?_eq_some {tenantId : String} {k : κ} {a : α}
    (h : rows.payload? tenantId k = some a) :
    (rows.find? k).map TenantRow.payload = some a ∧ id a = k := by
  obtain ⟨row, hrow, rfl⟩ := Option.map_eq_some_iff.mp h
  have hf := (Option.filter_eq_some_iff.mp hrow).1
  exact ⟨by rw [hf]; rfl, (rows.find?_eq_some.mp hf).2⟩

/-- Every row sits in the tenant column of its document. -/
def Owned (tenantOf : α → String) : Prop := ∀ row ∈ rows, row.tenantId = tenantOf row.payload

variable {rows} {tenantOf : α → String}

theorem Owned.payload?_eq (h : rows.Owned tenantOf) (tenantId : String) (k : κ) :
    rows.payload? tenantId k =
      ((rows.find? k).map TenantRow.payload).filter (fun a => tenantOf a = tenantId) := by
  unfold payload?
  cases hfind : rows.find? k with
  | none => rfl
  | some row =>
    have hrow := h row (rows.find?_eq_some.mp hfind).1
    simp only [Option.map_some, Option.filter_some, hrow]
    split_ifs <;> rfl

/-- An upsert over a document of another tenant leaves the row in that tenant's column. -/
theorem Owned.upsertPayload (h : rows.Owned tenantOf) {payload : α}
    (hsame : ∀ a, (rows.find? (id payload)).map TenantRow.payload = some a →
      tenantOf a = tenantOf payload) :
    (rows.upsertPayload (tenantOf payload) payload).Owned tenantOf := by
  intro row hrow
  rcases (rows.mem_put _ row).mp hrow with rfl | hrow
  · cases hfind : rows.find? (id payload) with
    | none => rfl
    | some current =>
      show current.tenantId = tenantOf payload
      rw [h current (rows.find?_eq_some.mp hfind).1]
      exact hsame current.payload (by rw [hfind]; rfl)
  · exact h row hrow.1

end Table

/-- An insert that a taken key turns into an integrity error. -/
def Table.inserted {α κ : Type} [DecidableEq κ] {key : α → κ} (rows : Table key) (row : α)
    (table : String) : Except Fault (Table key) :=
  match rows.insert row with
  | some rows => .ok rows
  | none => .error (.integrity table)

namespace PostgresRepository

variable {β : Type} (repo : PostgresRepository β)

/-! ### Trips -/

/-- `_replace_trip_segments`. -/
def replaceTripSegments (trip : Trip) : Except Fault (PostgresRepository β) :=
  let others := repo.tripSegments.filter (fun row => row.tripId ≠ trip.tripId)
  match others.insertAll (trip.segments.map (fun s => ⟨trip.tripId, trip.tenantId, s⟩)) with
  | some rows => .ok { repo with tripSegments := rows }
  | none => .error (.integrity "trip_segments")

def createTrip (trip : Trip) : Except Fault (PostgresRepository β) := do
  let rows ← repo.trips.inserted ⟨trip.tenantId, trip⟩ "trips"
  replaceTripSegments { repo with trips := rows } trip

def saveTrip (trip : Trip) : Except Fault (PostgresRepository β) :=
  replaceTripSegments { repo with trips := repo.trips.put ⟨trip.tenantId, trip⟩ } trip

def getTrip (tenantId : String) (tripId : Uuid) : Option Trip :=
  (repo.trips.payload? tenantId tripId).map Trip.stripped

def listTrips : List Trip := repo.trips.rows.map (fun row => row.payload.stripped)

def saveEvidence (tenantId : String) (tripId : Uuid) (evidence : List EvidenceEnvelope) :
    Except Fault (PostgresRepository β) :=
  let others := repo.evidenceItems.filter
    (fun row => ¬(row.tenantId = tenantId ∧ row.tripId = tripId))
  match others.insertAll (evidence.map (fun item => ⟨tenantId, tripId, item⟩)) with
  | some rows => .ok { repo with evidenceItems := rows }
  | none => .error (.integrity "evidence_items")

def getEvidence (tenantId : String) (tripId : Uuid) : List EvidenceEnvelope :=
  (repo.evidenceItems.rows.filter (fun row => row.tenantId = tenantId ∧ row.tripId = tripId)).map
    EvidenceRow.payload

def saveAssessment (tenantId : String) (assessment : RiskAssessment) :
    Except Fault (PostgresRepository β) := do
  let rows ← repo.assessments.inserted ⟨tenantId, assessment⟩ "risk_assessments"
  return { repo with assessments := rows }

/-! ### Incidents and what hangs off them -/

def saveIncident (incident : Incident) : PostgresRepository β :=
  { repo with incidents := repo.incidents.upsertPayload incident.tenantId incident }

def getIncident (tenantId : String) (incidentId : Uuid) : Option Incident :=
  repo.incidents.payload? tenantId incidentId

def listIncidents (tenantId : String) : List Incident :=
  (repo.incidents.rows.filter (fun row => row.tenantId = tenantId)).map TenantRow.payload

def saveApproval (approval : ApprovalRecord) : PostgresRepository β :=
  { repo with approvals := repo.approvals.put approval }

def saveCandidateSet (tenantId : String) (candidateSet : RecoveryCandidateSet) :
    Except Fault (PostgresRepository β) := do
  let rows ← repo.candidateSets.inserted ⟨tenantId, candidateSet⟩ "recovery_candidate_sets"
  return { repo with candidateSets := rows }

def getCandidateSet (tenantId : String) (incidentId candidateSetId : Uuid) :
    Option RecoveryCandidateSet :=
  (repo.candidateSets.payload? tenantId candidateSetId).filter
    (fun candidateSet => candidateSet.incidentId = incidentId)

def listCandidateSets (tenantId : String) (incidentId : Uuid) : List RecoveryCandidateSet :=
  (repo.candidateSets.rows.filter
    (fun row => row.tenantId = tenantId ∧ row.payload.incidentId = incidentId)).map
    TenantRow.payload

def recordCandidateOutcome (tenantId : String) (outcome : RecoveryCandidateOutcome) :
    Except Fault (PostgresRepository β) := do
  let rows ← repo.candidateOutcomes.inserted ⟨tenantId, outcome⟩ "recovery_candidate_outcomes"
  return { repo with candidateOutcomes := rows }

def listCandidateOutcomes (tenantId : String) (candidateSetId : Uuid) :
    List RecoveryCandidateOutcome :=
  sortedBy (·.occurredAt) (·.outcomeId)
    ((repo.candidateOutcomes.rows.filter
      (fun row => row.tenantId = tenantId ∧ row.payload.candidateSetId = candidateSetId)).map
      TenantRow.payload)

def saveManagerFeedback (feedback : ManagerFeedback) : Except Fault (PostgresRepository β) := do
  let rows ← repo.managerFeedback.inserted feedback "manager_feedback"
  return { repo with managerFeedback := rows }

/-- A row that exists keeps its tenant and incident columns. -/
def saveActionDispatch (action : ActionDispatchRecord) : PostgresRepository β :=
  let columns := ((repo.actionDispatches.find? action.actionDispatchId).map
    (fun row => (row.tenantId, row.incidentId))).getD (action.tenantId, action.incidentId)
  { repo with actionDispatches := repo.actionDispatches.put ⟨columns.1, columns.2, action⟩ }

def listActionDispatches (tenantId : String) (incidentId : Uuid) : List ActionDispatchRecord :=
  (repo.actionDispatches.rows.filter
    (fun row => row.tenantId = tenantId ∧ row.incidentId = incidentId)).map
    ActionDispatchRow.payload

/-- The rows that wait are leased as they come: the limit counts them, due or not, and of these the
due ones are leased. -/
def leaseActionDispatches (waiting : List ActionDispatchRow) (request : LeaseRequest) (now : Time)
    (fresh : ℕ → Uuid) : List ActionDispatchRecord × PostgresRepository β :=
  let due := (waiting.take request.limit).filter (fun row => row.payload.leasable now)
  let claimed := due.zipIdx.map (fun (row, i) =>
    { row with payload := row.payload.leased (request.claim now (fresh i)) })
  (claimed.map ActionDispatchRow.payload,
    { repo with actionDispatches := claimed.foldl Table.put repo.actionDispatches })

def waitingActionDispatches (request : LeaseRequest) : List ActionDispatchRow :=
  repo.actionDispatches.rows.filter (fun row => request.admits row.tenantId && row.payload.waiting)

def claimDueActionDispatches (request : LeaseRequest) (now : Time) (fresh : ℕ → Uuid) :
    List ActionDispatchRecord × PostgresRepository β :=
  repo.leaseActionDispatches (repo.waitingActionDispatches request) request now fresh

def completeActionDispatch (action : ActionDispatchRecord) (attempt : ActionDispatchAttempt)
    (claimId : Uuid) : Except Fault (Option ActionDispatchRecord) × PostgresRepository β :=
  match repo.actionDispatches.find? action.actionDispatchId with
  | none => (.ok none, repo)
  | some current =>
    if current.payload.dispatchClaim.map DispatchClaim.claimId = some claimId then
      match repo.actionDispatchAttempts.insert attempt with
      | some attempts =>
        (.ok (some action.released),
          { repo with
            actionDispatches :=
              repo.actionDispatches.put { current with payload := action.released }
            actionDispatchAttempts := attempts })
      | none => (.error (.integrity "action_dispatch_attempts"), repo)
    else (.ok none, repo)

def recordActionDispatchAttempt (attempt : ActionDispatchAttempt) :
    Except Fault (PostgresRepository β) := do
  let rows ← repo.actionDispatchAttempts.inserted attempt "action_dispatch_attempts"
  return { repo with actionDispatchAttempts := rows }

/-! ### Idempotency and audit -/

def claimIdempotency (claim : Claim) (now : Time) :
    Except Fault (IdempotencyDisposition × IdempotencyRecord β) × PostgresRepository β :=
  let (answer, records) := Postgres.claimIdempotency repo.idempotencyRecords claim now
  (answer, { repo with idempotencyRecords := records })

def completeIdempotency (completion : Completion β) (now : Time) :
    Except Fault (IdempotencyRecord β) × PostgresRepository β :=
  let (answer, records) := Postgres.completeIdempotency repo.idempotencyRecords completion now
  (answer, { repo with idempotencyRecords := records })

def recordEvent (event : EventRecord) : Except Fault (PostgresRepository β) := do
  let rows ← repo.events.inserted { event with details := redactFields event.details }
    "audit_events"
  return { repo with events := rows }

def recordMemoryAudit (event : MemoryAuditEvent) : Except Fault (PostgresRepository β) := do
  let rows ← repo.memoryAuditEvents.inserted { event with details := redactFields event.details }
    "memory_audit_events"
  return { repo with memoryAuditEvents := rows }

/-! ### Traveler memory and playbooks -/

def getProfile (tenantId travelerId : String) : Option TravelerPreferenceProfile :=
  repo.preferences.find? (tenantId, travelerId)

def saveProfile (profile : TravelerPreferenceProfile) : PostgresRepository β :=
  { repo with preferences := repo.preferences.put profile }

def saveMemoryProposal (proposal : MemoryUpdateProposal) : PostgresRepository β :=
  { repo with memoryProposals := repo.memoryProposals.upsertPayload proposal.tenantId proposal }

def getMemoryProposal (tenantId : String) (proposalId : Uuid) : Option MemoryUpdateProposal :=
  repo.memoryProposals.payload? tenantId proposalId

/-- The numbers of profiles and proposals deleted, and the repository without them. -/
def deleteTravelerMemory (tenantId travelerId : String) : (ℕ × ℕ) × PostgresRepository β :=
  let deletedProfile := (repo.preferences.find? (tenantId, travelerId)).isSome.toNat
  let mine : TenantRow MemoryUpdateProposal → Bool :=
    fun row => row.tenantId = tenantId ∧ row.payload.travelerId = travelerId
  ((deletedProfile, (repo.memoryProposals.rows.filter mine).length),
    { repo with
      preferences := repo.preferences.erase (tenantId, travelerId)
      memoryProposals := repo.memoryProposals.filter (fun row => !mine row) })

def getPlaybook (tenantId : String) (playbookId : Uuid) : Option TenantPlaybook :=
  (repo.tenantPlaybooks.find? playbookId).filter (fun playbook => playbook.tenantId = tenantId)

/-- The first playbook saved under an identifier stays. -/
def savePlaybook (playbook : TenantPlaybook) : TenantPlaybook × PostgresRepository β :=
  match repo.tenantPlaybooks.find? playbook.playbookId with
  | some existing => (existing, repo)
  | none => (playbook, { repo with tenantPlaybooks := repo.tenantPlaybooks.put playbook })

def playbooksOf (tenantId : String) : List TenantPlaybook :=
  repo.tenantPlaybooks.rows.filter (fun playbook => playbook.tenantId = tenantId)

/-- `sorted` by name and version, after the rows have come. -/
def sortedPlaybooks (playbooks : List TenantPlaybook) : List TenantPlaybook :=
  playbooks.mergeSort (fun a b => a.name < b.name ∨ (a.name = b.name ∧ a.version ≤ b.version))

def listApprovedPlaybooks (tenantId : String) : List TenantPlaybook :=
  sortedPlaybooks (repo.playbooksOf tenantId)

/-! ### Notifications -/

def saveNotification (notification : NotificationRecord) : PostgresRepository β :=
  { repo with
    notifications := repo.notifications.upsertPayload notification.tenantId notification }

def getNotification (tenantId : String) (notificationId : Uuid) : Option NotificationRecord :=
  repo.notifications.payload? tenantId notificationId

def leaseNotifications (waiting : List (TenantRow NotificationRecord)) (request : LeaseRequest)
    (now : Time) (fresh : ℕ → Uuid) : List NotificationRecord × PostgresRepository β :=
  let due := (waiting.take request.limit).filter (fun row => row.payload.leasable now)
  let claimed := due.zipIdx.map (fun (row, i) =>
    { row with payload := row.payload.leased (request.claim now (fresh i)) })
  (claimed.map TenantRow.payload,
    { repo with notifications := claimed.foldl Table.put repo.notifications })

def waitingNotifications (request : LeaseRequest) : List (TenantRow NotificationRecord) :=
  repo.notifications.rows.filter (fun row => request.admits row.tenantId && row.payload.waiting)

def claimDueNotifications (request : LeaseRequest) (now : Time) (fresh : ℕ → Uuid) :
    List NotificationRecord × PostgresRepository β :=
  repo.leaseNotifications (repo.waitingNotifications request) request now fresh

def completeNotificationDelivery (notification : NotificationRecord)
    (attempt : NotificationAttempt) (claimId : Uuid) :
    Except Fault (Option NotificationRecord) × PostgresRepository β :=
  match repo.notifications.find? notification.notificationId with
  | none => (.ok none, repo)
  | some current =>
    if current.payload.dispatchClaim.map DispatchClaim.claimId = some claimId then
      match repo.notificationAttempts.insert attempt with
      | some attempts =>
        (.ok (some notification.released),
          { repo with
            notifications :=
              repo.notifications.put { current with payload := notification.released }
            notificationAttempts := attempts })
      | none => (.error (.integrity "notification_attempts"), repo)
    else (.ok none, repo)

def recordNotificationAttempt (attempt : NotificationAttempt) :
    Except Fault (PostgresRepository β) := do
  let rows ← repo.notificationAttempts.inserted attempt "notification_attempts"
  return { repo with notificationAttempts := rows }

/-! ### Governance -/

def saveChangeRecord (record : ChangeRecord) : Except Fault (PostgresRepository β) := do
  let rows ← repo.changeRecords.inserted record "change_records"
  return { repo with changeRecords := rows }

def saveProviderOnboarding (record : ProviderOnboardingRecord) :
    Except Fault (PostgresRepository β) := do
  let rows ← repo.providerOnboardingRecords.inserted record "provider_onboarding_records"
  return { repo with providerOnboardingRecords := rows }

def getRuntimeControlOverride (tenantId : String) (controlName : RuntimeControlName) (now : Time) :
    Option RuntimeControlChange :=
  (repo.runtimeControlOverrides.find? (tenantId, controlName)).filter
    (fun record => record.toRuntimeControlUpdate.current now)

def saveRuntimeControlChange (record : RuntimeControlChange) :
    Except Fault (PostgresRepository β) := do
  let rows ← repo.runtimeControlChanges.inserted record "runtime_control_changes"
  return { repo with
    runtimeControlChanges := rows
    runtimeControlOverrides := repo.runtimeControlOverrides.put record }

def getPlatformControlOverride (controlName : RuntimeControlName) (now : Time) :
    Option PlatformRuntimeControlChange :=
  (repo.platformControlOverrides.find? controlName).filter
    (fun record => record.toRuntimeControlUpdate.current now)

def savePlatformControlChange (record : PlatformRuntimeControlChange) :
    Except Fault (PostgresRepository β) := do
  let rows ← repo.platformControlChanges.inserted record "platform_runtime_control_changes"
  return { repo with
    platformControlChanges := rows
    platformControlOverrides := repo.platformControlOverrides.put record }

def saveOriginalUpload (record : OriginalUploadRecord) : PostgresRepository β :=
  { repo with originalUploads := repo.originalUploads.upsertPayload record.tenantId record }

/-! ### Holds and erasure requests -/

def saveLegalHold (hold : LegalHoldRecord) : PostgresRepository β :=
  { repo with legalHolds := repo.legalHolds.upsertPayload hold.tenantId hold }

def getLegalHold (tenantId : String) (legalHoldId : Uuid) : Option LegalHoldRecord :=
  repo.legalHolds.payload? tenantId legalHoldId

def listLegalHolds (tenantId : String) : List LegalHoldRecord :=
  ((repo.legalHolds.rows.filter (fun row => row.tenantId = tenantId)).map
    TenantRow.payload).mergeSort (fun a b => a.legalHoldId.str ≤ b.legalHoldId.str)

def activeLegalHoldsForTraveler (tenantId travelerId : String) (now : Time) :
    List LegalHoldRecord :=
  let tripIds := (repo.listTrips.filter
    (fun trip => trip.tenantId = tenantId ∧ trip.travelerId = travelerId)).map Trip.tripId
  (repo.listLegalHolds tenantId).filter (fun hold => hold.isActive now ∧
    (hold.scope = .tenant ∨ (hold.scope = .traveler ∧ hold.travelerId = some travelerId) ∨
      (hold.scope = .trip ∧ ∃ tripId ∈ hold.tripId, tripId ∈ tripIds)))

/-- A row that exists keeps its tenant and traveler columns. -/
def saveDeletionRequest (request : DeletionRequest) : PostgresRepository β :=
  let columns := ((repo.deletionRequests.find? request.deletionRequestId).map
    (fun row => (row.tenantId, row.travelerId))).getD (request.tenantId, request.travelerId)
  { repo with deletionRequests := repo.deletionRequests.put ⟨columns.1, columns.2, request⟩ }

def getDeletionRequest (tenantId : String) (deletionRequestId : Uuid) : Option DeletionRequest :=
  ((repo.deletionRequests.find? deletionRequestId).filter
    (fun row => row.tenantId = tenantId)).map DeletionRequestRow.payload

end PostgresRepository

end RouteShield
