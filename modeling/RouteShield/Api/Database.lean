import Mathlib.Logic.Equiv.Defs
import RouteShield.Api.Effects

/-!
The database under the PostgreSQL repository. A query without ORDER BY returns its rows in an order
of the database's choice, which may be another one at every call, and an insert of a text that is
wider than its column is refused. The repository itself is taken with the rows in the order of
their first insert, and with columns of any width. JSONB keeps a number by its decimal value: a
float that is infinite, or so large that it is written with an exponent, does not come back as the
float that it was, and what the repository makes of a call with one is left open. So is, in a
mapping, the order of the keys.
-/

namespace RouteShield

/-- In which order the database returns n rows to a query that asks for none, at each call. -/
abbrev RowOrder := Time → (ℕ → Uuid) → (n : ℕ) → Equiv.Perm (Fin n)

namespace RowOrder

variable (order : RowOrder) (now : Time) (fresh : ℕ → Uuid) {α β : Type}

def arrange (rows : List α) : List α :=
  List.ofFn fun i => rows.get (order now fresh rows.length i)

/-- At a call the first inserted of n rows come first. -/
def Keeps (n : ℕ) : Prop := ∀ i : Fin n, order now fresh n i = i

instance (n : ℕ) : Decidable (order.Keeps now fresh n) :=
  inferInstanceAs (Decidable (∀ i : Fin n, order now fresh n i = i))

variable {order now fresh}

theorem arrange_of_keeps {rows : List α} (h : order.Keeps now fresh rows.length) :
    order.arrange now fresh rows = rows := by
  unfold arrange
  rw [show (fun i => rows.get (order now fresh rows.length i)) = rows.get from
    funext fun i => congrArg rows.get (h i)]
  exact List.ofFn_get rows

end RowOrder

/-! ### Columns -/

/-- The texts that a segment's row has in its columns, and the widths of these. -/
def FlightSegment.columns (segment : FlightSegment) : List (ℕ × String) :=
  [(64, segment.segmentId), (3, segment.carrierCode), (4, segment.flightNumber),
    (3, segment.departureAirport), (3, segment.arrivalAirport)]

/-- The texts that an insert puts into columns of a limited width. The enumerations and the keys of
claims, which their records validate, fit. -/
def RepoOp.columns {α : Type} : RepoOp α → List (ℕ × String)
  | .createTrip trip => (128, trip.tenantId) :: trip.segments.flatMap FlightSegment.columns
  | .saveTrip trip => (128, trip.tenantId) :: trip.segments.flatMap FlightSegment.columns
  | .saveEvidence tenantId _ evidence => evidence.map fun _ => (128, tenantId)
  | .saveAssessment tenantId _ => [(128, tenantId)]
  | .saveIncident incident => [(128, incident.tenantId)]
  | .saveCandidateSet tenantId _ => [(128, tenantId)]
  | .recordCandidateOutcome tenantId _ => [(128, tenantId)]
  | .saveManagerFeedback feedback => [(128, feedback.tenantId)]
  | .saveActionDispatch action => [(128, action.tenantId)]
  | .recordEvent event => [(128, event.tenantId)]
  | .recordMemoryAudit event => [(128, event.tenantId), (128, event.travelerId)]
  | .saveProfile profile => [(128, profile.tenantId), (128, profile.travelerId)]
  | .saveMemoryProposal proposal => [(128, proposal.tenantId)]
  | .savePlaybook playbook => [(128, playbook.tenantId)]
  | .saveNotification notification => [(128, notification.tenantId)]
  | .saveChangeRecord record => [(128, record.tenantId)]
  | .saveProviderOnboarding record => [(128, record.tenantId)]
  | .saveRuntimeControlChange record => [(128, record.tenantId)]
  | .saveOriginalUpload record => [(128, record.tenantId)]
  | .saveLegalHold hold => [(128, hold.tenantId)]
  | .saveDeletionRequest request => [(128, request.tenantId), (128, request.travelerId)]
  | _ => []

/-- Every text is within the width of its column. -/
def RepoOp.Narrow {α : Type} (op : RepoOp α) : Prop :=
  ∀ column ∈ op.columns, column.2.length ≤ column.1

instance {α : Type} (op : RepoOp α) : Decidable op.Narrow :=
  inferInstanceAs (Decidable (∀ column ∈ op.columns, column.2.length ≤ column.1))

/-! ### Numbers -/

/-- A float that is finite and written without an exponent that makes it an integer. -/
def PyFloat.kept (x : PyFloat) : Bool :=
  match x.rat? with
  | some q => -10 ^ 16 < q ∧ q < 10 ^ 16
  | none => false

/-- JSONB gives the document back as it was written. -/
def Json.kept (document : Json) : Bool :=
  document.numbersPass fun
    | .int _ => true
    | .float x => x.kept

def Incident.documents (incident : Incident) : List Json :=
  incident.toolAudit.map (fun event => .obj event.arguments) ++
    incident.modelAudit.map (fun audit => .obj audit.inputSummary) ++
    incident.approvalPayload.toList.map .obj

def EvaluatedCandidate.documents (candidate : EvaluatedCandidate) : List Json :=
  [.num (.float candidate.incrementalCost), .obj candidate.normalizedCandidateFeatures]

def RecoveryCandidateOutcome.documents (outcome : RecoveryCandidateOutcome) : List Json :=
  (outcome.finalItinerary.toList ++ outcome.materialOutcome.toList).map .obj

def RecoveryCandidateSet.documents (candidateSet : RecoveryCandidateSet) : List Json :=
  candidateSet.candidates.flatMap EvaluatedCandidate.documents ++
    candidateSet.outcomes.flatMap RecoveryCandidateOutcome.documents

def MemoryUpdateProposal.documents (proposal : MemoryUpdateProposal) : List Json :=
  [.obj proposal.beforeValue, .obj proposal.patch]

def Response.documents : Response → List Json
  | .candidateSet body => body.documents
  | .assessment body => body.evidence.map fun item => .obj item.normalizedPayload
  | .approval body => [.obj body.finalActionPayload]
  | .memoryProposal body => body.documents
  | _ => []

/-- The parts of a stored record that a float of a client's or a provider's may be in. -/
def RepoOp.documents {α : Type} : RepoOp α → List Json
  | .saveEvidence _ _ evidence => evidence.map fun item => .obj item.normalizedPayload
  | .saveIncident incident => incident.documents
  | .saveApproval approval => [.obj approval.finalActionPayload]
  | .saveCandidateSet _ candidateSet => candidateSet.documents
  | .recordCandidateOutcome _ outcome => outcome.documents
  | .saveManagerFeedback feedback => [.obj feedback.details]
  | .saveActionDispatch action => [.obj action.actionPayload]
  | .completeActionDispatch action _ _ => [.obj action.actionPayload]
  | .recordEvent event => [.obj event.details]
  | .recordMemoryAudit event => [.obj event.details]
  | .saveMemoryProposal proposal => proposal.documents
  | .completeIdempotency completion => completion.responsePayload.documents
  | _ => []

def RepoOp.Kept {α : Type} (op : RepoOp α) : Prop :=
  ∀ document ∈ op.documents, document.kept = true

instance {α : Type} (op : RepoOp α) : Decidable op.Kept :=
  inferInstanceAs (Decidable (∀ document ∈ op.documents, document.kept = true))

/-! ### The repository on the database -/

/-- What the repository answers when the database returns rows in an order. -/
def RowOrder.query (order : RowOrder) {α : Type} (op : RepoOp α) (now : Time) (fresh : ℕ → Uuid)
    (s : PostgresRepository Response) : Except Fault α × PostgresRepository Response :=
  match op with
  | .listTrips => (.ok (order.arrange now fresh s.listTrips), s)
  | .getEvidence tenantId tripId => (.ok (order.arrange now fresh (s.getEvidence tenantId tripId)), s)
  | .listApprovedPlaybooks tenantId =>
    (.ok (PostgresRepository.sortedPlaybooks (order.arrange now fresh (s.playbooksOf tenantId))), s)
  | .claimDueNotifications request =>
    answered (s.leaseNotifications (order.arrange now fresh (s.waitingNotifications request)) request
      now fresh)
  | .claimDueActionDispatches request =>
    answered (s.leaseActionDispatches (order.arrange now fresh (s.waitingActionDispatches request))
      request now fresh)
  | op => Backend.postgres.exec op now fresh s

/-- A database: the order of its rows, and what a call with a number that it does not give back
comes to. -/
structure Database where
  order : RowOrder
  unkept {α : Type} (op : RepoOp α) (now : Time) (fresh : ℕ → Uuid)
    (s : PostgresRepository Response) : Except Fault α × PostgresRepository Response

/-- The PostgreSQL repository on a database. -/
def Backend.database (db : Database) : Backend where
  State := PostgresRepository Response
  exec op now fresh s :=
    if op.Narrow then
      if op.Kept then db.order.query op now fresh s else db.unkept op now fresh s
    else (.error (.data "value too long for type character varying"), s)

end RouteShield
