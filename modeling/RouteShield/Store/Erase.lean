import RouteShield.Store.Postgres

/-!
`erase_traveler_data` in both repositories, and the erasure requests that wait for it. The
trips of the traveler are found first, then the incidents on them; the rest goes by these
identifiers, and the notifications by the traveler they were sent to.
-/

namespace RouteShield

variable {β : Type}

/-- The aggregate counts an erasure returns, by name. -/
abbrev DeletionCounts := List (String × ℕ)

def DeletionRequest.pending (request : DeletionRequest) : Bool :=
  request.status = .pending ∨ request.status = .blockedByLegalHold

def Trip.ownedBy (tenantId travelerId : String) (trip : Trip) : Bool :=
  trip.tenantId = tenantId ∧ trip.travelerId = travelerId

def Incident.onTrips (tenantId : String) (tripIds : List Uuid) (incident : Incident) : Bool :=
  incident.tenantId = tenantId ∧ incident.tripId ∈ tripIds

def NotificationRecord.sentTo (tenantId travelerId : String) (notification : NotificationRecord) :
    Bool :=
  notification.tenantId = tenantId ∧ notification.travelerId = travelerId

namespace InMemoryRepository

variable (repo : InMemoryRepository β)

def travelerTripIds (tenantId travelerId : String) : List Uuid :=
  (repo.trips.rows.filter (Trip.ownedBy tenantId travelerId)).map Trip.tripId

def travelerIncidentIds (tenantId travelerId : String) : List Uuid :=
  (repo.incidents.rows.filter
    (Incident.onTrips tenantId (repo.travelerTripIds tenantId travelerId))).map Incident.incidentId

/-- The part of an erasure after traveler memory. -/
def eraseOperationalData (tenantId travelerId : String) : InMemoryRepository β :=
  let tripIds := repo.travelerTripIds tenantId travelerId
  let incidentIds := repo.travelerIncidentIds tenantId travelerId
  let notifications :=
    repo.notifications.filter (fun n => !n.sentTo tenantId travelerId)
  let actionDispatches := repo.actionDispatches.filter (fun a => a.incidentId ∉ incidentIds)
  { repo with
    trips := repo.trips.filter (fun trip => trip.tripId ∉ tripIds)
    tripSegments := repo.tripSegments.filter (fun b => b.id ∉ tripIds)
    evidence := repo.evidence.filter (fun b => b.id ∉ tripIds)
    assessments := repo.assessments.filter (fun b => b.id ∉ tripIds)
    incidents := repo.incidents.filter (fun i => i.incidentId ∉ incidentIds)
    approvals := repo.approvals.filter (fun a => a.incidentId ∉ incidentIds)
    candidateSets := repo.candidateSets.filter (fun s => s.2.incidentId ∉ incidentIds)
    candidateOutcomes := repo.candidateOutcomes.filter (fun o => o.2.incidentId ∉ incidentIds)
    managerFeedback := repo.managerFeedback.filter (fun f => f.incidentId ∉ incidentIds)
    notifications
    notificationAttempts :=
      repo.notificationAttempts.filter (fun b => (notifications.find? b.id).isSome)
    actionDispatches
    actionDispatchAttempts :=
      repo.actionDispatchAttempts.filter (fun b => (actionDispatches.find? b.id).isSome) }

def eraseTravelerData (tenantId travelerId : String) (scope : DeletionRequestScope) :
    DeletionCounts × InMemoryRepository β :=
  let (memoryCounts, erased) := repo.deleteTravelerMemory tenantId travelerId
  let counts := [("profiles", memoryCounts.1), ("memory_proposals", memoryCounts.2)]
  if scope = .preferenceMemory then (counts, erased)
  else
    let tripIds := repo.travelerTripIds tenantId travelerId
    (counts ++
      [("trips", tripIds.length),
        ("evidence", (repo.evidence.rows.filter (fun b => b.id ∈ tripIds)).length),
        ("assessments", (repo.assessments.rows.filter (fun b => b.id ∈ tripIds)).length),
        ("incidents", (repo.travelerIncidentIds tenantId travelerId).length)],
      erased.eraseOperationalData tenantId travelerId)

def listPendingDeletionRequests : List DeletionRequest :=
  sortedBy (·.submittedAt) (·.deletionRequestId)
    (repo.deletionRequests.rows.filter DeletionRequest.pending)

end InMemoryRepository

namespace PostgresRepository

variable (repo : PostgresRepository β)

def travelerTripIds (tenantId travelerId : String) : List Uuid :=
  (repo.trips.rows.filter (fun row => row.payload.ownedBy tenantId travelerId)).map
    (fun row => row.payload.tripId)

def travelerIncidentIds (tenantId travelerId : String) : List Uuid :=
  (repo.incidents.rows.filter (fun row => row.payload.onTrips tenantId
    (repo.travelerTripIds tenantId travelerId))).map (fun row => row.payload.incidentId)

def travelerNotificationIds (tenantId travelerId : String) : List Uuid :=
  (repo.notifications.rows.filter (fun row => row.tenantId = tenantId ∧
    row.payload.travelerId = travelerId)).map (fun row => row.payload.notificationId)

/-- The actions whose incident column is one of the identifiers. -/
def actionIdsOf (incidentIds : List Uuid) : List Uuid :=
  (repo.actionDispatches.rows.filter (fun row => row.incidentId ∈ incidentIds)).map
    (fun row => row.payload.actionDispatchId)

/-- The part of an erasure after traveler memory. -/
def eraseOperationalData (tenantId travelerId : String) : PostgresRepository β :=
  let tripIds := repo.travelerTripIds tenantId travelerId
  let incidentIds := repo.travelerIncidentIds tenantId travelerId
  let notificationIds := repo.travelerNotificationIds tenantId travelerId
  { repo with
    notificationAttempts :=
      repo.notificationAttempts.filter (fun a => a.notificationId ∉ notificationIds)
    notifications :=
      repo.notifications.filter (fun row => row.payload.notificationId ∉ notificationIds)
    actionDispatchAttempts := repo.actionDispatchAttempts.filter
      (fun a => a.actionDispatchId ∉ repo.actionIdsOf incidentIds)
    actionDispatches := repo.actionDispatches.filter (fun row => row.incidentId ∉ incidentIds)
    approvals := repo.approvals.filter (fun a => a.incidentId ∉ incidentIds)
    candidateSets := repo.candidateSets.filter (fun row => row.payload.incidentId ∉ incidentIds)
    candidateOutcomes :=
      repo.candidateOutcomes.filter (fun row => row.payload.incidentId ∉ incidentIds)
    managerFeedback := repo.managerFeedback.filter (fun f => f.incidentId ∉ incidentIds)
    incidents := repo.incidents.filter (fun row => row.payload.incidentId ∉ incidentIds)
    evidenceItems := repo.evidenceItems.filter (fun row => row.tripId ∉ tripIds)
    assessments := repo.assessments.filter (fun row => row.payload.tripId ∉ tripIds)
    tripSegments := repo.tripSegments.filter (fun row => row.tripId ∉ tripIds)
    trips := repo.trips.filter (fun row => row.payload.tripId ∉ tripIds) }

def eraseTravelerData (tenantId travelerId : String) (scope : DeletionRequestScope) :
    DeletionCounts × PostgresRepository β :=
  let (memoryCounts, erased) := repo.deleteTravelerMemory tenantId travelerId
  let counts := [("profiles", memoryCounts.1), ("memory_proposals", memoryCounts.2)]
  if scope = .preferenceMemory then (counts, erased)
  else
    let tripIds := repo.travelerTripIds tenantId travelerId
    (counts ++
      [("trips", tripIds.length), ("evidence", tripIds.length), ("assessments", tripIds.length),
        ("incidents", (repo.travelerIncidentIds tenantId travelerId).length),
        ("notifications", (repo.travelerNotificationIds tenantId travelerId).length)],
      erased.eraseOperationalData tenantId travelerId)

/-- Ordered by identifier. -/
def listPendingDeletionRequests : List DeletionRequest :=
  ((repo.deletionRequests.rows.filter (fun row => row.payload.pending)).map
    DeletionRequestRow.payload).mergeSort
    (fun a b => a.deletionRequestId.str ≤ b.deletionRequestId.str)

end PostgresRepository

end RouteShield
