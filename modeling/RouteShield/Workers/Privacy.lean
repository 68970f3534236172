import RouteShield.Api.Access

/-!
The erasure worker. It lists the pending requests, and for each one reads the active holds
and then either marks the request as blocked or erases and marks it as completed.
-/

namespace RouteShield

namespace DeletionRequest

def blocked (request : DeletionRequest) (holds : List LegalHoldRecord) : DeletionRequest :=
  { request with
    status := .blockedByLegalHold
    blockedByHoldIds := holds.map LegalHoldRecord.legalHoldId
    failureCode := none }

def failed (request : DeletionRequest) : DeletionRequest :=
  { request with status := .failed, failureCode := some "deletion_execution_failed" }

def completed (request : DeletionRequest) (timestamp : Time) : DeletionRequest :=
  { request with
    status := .completed
    completedAt := some timestamp
    blockedByHoldIds := []
    failureCode := none }

end DeletionRequest

def DeletionRequestStatus.value : DeletionRequestStatus → String
  | .pending => "pending"
  | .blockedByLegalHold => "blocked_by_legal_hold"
  | .completed => "completed"
  | .failed => "failed"

namespace Api

/-- Erase for a request that no hold blocks; an error of the erasure is recorded. -/
def eraseRequested (timestamp : Time) (request : DeletionRequest) :
    Api (DeletionRequest × DeletionCounts) := do
  match ← .attempt (.repo (.eraseTravelerData request.tenantId request.travelerId request.scope)) with
  | .ok deleted => do
    repo (.saveDeletionRequest (request.completed timestamp))
    return (request.completed timestamp, deleted)
  | .error _ => do
    repo (.saveDeletionRequest request.failed)
    return (request.failed, [])

def processDeletionRequest (timestamp : Time) (request : DeletionRequest) :
    Api (DeletionRequest × DeletionCounts) := do
  let holds ← repo
    (.activeLegalHoldsForTraveler request.tenantId request.travelerId (some timestamp))
  if holds = [] then eraseRequested timestamp request
  else do
    repo (.saveDeletionRequest (request.blocked holds))
    return (request.blocked holds, [])

def processDueDeletionRequests : Api (List (DeletionRequest × DeletionCounts)) := do
  let timestamp ← now
  let requests ← repo .listPendingDeletionRequests
  requests.mapM (processDeletionRequest timestamp)

def emitProcessed (request : DeletionRequest) (deleted : DeletionCounts) : Api Unit := do
  let correlationId ← uuid4
  emitEvent
    { eventType := "privacy.deletion_" ++ request.status.value
      tenantId := request.tenantId
      tripId := none
      correlationId
      actorId := some request.requestedBy
      details :=
        [("deletion_request_id", .str request.deletionRequestId.str),
          ("scope", .str request.scope.value),
          ("deleted_record_counts",
            .obj (deleted.map (fun count => (count.1, .num (.int count.2)))))] }

/-- The job; it answers with the numbers of requests in each status. -/
def processPrivacyDeletionRequestsJob : Api (List DeletionRequestStatus) := do
  let processed ← processDueDeletionRequests
  processed.forM (fun item => emitProcessed item.1 item.2)
  return processed.map (fun item => item.1.status)

end Api

end RouteShield
