import RouteShield.Api.Access

/-!
What a manager does with an incident: recovery candidates and their outcomes, and the
decision to approve or reject, which may put an external action into the outbox.
-/

namespace RouteShield

namespace Api

variable (svc : Service)

/-! ### Recovery candidates -/

/-- Candidates with the display positions of the eligible ones. -/
def positioned (evaluated : List EvaluatedCandidate) : List EvaluatedCandidate :=
  evaluated.map (fun c =>
    { c with
      displayedPosition := ((rankEligible evaluated).reverse.find? (fun r =>
        r.candidateId = c.candidateId)).bind EvaluatedCandidate.displayedPosition })

def createCandidateSet (caller : Caller) (incidentId : Uuid) (candidates : List RecoveryCandidate) :
    Api RecoveryCandidateSet := do
  requireRole caller.actorRole [.travelManager, .tenantAdmin]
  let tenantId ← requireTenant caller.tenantId
  let (incident, _) ← requireIncidentTripAccess svc tenantId incidentId caller
    [.travelManager, .tenantAdmin]
  mutation svc tenantId caller.idempotencyKey
    ("POST:/v1/incidents/" ++ incidentId.str ++ "/candidate-sets") (.candidates candidates) 200
    Response.ofCandidateSet do
      let evaluated ← .ofExcept (candidates.mapM (fun c =>
        evaluatePolicyEligibleCandidate c svc.recoveryPolicy))
      let ranked := rankEligible evaluated
      let candidateSetId ← uuid4
      let createdAt ← now
      let candidateSet : RecoveryCandidateSet :=
        { candidateSetId
          incidentId
          policyVersion := svc.recoveryPolicy.version
          candidates := positioned evaluated
          createdAt }
      repo (.saveCandidateSet tenantId candidateSet)
      let actorId ← requireActorId svc caller.actorId
      let fields : EventFields :=
        { eventType := "recovery.candidate_set_created"
          tenantId
          tripId := some incident.tripId
          correlationId := incident.correlationId
          actorId }
      emitEvent { fields with
        details :=
          [("candidate_set_id", .str candidateSetId.str),
            ("candidate_count", .num (.int evaluated.length)),
            ("eligible_candidate_count", .num (.int ranked.length)),
            ("policy_version", .str candidateSet.policyVersion),
            ("score_version", .str candidateSet.scoreVersion)] }
      emitEvent { fields with
        eventType := "recovery.ranking_completed"
        details :=
          [("candidate_set_id", .str candidateSetId.str),
            ("ranked_candidate_ids", .arr (ranked.map (fun c => .str c.candidateId))),
            ("ranking_method", .str "deterministic")] }
      return candidateSet

/-- The checks of an outcome against the current view of its candidate set. -/
def outcomeAllowed (view : RecoveryCandidateSet) (candidate : EvaluatedCandidate)
    (role : Option UserRole) (update : RecoveryCandidateOutcomeUpdate) : Api Unit := do
  let manages : Bool := role = some .travelManager ∨ role = some .tenantAdmin
  require (!(role = some .traveler && !(update.state = .viewed || update.state = .selected ||
    update.state = .rejected))) 403 "travelers may only view, select, or reject a candidate"
  require (!(truthy update.managerOverrideReason && !manages)) 403
    "only a manager can record an override"
  require (!(update.state = .selected && truthy view.selectedCandidateId &&
    view.selectedCandidateId ≠ some candidate.candidateId)) 409
    "a different candidate has already been selected"
  require (!(update.state = .selected && !(candidate.displayedPosition = none ||
    candidate.displayedPosition = some 1) && manages && !truthy update.managerOverrideReason)) 422
    "selecting a non-top candidate requires a manager override reason"
  require (transitionAllowed candidate.lifecycleState update.state) 409
    ("cannot transition candidate from " ++ candidate.lifecycleState.value ++ " to " ++
      update.state.lifecycle.value)

/-- The feedback records an outcome leaves: an override's reason, a completion's result. -/
def outcomeFeedback (tenantId : String) (outcome : RecoveryCandidateOutcome)
    (candidate : EvaluatedCandidate) : Api (List ManagerFeedback) := do
  let overridden ← if truthy outcome.managerOverrideReason then do
      validate "ManagerFeedback" (named tenantId && namedOrNone outcome.actorId)
      let feedbackId ← uuid4
      let createdAt ← now
      pure [({
        feedbackId
        tenantId
        incidentId := outcome.incidentId
        candidateSetId := outcome.candidateSetId
        candidateId := outcome.candidateId
        feedbackType := .managerOverride
        outcomeId := some outcome.outcomeId
        actorId := outcome.actorId
        reason := outcome.managerOverrideReason
        details := [("displayed_position",
          (candidate.displayedPosition.map (fun n => Json.num (.int n))).getD .null)]
        createdAt } : ManagerFeedback)]
    else pure []
  let completed ← if outcome.state = .completed then do
      validate "ManagerFeedback" (named tenantId && namedOrNone outcome.actorId)
      let feedbackId ← uuid4
      let createdAt ← now
      pure [({
        feedbackId
        tenantId
        incidentId := outcome.incidentId
        candidateSetId := outcome.candidateSetId
        candidateId := outcome.candidateId
        feedbackType := .recoveryOutcome
        outcomeId := some outcome.outcomeId
        actorId := outcome.actorId
        reason := outcome.reason
        details :=
          [("final_itinerary", .obj (outcome.finalItinerary.getD [])),
            ("material_outcome", .obj (outcome.materialOutcome.getD []))]
        createdAt } : ManagerFeedback)]
    else pure []
  return overridden ++ completed

def recordCandidateOutcome (caller : Caller) (incidentId candidateSetId : Uuid)
    (candidateId : String) (update : RecoveryCandidateOutcomeUpdate) :
    Api RecoveryCandidateSet := do
  requireRole caller.actorRole [.traveler, .travelManager, .tenantAdmin]
  let tenantId ← requireTenant caller.tenantId
  let (incident, _) ← requireIncidentTripAccess svc tenantId incidentId caller
    [.traveler, .travelManager, .tenantAdmin]
  let candidateSet ← found (← repo (.getCandidateSet tenantId incidentId candidateSetId)) 404
    "candidate set not found"
  let outcomes ← repo (.listCandidateOutcomes tenantId candidateSetId)
  let view := projectCandidateSetOutcomes candidateSet outcomes
  let candidate ← found (view.candidates.find? (fun c => c.candidateId = candidateId)) 404
    "candidate not found"
  outcomeAllowed view candidate caller.actorRole update
  mutation svc tenantId caller.idempotencyKey
    ("POST:/v1/incidents/" ++ incidentId.str ++ "/candidate-sets/" ++ candidateSetId.str ++
      "/candidates/" ++ candidateId ++ "/outcomes") (.outcome update) 200
    Response.ofCandidateSet do
      let actorId ← requireActorId svc caller.actorId
      validate "RecoveryCandidateOutcome" (namedOrNone actorId)
      let outcomeId ← uuid4
      let occurredAt ← now
      let outcome : RecoveryCandidateOutcome :=
        { update with outcomeId, candidateSetId, incidentId, candidateId, actorId, occurredAt }
      repo (.recordCandidateOutcome tenantId outcome)
      let feedback ← outcomeFeedback tenantId outcome candidate
      feedback.forM (fun f => repo (.saveManagerFeedback f))
      emitEvent
        { eventType := "recovery.outcome_recorded"
          tenantId
          tripId := some incident.tripId
          correlationId := incident.correlationId
          actorId
          details :=
            [("candidate_set_id", .str candidateSetId.str),
              ("candidate_id", .str candidateId),
              ("outcome_id", .str outcomeId.str),
              ("state", .str update.state.lifecycle.value),
              ("has_manager_override", .bool (truthy update.managerOverrideReason)),
              ("has_material_outcome", .bool (update.materialOutcome.any (fun o => o ≠ []))),
              ("manager_feedback_ids", .arr (feedback.map (fun f => .str f.feedbackId.str)))] }
      return projectCandidateSetOutcomes candidateSet (outcomes ++ [outcome])

/-! ### Decisions -/

def actionDispatchId (approvalId : Uuid) : Uuid :=
  .v5 ("routeshield:approved-action:" ++ approvalId.str)

def actionIdempotencyKey (approvalId : Uuid) : String := "approved-action:" ++ approvalId.str

/-- Queue the external action of a decision, whatever the decision is. -/
def queueAction (incident : Incident) (approval : ApprovalRecord) (tenantId : String) :
    Api ActionDispatchRecord := do
  validate "ActionDispatchRecord" (named tenantId)
  let nextAttemptAt ← now
  let createdAt ← now
  let updatedAt ← now
  let action : ActionDispatchRecord :=
    { actionDispatchId := actionDispatchId approval.approvalId
      tenantId
      incidentId := incident.incidentId
      approvalId := approval.approvalId
      actionPayload := approval.finalActionPayload
      idempotencyKey := actionIdempotencyKey approval.approvalId
      nextAttemptAt
      createdAt
      updatedAt }
  repo (.saveActionDispatch action)
  emitEvent
    { eventType := "action.queued"
      tenantId
      tripId := some incident.tripId
      correlationId := incident.correlationId
      actorId := some approval.actorId
      details :=
        [("action_dispatch_id", .str action.actionDispatchId.str),
          ("idempotency_key", .str action.idempotencyKey)] }
  return action

def decidedStatus : ApprovalDecision → IncidentStatus
  | .approve => .approved
  | .reject => .rejected

/-- What becomes of the action of a decision, by the control as it stands. -/
def dispatchStatus (tenantId : String) (finalActionPayload : JsonObject) : Api String := do
  if finalActionPayload = [] then return "not_requested"
  else if ← controlEnabled svc tenantId .approvalActionsEnabled then return "pending"
  else return "suppressed"

def queuePending (incident : Incident) (approval : ApprovalRecord) (tenantId : String) :
    Api (Option ActionDispatchRecord) :=
  if approval.finalActionPayload ≠ [] ∧ approval.actionDispatchStatus = "pending" then
    some <$> queueAction incident approval tenantId
  else pure none

/-- The writes of a decision: the approval, its action, the incident. -/
def applyDecision (incident : Incident) (approval : ApprovalRecord) (tenantId : String) :
    Api (Option ActionDispatchRecord) := do
  repo (.saveApproval approval)
  let action ← queuePending incident approval tenantId
  repo (.saveIncident
    { incident with status := decidedStatus approval.decision, updatedAt := approval.decidedAt })
  return action

/-- Resume the graph that waits for the decision, if there is one. -/
def resumeGraph (incident : Incident) (approval : ApprovalRecord)
    (action : Option ActionDispatchRecord) : Api Unit :=
  match incident.graphThreadId.filter (fun threadId => threadId ≠ "") with
  | some threadId =>
    .perform (.resumeGraph threadId
      { decision := approval.decision
        reason := approval.reason
        action := action.map (fun a => (a.actionDispatchId, a.idempotencyKey)) })
  | none => pure ()

def announceDecision (incident : Incident) (approval : ApprovalRecord) (tenantId : String)
    (action : Option ActionDispatchRecord) : Api Unit := do
  resumeGraph incident approval action
  emitEvent
    { eventType := "approval.completed"
      tenantId
      tripId := some incident.tripId
      correlationId := incident.correlationId
      actorId := some approval.actorId
      details :=
        [("decision", .str approval.decision.value),
          ("final_action_payload", .obj approval.finalActionPayload),
          ("action_dispatch_status", .str approval.actionDispatchStatus)] }

def decideIncident (incidentId : Uuid) (payload : ApprovalRequest) (tenantId : String) :
    Api ApprovalRecord := do
  let incident ← found (← repo (.getIncident tenantId incidentId)) 404 "incident not found"
  require (incident.status = .pendingApproval) 409 "incident is not awaiting approval"
  let actionDispatchStatus ← dispatchStatus svc tenantId payload.finalActionPayload
  let approvalId ← uuid4
  let decidedAt ← now
  let approval : ApprovalRecord :=
    { payload with approvalId, incidentId, decidedAt, actionDispatchStatus }
  let action ← applyDecision incident approval tenantId
  announceDecision incident approval tenantId action
  return approval

/-- Both decision endpoints: they differ in the decision they accept and in their path. -/
def decide (decision : ApprovalDecision) (caller : Caller) (incidentId : Uuid)
    (payload : ApprovalRequest) : Api ApprovalRecord := do
  requireRole caller.actorRole [.travelManager, .tenantAdmin]
  let _ ← requireActorMatchesPayload svc caller.actorId payload.actorId
  require (keyed caller.idempotencyKey).isSome 400 "Idempotency-Key is required"
  require (payload.decision = decision) 422 ("decision must be " ++ decision.value)
  let tenantId ← requireTenant caller.tenantId
  let _ ← requireIncidentTripAccess svc tenantId incidentId caller [.travelManager, .tenantAdmin]
  mutation svc tenantId caller.idempotencyKey
    ("POST:/v1/incidents/" ++ incidentId.str ++ "/" ++ decision.value) (.approval payload) 200
    Response.ofApproval (decideIncident svc incidentId payload tenantId)

def approveIncident (caller : Caller) (incidentId : Uuid) (payload : ApprovalRequest) :
    Api ApprovalRecord := decide svc .approve caller incidentId payload

def rejectIncident (caller : Caller) (incidentId : Uuid) (payload : ApprovalRequest) :
    Api ApprovalRecord := decide svc .reject caller incidentId payload

end Api

end RouteShield
