import RouteShield.Api.Trips
import RouteShield.Api.Scoring

/-!
The assessment of a trip: reuse the stored evidence snapshot or collect one, score it,
choose a disposition, and open an incident for elevated risk. Scoring never looks at the
time; the snapshot's labels are what the collection left.
-/

namespace RouteShield

namespace Api

variable (svc : Service)

/-! ### Incidents without the graph -/

/-- A recommendation's bounds that depend on the evidence: it must cite some. -/
def cites (evidence : List EvidenceEnvelope) : Bool := evidence ≠ []

/-- The bounded fallback investigation. -/
def investigate (incident : Incident) (evidence : List EvidenceEnvelope) : Api Incident := do
  let relevant := evidence.filter (fun item => item.freshnessStatus = .fresh)
  let missing := (evidence.filter (fun item => item.freshnessStatus ≠ .fresh)).map
    EvidenceEnvelope.sourceType
  let toolAudit ← ["get_trip_context", "get_flight_status", "get_connection_feasibility"].mapM
    fun toolName => do
      let occurredAt ← now
      return ({
        toolName
        arguments := [("trip_id", .str incident.tripId.str)]
        evidenceIds := relevant.map EvidenceEnvelope.evidenceId
        occurredAt } : ToolAuditEvent)
  validate "Recommendation" (cites evidence)
  let recommendationId ← uuid4
  let generatedAt ← now
  let updatedAt ← now
  return { incident with
    toolAudit
    recommendation := some
      { recommendationId
        incidentId := incident.incidentId
        severityExplanation := "This trip is " ++ incident.severity.value ++
          " risk based on the verified evidence shown. " ++
          "RouteShield has not made or requested any booking change."
        evidenceIds := evidence.map EvidenceEnvelope.evidenceId
        uncertainty := if missing = [] then "medium" else "high"
        recommendedAction := "Review the current itinerary and provider evidence before " ++
          "approving any recovery action."
        travelerMessage := "Your travel manager is reviewing a possible disruption. " ++
          "No itinerary change has been made."
        managerMessage := "Review the evidence timestamps and decide whether a " ++
          "policy-eligible recovery option is needed."
        missingInformation := missing
        generatedAt }
    status := .pendingApproval
    updatedAt }

/-- A manager-review record, without the tool loop. -/
def createLimitedVisibilityIncident (incident : Incident) (evidence : List EvidenceEnvelope) :
    Api Incident := do
  let unavailable := (evidence.filter EvidenceEnvelope.dark).map EvidenceEnvelope.sourceType
  validate "Recommendation" (cites evidence)
  let recommendationId ← uuid4
  let generatedAt ← now
  let updatedAt ← now
  return { incident with
    recommendation := some
      { recommendationId
        incidentId := incident.incidentId
        severityExplanation :=
          "RouteShield has limited visibility because required sources are unavailable."
        evidenceIds := evidence.map EvidenceEnvelope.evidenceId
        uncertainty := "high"
        recommendedAction := "Manually verify the itinerary before taking any recovery action."
        travelerMessage := "Your travel manager is checking your itinerary. " ++
          "No itinerary change has been made."
        managerMessage := "Required source evidence is unavailable; verify the itinerary " ++
          "directly with providers."
        missingInformation := unavailable
        generatedAt }
    status := .pendingApproval
    updatedAt }

/-! ### The investigation graph -/

def threadIdFor (tenantId : String) (tripId incidentId : Uuid) : String :=
  "tenant:" ++ tenantId ++ ":trip:" ++ tripId.str ++ ":incident:" ++ incidentId.str

/-- The candidate set the graph leaves, when it leaves one. -/
def saveGraphCandidates (incident : Incident) (candidates : GraphCandidates) : Api Unit := do
  let candidateSetId ← uuid4
  let createdAt ← now
  let candidateSet : RecoveryCandidateSet :=
    { candidateSetId
      incidentId := incident.incidentId
      scoreVersion := candidates.scoreVersion
      policyVersion := candidates.policyVersion
      candidates := candidates.candidates
      createdAt }
  repo (.saveCandidateSet incident.tenantId candidateSet)
  let fields : EventFields :=
    { eventType := "recovery.candidate_set_created"
      tenantId := incident.tenantId
      tripId := some incident.tripId
      correlationId := incident.correlationId }
  emitEvent { fields with
    details :=
      [("candidate_set_id", .str candidateSetId.str),
        ("candidate_count", .num (.int candidates.candidates.length)),
        ("source", .str "graph")] }
  emitEvent { fields with
    eventType := "recovery.ranking_completed"
    details :=
      [("candidate_set_id", .str candidateSetId.str),
        ("ranking_method", .str "deterministic"),
        ("ranked_candidate_ids", .arr (candidates.rankedCandidateIds.map .str))] }

/-- Run the bounded investigation and project its result onto the incident. -/
def runGraphInvestigation (incident : Incident) (assessment : RiskAssessment)
    (evidence : List EvidenceEnvelope) (trip : Trip) (sourceHealth : SourceHealth) :
    Api Incident := do
  let threadId := threadIdFor incident.tenantId incident.tripId incident.incidentId
  let profile ← if ← controlEnabled svc incident.tenantId .memoryReadsEnabled then
      repo (.getProfile incident.tenantId trip.travelerId)
    else pure none
  let playbooks ← repo (.listApprovedPlaybooks incident.tenantId)
  let llmEnabled ← controlEnabled svc incident.tenantId .llmEnabled
  let outcome ← .perform (.invokeGraph
    { incident, assessment, evidence, trip, sourceHealth, profile, playbooks, llmEnabled })
  let fields : EventFields :=
    { eventType := "memory_context.loaded"
      tenantId := incident.tenantId
      tripId := some incident.tripId
      correlationId := incident.correlationId }
  emitEvent { fields with
    details :=
      [("graph_thread_id", .str threadId),
        ("profile_loaded", .bool profile.isSome),
        ("memory_context_version",
          (profile.map (fun p => Json.num (.int p.version))).getD .null),
        ("playbook_count", .num (.int playbooks.length)),
        ("llm_enabled", .bool llmEnabled)] }
  outcome.toolAudit.forM fun event =>
    emitEvent { fields with
      eventType := "tool.completed"
      details :=
        [("graph_thread_id", .str threadId),
          ("tool_name", .str event.toolName),
          ("outcome", .str event.outcome),
          ("evidence_count", .num (.int event.evidenceIds.length))] }
  outcome.modelAudit.forM fun event =>
    emitEvent { fields with
      eventType := "model.invocation"
      details :=
        [("provider", .str event.provider),
          ("model", .str event.model),
          ("prompt_version", .str event.promptVersion),
          ("invocation_type", .str event.invocationType),
          ("outcome", .str event.outcome),
          ("token_usage_recorded", .bool event.tokenUsage.isSome),
          ("cost_recorded", .bool event.estimatedCostUsd.isSome)] }
  let recommendation := match outcome.recommendation with
    | some validated =>
      validated.map (fun r => { r with incidentId := incident.incidentId })
    | none => incident.recommendation
  match recommendation with
  | some r =>
    emitEvent { fields with
      eventType := "recommendation.generated"
      details :=
        [("graph_thread_id", .str threadId),
          ("evidence_count", .num (.int r.evidenceIds.length)),
          ("uncertainty", .str r.uncertainty),
          ("requires_human_approval", .bool r.requiresHumanApproval)] }
  | none => pure ()
  match outcome.candidates with
  | some candidates => saveGraphCandidates incident candidates
  | none => pure ()
  return { incident with
    toolAudit := outcome.toolAudit
    modelAudit := outcome.modelAudit
    recommendation
    graphThreadId := some threadId
    approvalPayload := outcome.interrupt }

/-! ### Assessment -/

def emitObserved (tenantId : String) (tripId correlationId : Uuid) (item : EvidenceEnvelope) :
    Api Unit :=
  emitEvent
    { eventType := if item.dark then "provider.unavailable" else "provider.evidence_observed"
      tenantId
      tripId := some tripId
      correlationId
      details :=
        [("source_name", .str item.sourceName),
          ("source_type", .str item.sourceType),
          ("freshness_status", .str item.freshnessStatus.value),
          ("provider_latency_ms",
            (item.providerLatencyMs.map (fun ms => Json.num (.int ms))).getD .null),
          ("error_code", (item.errorCode.map Json.str).getD .null)] }

/-- The evidence an assessment uses: the stored snapshot, or one collected and stored now. -/
def assessmentEvidence (tenantId : String) (trip : Trip) (scenario : Option DemoScenario)
    (correlationId : Uuid) : Api (List EvidenceEnvelope) := do
  let stored ← repo (.getEvidence tenantId trip.tripId)
  if stored = [] then
    let evidence ← .perform (.collectEvidence trip scenario correlationId)
    repo (.saveEvidence tenantId trip.tripId evidence)
    return evidence
  else return stored

/-- Open an incident for a disposition that asks for one. -/
def openIncident (tenantId : String) (trip : Trip) (assessment : RiskAssessment)
    (evidence : List EvidenceEnvelope) (health : SourceHealth)
    (disposition : AssessmentDisposition) (correlationId : Uuid) : Api Uuid := do
  let incidentId ← uuid4
  let createdAt ← now
  let updatedAt ← now
  let incident : Incident :=
    { incidentId
      tenantId
      tripId := trip.tripId
      assessmentId := assessment.assessmentId
      severity := assessment.severity
      correlationId
      createdAt
      updatedAt }
  let useReact ← if disposition = .investigate then
      controlEnabled svc tenantId .reactToolCallsEnabled
    else pure false
  let reviewed ← if useReact then investigate incident evidence
    else createLimitedVisibilityIncident incident evidence
  let final ← if useReact then
      runGraphInvestigation svc reviewed assessment evidence trip health
    else pure reviewed
  repo (.saveIncident final)
  emitEvent
    { eventType := "incident.created"
      tenantId
      tripId := some trip.tripId
      correlationId := final.correlationId }
  emitEvent
    { eventType := "approval.requested"
      tenantId
      tripId := some trip.tripId
      correlationId := final.correlationId }
  return final.incidentId

/-- The assessment proper, once the request is authorized and its key is claimed. -/
def runAssessment (tenantId : String) (trip : Trip) (scenario : Option DemoScenario) :
    Api AssessmentResult := do
  let correlationId ← uuid4
  let evidence ← assessmentEvidence tenantId trip scenario correlationId
  evidence.forM (emitObserved tenantId trip.tripId correlationId)
  let (factors, unknown) ← .ofExcept (getScoringInput evidence trip)
  let assessmentId ← uuid4
  let assessedAt ← now
  let assessment ← .ofExcept (calculateRisk assessmentId trip.tripId assessedAt factors
    (evidence.map EvidenceEnvelope.evidenceId) unknown)
  repo (.saveAssessment tenantId assessment)
  let health := sourceHealthFor evidence
  let disposition := dispositionFor assessment health
  let incidentId ← if disposition = .investigate ∨ disposition = .needsHumanReview then
      some <$> openIncident svc tenantId trip assessment evidence health disposition correlationId
    else pure none
  emitEvent
    { eventType := "assessment.completed"
      tenantId
      tripId := some trip.tripId
      correlationId
      details :=
        [("assessment_id", .str assessment.assessmentId.str),
          ("risk_score", .num (.float (.finite assessment.riskScore))),
          ("severity", .str assessment.severity.value),
          ("disposition", .str disposition.value),
          ("unknown_factor_count", .num (.int assessment.unknownFactors.length))] }
  return { assessment, evidence, sourceHealth := health, disposition, incidentId }

def assessTrip (caller : Caller) (tripId : Uuid) (scenario : Option DemoScenario) :
    Api AssessmentResult := do
  let tenantId ← requireTenant caller.tenantId
  let trip ← found (← repo (.getTrip tenantId tripId)) 404 "trip not found"
  requireTripAccess svc trip caller [.travelManager, .dutyOfCare, .tenantAdmin]
  mutation svc tenantId caller.idempotencyKey ("POST:/v1/trips/" ++ tripId.str ++ "/assess")
    (.scenario scenario) 200 Response.ofAssessment (runAssessment svc tenantId trip scenario)

/-- The assessment inside another keyed request runs under a key of its own. -/
def assessmentKey (idempotencyKey : String) : String := idempotencyKey ++ ":assessment"

def refreshIncident (caller : Caller) (incidentId : Uuid) : Api AssessmentResult := do
  requireRole caller.actorRole [.travelManager, .dutyOfCare, .tenantAdmin]
  let tenantId ← requireTenant caller.tenantId
  let incident ← found (← repo (.getIncident tenantId incidentId)) 404 "incident not found"
  mutation svc tenantId caller.idempotencyKey
    ("POST:/v1/incidents/" ++ incidentId.str ++ "/refresh") (.incident incidentId) 200
    Response.ofAssessment
    (assessTrip svc
      { caller with
        tenantId := some tenantId
        idempotencyKey := (keyed caller.idempotencyKey).map assessmentKey }
      incident.tripId none)

end Api

end RouteShield
