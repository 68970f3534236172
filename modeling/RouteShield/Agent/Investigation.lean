import RouteShield.Agent.LookupLoop
import RouteShield.Api.Effects

/-!
The graph as the service starts it on an incident, and what the service reads back from the state
in which it waits: the audits, a recommendation that validates or is dropped, and the candidates.
-/

namespace RouteShield

/-- The confirmed fields of a profile that may influence recovery advice. -/
def graphTravelerContext (profile : Option TravelerPreferenceProfile) : Option JsonObject :=
  profile.map fun p =>
    [("preferred_airports", .arr (p.preferredAirports.map .str)),
      ("preferred_carriers", .arr (p.preferredCarriers.map .str)),
      ("minimum_connection_minutes",
        (p.minimumConnectionMinutes.map (fun n => Json.num (.int n))).getD .null),
      ("avoid_overnight_connections", (p.avoidOvernightConnections.map Json.bool).getD .null),
      ("approved_ground_transport_preferences",
        .arr (p.approvedGroundTransportPreferences.map .str)),
      ("approved_accessibility_accommodations",
        .arr (p.approvedAccessibilityAccommodations.map .str)),
      ("version", .num (.int p.version))]

/-- What a graph is started on, dumped to JSON. -/
def GraphInput.state (input : GraphInput) : RouteRiskState where
  tripId := input.incident.tripId.str
  incidentId := input.incident.incidentId.str
  travelerContext := graphTravelerContext input.profile
  playbookContext := input.playbooks.map fun playbook =>
    [("playbook_id", .str playbook.playbookId.str), ("name", .str playbook.name),
      ("version", .str playbook.version), ("guidance", .str playbook.guidance)]
  severity := input.assessment.severity.value
  evidence := input.evidence.map fun item =>
    { evidenceId := some item.evidenceId.str, sourceType := item.sourceType }
  coreSourcesUnavailable := .arr (input.sourceHealth.coreSourcesUnavailable.map .str)
  reactIterations := 0
  toolAudit := []
  llmEnabled := input.llmEnabled

/-- What a graph run finds around it: the model and its answers, the defaults that validation draws,
and the payload that waits at the gate. -/
structure GraphHost where
  provider : ModelProvider := {}
  selectTool : Except Fault (Option ToolSelection)
  recommend : Except Fault ProvidedRecommendation
  recommendationId : Uuid
  generatedAt : Time
  occurredAt : ℕ → Time
  interruptPayload : RouteRiskState → JsonObject

/-- The answers of the host to the two calls. -/
def GraphHost.model (host : GraphHost) {γ : Type} : ModelCall γ → Unit → Except Fault γ × Unit
  | .selectTool .., _ => (host.selectTool, ())
  | .recommend .., _ => (host.recommend, ())

/-! ### Validation -/

/-- A text in a list of texts. -/
def Json.text? : Json → Option String
  | .str text => some text
  | _ => none

namespace GraphHost

variable (host : GraphHost)

/-- `Recommendation.model_validate`: nothing, when a text or the evidence is out of bounds. -/
def recommendation? (incidentId : Uuid) (payload : RecommendationPayload) :
    Option Recommendation := do
  let evidenceIds ← payload.evidenceIds.mapM Uuid.parse?
  let missingInformation ← payload.missingInformation.mapM Json.text?
  if within 1000 payload.severityExplanation && evidenceIds ≠ [] &&
      within 1000 payload.recommendedAction && within 1000 payload.travelerMessage &&
      within 2000 payload.managerMessage then
    return {
      recommendationId := payload.recommendationId.getD host.recommendationId
      incidentId
      severityExplanation := payload.severityExplanation
      evidenceIds
      uncertainty := payload.uncertainty
      recommendedAction := payload.recommendedAction
      rankedAlternativeIds := payload.rankedAlternativeIds
      travelerMessage := payload.travelerMessage
      managerMessage := payload.managerMessage
      requiresHumanApproval := payload.requiresHumanApproval
      missingInformation
      generatedAt := payload.generatedAt.getD host.generatedAt }
  else none

def toolAuditEvent (entry : GraphToolAudit) (index : ℕ) : Except Fault ToolAuditEvent :=
  match entry.evidenceIds.mapM Uuid.parse? with
  | some evidenceIds =>
    .ok
      { toolName := entry.toolName
        arguments := entry.arguments
        evidenceIds
        occurredAt := host.occurredAt index
        outcome := entry.outcome }
  | none => .error (.validation "ToolAuditEvent")

def modelInvocationAudit (entry : GraphModelAudit) (index : ℕ) : Except Fault ModelInvocationAudit :=
  if within 128 entry.provider && within 256 entry.model && within 128 entry.promptVersion &&
      within 128 entry.invocationType && within 128 entry.outcome then
    .ok
      { provider := entry.provider
        model := entry.model
        promptVersion := entry.promptVersion
        invocationType := entry.invocationType
        outcome := entry.outcome
        inputSummary := entry.inputSummary
        occurredAt := host.occurredAt index }
  else .error (.validation "ModelInvocationAudit")

/-- The candidates of a state that lists some. -/
def candidates (s : RouteRiskState) : Option GraphCandidates :=
  s.alternativeCandidates.map fun candidates =>
    { scoreVersion := (s.recoveryRanking.map RecoveryRanking.scoreVersion).getD "deterministic-v1"
      policyVersion := (s.policyDecision.map GraphPolicyDecision.policyVersion).getD
        ({} : CorporateTravelPolicy).version
      candidates
      rankedCandidateIds := (s.recoveryRanking.map RecoveryRanking.rankedCandidateIds).getD [] }

/-- What the service reads from the state in which a graph stopped. -/
def outcome (incidentId : Uuid) (node : Node) (s : RouteRiskState) : Except Fault GraphOutcome := do
  let toolAudit ← s.toolAudit.zipIdx.mapM fun (entry, index) => host.toolAuditEvent entry index
  let modelAudit ← s.modelAudit.zipIdx.mapM fun (entry, index) =>
    host.modelInvocationAudit entry index
  return {
    toolAudit
    modelAudit
    recommendation := s.recommendation.map (host.recommendation? incidentId)
    candidates := candidates s
    interrupt := if node = .approvalGate then some (host.interruptPayload s) else none }

/-- The steps after which a run that has not stopped is given up. -/
def recursionLimit : ℕ := 25

/-- `route_risk_graph.ainvoke`, with what the service reads from its result. -/
def investigate (input : GraphInput) : Except Fault GraphOutcome :=
  match ((Graph.run host.provider recursionLimit input.state).run host.model ()).1 with
  | .ok (some (node, s)) => host.outcome input.incident.incidentId node s
  | .ok none => .error (.value "Recursion limit of 25 reached without hitting a stop condition.")
  | .error fault => .error fault

end GraphHost

end RouteShield
