import RouteShield.Domain.Incident
import RouteShield.Domain.Policies
import RouteShield.Domain.Records
import RouteShield.Lib.Prog

/-!
The state of the investigation graph, and the model provider that it may ask. A dict of which the
graph only reads the texts of some values is kept as these texts.
-/

namespace RouteShield

/-- An evidence dict: `str(item["evidence_id"])`, when the key is there, and
`str(item.get("source_type"))`. -/
structure GraphEvidence where
  evidenceId : Option String
  sourceType : String

structure GraphToolAudit where
  toolName : String
  arguments : JsonObject := []
  evidenceIds : List String := []
  outcome : String

structure GraphModelAudit where
  provider : String
  model : String
  promptVersion : String
  invocationType : String
  outcome : String
  inputSummary : JsonObject

/-- A recommendation on its way through the graph. One that the model gave has an identifier and
a time of its own. -/
structure RecommendationPayload where
  recommendationId : Option Uuid := none
  severityExplanation : String
  evidenceIds : List String
  uncertainty : String
  recommendedAction : String
  rankedAlternativeIds : List String := []
  travelerMessage : String
  managerMessage : String
  requiresHumanApproval : Bool
  missingInformation : List Json
  generatedAt : Option Time := none

structure RecoveryRanking where
  rankingMethod : String
  scoreVersion : String
  rankedCandidateIds : List String
  fallbackReason : String

structure GraphPolicyDecision where
  policyVersion : String
  eligibleCandidateIds : List String
  travelerMinimumConnectionMinutes : Option ℤ
  memoryContextVersion : Option ℤ
  approvedPlaybooks : List JsonObject

structure PolicyGate where
  status : String
  eligibleCandidateIds : List String
  policyVersion : Option String

/-- A tool call as the model asks for it. -/
structure ToolSelection where
  name : String
  arguments : JsonObject

/-- The keys of the state that the nodes up to the approval gate read or write. -/
structure RouteRiskState where
  tripId : String
  incidentId : String
  travelerContext : Option JsonObject := none
  memoryContext : Option JsonObject := none
  memoryContextVersion : Option ℤ := none
  playbookContext : List JsonObject := []
  approvedPlaybooks : List JsonObject := []
  /-- `str(risk_assessment.get("severity", "low"))`. -/
  severity : String
  evidence : List GraphEvidence
  /-- `source_health.get("core_sources_unavailable", [])`. -/
  coreSourcesUnavailable : Json
  reactIterations : ℕ
  toolAudit : List GraphToolAudit
  modelAudit : List GraphModelAudit := []
  llmEnabled : Bool := false
  toolSelectionAttempted : Bool := false
  toolSelectionMode : Option String := none
  pendingToolCall : Option ToolSelection := none
  alternativeCandidates : Option (List EvaluatedCandidate) := none
  eligibleAlternatives : List EvaluatedCandidate := []
  recoveryRanking : Option RecoveryRanking := none
  policyDecision : Option GraphPolicyDecision := none
  policyGate : Option PolicyGate := none
  recommendation : Option RecommendationPayload := none

namespace RouteRiskState

variable (s : RouteRiskState)

/-- The identifiers of the evidence that has one. -/
def evidenceIds : List String := s.evidence.filterMap GraphEvidence.evidenceId

/-- `unavailable`, where it is a list. -/
def unavailable : Option (List Json) :=
  match s.coreSourcesUnavailable with
  | .arr items => some items
  | _ => none

/-- The severity is high or critical. -/
def elevated : Bool := s.severity = "high" ∨ s.severity = "critical"

end RouteRiskState

/-- `bool(value)`. -/
def Json.truthy : Json → Bool
  | .null => false
  | .bool b => b
  | .num n => n ≠ .int 0 ∧ n ≠ .float (.finite 0)
  | .str text => text ≠ ""
  | .arr items => !items.isEmpty
  | .obj fields => !fields.isEmpty

/-! ### The model provider -/

def readOnlyToolNames : List String :=
  ["get_trip_context", "get_flight_status", "get_connection_feasibility", "get_airport_weather",
    "get_ground_route_risk", "get_destination_advisory", "find_alternative_flights",
    "get_corporate_travel_policy"]

/-- A text of at least one character, and of at most `n`. -/
def within (n : ℕ) (text : String) : Bool := 1 ≤ text.length ∧ text.length ≤ n

theorem within_iff {n : ℕ} {text : String} :
    within n text = true ↔ 1 ≤ text.length ∧ text.length ≤ n := decide_eq_true_iff

/-- What the model may answer: its output schema. -/
structure RecommendationOutput where
  severityExplanation : String
  evidenceIds : List Uuid
  uncertainty : String
  recommendedAction : String
  rankedAlternativeIds : List String := []
  travelerMessage : String
  managerMessage : String
  requiresHumanApproval : Bool := true
  missingInformation : List String := []
  valid : within 1000 severityExplanation = true ∧ evidenceIds ≠ [] ∧
    within 1000 recommendedAction = true ∧ within 1000 travelerMessage = true ∧
    within 2000 managerMessage = true

/-- A recommendation as the provider returns it, under a new identifier. -/
structure ProvidedRecommendation where
  output : RecommendationOutput
  recommendationId : Uuid
  generatedAt : Time

/-- `model_dump(mode="json")`. -/
def ProvidedRecommendation.dump (provided : ProvidedRecommendation) : RecommendationPayload where
  recommendationId := some provided.recommendationId
  severityExplanation := provided.output.severityExplanation
  evidenceIds := provided.output.evidenceIds.map Uuid.str
  uncertainty := provided.output.uncertainty
  recommendedAction := provided.output.recommendedAction
  rankedAlternativeIds := provided.output.rankedAlternativeIds
  travelerMessage := provided.output.travelerMessage
  managerMessage := provided.output.managerMessage
  requiresHumanApproval := provided.output.requiresHumanApproval
  missingInformation := provided.output.missingInformation.map .str
  generatedAt := some provided.generatedAt

/-- The two calls that a graph may make to the model; either may raise. -/
inductive ModelCall : Type → Type 1 where
  | selectTool (tripId severity : String) (evidence : List GraphEvidence)
      (coreSourcesUnavailable : Json) : ModelCall (Option ToolSelection)
  | recommend (incidentId : Uuid) (severity : String) (evidence : List GraphEvidence) :
      ModelCall ProvidedRecommendation

structure ModelProvider where
  model : String := "gpt-5.6-terra"
  apiKey : Option String := none

namespace ModelProvider

variable (provider : ModelProvider)

def availableFor (enabled : Bool) : Bool := enabled && truthy provider.apiKey

def auditMetadata (invocationType outcome : String) (inputSummary : JsonObject) :
    GraphModelAudit where
  provider := "openai"
  model := provider.model
  promptVersion :=
    if invocationType = "tool_selection" then "tool-selection-2026-08-09"
    else "recommendation-2026-08-09"
  invocationType
  outcome
  inputSummary

end ModelProvider

end RouteShield
