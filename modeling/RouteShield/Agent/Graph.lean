import RouteShield.Agent.State

/-!
The investigation graph up to the approval gate: its nodes, its edges, and its run from node to
node. Each node answers with the whole state, the keys it sets merged in.
-/

namespace RouteShield

def maxReactIterations : ℕ := 3

/-- `fixture_alternatives()`. -/
def fixtureAlternatives : List RecoveryCandidate :=
  [{ candidateId := "fixture-alt-1"
     available := true
     policyCompliant := true
     accessibilityCompliant := true
     feasible := true
     arrivalDelayMinutes := 45
     incrementalCost := ⟨.finite 120, by decide⟩
     connectionMinutes := 75 },
   { candidateId := "fixture-alt-2"
     available := true
     policyCompliant := true
     accessibilityCompliant := true
     feasible := true
     arrivalDelayMinutes := 90
     incrementalCost := ⟨.finite 20, by decide⟩
     connectionMinutes := 55 }]

inductive Node where
  | loadMemoryContext | reactAssistant | tools | recommendation | verifyAlternativeEligibility
  | rankEligibleRecoveryOptions | attachRecoveryRanking | policyGate | approvalGate | finalize
  deriving DecidableEq

namespace Graph

variable (provider : ModelProvider) (s : RouteRiskState)

/-- A provider outage goes to a human at once; the model does not make up for it. -/
def routeBySeverity : Node :=
  match s.unavailable with
  | some items =>
    if 2 ≤ items.length then .approvalGate
    else if s.elevated && .str "flight_status" ∈ items then .approvalGate
    else if s.elevated then .loadMemoryContext
    else .finalize
  | none => if s.elevated then .loadMemoryContext else .finalize

/-- The sources that a follow-up looks at, in order, and the tools for them. -/
def preferred : List (String × String) :=
  [("flight_status", "get_flight_status"),
    ("connection_feasibility", "get_connection_feasibility"),
    ("airport_weather", "get_airport_weather")]

def nextTool : Option String :=
  if maxReactIterations ≤ s.reactIterations then none
  else
    (preferred.find? (fun (sourceType, toolName) =>
      sourceType ∈ s.evidence.map GraphEvidence.sourceType &&
        toolName ∉ s.toolAudit.map GraphToolAudit.toolName)).map Prod.snd

/-- `_recommendation`: what is recommended without a model. -/
def recommendation : RecommendationPayload where
  severityExplanation := "Deterministic assessment severity is " ++ s.severity ++ "."
  evidenceIds := s.evidenceIds
  uncertainty := if s.coreSourcesUnavailable.truthy then "high" else "medium"
  recommendedAction := "Have a travel manager review before any itinerary action."
  travelerMessage := "Your travel manager is reviewing a possible disruption. " ++
    "No itinerary change has been made."
  managerMessage := "Review the cited evidence before approving any itinerary action."
  requiresHumanApproval := true
  missingInformation := s.unavailable.getD []

/-! ### The loop of lookups -/

def allowedFields : List String :=
  ["preferred_airports", "preferred_carriers", "minimum_connection_minutes",
    "avoid_overnight_connections", "approved_ground_transport_preferences",
    "approved_accessibility_accommodations", "version"]

/-- The allow-listed texts of a playbook, when each of them is a text. -/
def approvedPlaybook (item : JsonObject) : Option JsonObject :=
  ["playbook_id", "name", "version", "guidance"].mapM fun key =>
    match Json.get? item key with
    | some (.str text) => some (key, .str text)
    | _ => none

def loadMemoryContext : RouteRiskState :=
  let memoryContext := s.travelerContext.map (fun supplied =>
    supplied.filter (fun field => field.1 ∈ allowedFields))
  let approvedPlaybooks := s.playbookContext.filterMap approvedPlaybook
  let loaded : Bool := memoryContext.any (fun fields => fields ≠ [])
  { s with
    memoryContext
    memoryContextVersion :=
      ((memoryContext.bind (fun fields => Json.get? fields "version")).bind Json.number?).bind
        fun n => match n with
          | .int version => some version
          | .float _ => none
    approvedPlaybooks
    toolAudit := s.toolAudit ++
      [{ toolName := "load_memory_context"
         arguments := [("scope", .str "tenant_traveler_profile")]
         outcome :=
          if loaded && approvedPlaybooks ≠ [] then "profile_and_playbooks_loaded"
          else if loaded then "profile_loaded"
          else if approvedPlaybooks ≠ [] then "playbooks_loaded"
          else "no_confirmed_profile_or_playbook" }] }

/-- The audit entries of a tool selection. -/
def selectionAudited (toolRequested : JsonObject) (outcome modelOutcome : String) :
    RouteRiskState :=
  { s with
    toolSelectionAttempted := true
    toolAudit := s.toolAudit ++
      [{ toolName := "model_tool_selection", arguments := toolRequested, outcome }]
    modelAudit := s.modelAudit ++
      [provider.auditMetadata "tool_selection" modelOutcome
        [("severity", .str s.severity),
          ("evidence_count", .num (.int s.evidence.length)),
          ("core_sources_unavailable", s.coreSourcesUnavailable)]] }

/-- The one lookup that the model may plan. A failed selection leaves the pending call. -/
def afterSelection : Except Fault (Option ToolSelection) → RouteRiskState
  | .error _ =>
    { selectionAudited provider s [] "model_selection_failed_fallback_used"
        "failed_fallback_used" with
      toolSelectionMode := some "deterministic_fallback" }
  | .ok (some selection) =>
    { selectionAudited provider s [("tool_requested", .str selection.name)] "model_selected_tool"
        "tool_selected" with
      toolSelectionMode := some "model_selected"
      pendingToolCall := some selection }
  | .ok none =>
    { selectionAudited provider s [("tool_requested", .null)] "model_selected_no_tool"
        "no_tool_selected" with
      toolSelectionMode := some "model_selected_no_tool"
      pendingToolCall := none
      recommendation := some (recommendation s) }

/-- A lookup that the server plans, while there is one. -/
def followUp : RouteRiskState :=
  match nextTool s with
  | none => { s with pendingToolCall := none, recommendation := some (recommendation s) }
  | some name =>
    { s with
      toolSelectionMode := some "deterministic_follow_up"
      pendingToolCall := some { name, arguments := [("trip_id", .str s.tripId)] } }

def reactAssistant : Prog ModelCall Fault RouteRiskState :=
  if !s.toolSelectionAttempted && provider.availableFor s.llmEnabled then do
    let answer ← .attempt (.selectTool s.tripId s.severity s.evidence s.coreSourcesUnavailable)
    return afterSelection provider s answer
  else return followUp s

def routeAfterAssistant : Node := if s.pendingToolCall.isSome then .tools else .recommendation

/-- The call names a read-only tool and asks for the trip of the run. -/
def readsThisTrip (call : ToolSelection) : Bool :=
  call.name ∈ readOnlyToolNames ∧ Json.get? call.arguments "trip_id" = some (.str s.tripId)

/-- The audit entry of a lookup, which cites the evidence snapshot. -/
def lookupAudit (call : ToolSelection) : GraphToolAudit where
  toolName := call.name
  arguments := call.arguments
  evidenceIds := s.evidenceIds
  outcome :=
    if s.toolSelectionMode = some "model_selected" then "model_selected_evidence_snapshot"
    else "deterministic_evidence_snapshot"

/-- Record a lookup in the evidence snapshot; no provider is called. -/
def runReadOnlyTool : RouteRiskState :=
  match s.pendingToolCall.filter (readsThisTrip s) with
  | none => { s with pendingToolCall := none, recommendation := some (recommendation s) }
  | some call =>
    { s with
      reactIterations := s.reactIterations + 1
      toolAudit := s.toolAudit ++ [lookupAudit s call]
      pendingToolCall := none }

/-! ### The recommendation and the ranking -/

/-- `recommend`, under the identifier that the state spells. -/
def askRecommendation : Prog ModelCall Fault (Except Fault ProvidedRecommendation) :=
  match Uuid.parse? s.incidentId with
  | some incidentId => .attempt (.recommend incidentId s.severity s.evidence)
  | none => return .error (.value "badly formed hexadecimal UUID string")

/-- The recommendation to fall back on, marked as uncertain. -/
def uncertain : RecommendationPayload := { recommendation s with uncertainty := "high" }

def recommendationAudit (outcome : String) : GraphModelAudit :=
  provider.auditMetadata "recommendation" outcome
    [("severity", .str s.severity), ("evidence_count", .num (.int s.evidence.length))]

/-- What the state recommends after the model answered. -/
def answered : Except Fault ProvidedRecommendation → RouteRiskState
  | .ok provided =>
    { s with
      recommendation := some provided.dump
      modelAudit := s.modelAudit ++ [recommendationAudit provider s "succeeded"] }
  | .error _ =>
    { s with
      recommendation := some (uncertain s)
      modelAudit := s.modelAudit ++ [recommendationAudit provider s "failed_fallback_used"] }

/-- Every citation belongs to this assessment, or the recommendation is replaced. -/
def cited : RouteRiskState :=
  let recommended := s.recommendation.getD (recommendation s)
  { s with
    recommendation := some
      (if recommended.evidenceIds ⊆ s.evidenceIds then recommended else uncertain s) }

def validateRecommendation : Prog ModelCall Fault RouteRiskState :=
  if provider.availableFor s.llmEnabled && s.elevated then do
    return cited (answered provider s (← askRecommendation s))
  else return cited s

/-- A confirmed minimum connection: an integer, which a boolean is not. -/
def travelerMinimum : Option ℤ :=
  match s.memoryContext.bind (fun fields => Json.get? fields "minimum_connection_minutes") with
  | some (.num (.int minimum)) => some minimum
  | _ => none

/-- Evaluate each alternative under the policy and the traveler's minimum. -/
def evaluateAlternatives (alternatives : List RecoveryCandidate) (policy : CorporateTravelPolicy)
    (minimum : Option ℤ) : Except Fault (List EvaluatedCandidate) :=
  alternatives.mapM fun candidate => do
    let evaluated ← evaluatePolicyEligibleCandidate candidate policy
    return applyTravelerMinimumConnection evaluated minimum

/-- The traveler's minimum is applied to what the policy alone decides, and raises nothing. -/
theorem evaluateAlternatives_eq (alternatives : List RecoveryCandidate)
    (policy : CorporateTravelPolicy) (minimum : Option ℤ) :
    evaluateAlternatives alternatives policy minimum =
      (alternatives.mapM fun candidate => evaluatePolicyEligibleCandidate candidate policy).map
        (List.map fun evaluated => applyTravelerMinimumConnection evaluated minimum) := by
  unfold evaluateAlternatives
  induction alternatives with
  | nil => rfl
  | cons candidate alternatives ih =>
    rw [List.mapM_cons, List.mapM_cons, ih]
    cases evaluatePolicyEligibleCandidate candidate policy with
    | error fault => rfl
    | ok evaluated =>
      cases alternatives.mapM fun c => evaluatePolicyEligibleCandidate c policy <;> rfl

def verifyAlternativeEligibility (alternatives : List RecoveryCandidate) :
    Except Fault RouteRiskState := do
  let policy : CorporateTravelPolicy := {}
  let evaluated ← evaluateAlternatives alternatives policy (travelerMinimum s)
  return { s with
    alternativeCandidates := some evaluated
    eligibleAlternatives := []
    policyDecision := some
      { policyVersion := policy.version
        eligibleCandidateIds :=
          (evaluated.filter (fun c => c.eligible)).map (fun c => c.candidateId)
        travelerMinimumConnectionMinutes := travelerMinimum s
        memoryContextVersion := s.memoryContextVersion
        approvedPlaybooks := s.approvedPlaybooks }
    toolAudit := s.toolAudit ++
      [{ toolName := "find_alternative_flights"
         arguments := [("trip_id", .str s.tripId)]
         evidenceIds := s.evidenceIds
         outcome := "policy_eligibility_evaluated" }] }

/-- Candidates with the display positions of the eligible ones. -/
def displayed (candidates : List EvaluatedCandidate) : List EvaluatedCandidate :=
  candidates.map (fun c =>
    { c with
      displayedPosition := ((rankEligible candidates).reverse.find? (fun r =>
        r.candidateId = c.candidateId)).bind EvaluatedCandidate.displayedPosition })

def rankEligibleRecoveryOptions : RouteRiskState :=
  let candidates := s.alternativeCandidates.getD []
  let ranked := rankEligible candidates
  { s with
    alternativeCandidates := some (displayed candidates)
    eligibleAlternatives := ranked
    recoveryRanking := some
      { rankingMethod := "deterministic"
        scoreVersion := "deterministic-v1"
        rankedCandidateIds := ranked.map (fun c => c.candidateId)
        fallbackReason := "learned_ranker_not_enabled" } }

/-- What the ranking adds to the message to the manager. -/
def rankingNote (count : ℕ) : String :=
  " " ++ toString count ++
    " policy-eligible alternatives were ranked by the deterministic recovery score."

/-- The assistant may explain an order; the order is not the assistant's. -/
def attachRecoveryRanking : RouteRiskState :=
  let recommended := s.recommendation.getD (recommendation s)
  let rankedIds := (s.recoveryRanking.map RecoveryRanking.rankedCandidateIds).getD []
  { s with
    recommendation := some
      { recommended with
        rankedAlternativeIds := rankedIds
        managerMessage := recommended.managerMessage ++ rankingNote rankedIds.length } }

def policyGate : RouteRiskState :=
  { s with
    policyGate := some
      { status := "human_approval_required"
        eligibleCandidateIds :=
          (s.policyDecision.map GraphPolicyDecision.eligibleCandidateIds).getD []
        policyVersion := s.policyDecision.map GraphPolicyDecision.policyVersion } }

end Graph

/-! ### The run -/

namespace Node

variable (provider : ModelProvider) (s : RouteRiskState)

/-- The approval gate waits for a person, and writes nothing before one decides. -/
def run : Node → Prog ModelCall Fault RouteRiskState
  | .loadMemoryContext => return Graph.loadMemoryContext s
  | .reactAssistant => Graph.reactAssistant provider s
  | .tools => return Graph.runReadOnlyTool s
  | .recommendation => Graph.validateRecommendation provider s
  | .verifyAlternativeEligibility =>
    .ofExcept (Graph.verifyAlternativeEligibility s fixtureAlternatives)
  | .rankEligibleRecoveryOptions => return Graph.rankEligibleRecoveryOptions s
  | .attachRecoveryRanking => return Graph.attachRecoveryRanking s
  | .policyGate => return Graph.policyGate s
  | .approvalGate | .finalize => return s

/-- The edges, up to where a run stops. -/
def next : Node → Option Node
  | .loadMemoryContext => some .reactAssistant
  | .reactAssistant => some (Graph.routeAfterAssistant s)
  | .tools => some .reactAssistant
  | .recommendation => some .verifyAlternativeEligibility
  | .verifyAlternativeEligibility => some .rankEligibleRecoveryOptions
  | .rankEligibleRecoveryOptions => some .attachRecoveryRanking
  | .attachRecoveryRanking => some .policyGate
  | .policyGate => some .approvalGate
  | .approvalGate | .finalize => none

end Node

namespace Graph

variable (provider : ModelProvider)

/-- Go on from a node for at most so many nodes: where the run stops, and in what state. -/
def runFrom : ℕ → Node → RouteRiskState → Prog ModelCall Fault (Option (Node × RouteRiskState))
  | 0, _, _ => return none
  | fuel + 1, node, s => do
    let s ← node.run provider s
    match node.next s with
    | some next => runFrom fuel next s
    | none => return some (node, s)

/-- The run from the start. -/
def run (fuel : ℕ) (s : RouteRiskState) : Prog ModelCall Fault (Option (Node × RouteRiskState)) :=
  runFrom provider fuel (routeBySeverity s) s

end Graph

end RouteShield
