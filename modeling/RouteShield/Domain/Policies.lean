import RouteShield.Domain.Recovery

/-!
The corporate recovery policy, which is decided before any score is exposed.
-/

namespace RouteShield

structure CorporateTravelPolicy where
  version : String := "mvp-v1"
  maximumIncrementalCost : PyFloat := .finite 500
  minimumConnectionMinutes : ℕ := 45
  allowOvernightConnections : Bool := false

structure PolicyDecision where
  eligible : Bool
  reasons : List String
  policyVersion : String
  deriving DecidableEq

def evaluateRecoveryPolicy (candidate : RecoveryCandidate) (policy : CorporateTravelPolicy) :
    PolicyDecision :=
  let reasons :=
    (if policy.maximumIncrementalCost < candidate.incrementalCost then ["cost_exceeds_policy"]
      else []) ++
    (if candidate.connectionMinutes < policy.minimumConnectionMinutes then
      ["connection_below_policy_minimum"] else [])
  { eligible := reasons = [], reasons, policyVersion := policy.version }

/-- `list(dict.fromkeys(items))`: the first of each item, in order. -/
def distinct (items : List String) : List String :=
  items.foldl (fun seen item => if item ∈ seen then seen else seen ++ [item]) []

/-- The candidate as the policy hands it to `evaluate_candidate`. -/
def RecoveryCandidate.underPolicy (candidate : RecoveryCandidate) (policy : CorporateTravelPolicy) :
    RecoveryCandidate :=
  { candidate with policyCompliant :=
      candidate.policyCompliant && (evaluateRecoveryPolicy candidate policy).eligible }

/-- `evaluate_policy_eligible_candidate`, with the arithmetic of the score left open. -/
def evaluatePolicyEligibleCandidateWith (score : RecoveryCandidate → Except Fault ℚ)
    (candidate : RecoveryCandidate) (policy : CorporateTravelPolicy) :
    Except Fault EvaluatedCandidate := do
  let decision := evaluateRecoveryPolicy candidate policy
  let evaluated ← evaluateCandidateWith score (candidate.underPolicy policy)
    policy.minimumConnectionMinutes
  let reasons := distinct (evaluated.exclusionReasons ++ decision.reasons)
  if decision.eligible then
    return { evaluated with exclusionReasons := reasons }
  else
    return { evaluated with
      eligible := false
      exclusionReasons := reasons
      deterministicRecoveryScore := none
      lifecycleState := .policyIneligible }

def evaluatePolicyEligibleCandidate (candidate : RecoveryCandidate)
    (policy : CorporateTravelPolicy) : Except Fault EvaluatedCandidate :=
  evaluatePolicyEligibleCandidateWith recoveryScore candidate policy

/-- A confirmed minimum of the traveler tightens the policy; none, or a minimum of zero, leaves the
candidate as it is. -/
def applyTravelerMinimumConnection (candidate : EvaluatedCandidate)
    (minimumConnectionMinutes : Option ℤ) : EvaluatedCandidate :=
  match minimumConnectionMinutes with
  | none => candidate
  | some minimum =>
    if minimum = 0 ∨ minimum ≤ candidate.connectionMinutes ∨ candidate.eligible = false then
      candidate
    else
      { candidate with
        eligible := false
        exclusionReasons := candidate.exclusionReasons ++ ["traveler_minimum_connection_not_met"]
        deterministicRecoveryScore := none
        lifecycleState := .ineligible }

end RouteShield
