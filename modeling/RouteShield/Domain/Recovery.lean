import RouteShield.Domain.Models

/-!
Recovery candidates of an incident: which are eligible, in what order they are displayed,
and the append-only record of what became of them, from which the current view is projected.
-/

namespace RouteShield

inductive RecoveryCandidateState where
  | unavailable | policyIneligible | ineligible | eligible | offered | viewed | selected | rejected
  | completed
  deriving DecidableEq

def RecoveryCandidateState.value : RecoveryCandidateState → String
  | .unavailable => "unavailable"
  | .policyIneligible => "policy_ineligible"
  | .ineligible => "ineligible"
  | .eligible => "eligible"
  | .offered => "offered"
  | .viewed => "viewed"
  | .selected => "selected"
  | .rejected => "rejected"
  | .completed => "completed"

inductive RecoveryCandidateOutcomeState where
  | offered | viewed | selected | rejected | completed
  deriving DecidableEq

/-- `RecoveryCandidateState(outcome.state.value)`: the state of the same value. -/
def RecoveryCandidateOutcomeState.lifecycle : RecoveryCandidateOutcomeState → RecoveryCandidateState
  | .offered => .offered
  | .viewed => .viewed
  | .selected => .selected
  | .rejected => .rejected
  | .completed => .completed

structure RecoveryCandidate where
  candidateId : String
  available : Bool
  policyCompliant : Bool
  accessibilityCompliant : Bool
  feasible : Bool
  arrivalDelayMinutes : ℕ
  incrementalCost : {x : PyFloat // .finite 0 ≤ x}
  connectionMinutes : ℕ
  deriving DecidableEq

structure EvaluatedCandidate extends RecoveryCandidate where
  eligible : Bool
  exclusionReasons : List String
  deterministicRecoveryScore : Option Percent := none
  normalizedCandidateFeatures : JsonObject := []
  featureSchemaVersion : String := "recovery-candidate-v1"
  displayedPosition : Option ℕ := none
  rankerScore : Option ℚ := none
  rankerModelVersion : Option String := none
  lifecycleState : RecoveryCandidateState := .eligible
  deriving DecidableEq

structure RecoveryCandidateOutcomeUpdate where
  state : RecoveryCandidateOutcomeState
  reason : Option String := none
  managerOverrideReason : Option String := none
  finalItinerary : Option JsonObject := none
  materialOutcome : Option JsonObject := none
  deriving DecidableEq

structure RecoveryCandidateOutcome extends RecoveryCandidateOutcomeUpdate where
  outcomeId : Uuid
  candidateSetId : Uuid
  incidentId : Uuid
  candidateId : String
  actorId : Option String := none
  occurredAt : Time
  deriving DecidableEq

structure RecoveryCandidateSet where
  candidateSetId : Uuid
  incidentId : Uuid
  scoreVersion : String := "deterministic-v1"
  policyVersion : String := "mvp-v1"
  candidates : List EvaluatedCandidate
  createdAt : Time
  outcomes : List RecoveryCandidateOutcome := []
  selectedCandidateId : Option String := none
  managerOverrideReason : Option String := none
  deriving DecidableEq

/-! ### Eligibility and ranking -/

/-- The deterministic score before its range is checked, in doubles. -/
def recoveryScore (candidate : RecoveryCandidate) : Except Fault ℚ :=
  match (JsonNumber.int candidate.arrivalDelayMinutes).toFloat?.bind PyFloat.rat? with
  | none => .error .overflow
  | some delay =>
    match candidate.incrementalCost.val.rat? with
    | none => .ok 0  -- an infinite cost leaves nothing above the floor of zero
    | some cost =>
      let penalized := Binary64.round (100 - Binary64.round (delay / 2))
      let score := Binary64.round (penalized - Binary64.round (cost * Binary64.round (1 / 10)))
      .ok (Binary64.round2 (max 0 score))

def exclusionReasons (candidate : RecoveryCandidate) (minimumConnectionMinutes : ℕ) :
    List String :=
  (if candidate.available then [] else ["unavailable"]) ++
  (if candidate.feasible then [] else ["itinerary_infeasible"]) ++
  (if candidate.policyCompliant then [] else ["policy_ineligible"]) ++
  (if candidate.accessibilityCompliant then [] else ["accessibility_ineligible"]) ++
  (if candidate.connectionMinutes < minimumConnectionMinutes then ["connection_below_minimum"]
    else [])

/-- `evaluate_candidate`, with the arithmetic of the score left open. -/
def evaluateCandidateWith (score : RecoveryCandidate → Except Fault ℚ)
    (candidate : RecoveryCandidate) (minimumConnectionMinutes : ℕ) :
    Except Fault EvaluatedCandidate := do
  let reasons := exclusionReasons candidate minimumConnectionMinutes
  let eligible : Bool := reasons = []
  let scored ← if eligible then (score candidate).map some else .ok none
  let checked ← match scored with
    | none => .ok none
    | some q =>
      if h : 0 ≤ q ∧ q ≤ 100 then .ok (some (⟨q, h⟩ : Percent))
      else .error (.validation "EvaluatedCandidate")
  return { candidate with
    eligible
    exclusionReasons := reasons
    deterministicRecoveryScore := checked
    normalizedCandidateFeatures :=
      [("available", .bool candidate.available),
        ("policy_compliant", .bool candidate.policyCompliant),
        ("accessibility_compliant", .bool candidate.accessibilityCompliant),
        ("feasible", .bool candidate.feasible),
        ("arrival_delay_minutes", .num (.int candidate.arrivalDelayMinutes)),
        ("incremental_cost", .num (.float candidate.incrementalCost)),
        ("connection_minutes", .num (.int candidate.connectionMinutes))]
    lifecycleState :=
      if !candidate.available then .unavailable
      else if !candidate.policyCompliant then .policyIneligible
      else if !eligible then .ineligible
      else .eligible }

def evaluateCandidate (candidate : RecoveryCandidate) (minimumConnectionMinutes : ℕ) :
    Except Fault EvaluatedCandidate :=
  evaluateCandidateWith recoveryScore candidate minimumConnectionMinutes

/-- The key of the display order: score, then identifier. -/
def rankKey (candidate : EvaluatedCandidate) : ℚ × String :=
  ((candidate.deterministicRecoveryScore.map Subtype.val).getD 0, candidate.candidateId)

/-- The order of display: by descending score, then by descending identifier. -/
def ranksBefore (a b : EvaluatedCandidate) : Bool :=
  (rankKey b).1 < (rankKey a).1 ∨ ((rankKey b).1 = (rankKey a).1 ∧ (rankKey b).2 ≤ (rankKey a).2)

/-- The eligible candidates by descending key, with their positions from 1. -/
def rankEligible (candidates : List EvaluatedCandidate) : List EvaluatedCandidate :=
  let ranked := (candidates.filter (fun c => c.eligible)).mergeSort ranksBefore
  ranked.zipIdx.map (fun (c, i) => { c with displayedPosition := some (i + 1) })

theorem length_rankEligible (candidates : List EvaluatedCandidate) :
    (rankEligible candidates).length = candidates.countP fun c => c.eligible := by
  simp [rankEligible, List.countP_eq_length_filter]

/-- The identifiers of the eligible candidates in the order of their display. -/
def rankedIds (candidates : List EvaluatedCandidate) : List String :=
  (rankEligible candidates).map (fun c => c.candidateId)

theorem rankedIds_eq (candidates : List EvaluatedCandidate) :
    rankedIds candidates =
      ((candidates.filter (fun c => c.eligible)).mergeSort ranksBefore).map
        (fun c => c.candidateId) := by
  have hfst : ∀ ranked : List EvaluatedCandidate,
      ranked.zipIdx.map (fun p => p.1.candidateId) = ranked.map (fun c => c.candidateId) := by
    intro ranked
    calc ranked.zipIdx.map (fun p => p.1.candidateId)
        = (ranked.zipIdx.map Prod.fst).map (fun c => c.candidateId) := by
          rw [List.map_map]
          rfl
      _ = ranked.map (fun c => c.candidateId) := by rw [List.zipIdx_map_fst]
  unfold rankedIds rankEligible
  rw [List.map_map]
  exact hfst _

/-- What neither eligibility, key nor identifier depends on plays no part in a ranking. -/
theorem rankedIds_map {f : EvaluatedCandidate → EvaluatedCandidate}
    (heligible : ∀ c, (f c).eligible = c.eligible) (hkey : ∀ c, rankKey (f c) = rankKey c)
    (hid : ∀ c, (f c).candidateId = c.candidateId) (candidates : List EvaluatedCandidate) :
    rankedIds (candidates.map f) = rankedIds candidates := by
  have hbefore : ∀ a b, ranksBefore a b = ranksBefore (f a) (f b) := fun a b => by
    unfold ranksBefore
    rw [hkey, hkey]
  rw [rankedIds_eq, rankedIds_eq, List.filter_map,
    ← List.map_mergeSort (fun a _ b _ => hbefore a b), List.map_map]
  simp [Function.comp_def, heligible, hid]

/-! ### Outcomes -/

/-- Outcomes are ordered by time, then by the text of their identifier. -/
def RecoveryCandidateOutcome.le (a b : RecoveryCandidateOutcome) : Bool :=
  a.occurredAt < b.occurredAt ∨ (a.occurredAt = b.occurredAt ∧ a.outcomeId.str ≤ b.outcomeId.str)

/-- The last outcome of a candidate, in the order of outcomes. -/
def lastOutcome (outcomes : List RecoveryCandidateOutcome) (candidateId : String) :
    Option RecoveryCandidateOutcome :=
  ((outcomes.mergeSort RecoveryCandidateOutcome.le).filter
    (fun o => o.candidateId = candidateId)).getLast?

/-- `max` by the order of outcomes: the first of the greatest. -/
def latestSelection (outcomes : List RecoveryCandidateOutcome) : Option RecoveryCandidateOutcome :=
  (outcomes.filter (fun o => o.state = .selected)).foldl
    (fun best o => match best with
      | none => some o
      | some b => if o.le b then some b else some o) none

def projectCandidateSetOutcomes (candidateSet : RecoveryCandidateSet)
    (outcomes : List RecoveryCandidateOutcome) : RecoveryCandidateSet :=
  { candidateSet with
    candidates := candidateSet.candidates.map (fun c =>
      match lastOutcome outcomes c.candidateId with
      | some o => { c with lifecycleState := o.state.lifecycle }
      | none => c)
    outcomes := outcomes.mergeSort RecoveryCandidateOutcome.le
    selectedCandidateId := (latestSelection outcomes).map (fun o => o.candidateId)
    managerOverrideReason := (latestSelection outcomes).bind (fun o => o.managerOverrideReason) }

def transitionAllowed (currentState : RecoveryCandidateState)
    (targetState : RecoveryCandidateOutcomeState) : Bool :=
  match currentState with
  | .eligible => targetState = .offered
  | .offered => targetState = .viewed ∨ targetState = .selected ∨ targetState = .rejected
  | .viewed => targetState = .selected ∨ targetState = .rejected
  | .selected => targetState = .completed
  | _ => false

/-- No state may be entered from itself. -/
theorem transitionAllowed_lifecycle (state : RecoveryCandidateOutcomeState) :
    transitionAllowed state.lifecycle state = false := by
  cases state <;> rfl

end RouteShield
