import RouteShield.Api.Outcomes
import RouteShield.Domain.Ranking

/-!
What a candidate set shows of the candidates that were submitted for it.
-/

namespace RouteShield

open Prog

variable {candidates : List EvaluatedCandidate}

theorem placement_displayed (hdistinct : (candidates.map fun c => c.candidateId).Nodup) :
    Placement candidates (rankEligible candidates) (Graph.displayed candidates) :=
  placement_lookup hdistinct

/-- A ranking shows every eligible candidate once, in an order that is the candidates' own, and the
sets made of it keep the others without a place. A request for a set saves one, which it returns,
or replays the answer of an earlier one. -/
theorem rankEligible_complete (hdistinct : (candidates.map fun c => c.candidateId).Nodup) :
    (∀ permuted : List EvaluatedCandidate, permuted.Perm candidates →
      rankEligible permuted = rankEligible candidates) ∧
    Ranking candidates (rankEligible candidates) ∧
    (∀ s : RouteRiskState, s.alternativeCandidates = some candidates →
      ∃ shown, (Graph.rankEligibleRecoveryOptions s).alternativeCandidates = some shown ∧
        (Graph.rankEligibleRecoveryOptions s).eligibleAlternatives = rankEligible candidates ∧
        Placement candidates (rankEligible candidates) shown) ∧
    ∀ (svc : Service) (caller : Caller) (incidentId : Uuid) (submitted : List RecoveryCandidate),
      (submitted.mapM fun c => evaluatePolicyEligibleCandidate c svc.recoveryPolicy) =
          .ok candidates →
        candidates.map (fun c => c.candidateId) = submitted.map (fun c => c.candidateId) ∧
          (Api.createCandidateSet svc caller incidentId submitted).Only (Api.Saves fun candidateSet =>
            Placement candidates (rankEligible candidates) candidateSet.candidates) ∧
          ∀ {b : Backend} (env : Env) (w : World b) answer s',
            (Api.createCandidateSet svc caller incidentId submitted).run
                (env.recorded env.invokeGraph) (w, {}) = (.ok answer, s') →
              Replays (b := b) caller.idempotencyKey answer ∧ s'.2.sets = [] ∨
                s'.2.sets = [answer] ∧ answer.incidentId = incidentId ∧
                  Placement candidates (rankEligible candidates) answer.candidates := by
  refine ⟨fun permuted hperm => rankEligible_eq_of_perm hdistinct hperm,
    rankEligible_ranking candidates, fun s hs => ?_,
    fun svc caller incidentId submitted hevaluated => ?_⟩
  · refine ⟨Graph.displayed candidates, ?_, ?_, placement_displayed hdistinct⟩
    · simp only [Graph.rankEligibleRecoveryOptions, hs, Option.getD_some]
    · simp only [Graph.rankEligibleRecoveryOptions, hs, Option.getD_some]
  · refine ⟨candidateIds_evaluated hevaluated, ?_, fun env w answer s' hrun => ?_⟩
    · refine only_mono Api.createCandidateSet_saves fun op hop => hop.mono ?_
      rintro candidateSet ⟨evaluated, hsame, hcandidates⟩
      obtain rfl : candidates = evaluated := Except.ok.inj (hevaluated.symm.trans hsame)
      rw [hcandidates]
      exact placement_displayed hdistinct
    · rcases createCandidateSet_granted hrun with hreplays | ⟨hsets, hincident, evaluated, hsame,
        hcandidates⟩
      · exact .inl hreplays
      · obtain rfl : candidates = evaluated := Except.ok.inj (hevaluated.symm.trans hsame)
        exact .inr ⟨hsets, hincident, hcandidates ▸ placement_displayed hdistinct⟩

/-- An option for forty, as it is submitted. -/
def submittedOption (candidateId : String) (arrivalDelayMinutes connectionMinutes : ℕ) :
    RecoveryCandidate :=
  { candidateId, available := true, policyCompliant := true, accessibilityCompliant := true,
    feasible := true, arrivalDelayMinutes,
    incrementalCost := ⟨.finite 40, PyFloat.finite_le_finite.mpr (by norm_num)⟩,
    connectionMinutes }

/-- Two candidates of one score, and one that connects too tightly. -/
def tiedSubmission : List RecoveryCandidate :=
  [submittedOption "early" 30 60, submittedOption "tight" 0 20, submittedOption "late" 30 90]

/-- What the policy makes of them. -/
def tiedCandidates : List EvaluatedCandidate :=
  ((tiedSubmission.mapM fun c => evaluatePolicyEligibleCandidate c {}).toOption).getD []

theorem evaluated_tied :
    (tiedSubmission.mapM fun c => evaluatePolicyEligibleCandidate c {}) = .ok tiedCandidates := by
  have hok : (tiedSubmission.mapM fun c => evaluatePolicyEligibleCandidate c {}).isOk = true := by
    decide +kernel
  unfold tiedCandidates
  cases hevaluated : tiedSubmission.mapM fun c => evaluatePolicyEligibleCandidate c {} with
  | error fault =>
    rw [hevaluated] at hok
    cases hok
  | ok evaluated => rfl

/-- What a request for a set of them leaves. -/
def tiedCandidateSet : Except Fault RecoveryCandidateSet × World .memory × Escalation :=
  (Api.createCandidateSet .switchedOn filedTripManager (.v4 2) tiedSubmission).run
    (Env.still.recorded Env.still.invokeGraph) (filedIncident, {})

theorem rankEligible_complete_tied :
    rankEligible tiedCandidates.reverse = rankEligible tiedCandidates ∧
      Ranking tiedCandidates (rankEligible tiedCandidates) ∧
      (rankEligible tiedCandidates).length = 2 ∧
      ∃ answer, tiedCandidateSet.1 = .ok answer ∧ tiedCandidateSet.2.2.sets = [answer] ∧
        Placement tiedCandidates (rankEligible tiedCandidates) answer.candidates := by
  have hdistinct : (tiedCandidates.map fun c => c.candidateId).Nodup := by decide +kernel
  obtain ⟨horder, hranking, -, hcreates⟩ := rankEligible_complete hdistinct
  obtain ⟨-, -, hcreated⟩ := hcreates .switchedOn filedTripManager (.v4 2) _ evaluated_tied
  have hlength : (rankEligible tiedCandidates).length = 2 := by
    rw [length_rankEligible]
    decide +kernel
  refine ⟨horder _ (List.reverse_perm _), hranking, hlength, ?_⟩
  have hreturns : tiedCandidateSet.1.isOk = true := by decide +kernel
  cases hanswer : tiedCandidateSet.1 with
  | error fault =>
    rw [hanswer] at hreturns
    cases hreturns
  | ok answer =>
    rcases hcreated Env.still filedIncident answer _ (Prod.ext hanswer rfl) with
      ⟨⟨claim, -, -, -, -, hkey, -⟩, -⟩ | ⟨hsets, -, hplacement⟩
    · cases hkey
    · exact ⟨answer, rfl, hsets, hplacement⟩

end RouteShield
