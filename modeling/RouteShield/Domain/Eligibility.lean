import RouteShield.Domain.Policies
import RouteShield.Lib.Prog

/-!
What the three functions that decide on a recovery candidate agree on. The candidate's own facts,
the corporate policy and the traveler's minimum are applied one after another, and each rewrites
the same five fields. The arithmetic of the score is a parameter: the service evaluates it in
doubles, and `exactRecoveryScore` is the same expression over the rationals.
-/

namespace RouteShield

/-! ### Distinct reasons -/

theorem distinct_concat (items : List String) (item : String) :
    distinct (items ++ [item]) =
      if item ∈ distinct items then distinct items else distinct items ++ [item] := by
  rw [distinct, List.foldl_append, List.foldl_cons, List.foldl_nil]
  by_cases hitem : item ∈ distinct items
  · rw [if_pos hitem]
    exact if_pos hitem
  · rw [if_neg hitem]
    exact if_neg hitem

theorem mem_distinct {items : List String} {item : String} :
    item ∈ distinct items ↔ item ∈ items := by
  induction items using List.reverseRecOn with
  | nil => rfl
  | append_singleton items last ih =>
    rw [distinct_concat]
    by_cases hlast : last ∈ distinct items
    · rw [if_pos hlast, ih, List.mem_append, List.mem_singleton]
      constructor
      · exact Or.inl
      · rintro (h | rfl)
        · exact h
        · exact ih.mp hlast
    · rw [if_neg hlast, List.mem_append, List.mem_append, ih]

theorem nodup_distinct (items : List String) : (distinct items).Nodup := by
  induction items using List.reverseRecOn with
  | nil => exact List.nodup_nil
  | append_singleton items last ih =>
    rw [distinct_concat]
    by_cases hlast : last ∈ distinct items
    · rwa [if_pos hlast]
    · rw [if_neg hlast]
      exact List.nodup_append.mpr ⟨ih, List.nodup_singleton last, by
        rintro a ha b hb rfl
        exact hlast (List.mem_singleton.mp hb ▸ ha)⟩

theorem distinct_eq_nil {items : List String} : distinct items = [] ↔ items = [] := by
  rw [List.eq_nil_iff_forall_not_mem, List.eq_nil_iff_forall_not_mem]
  simp only [mem_distinct]

/-! ### The score over the rationals -/

/-- `round(max(0, 100 - delay * 0.5 - cost * 0.1), 2)`; an infinite cost leaves nothing above the
floor of zero. -/
def exactRecoveryScore (candidate : RecoveryCandidate) : ℚ :=
  match candidate.incrementalCost.val.rat? with
  | none => 0
  | some cost =>
    Binary64.roundHalfEven
      (100 * max 0 (100 - (candidate.arrivalDelayMinutes : ℚ) / 2 - cost / 10)) / 100

theorem exactRecoveryScore_of_finite {candidate : RecoveryCandidate} {cost : ℚ}
    (h : candidate.incrementalCost.val = .finite cost) :
    exactRecoveryScore candidate =
      Binary64.roundHalfEven
        (100 * max 0 (100 - (candidate.arrivalDelayMinutes : ℚ) / 2 - cost / 10)) / 100 := by
  rw [exactRecoveryScore, h, PyFloat.rat?_finite]

theorem roundHalfEven_hundredths_mem {q : ℚ} (h0 : 0 ≤ q) (h1 : q ≤ 100) :
    0 ≤ (Binary64.roundHalfEven (100 * q) : ℚ) / 100 ∧
      (Binary64.roundHalfEven (100 * q) : ℚ) / 100 ≤ 100 := by
  have hle : Binary64.roundHalfEven (100 * q) ≤ 10000 :=
    Binary64.roundHalfEven_le (by push_cast; linarith)
  have hnear := (abs_le.mp (Binary64.abs_roundHalfEven_sub_le (100 * q))).1
  have hge : 0 ≤ Binary64.roundHalfEven (100 * q) := by
    by_contra hneg
    have hlt : Binary64.roundHalfEven (100 * q) ≤ -1 := by omega
    have hlt' : (Binary64.roundHalfEven (100 * q) : ℚ) ≤ -1 := by exact_mod_cast hlt
    linarith
  have hle' : (Binary64.roundHalfEven (100 * q) : ℚ) ≤ 10000 := by exact_mod_cast hle
  have hge' : (0 : ℚ) ≤ Binary64.roundHalfEven (100 * q) := by exact_mod_cast hge
  constructor <;> linarith

/-- Delays and costs are never negative, so the score is a percentage. -/
theorem exactRecoveryScore_mem (candidate : RecoveryCandidate) :
    0 ≤ exactRecoveryScore candidate ∧ exactRecoveryScore candidate ≤ 100 := by
  unfold exactRecoveryScore
  cases hcost : candidate.incrementalCost.val.rat? with
  | none => norm_num
  | some cost =>
    have hfinite := PyFloat.rat?_eq_some.mp hcost
    have hcost0 : 0 ≤ cost := by
      have := candidate.incrementalCost.property
      rwa [hfinite, PyFloat.finite_le_finite] at this
    have hdelay : (0 : ℚ) ≤ candidate.arrivalDelayMinutes := Nat.cast_nonneg _
    exact roundHalfEven_hundredths_mem (le_max_left _ _) (max_le (by norm_num) (by linarith))

/-! ### The three functions -/

/-- The whole pipeline: the candidate, the policy, the traveler's minimum. -/
def decideCandidate (score : RecoveryCandidate → Except Fault ℚ) (candidate : RecoveryCandidate)
    (policy : CorporateTravelPolicy) (minimum : Option ℤ) : Except Fault EvaluatedCandidate :=
  (evaluatePolicyEligibleCandidateWith score candidate policy).map
    (fun evaluated => applyTravelerMinimumConnection evaluated minimum)

/-! ### What they agree on -/

/-- The five fields tell one story: eligible exactly when `meets`, and scored, without a reason and
labelled `ELIGIBLE` exactly then. -/
structure EvaluatedCandidate.Decided (evaluated : EvaluatedCandidate) (meets : Prop) : Prop where
  eligible_iff : evaluated.eligible = true ↔ meets
  scored_iff : evaluated.deterministicRecoveryScore.isSome = true ↔ evaluated.eligible = true
  reasons_nodup : evaluated.exclusionReasons.Nodup
  reasons_iff : evaluated.exclusionReasons = [] ↔ evaluated.eligible = true
  state_iff : evaluated.lifecycleState = .eligible ↔ evaluated.eligible = true

theorem exclusionReasons_eq_nil {candidate : RecoveryCandidate} {minimum : ℕ} :
    exclusionReasons candidate minimum = [] ↔
      candidate.available = true ∧ candidate.feasible = true ∧ candidate.policyCompliant = true ∧
        candidate.accessibilityCompliant = true ∧ minimum ≤ candidate.connectionMinutes := by
  simp [exclusionReasons]

theorem nodup_exclusionReasons (candidate : RecoveryCandidate) (minimum : ℕ) :
    (exclusionReasons candidate minimum).Nodup := by
  unfold exclusionReasons
  split_ifs <;> decide

theorem evaluateRecoveryPolicy_eligible {candidate : RecoveryCandidate}
    {policy : CorporateTravelPolicy} :
    (evaluateRecoveryPolicy candidate policy).eligible = true ↔
      candidate.incrementalCost.val ≤ policy.maximumIncrementalCost ∧
        policy.minimumConnectionMinutes ≤ candidate.connectionMinutes := by
  simp [evaluateRecoveryPolicy]

theorem evaluateRecoveryPolicy_reasons {candidate : RecoveryCandidate}
    {policy : CorporateTravelPolicy} :
    (evaluateRecoveryPolicy candidate policy).reasons = [] ↔
      (evaluateRecoveryPolicy candidate policy).eligible = true := by
  simp [evaluateRecoveryPolicy]

variable {score : RecoveryCandidate → Except Fault ℚ} {candidate : RecoveryCandidate}
  {policy : CorporateTravelPolicy} {minimum : ℕ} {evaluated : EvaluatedCandidate}

theorem evaluateCandidateWith_decided
    (h : evaluateCandidateWith score candidate minimum = .ok evaluated) :
    evaluated.toRecoveryCandidate = candidate ∧
      evaluated.exclusionReasons = exclusionReasons candidate minimum ∧
      (∀ s ∈ evaluated.deterministicRecoveryScore, score candidate = .ok s.val) ∧
      evaluated.lifecycleState =
        (if !candidate.available then .unavailable
        else if !candidate.policyCompliant then .policyIneligible
        else if !evaluated.eligible then .ineligible
        else .eligible) ∧
      evaluated.Decided (exclusionReasons candidate minimum = []) := by
  have hnodup := nodup_exclusionReasons candidate minimum
  by_cases hreasons : exclusionReasons candidate minimum = []
  · obtain ⟨havailable, -, hpolicy, -, -⟩ := exclusionReasons_eq_nil.mp hreasons
    simp only [evaluateCandidateWith, hreasons, decide_true, if_true] at h
    obtain ⟨scored, hscored, h⟩ := except_bind_eq_ok.mp h
    cases hs : score candidate with
    | error fault => rw [hs] at hscored; cases hscored
    | ok q =>
      rw [hs] at hscored
      cases hscored
      dsimp only at h
      split at h
      · cases h
        refine ⟨rfl, hreasons.symm, ?_, rfl, ?_⟩
        · rintro s hs'
          cases hs'
          rfl
        · exact ⟨by simp [hreasons], by simp, by simp, by simp, by simp [havailable, hpolicy]⟩
      · cases h
  · simp only [evaluateCandidateWith, hreasons, decide_false, Bool.false_eq_true, if_false] at h
    cases h
    refine ⟨rfl, rfl, fun s hs => (by cases hs), rfl, ?_⟩
    refine ⟨by simp [hreasons], by simp, hnodup, by simp [hreasons], ?_⟩
    simp only [Bool.not_false, if_true, Bool.false_eq_true, iff_false]
    split_ifs <;> simp

/-- With a reason against it a candidate is not scored. -/
theorem exists_evaluateCandidateWith_of_reasons
    (hreasons : exclusionReasons candidate minimum ≠ []) :
    ∃ e, evaluateCandidateWith score candidate minimum = .ok e := by
  simp only [evaluateCandidateWith, hreasons, decide_false, Bool.false_eq_true, if_false]
  exact ⟨_, rfl⟩

/-- A score that is a percentage is never refused. -/
theorem exists_evaluateCandidateWith {q : ℚ} (hscore : score candidate = .ok q)
    (hq : 0 ≤ q ∧ q ≤ 100) : ∃ e, evaluateCandidateWith score candidate minimum = .ok e := by
  by_cases hreasons : exclusionReasons candidate minimum = []
  · simp only [evaluateCandidateWith, hreasons, decide_true, if_true, hscore]
    exact ⟨_, by simp only [Except.map, bind, Except.bind, dif_pos hq]; rfl⟩
  · exact exists_evaluateCandidateWith_of_reasons hreasons

/-- Under the policy, a candidate has no reason of its own left exactly when it meets all limits. -/
def RecoveryCandidate.MeetsPolicy (candidate : RecoveryCandidate) (policy : CorporateTravelPolicy) :
    Prop :=
  candidate.available = true ∧ candidate.feasible = true ∧ candidate.policyCompliant = true ∧
    candidate.accessibilityCompliant = true ∧
    candidate.incrementalCost.val ≤ policy.maximumIncrementalCost ∧
    policy.minimumConnectionMinutes ≤ candidate.connectionMinutes

theorem exclusionReasons_underPolicy :
    exclusionReasons (candidate.underPolicy policy) policy.minimumConnectionMinutes = [] ↔
      candidate.MeetsPolicy policy := by
  rw [exclusionReasons_eq_nil]
  simp only [RecoveryCandidate.underPolicy, Bool.and_eq_true, evaluateRecoveryPolicy_eligible,
    RecoveryCandidate.MeetsPolicy]
  tauto

theorem evaluatePolicyEligibleCandidateWith_decided
    (h : evaluatePolicyEligibleCandidateWith score candidate policy = .ok evaluated) :
    evaluated.connectionMinutes = candidate.connectionMinutes ∧
      (∀ s ∈ evaluated.deterministicRecoveryScore,
        score (candidate.underPolicy policy) = .ok s.val) ∧
      evaluated.Decided (candidate.MeetsPolicy policy) := by
  unfold evaluatePolicyEligibleCandidateWith at h
  obtain ⟨alone, halone, h⟩ := except_bind_eq_ok.mp h
  obtain ⟨hsame, hreasons, hscore, -, hdecided⟩ := evaluateCandidateWith_decided halone
  have hconnection : alone.connectionMinutes =
      (candidate.underPolicy policy).connectionMinutes := by rw [← hsame]
  rw [exclusionReasons_underPolicy] at hdecided
  dsimp only at h
  by_cases heligible : (evaluateRecoveryPolicy candidate policy).eligible = true
  · rw [if_pos heligible] at h
    cases h
    have hnone := evaluateRecoveryPolicy_reasons.mpr heligible
    refine ⟨hconnection, hscore, hdecided.eligible_iff, hdecided.scored_iff, nodup_distinct _, ?_,
      hdecided.state_iff⟩
    rw [distinct_eq_nil, hnone, List.append_nil]
    exact hdecided.reasons_iff
  · rw [if_neg heligible] at h
    cases h
    have hsome : (evaluateRecoveryPolicy candidate policy).reasons ≠ [] :=
      fun hnil => heligible (evaluateRecoveryPolicy_reasons.mp hnil)
    have hfails : ¬ candidate.MeetsPolicy policy := fun hmeets =>
      heligible (evaluateRecoveryPolicy_eligible.mpr hmeets.2.2.2.2)
    refine ⟨hconnection, fun s hs => (by cases hs), by simp [hfails], by simp, nodup_distinct _, ?_,
      by simp⟩
    simp [distinct_eq_nil, hsome]

theorem applyTravelerMinimumConnection_decided {meets : Prop} (minimum : Option ℤ)
    (h : evaluated.Decided meets) :
    (applyTravelerMinimumConnection evaluated minimum).Decided
      (meets ∧ ∀ m ∈ minimum, m ≤ evaluated.connectionMinutes) ∧
    ∀ s ∈ (applyTravelerMinimumConnection evaluated minimum).deterministicRecoveryScore,
      s ∈ evaluated.deterministicRecoveryScore := by
  cases minimum with
  | none => exact ⟨⟨by simp [applyTravelerMinimumConnection, h.eligible_iff], h.scored_iff,
      h.reasons_nodup, h.reasons_iff, h.state_iff⟩, fun s hs => hs⟩
  | some m =>
    unfold applyTravelerMinimumConnection
    by_cases hkept : m = 0 ∨ m ≤ evaluated.connectionMinutes ∨ evaluated.eligible = false
    · simp only [if_pos hkept]
      refine ⟨⟨?_, h.scored_iff, h.reasons_nodup, h.reasons_iff, h.state_iff⟩, fun s hs => hs⟩
      rw [h.eligible_iff]
      constructor
      · intro hmeets
        refine ⟨hmeets, fun m' hm' => ?_⟩
        cases hm'
        rcases hkept with rfl | hle | hnot
        · exact Int.natCast_nonneg _
        · exact hle
        · exact absurd (h.eligible_iff.mpr hmeets) (by simp [hnot])
      · exact And.left
    · simp only [if_neg hkept]
      rw [not_or, not_or, Bool.not_eq_false] at hkept
      obtain ⟨-, hbelow, heligible⟩ := hkept
      have hnil := h.reasons_iff.mpr heligible
      refine ⟨⟨?_, by simp, ?_, by simp, by simp⟩, fun s hs => (by cases hs)⟩
      · exact iff_of_false Bool.false_ne_true fun hall => hbelow (hall.2 m rfl)
      · rw [hnil]
        exact List.nodup_singleton _

/-! ### The label -/

/-- The policy answers wherever `evaluate_candidate` does, and keeps its label unless it objects. -/
theorem evaluatePolicyEligibleCandidateWith_of_ok {own : EvaluatedCandidate}
    (h : evaluateCandidateWith score (candidate.underPolicy policy)
      policy.minimumConnectionMinutes = .ok own) :
    ∃ e, evaluatePolicyEligibleCandidateWith score candidate policy = .ok e ∧
      e.lifecycleState =
        if (evaluateRecoveryPolicy candidate policy).eligible = true then own.lifecycleState
        else .policyIneligible := by
  unfold evaluatePolicyEligibleCandidateWith
  rw [h]
  by_cases heligible : (evaluateRecoveryPolicy candidate policy).eligible = true
  · simp only [if_pos heligible]
    exact ⟨_, rfl, rfl⟩
  · simp only [if_neg heligible]
    exact ⟨_, rfl, rfl⟩

theorem lifecycleState_underPolicy {own : EvaluatedCandidate}
    (h : evaluateCandidateWith score (candidate.underPolicy policy)
      policy.minimumConnectionMinutes = .ok own) :
    (own.lifecycleState = .unavailable ↔ candidate.available = false) ∧
      (candidate.available = true → (evaluateRecoveryPolicy candidate policy).eligible = false →
        own.lifecycleState = .policyIneligible) ∧
      (own.lifecycleState = .policyIneligible → candidate.available = true) := by
  obtain ⟨-, -, -, hstate, -⟩ := evaluateCandidateWith_decided h
  rw [hstate]
  cases havailable : candidate.available with
  | false => simp [RecoveryCandidate.underPolicy, havailable]
  | true =>
    simp only [RecoveryCandidate.underPolicy, havailable, Bool.not_true, Bool.false_eq_true, if_false]
    refine ⟨?_, fun _ hfails => by simp [hfails], fun _ => trivial⟩
    split_ifs <;> simp

/-- The label tells whether the candidate is available, and follows the precedence of
`evaluate_candidate`, exactly when an unavailable candidate is within the policy's limits. -/
theorem unavailable_label_iff (candidate : RecoveryCandidate) (policy : CorporateTravelPolicy) :
    (∀ e, evaluatePolicyEligibleCandidate candidate policy = .ok e →
      (e.lifecycleState = .unavailable ↔ candidate.available = false) ∧
      (e.lifecycleState = .policyIneligible → candidate.available = true) ∧
      ∀ own, evaluateCandidate (candidate.underPolicy policy) policy.minimumConnectionMinutes =
        .ok own → e.lifecycleState = own.lifecycleState) ↔
    candidate.available = true ∨
      candidate.incrementalCost.val ≤ policy.maximumIncrementalCost ∧
        policy.minimumConnectionMinutes ≤ candidate.connectionMinutes := by
  rw [← evaluateRecoveryPolicy_eligible]
  simp only [evaluatePolicyEligibleCandidate, evaluateCandidate]
  constructor
  · intro h
    by_contra hneither
    rw [not_or, Bool.not_eq_true] at hneither
    obtain ⟨havailable, hpolicy⟩ := hneither
    have hreasons : exclusionReasons (candidate.underPolicy policy)
        policy.minimumConnectionMinutes ≠ [] := by
      rw [Ne, exclusionReasons_underPolicy]
      intro hmeets
      exact Bool.false_ne_true (havailable.symm.trans hmeets.1)
    obtain ⟨own, hown⟩ : ∃ own, evaluateCandidateWith recoveryScore (candidate.underPolicy policy)
        policy.minimumConnectionMinutes = .ok own :=
      exists_evaluateCandidateWith_of_reasons hreasons
    obtain ⟨e, he, hstate⟩ := evaluatePolicyEligibleCandidateWith_of_ok hown
    rw [if_neg hpolicy] at hstate
    have htrue := (h e he).2.1 hstate
    exact Bool.false_ne_true (havailable.symm.trans htrue)
  · intro hcase e he
    have halone := he
    unfold evaluatePolicyEligibleCandidateWith at halone
    obtain ⟨own, hown, -⟩ := except_bind_eq_ok.mp halone
    obtain ⟨hunavailable, hobjected, hineligible⟩ := lifecycleState_underPolicy hown
    have hsame : e.lifecycleState = own.lifecycleState := by
      obtain ⟨e', he', hstate⟩ := evaluatePolicyEligibleCandidateWith_of_ok hown
      cases he.symm.trans he'
      by_cases hpolicy : (evaluateRecoveryPolicy candidate policy).eligible = true
      · rw [hstate, if_pos hpolicy]
      · have havailable := hcase.resolve_right hpolicy
        rw [hstate, if_neg hpolicy, hobjected havailable (Bool.eq_false_iff.mpr hpolicy)]
    rw [hsame]
    refine ⟨hunavailable, hineligible, fun own' hown' => ?_⟩
    cases hown.symm.trans hown'
    rfl

/-- A sold-out option that costs 600 and connects in an hour. -/
def soldOutCandidate : RecoveryCandidate where
  candidateId := "UA-1"
  available := false
  policyCompliant := true
  accessibilityCompliant := true
  feasible := true
  arrivalDelayMinutes := 30
  incrementalCost := ⟨.finite 600, PyFloat.finite_le_finite.mpr (by norm_num)⟩
  connectionMinutes := 60

/-- Beyond the cost limit, the sold-out option is stored as policy-ineligible. -/
theorem sold_out_labelled_ineligible :
    ∃ e, evaluatePolicyEligibleCandidate soldOutCandidate {} = .ok e ∧
      soldOutCandidate.available = false ∧ e.lifecycleState = .policyIneligible ∧
      ∃ own, evaluateCandidate (soldOutCandidate.underPolicy {}) 45 = .ok own ∧
        own.lifecycleState = .unavailable :=
  ⟨_, rfl, rfl, rfl, _, rfl, rfl⟩

/-! ### The pipeline -/

/-- In any arithmetic, a result that is returned is decided by the limits alone. -/
theorem decideCandidate_decided {minimum : Option ℤ}
    (h : decideCandidate score candidate policy minimum = .ok evaluated) :
    evaluated.Decided
      (candidate.MeetsPolicy policy ∧ ∀ m ∈ minimum, m ≤ candidate.connectionMinutes) ∧
    ∀ s ∈ evaluated.deterministicRecoveryScore,
      score (candidate.underPolicy policy) = .ok s.val := by
  unfold decideCandidate at h
  cases hpolicy : evaluatePolicyEligibleCandidateWith score candidate policy with
  | error fault => rw [hpolicy] at h; cases h
  | ok before =>
    rw [hpolicy] at h
    cases h
    obtain ⟨hconnection, hscore, hdecided⟩ := evaluatePolicyEligibleCandidateWith_decided hpolicy
    obtain ⟨hafter, hkept⟩ := applyTravelerMinimumConnection_decided minimum hdecided
    rw [hconnection] at hafter
    exact ⟨hafter, fun s hs => hscore s (hkept s hs)⟩

/-- Over the rationals every candidate gets a result. -/
theorem exists_decideCandidate (candidate : RecoveryCandidate) (policy : CorporateTravelPolicy)
    (minimum : Option ℤ) :
    ∃ e, decideCandidate (fun c => .ok (exactRecoveryScore c)) candidate policy minimum = .ok e := by
  obtain ⟨alone, halone⟩ : ∃ alone, evaluateCandidateWith (fun c => .ok (exactRecoveryScore c))
      (candidate.underPolicy policy) policy.minimumConnectionMinutes = .ok alone :=
    exists_evaluateCandidateWith rfl (exactRecoveryScore_mem _)
  obtain ⟨e, he, -⟩ := evaluatePolicyEligibleCandidateWith_of_ok halone
  rw [decideCandidate, he]
  exact ⟨_, rfl⟩

/-- Over the rationals the pipeline always answers, and its answer is exact: eligibility is the
conjunction of all limits, the score is the rounded formula, and the five fields agree. In doubles
an answer has the same eligibility, reasons and label. -/
theorem eligibility_pipeline_exact (candidate : RecoveryCandidate) (policy : CorporateTravelPolicy)
    (minimum : Option ℤ) :
    (∃ e, decideCandidate (fun c => .ok (exactRecoveryScore c)) candidate policy minimum = .ok e ∧
      (e.eligible = true ↔
        candidate.available = true ∧ candidate.feasible = true ∧
          candidate.policyCompliant = true ∧ candidate.accessibilityCompliant = true ∧
          candidate.incrementalCost.val ≤ policy.maximumIncrementalCost ∧
          policy.minimumConnectionMinutes ≤ candidate.connectionMinutes ∧
          ∀ m ∈ minimum, m ≤ candidate.connectionMinutes) ∧
      (e.deterministicRecoveryScore.isSome = true ↔ e.eligible = true) ∧
      (∀ s ∈ e.deterministicRecoveryScore, 0 ≤ s.val ∧ s.val ≤ 100 ∧
        (∀ cost, candidate.incrementalCost.val = .finite cost →
          s.val = Binary64.roundHalfEven
            (100 * max 0 (100 - (candidate.arrivalDelayMinutes : ℚ) / 2 - cost / 10)) / 100) ∧
        (candidate.incrementalCost.val.rat? = none → s.val = 0)) ∧
      e.exclusionReasons.Nodup ∧
      (e.exclusionReasons = [] ↔ e.eligible = true) ∧
      (e.lifecycleState = .eligible ↔ e.eligible = true)) ∧
    ∀ e, (evaluatePolicyEligibleCandidate candidate policy).map
        (fun evaluated => applyTravelerMinimumConnection evaluated minimum) = .ok e →
      e.Decided (candidate.MeetsPolicy policy ∧ ∀ m ∈ minimum, m ≤ candidate.connectionMinutes) := by
  constructor
  · obtain ⟨e, he⟩ := exists_decideCandidate candidate policy minimum
    obtain ⟨hdecided, hscore⟩ := decideCandidate_decided he
    refine ⟨e, he, ?_, hdecided.scored_iff, ?_, hdecided.reasons_nodup, hdecided.reasons_iff,
      hdecided.state_iff⟩
    · rw [hdecided.eligible_iff]
      simp only [RecoveryCandidate.MeetsPolicy, and_assoc]
    · intro s hs
      have hval : exactRecoveryScore candidate = s.val := Except.ok.inj (hscore s hs)
      refine ⟨s.property.1, s.property.2, fun cost hcost => ?_, fun hinfinite => ?_⟩
      · rw [← hval, exactRecoveryScore_of_finite hcost]
      · rw [← hval, exactRecoveryScore, hinfinite]
  · intro e he
    exact (decideCandidate_decided he).1

end RouteShield
