import RouteShield.Agent.Investigation

/-!
What a run of the graph concludes. Up to the recommendation a state recommends nothing or the
fallback; from there on it recommends what the model said, if that was trusted, with the ranking
of the evaluated alternatives attached.
-/

namespace RouteShield

/-! ### What is recommended -/

namespace GraphHost

variable (host : GraphHost) (input : GraphInput)

/-- The model is asked for a recommendation. -/
def asked : Bool := host.provider.availableFor input.llmEnabled && input.state.elevated

/-- The answer of the model that a run trusts: one that cites evidence of this assessment only. -/
def trusted : Option ProvidedRecommendation :=
  if host.asked input then
    host.recommend.toOption.filter fun provided =>
      provided.output.evidenceIds ⊆ input.evidence.map EvidenceEnvelope.evidenceId
  else none

/-- The recommendation before the ranking is attached. -/
def chosen : RecommendationPayload :=
  match host.trusted input with
  | some provided => provided.dump
  | none =>
    if host.asked input then Graph.uncertain input.state else Graph.recommendation input.state

end GraphHost

/-- A recommendation with the ranking of some candidates. -/
def RecommendationPayload.ranked (payload : RecommendationPayload)
    (candidates : List EvaluatedCandidate) : RecommendationPayload :=
  { payload with
    rankedAlternativeIds := (rankEligible candidates).map (fun c => c.candidateId)
    managerMessage := payload.managerMessage ++ Graph.rankingNote (rankEligible candidates).length }

/-- The state with only the keys that no node sets. -/
def RouteRiskState.given (s : RouteRiskState) : RouteRiskState where
  tripId := s.tripId
  incidentId := s.incidentId
  severity := s.severity
  evidence := s.evidence
  coreSourcesUnavailable := s.coreSourcesUnavailable
  llmEnabled := s.llmEnabled
  reactIterations := 0
  toolAudit := []

namespace Graph

variable {host : GraphHost} {input : GraphInput} {s s' : RouteRiskState}

theorem evidenceIds_state (input : GraphInput) : input.state.evidenceIds =
    (input.evidence.map EvidenceEnvelope.evidenceId).map Uuid.str := by
  simp [RouteRiskState.evidenceIds, GraphInput.state, Function.comp_def]

/-- Nothing is recommended yet, or the fallback is. -/
structure Undecided (input : GraphInput) (s : RouteRiskState) : Prop where
  given : s.given = input.state.given
  fallback : ∀ payload ∈ s.recommendation, payload = recommendation input.state

/-- The alternatives are evaluated and displayed, and their ranking is as given. -/
structure Displayed (evaluated : List EvaluatedCandidate) (s : RouteRiskState) : Prop where
  candidates : s.alternativeCandidates = some (displayed evaluated)
  ranking : s.recoveryRanking.map RecoveryRanking.rankedCandidateIds =
    some ((rankEligible evaluated).map (fun c => c.candidateId))

/-- What holds when a node is reached, under the answers of a host. -/
def Reached (host : GraphHost) (input : GraphInput) : Node → RouteRiskState → Prop
  | .loadMemoryContext | .reactAssistant | .tools | .recommendation => Undecided input
  | .verifyAlternativeEligibility => fun s => s.recommendation = some (host.chosen input)
  | .rankEligibleRecoveryOptions => fun s => s.recommendation = some (host.chosen input) ∧
    ∃ minimum evaluated, evaluateAlternatives fixtureAlternatives {} minimum = .ok evaluated ∧
      s.alternativeCandidates = some evaluated
  | .attachRecoveryRanking => fun s => s.recommendation = some (host.chosen input) ∧
    ∃ minimum evaluated, evaluateAlternatives fixtureAlternatives {} minimum = .ok evaluated ∧
      Displayed evaluated s
  | .policyGate | .approvalGate => fun s =>
    ∃ minimum evaluated, evaluateAlternatives fixtureAlternatives {} minimum = .ok evaluated ∧
      Displayed evaluated s ∧ s.recommendation = some ((host.chosen input).ranked evaluated)
  | .finalize => fun _ => False

/-! ### Each node -/

theorem Undecided.recommendation_eq (h : Undecided input s) :
    recommendation s = recommendation input.state := by
  show recommendation s.given = recommendation input.state.given
  rw [h.given]

theorem Undecided.evidenceIds_eq (h : Undecided input s) :
    s.evidenceIds = (input.evidence.map EvidenceEnvelope.evidenceId).map Uuid.str := by
  show s.given.evidenceIds = _
  rw [h.given]
  exact evidenceIds_state input

theorem Undecided.of_given (h : Undecided input s) (hgiven : s'.given = s.given)
    (hs' : s'.recommendation = s.recommendation ∨ s'.recommendation = some (recommendation s)) :
    Undecided input s' where
  given := hgiven.trans h.given
  fallback payload hpayload := by
    rcases hs' with hsame | hfallback
    · exact h.fallback payload (hsame ▸ hpayload)
    · rw [hfallback] at hpayload
      exact (Option.mem_some_iff.mp hpayload).symm.trans (h.recommendation_eq)

theorem Undecided.afterSelection {provider : ModelProvider} (h : Undecided input s)
    (answer : Except Fault (Option ToolSelection)) :
    Undecided input (afterSelection provider s answer) := by
  rcases answer with fault | _ | selection
  · exact h.of_given rfl (.inl rfl)
  · exact h.of_given rfl (.inr rfl)
  · exact h.of_given rfl (.inl rfl)

theorem Undecided.followUp (h : Undecided input s) : Undecided input (followUp s) := by
  unfold Graph.followUp
  split
  · exact h.of_given rfl (.inr rfl)
  · exact h.of_given rfl (.inl rfl)

theorem Undecided.runReadOnlyTool (h : Undecided input s) :
    Undecided input (runReadOnlyTool s) := by
  unfold Graph.runReadOnlyTool
  split
  · exact h.of_given rfl (.inr rfl)
  · exact h.of_given rfl (.inl rfl)

theorem Undecided.uncertain_eq (h : Undecided input s) : uncertain s = uncertain input.state := by
  unfold uncertain
  rw [h.recommendation_eq]

/-- A fallback cites the evidence there is. -/
theorem cited_self {payload : RecommendationPayload}
    (hs : s.recommendation.getD (recommendation s) = payload)
    (hcites : payload.evidenceIds = s.evidenceIds) : (cited s).recommendation = some payload := by
  simp [cited, hs, hcites]

theorem Undecided.getD_eq (h : Undecided input s) :
    s.recommendation.getD (recommendation s) = recommendation input.state := by
  rcases hs : s.recommendation with _ | payload
  · exact h.recommendation_eq
  · exact h.fallback payload hs

/-- An answer of the model is kept when it cites this assessment, and replaced otherwise. -/
theorem Undecided.cited_answered {provider : ModelProvider} (h : Undecided input s)
    (answer : Except Fault ProvidedRecommendation) :
    (cited (answered provider s answer)).recommendation = some
      (((answer.toOption.filter fun provided =>
        provided.output.evidenceIds ⊆ input.evidence.map EvidenceEnvelope.evidenceId).map
          ProvidedRecommendation.dump).getD (uncertain input.state)) := by
  rcases answer with fault | provided
  · have hcites : (uncertain input.state).evidenceIds = s.evidenceIds :=
      congrArg RecommendationPayload.evidenceIds h.uncertain_eq.symm
    exact cited_self h.uncertain_eq hcites
  · have hsubset : provided.dump.evidenceIds ⊆ s.evidenceIds ↔
        provided.output.evidenceIds ⊆ input.evidence.map EvidenceEnvelope.evidenceId := by
      rw [h.evidenceIds_eq]
      exact List.map_subset_iff Uuid.str Uuid.str_injective
    have hcited : (cited (answered provider s (.ok provided))).recommendation = some
        (if provided.dump.evidenceIds ⊆ s.evidenceIds then provided.dump else uncertain s) := rfl
    rw [hcited, h.uncertain_eq]
    by_cases hcites : provided.output.evidenceIds ⊆ input.evidence.map EvidenceEnvelope.evidenceId
    · rw [if_pos (hsubset.mpr hcites)]
      simp [Except.toOption, Option.filter, hcites]
    · rw [if_neg fun hsub => hcites (hsubset.mp hsub)]
      simp [Except.toOption, Option.filter, hcites]

/-- What the recommendation node answers with is what was chosen. -/
theorem validateRecommendation_chosen (h : Undecided input s) :
    ∃ s', (validateRecommendation host.provider s).run host.model () = (.ok s', ()) ∧
      s'.recommendation = some (host.chosen input) := by
  have hllm : s.llmEnabled = input.llmEnabled := congrArg RouteRiskState.llmEnabled h.given
  have helevated : s.elevated = input.state.elevated := by
    show s.given.elevated = input.state.given.elevated
    rw [h.given]
  have hincident : s.incidentId = input.incident.incidentId.str :=
    congrArg RouteRiskState.incidentId h.given
  have hasked : (host.provider.availableFor s.llmEnabled && s.elevated) = host.asked input := by
    rw [hllm, helevated]
    rfl
  unfold validateRecommendation GraphHost.chosen GraphHost.trusted askRecommendation
  rw [hasked, hincident, Uuid.parse?_str]
  cases host.asked input with
  | true =>
    refine ⟨_, rfl, (h.cited_answered host.recommend).trans (congrArg some ?_)⟩
    rw [if_pos rfl, if_pos rfl]
    cases Option.filter _ host.recommend.toOption <;> rfl
  | false =>
    have hcites : (recommendation input.state).evidenceIds = s.evidenceIds :=
      congrArg RecommendationPayload.evidenceIds h.recommendation_eq.symm
    exact ⟨_, rfl, cited_self h.getD_eq hcites⟩

theorem rankEligibleRecoveryOptions_displayed {evaluated : List EvaluatedCandidate}
    (h : s.alternativeCandidates = some evaluated) :
    Displayed evaluated (rankEligibleRecoveryOptions s) := by
  unfold rankEligibleRecoveryOptions
  rw [h]
  exact ⟨rfl, rfl⟩

theorem attachRecoveryRanking_ranked {evaluated : List EvaluatedCandidate}
    {payload : RecommendationPayload} (h : Displayed evaluated s)
    (hs : s.recommendation = some payload) :
    (attachRecoveryRanking s).recommendation = some (payload.ranked evaluated) := by
  have hranking := h.ranking
  unfold attachRecoveryRanking
  rw [hs, hranking]
  simp [RecommendationPayload.ranked]

/-! ### The whole run -/

/-- A node leaves what holds at the next one. -/
theorem reached_next {node next : Node} {u : Unit} (h : Reached host input node s)
    (hrun : (node.run host.provider s).run host.model () = (.ok s', u))
    (hnext : node.next s' = some next) : Reached host input next s' := by
  cases node with
  | loadMemoryContext =>
    cases hrun
    cases hnext
    exact h.of_given rfl (.inl rfl)
  | reactAssistant =>
    have hundecided : Undecided input s' := by
      change (reactAssistant host.provider s).run host.model () = (.ok s', u) at hrun
      unfold reactAssistant at hrun
      split at hrun
      · cases hrun
        exact h.afterSelection _
      · cases hrun
        exact h.followUp
    cases hnext
    unfold routeAfterAssistant
    split
    · exact hundecided
    · exact hundecided
  | tools =>
    cases hrun
    cases hnext
    exact h.runReadOnlyTool
  | recommendation =>
    obtain ⟨validated, hvalidated, hchosen⟩ := @validateRecommendation_chosen host input s h
    cases hvalidated.symm.trans hrun
    cases hnext
    exact hchosen
  | verifyAlternativeEligibility =>
    obtain ⟨evaluated, hevaluated⟩ := fixtureAlternatives_evaluated (travelerMinimum s)
    have hverified : verifyAlternativeEligibility s fixtureAlternatives = .ok s' := by
      have := congrArg Prod.fst hrun
      rwa [Node.run, Prog.run_ofExcept] at this
    simp only [verifyAlternativeEligibility, hevaluated] at hverified
    cases hverified
    cases hnext
    exact ⟨h, travelerMinimum s, evaluated, hevaluated, rfl⟩
  | rankEligibleRecoveryOptions =>
    cases hrun
    cases hnext
    obtain ⟨hchosen, minimum, evaluated, hevaluated, hcandidates⟩ := h
    exact ⟨hchosen, minimum, evaluated, hevaluated, rankEligibleRecoveryOptions_displayed hcandidates⟩
  | attachRecoveryRanking =>
    cases hrun
    cases hnext
    obtain ⟨hchosen, minimum, evaluated, hevaluated, hdisplayed⟩ := h
    exact ⟨minimum, evaluated, hevaluated, ⟨hdisplayed.1, hdisplayed.2⟩,
      attachRecoveryRanking_ranked hdisplayed hchosen⟩
  | policyGate =>
    cases hrun
    cases hnext
    obtain ⟨minimum, evaluated, hevaluated, hdisplayed, hranked⟩ := h
    exact ⟨minimum, evaluated, hevaluated, ⟨hdisplayed.1, hdisplayed.2⟩, hranked⟩
  | approvalGate => cases hnext
  | finalize => cases hnext

/-- A run that stops has reached the node at which it stops. -/
theorem reached_runFrom {fuel : ℕ} {node stop : Node} {u : Unit} (h : Reached host input node s)
    (hrun : (runFrom host.provider fuel node s).run host.model () = (.ok (some (stop, s')), u)) :
    Reached host input .approvalGate s' ∧ stop = .approvalGate := by
  induction fuel generalizing node s with
  | zero => cases hrun
  | succ fuel ih =>
    obtain ⟨t, v, hnode, hrest⟩ := Prog.run_bind_eq_ok.mp hrun
    cases hnext : node.next t with
    | some next =>
      rw [hnext] at hrest
      exact ih (reached_next h hnode hnext) hrest
    | none =>
      rw [hnext] at hrest
      cases hrest
      cases stop with
      | approvalGate =>
        cases hnode
        exact ⟨h, rfl⟩
      | finalize => exact h.elim
      | _ => cases hnext

/-- A run that investigates waits at the gate with what was chosen, under its ranking. -/
theorem run_reached (host : GraphHost) {input : GraphInput}
    (hroute : routeBySeverity input.state = .loadMemoryContext) :
    ∃ s, ((run host.provider GraphHost.recursionLimit input.state).run host.model ()).1 =
        .ok (some (.approvalGate, s)) ∧
      Reached host input .approvalGate s := by
  have hfollows : (run host.provider GraphHost.recursionLimit input.state).Follows atMostOnce
      (Stopped input.state.tripId) {} := run_follows rfl rfl hroute (by decide)
  have hanswers : ∀ {γ : Type} (calls : ModelCalls) (op : ModelCall γ) (u : Unit), u = () →
      atMostOnce.allowed calls op →
      atMostOnce.promised calls op (host.model op u).1 ∧ (host.model op u).2 = () :=
    fun _ _ _ _ _ => ⟨trivial, rfl⟩
  obtain ⟨calls, -, hresult⟩ := hfollows.run hanswers (s := ()) rfl
  rcases hrun : (run host.provider GraphHost.recursionLimit input.state).run host.model ()
    with ⟨fault | result, u⟩
  · rw [hrun] at hresult
    exact hresult.elim
  · rw [hrun] at hresult
    obtain ⟨s, rfl, -⟩ := hresult
    refine ⟨s, rfl, ?_⟩
    unfold run at hrun
    rw [hroute] at hrun
    have hstart : Reached host input .loadMemoryContext input.state := ⟨rfl, nofun⟩
    exact (reached_runFrom hstart hrun).1

end Graph

/-! ### What the service reads back -/

/-- A recommendation says what a payload says. -/
structure Recommendation.Carries (r : Recommendation) (payload : RecommendationPayload) : Prop where
  severityExplanation : r.severityExplanation = payload.severityExplanation
  evidenceIds : r.evidenceIds.map Uuid.str = payload.evidenceIds
  uncertainty : r.uncertainty = payload.uncertainty
  recommendedAction : r.recommendedAction = payload.recommendedAction
  rankedAlternativeIds : r.rankedAlternativeIds = payload.rankedAlternativeIds
  travelerMessage : r.travelerMessage = payload.travelerMessage
  managerMessage : r.managerMessage = payload.managerMessage
  requiresHumanApproval : r.requiresHumanApproval = payload.requiresHumanApproval

/-- The bounds on the texts of a payload. -/
def RecommendationPayload.fits (payload : RecommendationPayload) : Bool :=
  within 1000 payload.severityExplanation && within 1000 payload.recommendedAction &&
    within 1000 payload.travelerMessage && within 2000 payload.managerMessage

theorem mapM_parse?_eq_some {texts : List String} {ids : List Uuid}
    (h : texts.mapM Uuid.parse? = some ids) : ids.map Uuid.str = texts := by
  induction texts generalizing ids with
  | nil =>
    cases h
    rfl
  | cons text texts ih =>
    simp only [List.mapM_cons, Option.bind_eq_bind, Option.bind_eq_some_iff] at h
    obtain ⟨id, hid, rest, hrest, hids⟩ := h
    cases hids
    rw [List.map_cons, ih hrest, Uuid.str_of_parse? hid]

theorem mapM_parse?_map_str (ids : List Uuid) : (ids.map Uuid.str).mapM Uuid.parse? = some ids := by
  induction ids with
  | nil => rfl
  | cons id ids ih => simp [ih]

namespace GraphHost

variable {host : GraphHost} {input : GraphInput} {incidentId : Uuid}

theorem recommendation?_carries {payload : RecommendationPayload} {r : Recommendation}
    (h : host.recommendation? incidentId payload = some r) : r.Carries payload := by
  simp only [recommendation?, Option.bind_eq_bind, Option.bind_eq_some_iff,
    Option.ite_none_right_eq_some] at h
  obtain ⟨evidenceIds, hids, missing, -, -, hr⟩ := h
  cases hr
  exact ⟨rfl, mapM_parse?_eq_some hids, rfl, rfl, rfl, rfl, rfl, rfl⟩

theorem recommendation?_incidentId {payload : RecommendationPayload} {r : Recommendation}
    (h : host.recommendation? incidentId payload = some r) : r.incidentId = incidentId := by
  simp only [recommendation?, Option.bind_eq_bind, Option.bind_eq_some_iff,
    Option.ite_none_right_eq_some] at h
  obtain ⟨evidenceIds, -, missing, -, -, hr⟩ := h
  cases hr
  rfl

/-- A payload validates when it cites something and its texts fit. -/
theorem isSome_recommendation? {payload : RecommendationPayload} {evidenceIds : List Uuid}
    {missing : List String} (hids : payload.evidenceIds = evidenceIds.map Uuid.str)
    (hmissing : payload.missingInformation = missing.map .str) (hcites : evidenceIds ≠ []) :
    (host.recommendation? incidentId payload).isSome = payload.fits := by
  have htexts : (missing.map Json.str).mapM Json.text? = some missing := by
    clear hmissing
    induction missing with
    | nil => rfl
    | cons text missing ih => simp [ih, Json.text?]
  unfold recommendation? RecommendationPayload.fits
  rw [hids, hmissing, mapM_parse?_map_str, htexts]
  simp only [Option.bind_eq_bind, Option.bind_some]
  split <;> simp_all

/-! ### Which recommendations fit -/

theorem length_rankingNote {count : ℕ} (h : count ≤ 9) : (Graph.rankingNote count).length = 80 := by
  have hall : ∀ count ≤ 9, (Graph.rankingNote count).length = 80 := by decide
  exact hall count h

/-- The alternatives are two, so their number is one digit. -/
theorem length_rankEligible_le {minimum : Option ℤ} {evaluated : List EvaluatedCandidate}
    (h : Graph.evaluateAlternatives fixtureAlternatives {} minimum = .ok evaluated) :
    (rankEligible evaluated).length ≤ 9 := by
  have htwo : evaluated.length = 2 := by
    have hlength : (fixtureAlternatives.mapM fun c =>
        evaluatePolicyEligibleCandidate c {}).map List.length = .ok 2 := by decide +kernel
    rw [Graph.evaluateAlternatives_eq] at h
    cases hbase : fixtureAlternatives.mapM fun c => evaluatePolicyEligibleCandidate c {} with
    | error fault =>
      rw [hbase] at h
      cases h
    | ok base =>
      rw [hbase] at h hlength
      cases h
      rw [List.length_map]
      exact Except.ok.inj hlength
  rw [length_rankEligible]
  have hle := List.countP_le_length (p := fun c : EvaluatedCandidate => c.eligible) (l := evaluated)
  omega

variable {evaluated : List EvaluatedCandidate} (hcount : (rankEligible evaluated).length ≤ 9)

include hcount

/-- The fallback is short. -/
theorem fits_recommendation (input : GraphInput) :
    ((Graph.recommendation input.state).ranked evaluated).fits = true := by
  have hseverity : input.state.severity.length ≤ 8 := by
    show input.assessment.severity.value.length ≤ 8
    cases input.assessment.severity <;> decide
  have hnote := length_rankingNote hcount
  simp only [RecommendationPayload.fits, RecommendationPayload.ranked, Graph.recommendation,
    Bool.and_eq_true, within_iff, String.length_append, hnote]
  have hopening : "Deterministic assessment severity is ".length = 37 := by decide
  refine ⟨⟨⟨⟨?_, ?_⟩, by decide⟩, by decide⟩, by decide⟩
  · omega
  · have hstop : ".".length = 1 := by decide
    omega

/-- An answer of the model fits when its message to the manager leaves room for the ranking. -/
theorem fits_dump (provided : ProvidedRecommendation) :
    (provided.dump.ranked evaluated).fits = decide (provided.output.managerMessage.length ≤ 1920) := by
  have hvalid := provided.output.valid
  have hnote := length_rankingNote hcount
  simp only [within_iff] at hvalid
  rw [Bool.eq_iff_iff, decide_eq_true_iff]
  simp only [RecommendationPayload.fits, RecommendationPayload.ranked, ProvidedRecommendation.dump,
    Bool.and_eq_true, within_iff, String.length_append, hnote]
  omega

omit hcount

/-- The model's answer is trusted, and its message leaves no room for the ranking. -/
def Overlong (host : GraphHost) (input : GraphInput) : Prop :=
  ∃ provided ∈ host.trusted input, 1920 < provided.output.managerMessage.length

theorem fits_chosen (host : GraphHost) (input : GraphInput)
    (hcount : (rankEligible evaluated).length ≤ 9) :
    ((host.chosen input).ranked evaluated).fits = true ↔ ¬host.Overlong input := by
  unfold chosen Overlong
  cases host.trusted input with
  | some provided => simp [fits_dump hcount]
  | none =>
    refine iff_of_true ?_ (by simp)
    have hfits := fits_recommendation hcount input
    dsimp only
    split
    · exact hfits
    · exact hfits

/-- The chosen recommendation reaches the incident unless it is too long. -/
theorem isSome_chosen (host : GraphHost) (incidentId : Uuid) (hcites : input.evidence ≠ [])
    (hcount : (rankEligible evaluated).length ≤ 9) :
    (host.recommendation? incidentId ((host.chosen input).ranked evaluated)).isSome = true ↔
      ¬host.Overlong input := by
  rw [← fits_chosen host input hcount]
  have hfallback : (Graph.recommendation input.state).evidenceIds =
      (input.evidence.map EvidenceEnvelope.evidenceId).map Uuid.str :=
    Graph.evidenceIds_state input
  have hmissing : (Graph.recommendation input.state).missingInformation =
      input.sourceHealth.coreSourcesUnavailable.map .str := rfl
  have hids : input.evidence.map EvidenceEnvelope.evidenceId ≠ [] := by simpa using hcites
  rw [← Bool.eq_iff_iff]
  unfold chosen
  cases host.trusted input with
  | some provided => exact isSome_recommendation? rfl rfl provided.output.valid.2.1
  | none =>
    dsimp only
    split
    · exact isSome_recommendation? hfallback hmissing hids
    · exact isSome_recommendation? hfallback hmissing hids

/-! ### The result of an investigation -/

/-- What a result that comes back says: the chosen recommendation under its ranking, if it
validates, and the candidates that were ranked. -/
theorem investigate_result (hroute : Graph.routeBySeverity input.state = .loadMemoryContext)
    {result : GraphOutcome} (h : host.investigate input = .ok result) :
    ∃ minimum evaluated,
      Graph.evaluateAlternatives fixtureAlternatives {} minimum = .ok evaluated ∧
      result.recommendation = some (host.recommendation? input.incident.incidentId
        ((host.chosen input).ranked evaluated)) ∧
      result.candidates.map GraphCandidates.candidates = some (Graph.displayed evaluated) := by
  obtain ⟨s, hrun, minimum, evaluated, hevaluated, hdisplayed, hranked⟩ :=
    Graph.run_reached host hroute
  unfold investigate at h
  rw [hrun] at h
  obtain ⟨toolAudit, -, h⟩ := except_bind_eq_ok.mp h
  obtain ⟨modelAudit, -, h⟩ := except_bind_eq_ok.mp h
  cases h
  refine ⟨minimum, evaluated, hevaluated, ?_, ?_⟩
  · rw [hranked]
    rfl
  · unfold candidates
    rw [hdisplayed.candidates]
    rfl

end GraphHost

end RouteShield
