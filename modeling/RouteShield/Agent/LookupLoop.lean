import RouteShield.Agent.Graph

/-!
The loop of lookups is bounded. A refused call of the model goes back to the assistant with the
counter of lookups as it was, so what gets smaller on every round is the lookups that are left
together with the one selection that the model still has.
-/

namespace RouteShield

/-! ### Lookups and calls -/

/-- An audit entry that the tool node wrote. -/
def GraphToolAudit.isLookup (entry : GraphToolAudit) : Bool :=
  entry.outcome = "model_selected_evidence_snapshot" ∨
    entry.outcome = "deterministic_evidence_snapshot"

/-- The lookups on record. -/
def RouteRiskState.lookups (s : RouteRiskState) : List GraphToolAudit :=
  s.toolAudit.filter GraphToolAudit.isLookup

/-- How often the model was called. -/
structure ModelCalls where
  selections : ℕ := 0
  recommendations : ℕ := 0

def ModelCalls.record {γ : Type} : ModelCall γ → Except Fault γ → ModelCalls → ModelCalls
  | .selectTool .., _, calls => { calls with selections := calls.selections + 1 }
  | .recommend .., _, calls => { calls with recommendations := calls.recommendations + 1 }

/-- Each of the two calls at most once, whatever the model answers, and no error raised. -/
def atMostOnce : Prog.Contract ModelCall Fault ModelCalls where
  allowed calls _ op := match op with
    | .selectTool .. => calls.selections = 0
    | .recommend .. => calls.recommendations = 0
  promised _ _ _ _ := True
  advance calls _ op answer := ModelCalls.record op answer calls
  stop _ := False

namespace Graph

/-- The lookups on record are the ones counted: each is of a read-only tool, and for this trip. -/
structure Searched (tripId : String) (s : RouteRiskState) : Prop where
  trip : s.tripId = tripId
  counted : s.lookups.length = s.reactIterations
  bounded : s.reactIterations ≤ maxReactIterations
  allowed : ∀ lookup ∈ s.lookups, lookup.toolName ∈ readOnlyToolNames ∧
    Json.get? lookup.arguments "trip_id" = some (.str tripId)

theorem Searched.of_eq {tripId : String} {s s' : RouteRiskState} (h : Searched tripId s)
    (htrip : s'.tripId = s.tripId) (hlookups : s'.lookups = s.lookups)
    (hiterations : s'.reactIterations = s.reactIterations) : Searched tripId s' where
  trip := htrip.trans h.trip
  counted := by rw [hlookups, hiterations, h.counted]
  bounded := by rw [hiterations]; exact h.bounded
  allowed := by rw [hlookups]; exact h.allowed

/-- Between two rounds of the loop. -/
structure Looping (provider : ModelProvider) (tripId : String) (calls : ModelCalls)
    (s : RouteRiskState) : Prop where
  searched : Searched tripId s
  fresh : provider.availableFor s.llmEnabled = true → s.toolSelectionAttempted = false →
    s.reactIterations = 0
  unasked : s.toolSelectionAttempted = false → calls.selections = 0
  asked : calls.selections ≤ 1
  unrecommended : calls.recommendations = 0

/-- The tool node may look something up, and the model has no selection left. -/
structure Searching (provider : ModelProvider) (s : RouteRiskState) : Prop where
  left : s.reactIterations < maxReactIterations
  attempted : provider.availableFor s.llmEnabled = true → s.toolSelectionAttempted = true

/-- The lookups that are left, and the selection, when it is. -/
def roundsLeft (s : RouteRiskState) : ℕ :=
  maxReactIterations - s.reactIterations + if s.toolSelectionAttempted then 0 else 1

variable {provider : ModelProvider} {tripId : String} {calls : ModelCalls} {s : RouteRiskState}

/-! ### What each node keeps -/

theorem lookups_append (entries : List GraphToolAudit)
    (h : ∀ entry ∈ entries, entry.isLookup = false) :
    { s with toolAudit := s.toolAudit ++ entries }.lookups = s.lookups := by
  have hnone : entries.filter GraphToolAudit.isLookup = [] :=
    List.filter_eq_nil_iff.mpr fun entry hentry => by simp [h entry hentry]
  simp [RouteRiskState.lookups, hnone]

theorem loadMemoryContext_lookups : (loadMemoryContext s).lookups = s.lookups := by
  refine lookups_append _ fun entry hentry => ?_
  rw [List.mem_singleton.mp hentry]
  simp only [GraphToolAudit.isLookup]
  split_ifs <;> decide

theorem selectionAudited_lookups {toolRequested : JsonObject} {outcome modelOutcome : String}
    (h : outcome ∉ ["model_selected_evidence_snapshot", "deterministic_evidence_snapshot"]) :
    (selectionAudited provider s toolRequested outcome modelOutcome).lookups = s.lookups := by
  refine lookups_append _ fun entry hentry => ?_
  rw [List.mem_singleton.mp hentry]
  simpa [GraphToolAudit.isLookup] using h

theorem afterSelection_lookups (answer : Except Fault (Option ToolSelection)) :
    (afterSelection provider s answer).lookups = s.lookups := by
  have haudited := @selectionAudited_lookups provider s
  rcases answer with fault | _ | selection
  · exact @haudited _ _ "failed_fallback_used" (by decide)
  · exact @haudited _ _ "no_tool_selected" (by decide)
  · exact @haudited _ _ "tool_selected" (by decide)

theorem afterSelection_frame (answer : Except Fault (Option ToolSelection)) :
    (afterSelection provider s answer).tripId = s.tripId ∧
      (afterSelection provider s answer).llmEnabled = s.llmEnabled ∧
      (afterSelection provider s answer).reactIterations = s.reactIterations ∧
      (afterSelection provider s answer).toolSelectionAttempted = true := by
  rcases answer with fault | _ | selection <;> exact ⟨rfl, rfl, rfl, rfl⟩

theorem nextTool_bound {name : String} (h : nextTool s = some name) :
    s.reactIterations < maxReactIterations ∧ name ∈ readOnlyToolNames := by
  unfold nextTool at h
  split at h
  · cases h
  · next hleft =>
    obtain ⟨⟨sourceType, toolName⟩, hfind, rfl⟩ := Option.map_eq_some_iff.mp h
    have hmem := List.mem_of_find?_eq_some hfind
    have hnames : ∀ tool ∈ preferred, tool.2 ∈ readOnlyToolNames := by decide
    exact ⟨by omega, hnames _ hmem⟩

theorem isLookup_lookupAudit (call : ToolSelection) : (lookupAudit s call).isLookup = true := by
  simp only [GraphToolAudit.isLookup, lookupAudit]
  split_ifs <;> decide

/-- A refused call leaves the record; one that reads this trip adds itself to it. -/
theorem runReadOnlyTool_searched (hs : Searched tripId s)
    (hleft : s.reactIterations < maxReactIterations) : Searched tripId (runReadOnlyTool s) := by
  unfold runReadOnlyTool
  split
  · exact hs.of_eq rfl rfl rfl
  · next call hcall =>
    obtain ⟨hname, htrip⟩ : call.name ∈ readOnlyToolNames ∧
        Json.get? call.arguments "trip_id" = some (.str s.tripId) := by
      simpa [readsThisTrip] using (Option.filter_eq_some_iff.mp hcall).2
    have hlookups : (s.toolAudit ++ [lookupAudit s call]).filter GraphToolAudit.isLookup =
        s.lookups ++ [lookupAudit s call] := by
      simp [RouteRiskState.lookups, isLookup_lookupAudit]
    refine ⟨hs.trip, ?_, hleft, fun lookup hlookup => ?_⟩
    · show (List.filter _ _).length = s.reactIterations + 1
      rw [hlookups, List.length_append, hs.counted]
      rfl
    · change lookup ∈ List.filter _ (s.toolAudit ++ [lookupAudit s call]) at hlookup
      rw [hlookups] at hlookup
      rcases List.mem_append.mp hlookup with hold | hnew
      · exact hs.allowed lookup hold
      · rw [List.mem_singleton.mp hnew]
        exact ⟨hname, hs.trip ▸ htrip⟩

theorem runReadOnlyTool_frame (s : RouteRiskState) :
    (runReadOnlyTool s).llmEnabled = s.llmEnabled ∧
      (runReadOnlyTool s).toolSelectionAttempted = s.toolSelectionAttempted ∧
      s.reactIterations ≤ (runReadOnlyTool s).reactIterations := by
  unfold runReadOnlyTool
  split
  · exact ⟨rfl, rfl, le_rfl⟩
  · exact ⟨rfl, rfl, Nat.le_succ _⟩

/-- A call that reads this trip takes one of the lookups that are left. -/
theorem runReadOnlyTool_iterations {call : ToolSelection} (hcall : s.pendingToolCall = some call)
    (hreads : readsThisTrip s call = true) :
    (runReadOnlyTool s).reactIterations = s.reactIterations + 1 := by
  simp [runReadOnlyTool, hcall, Option.filter, hreads]

theorem roundsLeft_runReadOnlyTool_le (s : RouteRiskState) :
    roundsLeft (runReadOnlyTool s) ≤ roundsLeft s := by
  obtain ⟨-, hattempted, hle⟩ := runReadOnlyTool_frame s
  unfold roundsLeft
  rw [hattempted]
  omega

/-! ### One round -/

theorem Looping.of_eq {s' : RouteRiskState} (h : Looping provider tripId calls s)
    (hsearched : Searched tripId s') (hllm : s'.llmEnabled = s.llmEnabled)
    (hiterations : s'.reactIterations = s.reactIterations)
    (hattempted : s'.toolSelectionAttempted = s.toolSelectionAttempted) :
    Looping provider tripId calls s' where
  searched := hsearched
  fresh := by rw [hllm, hiterations, hattempted]; exact h.fresh
  unasked := by rw [hattempted]; exact h.unasked
  asked := h.asked
  unrecommended := h.unrecommended

/-- What the assistant leaves to the tool node: a lookup that may take place, after which there
are fewer rounds left. -/
def Advances (provider : ModelProvider) (s s' : RouteRiskState) : Prop :=
  s'.pendingToolCall.isSome →
    Searching provider s' ∧ roundsLeft (runReadOnlyTool s') < roundsLeft s

theorem followUp_looping (h : Looping provider tripId calls s) :
    Looping provider tripId calls (followUp s) := by
  unfold followUp
  split
  · exact h.of_eq (h.searched.of_eq rfl rfl rfl) rfl rfl rfl
  · exact h.of_eq (h.searched.of_eq rfl rfl rfl) rfl rfl rfl

/-- A lookup that the server plans is never refused. -/
theorem followUp_advances (hattempted : provider.availableFor s.llmEnabled = true →
    s.toolSelectionAttempted = true) : Advances provider s (followUp s) := by
  unfold followUp
  split
  · intro hpending
    cases hpending
  · next name hname =>
    intro _
    obtain ⟨hleft, hallowed⟩ := nextTool_bound hname
    refine ⟨⟨hleft, hattempted⟩, ?_⟩
    unfold roundsLeft
    rw [(runReadOnlyTool_frame _).2.1, runReadOnlyTool_iterations rfl
      (by simp [readsThisTrip, hallowed, Json.get?])]
    have hless : maxReactIterations - (s.reactIterations + 1) <
        maxReactIterations - s.reactIterations := by omega
    exact Nat.add_lt_add_right hless _

theorem reactAssistant_follows (h : Looping provider tripId calls s) :
    (reactAssistant provider s).Follows atMostOnce (fun calls' s' =>
      Looping provider tripId calls' s' ∧ Advances provider s s') calls := by
  unfold reactAssistant
  split
  · next hselects =>
    obtain ⟨hunattempted, havailable⟩ : s.toolSelectionAttempted = false ∧
        provider.availableFor s.llmEnabled = true := by simpa using hselects
    have hzero := h.fresh havailable hunattempted
    have hunasked := h.unasked hunattempted
    refine ⟨hunasked, fun answer _ => ?_⟩
    obtain ⟨htrip, hllm, hiterations, hattempted⟩ :=
      @afterSelection_frame provider s answer
    have hsearched := h.searched.of_eq htrip (afterSelection_lookups answer) hiterations
    refine ⟨⟨hsearched, ?_, ?_, ?_, h.unrecommended⟩, fun _ => ⟨⟨?_, fun _ => hattempted⟩, ?_⟩⟩
    · intro _ hnot
      cases hattempted.symm.trans hnot
    · intro hnot
      cases hattempted.symm.trans hnot
    · show calls.selections + 1 ≤ 1
      omega
    · rw [hiterations, hzero]
      decide
    · -- even a refused call has used up the selection
      refine (roundsLeft_runReadOnlyTool_le _).trans_lt ?_
      unfold roundsLeft
      rw [hiterations, hattempted, hunattempted]
      simp
  · next hselects =>
    refine Prog.follows_pure ⟨followUp_looping h, followUp_advances fun havailable => ?_⟩
    simpa [havailable] using hselects

theorem runReadOnlyTool_looping (h : Looping provider tripId calls s) (hs : Searching provider s) :
    Looping provider tripId calls (runReadOnlyTool s) := by
  obtain ⟨hllm, hattempted, -⟩ := runReadOnlyTool_frame s
  have hspent : provider.availableFor (runReadOnlyTool s).llmEnabled = true →
      (runReadOnlyTool s).toolSelectionAttempted = true := by
    rw [hllm, hattempted]
    exact hs.attempted
  refine ⟨runReadOnlyTool_searched h.searched hs.left, fun havailable hnot => ?_, ?_, h.asked,
    h.unrecommended⟩
  · cases (hspent havailable).symm.trans hnot
  · rw [hattempted]
    exact h.unasked

/-! ### After the loop -/

/-- The run stopped at the approval gate, with every bound kept. -/
def Stopped (tripId : String) (calls : ModelCalls) (result : Option (Node × RouteRiskState)) :
    Prop :=
  ∃ s', result = some (.approvalGate, s') ∧ Searched tripId s' ∧ calls.selections ≤ 1 ∧
    calls.recommendations ≤ 1

theorem fixtureAlternatives_evaluated (minimum : Option ℤ) :
    ∃ evaluated, evaluateAlternatives fixtureAlternatives {} minimum = .ok evaluated := by
  have hok : (fixtureAlternatives.mapM fun c => evaluatePolicyEligibleCandidate c {}).isOk = true := by
    decide +kernel
  rw [evaluateAlternatives_eq]
  cases h : fixtureAlternatives.mapM fun c => evaluatePolicyEligibleCandidate c {} with
  | ok evaluated => exact ⟨_, rfl⟩
  | error fault =>
    rw [h] at hok
    cases hok

theorem verifyAlternativeEligibility_searched (h : Searched tripId s) :
    ∃ s', verifyAlternativeEligibility s fixtureAlternatives = .ok s' ∧ Searched tripId s' := by
  obtain ⟨evaluated, hevaluated⟩ := fixtureAlternatives_evaluated (travelerMinimum s)
  simp only [verifyAlternativeEligibility, hevaluated]
  refine ⟨_, rfl, h.of_eq rfl (lookups_append _ fun entry hentry => ?_) rfl⟩
  rw [List.mem_singleton.mp hentry]
  simp [GraphToolAudit.isLookup]

theorem validateRecommendation_follows (h : Looping provider tripId calls s) :
    (validateRecommendation provider s).Follows atMostOnce (fun calls' s' =>
      Searched tripId s' ∧ calls'.selections ≤ 1 ∧ calls'.recommendations ≤ 1) calls := by
  have hcited : ∀ s', Searched tripId s' → Searched tripId (cited s') := fun s' hs =>
    hs.of_eq rfl rfl rfl
  have hanswered : ∀ answer, Searched tripId (answered provider s answer) := by
    rintro (fault | provided)
    · exact h.searched.of_eq rfl rfl rfl
    · exact h.searched.of_eq rfl rfl rfl
  have hzero := h.unrecommended
  unfold validateRecommendation
  split
  · unfold askRecommendation
    split
    · refine ⟨hzero, fun answer _ => ⟨hcited _ (hanswered answer), h.asked, ?_⟩⟩
      show calls.recommendations + 1 ≤ 1
      omega
    · exact ⟨hcited _ (hanswered _), h.asked, by omega⟩
  · exact ⟨hcited s h.searched, h.asked, by omega⟩

/-- From the recommendation there are five more nodes, the last of them the gate. -/
theorem runFrom_recommendation_follows (h : Looping provider tripId calls s) (fuel : ℕ) :
    (runFrom provider (fuel + 6) .recommendation s).Follows atMostOnce (Stopped tripId) calls := by
  unfold runFrom
  refine Prog.follows_bind (validateRecommendation_follows h) fun calls' s' hs' => ?_
  obtain ⟨verified, hok, hverified⟩ := verifyAlternativeEligibility_searched hs'.1
  simp only [Node.next, runFrom, Node.run, hok]
  exact ⟨_, rfl, hverified.of_eq rfl rfl rfl, hs'.2⟩

/-! ### The whole run -/

/-- Two nodes for each round that is left, the assistant's last turn, and the six nodes after. -/
theorem runFrom_reactAssistant_follows (rounds : ℕ) {fuel : ℕ} (hfuel : 2 * rounds + 7 ≤ fuel)
    (h : Looping provider tripId calls s) (hrounds : roundsLeft s ≤ rounds) :
    (runFrom provider fuel .reactAssistant s).Follows atMostOnce (Stopped tripId) calls := by
  induction rounds using Nat.strong_induction_on generalizing fuel calls s with
  | _ rounds ih =>
    obtain ⟨left, rfl⟩ : ∃ left, fuel = left + 7 := ⟨fuel - 7, by omega⟩
    unfold runFrom
    refine Prog.follows_bind (reactAssistant_follows h) fun calls' s' hs' => ?_
    obtain ⟨hlooping, hadvances⟩ := hs'
    show (runFrom provider (left + 6) (routeAfterAssistant s') s').Follows _ _ _
    unfold routeAfterAssistant
    split
    · next hpending =>
      obtain ⟨hsearching, hless⟩ := hadvances hpending
      show (runFrom provider (left + 5) .reactAssistant (runReadOnlyTool s')).Follows _ _ _
      exact ih (rounds - 1) (by omega) (by omega) (runReadOnlyTool_looping hlooping hsearching)
        (by omega)
    · exact runFrom_recommendation_follows hlooping left

/-- Before the loop nothing is on record but what memory was loaded. -/
theorem loadMemoryContext_looping (hiterations : s.reactIterations = 0) (haudit : s.toolAudit = []) :
    Looping provider s.tripId {} (loadMemoryContext s) where
  searched := by
    have hlookups : (loadMemoryContext s).lookups = [] := by
      rw [loadMemoryContext_lookups, RouteRiskState.lookups, haudit]
      rfl
    refine ⟨rfl, ?_, ?_, ?_⟩
    · rw [hlookups]
      exact hiterations.symm
    · show s.reactIterations ≤ maxReactIterations
      omega
    · rw [hlookups]
      nofun
  fresh _ _ := hiterations
  unasked _ := rfl
  asked := Nat.zero_le 1
  unrecommended := rfl

theorem run_follows (hiterations : s.reactIterations = 0) (haudit : s.toolAudit = [])
    (hroute : routeBySeverity s = .loadMemoryContext) {fuel : ℕ} (hfuel : 16 ≤ fuel) :
    (run provider fuel s).Follows atMostOnce (Stopped s.tripId) {} := by
  obtain ⟨left, rfl⟩ : ∃ left, fuel = left + 1 := ⟨fuel - 1, by omega⟩
  have hrounds : roundsLeft (loadMemoryContext s) ≤ 4 := by
    show maxReactIterations - s.reactIterations + (if s.toolSelectionAttempted then 0 else 1) ≤ 4
    rw [hiterations]
    split <;> decide
  unfold run
  rw [hroute]
  exact runFrom_reactAssistant_follows 4 (by omega) (loadMemoryContext_looping hiterations haudit)
    hrounds

/-- The investigation of an elevated trip always comes to the approval gate. -/
theorem investigation_bounded {σ : Type} (provider : ModelProvider)
    (model : ∀ {γ : Type}, ModelCall γ → σ → Except Fault γ × σ) (memory : σ) (s : RouteRiskState)
    (hiterations : s.reactIterations = 0) (haudit : s.toolAudit = [])
    (hroute : routeBySeverity s = .loadMemoryContext) {fuel : ℕ} (hfuel : 16 ≤ fuel) :
    ∃ s' memory' calls,
      (run provider fuel s).run (Prog.logged model ModelCalls.record) (memory, {}) =
        (.ok (some (.approvalGate, s')), memory', calls) ∧
      s'.lookups.length = s'.reactIterations ∧ s'.reactIterations ≤ maxReactIterations ∧
      (∀ lookup ∈ s'.lookups, lookup.toolName ∈ readOnlyToolNames ∧
        Json.get? lookup.arguments "trip_id" = some (.str s.tripId)) ∧
      calls.selections ≤ 1 ∧ calls.recommendations ≤ 1 := by
  have hrecords : ∀ {γ : Type} (calls : ModelCalls) (op : ModelCall γ) (world : σ × ModelCalls),
      world.2 = calls → atMostOnce.allowed calls op →
      atMostOnce.promised calls op (Prog.logged model ModelCalls.record op world).1 ∧
        (Prog.logged model ModelCalls.record op world).2.2 = atMostOnce.advance calls op
          (Prog.logged model ModelCalls.record op world).1 := by
    intro γ calls op world hworld _
    subst hworld
    exact ⟨trivial, rfl⟩
  have hfollows : (run provider fuel s).Follows atMostOnce (Stopped s.tripId) {} :=
    run_follows hiterations haudit hroute hfuel
  obtain ⟨calls, hcalls, hresult⟩ := hfollows.run hrecords (s := (memory, {})) rfl
  rcases hrun : (run provider fuel s).run (Prog.logged model ModelCalls.record) (memory, {})
    with ⟨fault | result, memory', calls'⟩
  · rw [hrun] at hresult
    exact hresult.elim
  · rw [hrun] at hcalls hresult
    obtain ⟨s', rfl, hsearched, hselections, hrecommendations⟩ := hresult
    subst hcalls
    exact ⟨s', memory', calls', rfl, hsearched.counted, hsearched.bounded, hsearched.allowed,
      hselections, hrecommendations⟩

/-- A critical trip with one piece of evidence, as the service starts a graph on it. -/
def criticalTrip : RouteRiskState where
  tripId := (Uuid.v4 1).str
  incidentId := (Uuid.v4 2).str
  severity := "critical"
  evidence := [{ evidenceId := some (Uuid.v4 3).str, sourceType := "flight_status" }]
  coreSourcesUnavailable := .arr []
  reactIterations := 0
  toolAudit := []
  llmEnabled := true

/-- A model that asks for a booking and then fails. -/
def unreliableModel {γ : Type} : ModelCall γ → Unit → Except Fault γ × Unit
  | .selectTool .., _ => (.ok (some { name := "book_flight", arguments := [] }), ())
  | .recommend .., _ => (.error (.value "timeout"), ())

theorem investigation_bounded_unreliable :
    ∃ s' memory' calls,
      (run { apiKey := some "key" } 16 criticalTrip).run
          (Prog.logged unreliableModel ModelCalls.record) ((), {}) =
        (.ok (some (.approvalGate, s')), memory', calls) ∧
      s'.lookups.length = s'.reactIterations ∧ s'.reactIterations ≤ maxReactIterations ∧
      (∀ lookup ∈ s'.lookups, lookup.toolName ∈ readOnlyToolNames ∧
        Json.get? lookup.arguments "trip_id" = some (.str criticalTrip.tripId)) ∧
      calls.selections ≤ 1 ∧ calls.recommendations ≤ 1 :=
  investigation_bounded { apiKey := some "key" } unreliableModel () criticalTrip rfl rfl
    (by decide) le_rfl

end Graph

end RouteShield
