import RouteShield.Agent.Conclusion
import RouteShield.Api.Assess
import RouteShield.Api.Checks

/-!
How an assessment goes through the calls that decide what it saves: it may start one graph, then
save the candidates that the graph ranked, then save the incident. What the incident recommends is
explained by the graph that was started, or by the bounded fallback where none was.
-/

namespace RouteShield

/-- The graphs started, the candidate sets and the incidents saved so far. -/
structure Escalation where
  graphs : List GraphInput := []
  sets : List RecoveryCandidateSet := []
  incidents : List Incident := []

namespace Escalation

def record (log : Escalation) : {α : Type} → Effect α → Except Fault α → Escalation
  | _, .invokeGraph input, _ => { log with graphs := log.graphs ++ [input] }
  | _, .repo (.saveCandidateSet _ candidateSet), _ => { log with sets := log.sets ++ [candidateSet] }
  | _, .repo (.saveIncident incident), _ => { log with incidents := log.incidents ++ [incident] }
  | _, _, _ => log

/-- The calls that leave the record. -/
def quiet : {α : Type} → Effect α → Bool
  | _, .invokeGraph _ => false
  | _, .repo (.saveCandidateSet _ _) => false
  | _, .repo (.saveIncident _) => false
  | _, _ => true

theorem record_quiet (log : Escalation) {α : Type} {op : Effect α} (h : quiet op = true)
    (r : Except Fault α) : log.record op r = log := by
  unfold record
  split <;> first | rfl | cases h

variable (hosts : GraphInput → GraphHost)

/-- A graph was started, and the incident recommends what it chose, if that validates. -/
structure Investigated (log : Escalation) (incident : Incident) (input : GraphInput)
    (evaluated : List EvaluatedCandidate) : Prop where
  graphs : log.graphs = [input]
  cites : input.evidence ≠ []
  evaluates : ∃ minimum,
    Graph.evaluateAlternatives fixtureAlternatives {} minimum = .ok evaluated
  sets : ∃ candidateSet, log.sets = [candidateSet] ∧
    candidateSet.candidates = Graph.displayed evaluated
  recommendation : incident.recommendation = (hosts input).recommendation?
    input.incident.incidentId (((hosts input).chosen input).ranked evaluated)

/-- What an incident that is saved recommends. -/
def Explained (log : Escalation) (incident : Incident) : Prop :=
  incident.status = .pendingApproval ∧
    (log.graphs = [] ∧ log.sets = [] ∧ incident.recommendation.isSome = true ∨
      ∃ input evaluated, Investigated hosts log incident input evaluated)

/-- The explanation does not depend on the incidents that were saved. -/
theorem Explained.incidents {log : Escalation} {incident : Incident}
    (h : Explained hosts log incident) (incidents : List Incident) :
    Explained hosts { log with incidents } incident := by
  obtain ⟨hstatus, hnone | ⟨input, evaluated, h⟩⟩ := h
  · exact ⟨hstatus, .inl hnone⟩
  · exact ⟨hstatus, .inr ⟨input, evaluated, h.graphs, h.cites, h.evaluates, h.sets,
      h.recommendation⟩⟩

def allowed (log : Escalation) : {α : Type} → Effect α → Prop
  | _, .invokeGraph _ => log.incidents = []
  | _, .repo (.saveCandidateSet _ _) => log.incidents = []
  | _, .repo (.saveIncident incident) => log.incidents = [] ∧ Explained hosts log incident
  | _, _ => True

theorem allowed_quiet (log : Escalation) {α : Type} {op : Effect α} (h : quiet op = true) :
    allowed hosts log op := by
  unfold allowed
  split <;> trivial

/-- A graph answers as its host does. -/
def promised : {α : Type} → Effect α → Except Fault α → Prop
  | _, .invokeGraph input, r => r = (hosts input).investigate input
  | _, _, _ => True

/-- Every incident on record is explained by the rest of it. -/
def Settled (log : Escalation) : Prop := ∀ incident ∈ log.incidents, Explained hosts log incident

def contract : Prog.Contract Effect Fault Escalation where
  allowed log := allowed hosts log
  promised _ := promised hosts
  advance log := log.record
  stop := Settled hosts

theorem settled_of_none {log : Escalation} (h : log.incidents = []) : Settled hosts log := by
  intro incident hincident
  rw [h] at hincident
  cases hincident

end Escalation

namespace Api

open Prog Escalation

variable {svc : Service} {hosts : GraphInput → GraphHost} {log : Escalation} {α β : Type}

/-! ### Quiet programs -/

/-- A program whose calls leave the record. -/
def Quiet (p : Api α) : Prop := p.Only (fun op => quiet op = true)

theorem Quiet.bind {p : Api α} {f : α → Api β} (hp : Quiet p) (hf : ∀ a, Quiet (f a)) :
    Quiet (p >>= f) := only_bind hp hf

theorem quiet_perform {op : Effect α} (h : quiet op = true) : Quiet (perform op) := only_perform h

theorem quiet_of_callFree {p : Api α} (h : p.CallFree) : Quiet p := h.only

theorem quiet_pure (a : α) : Quiet (.pure a) := only_pure a

theorem quiet_emitEvent (fields : EventFields) : Quiet (emitEvent fields) :=
  Quiet.bind
    (Quiet.bind (quiet_perform rfl) fun _ => Quiet.bind (quiet_perform rfl) fun _ =>
      Quiet.bind (quiet_perform rfl) fun _ => quiet_pure _)
    fun _ => quiet_pure _

theorem quiet_controlEnabled (tenantId : String) (name : RuntimeControlName) :
    Quiet (controlEnabled svc tenantId name) := by
  refine Quiet.bind (quiet_perform rfl) fun override => ?_
  cases override with
  | some override => exact quiet_pure _
  | none =>
    refine Quiet.bind (quiet_perform rfl) fun platform => ?_
    cases platform <;> exact quiet_pure _

theorem quiet_claimOptionalMutation (tenantId : String) (key : Option String) (scope : String)
    (payload : Payload) : Quiet (claimOptionalMutation svc tenantId key scope payload) :=
  only_claimOptionalMutation rfl fun _ => rfl

theorem quiet_completeOptionalMutation (tenantId : String) (key requestHash : Option String)
    (status : ℕ) (response : Response) :
    Quiet (completeOptionalMutation tenantId key requestHash status response) := by
  unfold completeOptionalMutation
  split
  · exact Quiet.bind (quiet_perform rfl) fun _ => quiet_pure _
  · exact quiet_pure _

theorem quiet_assessmentEvidence (tenantId : String) (trip : Trip) (scenario : Option DemoScenario)
    (correlationId : Uuid) : Quiet (assessmentEvidence tenantId trip scenario correlationId) := by
  refine Quiet.bind (quiet_perform rfl) fun stored => ?_
  split
  · exact Quiet.bind (quiet_perform rfl) fun evidence =>
      Quiet.bind (quiet_perform rfl) fun _ => quiet_pure _
  · exact quiet_pure _

/-- A quiet program goes on from the record it found. -/
theorem Quiet.follows {p : Api α} (hp : Quiet p) (hlog : Settled hosts log) :
    p.Follows (contract hosts) (fun log' _ => log' = log) log :=
  hp.keeps (c := contract hosts) (φ := log) (fun _ hop => allowed_quiet hosts log hop)
    (fun _ r hop => record_quiet log hop r) hlog

/-- A sequence whose first part is quiet. -/
theorem Quiet.follows_seq {Q : Escalation → β → Prop} {p : Api α} {f : α → Api β} (hp : Quiet p)
    (hlog : Settled hosts log) (hf : ∀ a, (f a).Follows (contract hosts) Q log) :
    (p >>= f).Follows (contract hosts) Q log :=
  follows_bind (hp.follows hlog) fun _ a hsame => hsame ▸ hf a

/-- A choice between two quiet programs before the same rest. -/
theorem Quiet.follows_ite {Q : Escalation → β → Prop} {condition : Bool} {p q : Api α}
    {f : α → Api β} (hp : Quiet p) (hq : Quiet q) (hlog : Settled hosts log)
    (hf : ∀ a, (f a).Follows (contract hosts) Q log) :
    (if condition then p >>= f else q >>= f).Follows (contract hosts) Q log := by
  split
  · exact hp.follows_seq hlog hf
  · exact hq.follows_seq hlog hf

/-! ### The parts of an assessment -/

/-- An incident that waits for a decision on some recommendation. -/
def Waits (incident : Incident) : Prop :=
  incident.status = .pendingApproval ∧ incident.recommendation.isSome = true

theorem validate_follows {model : String} {valid : Bool} {Q : Escalation → Unit → Prop}
    (hlog : Settled hosts log) (h : valid = true → Q log ()) :
    (validate model valid).Follows (contract hosts) Q log :=
  follows_callFree (callFree_validate _ _) (fun _ hpure => h (validate_eq_pure hpure)) hlog

/-- The bounded investigation cites the evidence, of which there is some. -/
theorem investigate_follows (incident : Incident) (evidence : List EvidenceEnvelope)
    (hlog : Settled hosts log) :
    (investigate incident evidence).Follows (contract hosts) (fun log' reviewed =>
      log' = log ∧ evidence ≠ [] ∧ Waits reviewed) log := by
  refine Quiet.follows_seq (only_mapM fun _ => Quiet.bind (quiet_perform rfl) fun _ => quiet_pure _)
    hlog fun toolAudit => ?_
  refine follows_seq (validate_follows hlog fun hcites => ?_)
  refine Quiet.follows_seq (quiet_perform rfl) hlog fun recommendationId => ?_
  refine Quiet.follows_seq (quiet_perform rfl) hlog fun generatedAt => ?_
  refine Quiet.follows_seq (quiet_perform rfl) hlog fun updatedAt => ?_
  exact follows_pure ⟨rfl, by simpa [cites] using hcites, rfl, rfl⟩

theorem createLimitedVisibilityIncident_follows (incident : Incident)
    (evidence : List EvidenceEnvelope) (hlog : Settled hosts log) :
    (createLimitedVisibilityIncident incident evidence).Follows (contract hosts)
      (fun log' reviewed => log' = log ∧ Waits reviewed) log := by
  refine follows_seq (validate_follows hlog fun _ => ?_)
  refine Quiet.follows_seq (quiet_perform rfl) hlog fun recommendationId => ?_
  refine Quiet.follows_seq (quiet_perform rfl) hlog fun generatedAt => ?_
  refine Quiet.follows_seq (quiet_perform rfl) hlog fun updatedAt => ?_
  exact follows_pure ⟨rfl, rfl, rfl⟩

/-- The candidates of a graph are saved as one set. -/
theorem saveGraphCandidates_follows (incident : Incident) (candidates : GraphCandidates)
    (hnone : log.incidents = []) :
    (saveGraphCandidates incident candidates).Follows (contract hosts) (fun log' _ =>
      ∃ candidateSet : RecoveryCandidateSet, candidateSet.candidates = candidates.candidates ∧
        log' = { log with sets := log.sets ++ [candidateSet] }) log := by
  have hlog := settled_of_none hosts hnone
  have hsaved : ∀ candidateSet, Settled hosts { log with sets := log.sets ++ [candidateSet] } :=
    fun _ => settled_of_none hosts hnone
  refine Quiet.follows_seq (quiet_perform rfl) hlog fun candidateSetId => ?_
  refine Quiet.follows_seq (quiet_perform rfl) hlog fun createdAt => ?_
  refine follows_seq (follows_perform hnone (fun _ _ => ?_) fun _ _ => hsaved _)
  refine Quiet.follows_seq (quiet_emitEvent _) (hsaved _) fun _ => ?_
  refine follows_mono ((quiet_emitEvent _).follows (hsaved _)) ?_
  rintro log' - rfl
  exact ⟨_, rfl, rfl⟩

/-- A trip that is investigated is routed into the loop of the graph. -/
theorem routeBySeverity_of_investigate {input : GraphInput}
    (h : dispositionFor input.assessment input.sourceHealth = .investigate) :
    Graph.routeBySeverity input.state = .loadMemoryContext := by
  have hunavailable : input.state.unavailable =
      some (input.sourceHealth.coreSourcesUnavailable.map .str) := rfl
  have helevated : input.state.elevated = input.assessment.severity.elevated := by
    show Decidable.decide (input.assessment.severity.value = "high" ∨
      input.assessment.severity.value = "critical") = _
    cases input.assessment.severity <;> decide
  unfold dispositionFor at h
  unfold Graph.routeBySeverity
  rw [hunavailable, helevated]
  split_ifs at h with hdark hmany hhigh hwatch
  simp_all

/-- The graph's result on an incident that waits is what its host chose. -/
theorem runGraphInvestigation_follows {incident : Incident} {assessment : RiskAssessment}
    {evidence : List EvidenceEnvelope} {trip : Trip} {health : SourceHealth}
    (hdisposition : dispositionFor assessment health = .investigate) (hcites : evidence ≠ [])
    (hwaits : Waits incident) :
    (runGraphInvestigation svc incident assessment evidence trip health).Follows (contract hosts)
      (fun log' final => log'.incidents = [] ∧ Explained hosts log' final) {} := by
  have hlog : Settled hosts {} := settled_of_none hosts rfl
  refine Quiet.follows_seq (quiet_controlEnabled _ _) hlog fun memoryReads => ?_
  refine Quiet.follows_ite (quiet_perform rfl) (quiet_pure _) hlog fun profile => ?_
  refine Quiet.follows_seq (quiet_perform rfl) hlog fun playbooks => ?_
  refine Quiet.follows_seq (quiet_controlEnabled _ _) hlog fun llmEnabled => ?_
  let input : GraphInput :=
    { incident, assessment, evidence, trip, sourceHealth := health, profile, playbooks, llmEnabled }
  have hstarted : ∀ {sets}, Settled hosts { graphs := [input], sets := sets } :=
    settled_of_none hosts rfl
  refine follows_seq (follows_perform rfl (fun result hresult => ?_) fun _ _ => hstarted)
  have hroute : Graph.routeBySeverity input.state = .loadMemoryContext :=
    routeBySeverity_of_investigate hdisposition
  obtain ⟨minimum, evaluated, hevaluated, hrecommendation, hcandidates⟩ :=
    GraphHost.investigate_result hroute hresult.symm
  obtain ⟨candidates, hsome, hdisplayed⟩ := Option.map_eq_some_iff.mp hcandidates
  refine Quiet.follows_seq (quiet_emitEvent _) hstarted fun _ => ?_
  refine Quiet.follows_seq (only_forM fun _ => quiet_emitEvent _) hstarted fun _ => ?_
  refine Quiet.follows_seq (only_forM fun _ => quiet_emitEvent _) hstarted fun _ => ?_
  let final : Incident :=
    { incident with
      toolAudit := result.toolAudit
      modelAudit := result.modelAudit
      recommendation := (hosts input).recommendation? incident.incidentId
        (((hosts input).chosen input).ranked evaluated)
      graphThreadId := some (threadIdFor incident.tenantId incident.tripId incident.incidentId)
      approvalPayload := result.interrupt }
  have hfinal : (saveGraphCandidates incident candidates >>= fun _ => .pure final).Follows
      (contract hosts) (fun log' final => log'.incidents = [] ∧ Explained hosts log' final)
      { graphs := [input] } := by
    refine follows_bind (saveGraphCandidates_follows _ _ rfl) ?_
    rintro log' - ⟨candidateSet, hset, rfl⟩
    exact ⟨rfl, hwaits.1, .inr ⟨input, evaluated, rfl, hcites, ⟨minimum, hevaluated⟩,
      ⟨candidateSet, rfl, hset.trans hdisplayed⟩, rfl⟩⟩
  have hown : Option.map (fun r => { r with incidentId := incident.incidentId })
      ((hosts input).recommendation? incident.incidentId
        (((hosts input).chosen input).ranked evaluated)) = final.recommendation := by
    show Option.map _ final.recommendation = final.recommendation
    rcases hfinal : final.recommendation with _ | r
    · rfl
    · have hincident : r.incidentId = incident.incidentId :=
        GraphHost.recommendation?_incidentId hfinal
      rw [Option.map_some, ← hincident]
  rw [hrecommendation, hsome]
  dsimp only
  rw [hown]
  split
  · exact (quiet_emitEvent _).follows_seq hstarted fun _ => hfinal
  · exact hfinal

/-- The incident that is opened is saved as the graph, or the fallback, left it. -/
theorem openIncident_follows {tenantId : String} {trip : Trip} {assessment : RiskAssessment}
    {evidence : List EvidenceEnvelope} {health : SourceHealth} {correlationId : Uuid} :
    (openIncident svc tenantId trip assessment evidence health (dispositionFor assessment health)
      correlationId).Follows (contract hosts) (fun log' _ => Settled hosts log') {} := by
  have hlog : Settled hosts {} := settled_of_none hosts rfl
  have hsave : ∀ (final : Incident) (log : Escalation), log.incidents = [] →
      Explained hosts log final →
      (repo (.saveIncident final) >>= fun _ =>
        emitEvent
          { eventType := "incident.created"
            tenantId
            tripId := some trip.tripId
            correlationId := final.correlationId } >>= fun _ =>
        emitEvent
          { eventType := "approval.requested"
            tenantId
            tripId := some trip.tripId
            correlationId := final.correlationId } >>= fun _ =>
        .pure final.incidentId).Follows (contract hosts) (fun log' _ => Settled hosts log') log := by
    intro final log hnone hexplained
    have hsettled : Settled hosts { log with incidents := log.incidents ++ [final] } := by
      intro incident hincident
      rw [hnone] at hincident
      rw [List.mem_singleton.mp hincident]
      exact hexplained.incidents hosts _
    refine follows_seq (follows_perform ⟨hnone, hexplained⟩ (fun _ _ => ?_) fun _ _ => hsettled)
    refine Quiet.follows_seq (quiet_emitEvent _) hsettled fun _ => ?_
    exact Quiet.follows_seq (quiet_emitEvent _) hsettled fun _ => hsettled
  refine Quiet.follows_seq (quiet_perform rfl) hlog fun incidentId => ?_
  refine Quiet.follows_seq (quiet_perform rfl) hlog fun createdAt => ?_
  refine Quiet.follows_seq (quiet_perform rfl) hlog fun updatedAt => ?_
  dsimp only
  split
  · next hinvestigate =>
    refine Quiet.follows_seq (quiet_controlEnabled _ _) hlog fun useReact => ?_
    cases useReact with
    | true =>
      refine follows_bind (investigate_follows _ _ hlog) ?_
      rintro log' reviewed ⟨rfl, hcites, hwaits⟩
      refine follows_bind (runGraphInvestigation_follows hinvestigate hcites hwaits) ?_
      rintro log' final ⟨hnone, hexplained⟩
      exact hsave final log' hnone hexplained
    | false =>
      refine follows_bind (createLimitedVisibilityIncident_follows _ _ hlog) ?_
      rintro log' reviewed ⟨rfl, hwaits⟩
      exact hsave reviewed {} rfl ⟨hwaits.1, .inl ⟨rfl, rfl, hwaits.2⟩⟩
  · show (createLimitedVisibilityIncident _ evidence >>= _).Follows _ _ _
    refine follows_bind (createLimitedVisibilityIncident_follows _ _ hlog) ?_
    rintro log' reviewed ⟨rfl, hwaits⟩
    exact hsave reviewed {} rfl ⟨hwaits.1, .inl ⟨rfl, rfl, hwaits.2⟩⟩

/-- Everything before the incident is quiet, and so is what comes after. -/
theorem runAssessment_follows {tenantId : String} {trip : Trip} {scenario : Option DemoScenario} :
    (runAssessment svc tenantId trip scenario).Follows (contract hosts)
      (fun log' _ => Settled hosts log') {} := by
  have hlog : Settled hosts {} := settled_of_none hosts rfl
  refine Quiet.follows_seq (quiet_perform rfl) hlog fun correlationId => ?_
  refine Quiet.follows_seq (quiet_assessmentEvidence _ _ _ _) hlog fun evidence => ?_
  refine Quiet.follows_seq (only_forM fun _ => quiet_emitEvent _) hlog fun _ => ?_
  refine Quiet.follows_seq (quiet_of_callFree ⟨_, rfl⟩) hlog fun scoring => ?_
  obtain ⟨factors, unknown⟩ := scoring
  refine Quiet.follows_seq (quiet_perform rfl) hlog fun assessmentId => ?_
  refine Quiet.follows_seq (quiet_perform rfl) hlog fun assessedAt => ?_
  refine Quiet.follows_seq (quiet_of_callFree ⟨_, rfl⟩) hlog fun assessment => ?_
  refine Quiet.follows_seq (quiet_perform rfl) hlog fun _ => ?_
  dsimp only
  split
  · refine follows_bind (P := fun log' _ => Settled hosts log') (follows_map openIncident_follows)
      fun log' incidentId hsettled => ?_
    exact Quiet.follows_seq (quiet_emitEvent _) hsettled fun _ => hsettled
  · refine Quiet.follows_seq (quiet_pure none) hlog fun _ => ?_
    exact Quiet.follows_seq (quiet_emitEvent _) hlog fun _ => hlog

theorem assessTrip_follows {caller : Caller} {tripId : Uuid} {scenario : Option DemoScenario} :
    (assessTrip svc caller tripId scenario).Follows (contract hosts)
      (fun log' _ => Settled hosts log') {} := by
  have hlog : Settled hosts {} := settled_of_none hosts rfl
  refine Quiet.follows_seq (quiet_of_callFree (callFree_requireTenant _)) hlog fun tenantId => ?_
  refine Quiet.follows_seq (quiet_perform rfl) hlog fun found? => ?_
  refine Quiet.follows_seq (quiet_of_callFree (callFree_found _ _ _)) hlog fun trip => ?_
  refine Quiet.follows_seq (quiet_of_callFree (callFree_requireTripAccess _ _ _)) hlog fun _ => ?_
  refine Quiet.follows_seq (quiet_claimOptionalMutation _ _ _ _) hlog fun claimed => ?_
  obtain ⟨requestHash, replay⟩ := claimed
  cases replay with
  | some record => exact follows_callFree (callFree_replay _ _) (fun _ _ => hlog) hlog
  | none =>
    refine follows_bind runAssessment_follows fun log' result hsettled => ?_
    exact Quiet.follows_seq (quiet_completeOptionalMutation _ _ _ _ _) hsettled fun _ => hsettled

end Api

/-! ### The record of a run -/

section Run

variable {b : Backend} {α : Type} {env : Env}
  {graph graph' : ℕ → GraphInput → Except Fault GraphOutcome}

/-- Calls under some graphs, with the record of them. -/
def Env.recorded (env : Env) (graph : ℕ → GraphInput → Except Fault GraphOutcome) {γ : Type}
    (op : Effect γ) (w : World b × Escalation) : Except Fault γ × World b × Escalation :=
  Prog.logged { env with invokeGraph := graph }.exec (fun op r log => log.record op r) op w

/-- The record of an assessment, whose graphs run under their hosts. -/
def escalationOf (svc : Service) (env : Env) (hosts : GraphInput → GraphHost) (caller : Caller)
    (tripId : Uuid) (scenario : Option DemoScenario) (w : World b) : Escalation :=
  ((Api.assessTrip svc caller tripId scenario).run
    (env.recorded fun _ input => (hosts input).investigate input) (w, {})).2.2

theorem recorded_contract (env : Env) (hosts : GraphInput → GraphHost) (log : Escalation)
    (op : Effect α) (w : World b × Escalation) (hlog : w.2 = log) :
    (Escalation.contract hosts).promised log op
        (env.recorded (fun _ input => (hosts input).investigate input) op w).1 ∧
      (env.recorded (fun _ input => (hosts input).investigate input) op w).2.2 =
        (Escalation.contract hosts).advance log op
          (env.recorded (fun _ input => (hosts input).investigate input) op w).1 := by
  subst hlog
  refine ⟨?_, rfl⟩
  cases op <;> trivial

/-- Every incident that an assessment saves is explained by what it saved before. -/
theorem escalationOf_settled (svc : Service) (env : Env) (hosts : GraphInput → GraphHost)
    (caller : Caller) (tripId : Uuid) (scenario : Option DemoScenario) (w : World b) :
    (escalationOf svc env hosts caller tripId scenario w).Settled hosts := by
  obtain ⟨log, hlog, hresult⟩ := Api.assessTrip_follows.run
    (fun log op w hw _ => recorded_contract env hosts log op w hw) (s := (w, {})) rfl
  unfold escalationOf
  rw [hlog]
  split at hresult
  · exact hresult
  · exact hresult

/-! ### Environments that differ in their graphs -/

theorem Escalation.graphs_subset_record (log : Escalation) (op : Effect α) (r : Except Fault α) :
    log.graphs ⊆ (log.record op r).graphs := by
  unfold record
  split
  · exact List.subset_append_left _ _
  · exact List.Subset.refl _
  · exact List.Subset.refl _
  · exact List.Subset.refl _

theorem graphs_subset_run (p : Api α) (w : World b × Escalation) :
    w.2.graphs ⊆ (p.run (env.recorded graph) w).2.2.graphs := by
  induction p generalizing w with
  | pure a => exact List.Subset.refl _
  | throw e => exact List.Subset.refl _
  | call op next ih =>
    have hrest := ih (env.recorded graph op w).1 (env.recorded graph op w).2
    exact List.Subset.trans (w.2.graphs_subset_record op _) hrest

/-- Graphs that answer alike wherever a run starts one make no difference to it. -/
theorem run_congr_graph (p : Api α) (w : World b × Escalation)
    (h : ∀ input ∈ (p.run (env.recorded graph) w).2.2.graphs, ∀ tick,
      graph' tick input = graph tick input) :
    p.run (env.recorded graph') w = p.run (env.recorded graph) w := by
  induction p generalizing w with
  | pure a => rfl
  | throw e => rfl
  | call op next ih =>
    have hsame : env.recorded graph' op w = env.recorded graph op w := by
      cases op with
      | invokeGraph input =>
        have hinput : input ∈
            ((Prog.call (.invokeGraph input) next).run (env.recorded graph) w).2.2.graphs :=
          graphs_subset_run (next _) (env.recorded graph (.invokeGraph input) w).2
            (List.mem_append_right w.2.graphs (List.mem_singleton.mpr rfl))
        simp only [Env.recorded, Prog.logged, Env.exec, Env.answer, h input hinput]
        rfl
      | _ => rfl
    show (next (env.recorded graph' op w).1).run _ (env.recorded graph' op w).2 =
      (next (env.recorded graph op w).1).run _ (env.recorded graph op w).2
    rw [hsame]
    exact ih _ _ h

end Run

end RouteShield
