import RouteShield.Api.Escalation
import RouteShield.Api.EvidenceLoss

/-!
What the recommendation on an incident that an assessment saves can be relied on for: when it is
there at all, and when it would pass the release gate for recommendations.
-/

namespace RouteShield

open Escalation

variable {b : Backend} {hosts : GraphInput → GraphHost} {log : Escalation} {incident : Incident}
  {input : GraphInput} {evaluated : List EvaluatedCandidate}

theorem rankedIds_displayed (candidates : List EvaluatedCandidate) :
    rankedIds (Graph.displayed candidates) = rankedIds candidates := by
  unfold Graph.displayed
  refine rankedIds_map ?_ ?_ ?_ candidates
  · exact fun _ => rfl
  · exact fun _ => rfl
  · exact fun _ => rfl

theorem ranked_displayed (payload : RecommendationPayload) (candidates : List EvaluatedCandidate) :
    payload.ranked (Graph.displayed candidates) = payload.ranked candidates := by
  have hids := rankedIds_displayed candidates
  have hlength := congrArg List.length hids
  unfold rankedIds at hids hlength
  rw [List.length_map, List.length_map] at hlength
  unfold RecommendationPayload.ranked
  rw [hids, hlength]

/-! ### A recommendation is there -/

/-- The incident recommends what the graph chose, under the ranking of the stored candidates. -/
def Kept (hosts : GraphInput → GraphHost) (log : Escalation) (incident : Incident) : Prop :=
  ∃ r, incident.recommendation = some r ∧
    ∀ input ∈ log.graphs, ∃ candidateSet ∈ log.sets,
      r.Carries (((hosts input).chosen input).ranked candidateSet.candidates)

theorem Escalation.Investigated.carries (h : Investigated hosts log incident input evaluated)
    {r : Recommendation} (hr : incident.recommendation = some r) :
    ∃ candidateSet, log.sets = [candidateSet] ∧ rankedIds candidateSet.candidates =
        rankedIds evaluated ∧
      r.Carries (((hosts input).chosen input).ranked candidateSet.candidates) := by
  obtain ⟨candidateSet, hsets, hcandidates⟩ := h.sets
  refine ⟨candidateSet, hsets, ?_, ?_⟩
  · rw [hcandidates, rankedIds_displayed]
  · rw [hcandidates, ranked_displayed]
    exact GraphHost.recommendation?_carries (h.recommendation.symm.trans hr)

theorem Escalation.Investigated.kept_iff (h : Investigated hosts log incident input evaluated) :
    Kept hosts log incident ↔ ¬(hosts input).Overlong input := by
  obtain ⟨minimum, hevaluated⟩ := h.evaluates
  rw [← (hosts input).isSome_chosen input.incident.incidentId h.cites
    (GraphHost.length_rankEligible_le hevaluated), ← h.recommendation, Option.isSome_iff_exists]
  refine exists_congr fun r => and_iff_left_of_imp fun hr input' hinput' => ?_
  rw [h.graphs, List.mem_singleton] at hinput'
  obtain ⟨candidateSet, hsets, -, hcarries⟩ := h.carries hr
  exact ⟨candidateSet, by simp [hsets], hinput' ▸ hcarries⟩

theorem Escalation.Explained.kept_iff (h : Explained hosts log incident) :
    Kept hosts log incident ↔ ∀ input ∈ log.graphs, ¬(hosts input).Overlong input := by
  rcases h.2 with ⟨hgraphs, -, hsome⟩ | ⟨input, evaluated, hinvestigated⟩
  · obtain ⟨r, hr⟩ := Option.isSome_iff_exists.mp hsome
    simp [Kept, hr, hgraphs]
  · rw [hinvestigated.kept_iff, hinvestigated.graphs]
    simp

/-- The incident that an assessment escalates keeps its recommendation exactly when the model's
answer, where it is used, leaves room for the ranking. -/
theorem recommendations_kept_iff (svc : Service) (env : Env) (hosts : GraphInput → GraphHost)
    (caller : Caller) (tripId : Uuid) (scenario : Option DemoScenario) (w : World b) :
    let log := escalationOf svc env hosts caller tripId scenario w
    (∀ incident ∈ log.incidents, incident.status = .pendingApproval ∧ Kept hosts log incident) ↔
      (log.incidents ≠ [] → ∀ input ∈ log.graphs, ¬(hosts input).Overlong input) := by
  intro log
  have hsettled := escalationOf_settled svc env hosts caller tripId scenario w
  constructor
  · intro h hsome
    obtain ⟨incident, hincident⟩ := List.exists_mem_of_ne_nil _ hsome
    exact (hsettled incident hincident).kept_iff.mp (h incident hincident).2
  · intro h incident hincident
    have hexplained := hsettled incident hincident
    exact ⟨hexplained.1, hexplained.kept_iff.mpr (h (List.ne_nil_of_mem hincident))⟩

/-! ### A recommendation is safe -/

def recommendationIsGrounded (r : Recommendation) (evidenceIds : List Uuid) : Bool :=
  r.evidenceIds ≠ [] ∧ r.evidenceIds ⊆ evidenceIds

def recommendationIsSafe (r : Recommendation) (evidenceIds : List Uuid)
    (alternativeIds : List String) : Bool :=
  recommendationIsGrounded r evidenceIds && r.rankedAlternativeIds ⊆ alternativeIds &&
    r.requiresHumanApproval

/-- The recommendation passes the release gate for the evidence of its assessment and the eligible
candidates of the stored set, which it lists in their order. -/
def Safe (log : Escalation) (input : GraphInput) (r : Recommendation) : Prop :=
  ∃ candidateSet ∈ log.sets, r.rankedAlternativeIds = rankedIds candidateSet.candidates ∧
    recommendationIsSafe r (input.evidence.map EvidenceEnvelope.evidenceId)
      (rankedIds candidateSet.candidates) = true

theorem Safe.requiresHumanApproval {r : Recommendation} (h : Safe log input r) :
    r.requiresHumanApproval = true := by
  obtain ⟨candidateSet, -, -, hgate⟩ := h
  simp only [recommendationIsSafe, Bool.and_eq_true] at hgate
  exact hgate.2

/-- What a graph chose cites evidence of its assessment. -/
theorem GraphHost.chosen_grounded (host : GraphHost) (hcites : input.evidence ≠ []) :
    ∃ ids : List Uuid, ids ≠ [] ∧ ids ⊆ input.evidence.map EvidenceEnvelope.evidenceId ∧
      (host.chosen input).evidenceIds = ids.map Uuid.str := by
  have hown : input.evidence.map EvidenceEnvelope.evidenceId ≠ [] := by simpa using hcites
  unfold chosen
  cases htrusted : host.trusted input with
  | some provided =>
    refine ⟨provided.output.evidenceIds, provided.output.valid.2.1, ?_, rfl⟩
    unfold trusted at htrusted
    split at htrusted
    · simpa using (Option.filter_eq_some_iff.mp htrusted).2
    · cases htrusted
  | none =>
    refine ⟨_, hown, List.Subset.refl _, ?_⟩
    dsimp only
    split
    · exact Graph.evidenceIds_state input
    · exact Graph.evidenceIds_state input

/-- An answer of the model that is used, and that leaves out the approval of a person. -/
def GraphHost.SkipsApproval (host : GraphHost) (input : GraphInput) : Prop :=
  ∃ provided ∈ host.trusted input, provided.output.managerMessage.length ≤ 1920 ∧
    provided.output.requiresHumanApproval = false

/-- Without such an answer the choice asks for approval, unless it is too long to be stored. -/
theorem GraphHost.chosen_requires (host : GraphHost) (h : ¬host.SkipsApproval input)
    (hfits : ¬host.Overlong input) : (host.chosen input).requiresHumanApproval = true := by
  unfold SkipsApproval Overlong at *
  unfold chosen
  cases htrusted : host.trusted input with
  | some provided =>
    rw [htrusted] at h hfits
    simp only [Option.mem_some_iff, exists_eq_left', not_and, not_lt] at h hfits
    exact Bool.eq_true_of_not_eq_false (h hfits)
  | none =>
    dsimp only
    split
    · rfl
    · rfl

theorem Escalation.Investigated.recommendation_iff
    (h : Investigated hosts log incident input evaluated) :
    incident.recommendation.isSome = true ↔ ¬(hosts input).Overlong input := by
  obtain ⟨minimum, hevaluated⟩ := h.evaluates
  rw [h.recommendation]
  exact (hosts input).isSome_chosen _ h.cites (GraphHost.length_rankEligible_le hevaluated)

theorem Escalation.Investigated.safe_iff (h : Investigated hosts log incident input evaluated) :
    (∀ r ∈ incident.recommendation, Safe log input r) ↔ ¬(hosts input).SkipsApproval input := by
  constructor
  · rintro hsafe ⟨provided, htrusted, hlength, hskips⟩
    have hfits : ¬(hosts input).Overlong input := by
      rintro ⟨provided', htrusted', hlong⟩
      cases Option.mem_unique htrusted htrusted'
      omega
    obtain ⟨r, hr⟩ := Option.isSome_iff_exists.mp (h.recommendation_iff.mpr hfits)
    obtain ⟨candidateSet, -, -, hcarries⟩ := h.carries hr
    have hchosen : ((hosts input).chosen input).requiresHumanApproval = false := by
      rw [GraphHost.chosen, Option.mem_def.mp htrusted]
      exact hskips
    cases (hsafe r hr).requiresHumanApproval.symm.trans
      (hcarries.requiresHumanApproval.trans hchosen)
  · intro hskips r hr
    obtain ⟨candidateSet, hsets, -, hcarries⟩ := h.carries hr
    obtain ⟨ids, hne, hsub, hids⟩ := (hosts input).chosen_grounded h.cites
    have hfits := h.recommendation_iff.mp (Option.isSome_iff_exists.mpr ⟨r, hr⟩)
    have hevidence : r.evidenceIds = ids :=
      Uuid.str_injective.list_map (hcarries.evidenceIds.trans hids)
    refine ⟨candidateSet, by simp [hsets], hcarries.rankedAlternativeIds, ?_⟩
    have hranked : r.rankedAlternativeIds = rankedIds candidateSet.candidates :=
      hcarries.rankedAlternativeIds
    have hrequires : r.requiresHumanApproval = true :=
      hcarries.requiresHumanApproval.trans ((hosts input).chosen_requires hskips hfits)
    simp [recommendationIsSafe, recommendationIsGrounded, hevidence, hne, hsub, hranked, hrequires]

/-- What an assessment stores after a graph is safe exactly when no answer of the model that it uses
leaves out the approval. -/
theorem recommendations_safe_iff (svc : Service) (env : Env) (hosts : GraphInput → GraphHost)
    (caller : Caller) (tripId : Uuid) (scenario : Option DemoScenario) (w : World b) :
    let log := escalationOf svc env hosts caller tripId scenario w
    (∀ incident ∈ log.incidents, ∀ input ∈ log.graphs, ∀ r ∈ incident.recommendation,
        Safe log input r) ↔
      (log.incidents ≠ [] → ∀ input ∈ log.graphs, ¬(hosts input).SkipsApproval input) := by
  intro log
  have hsettled := escalationOf_settled svc env hosts caller tripId scenario w
  have hsafe : ∀ incident ∈ log.incidents, ∀ input ∈ log.graphs,
      (∀ r ∈ incident.recommendation, Safe log input r) ↔ ¬(hosts input).SkipsApproval input := by
    intro incident hincident input hinput
    rcases (hsettled incident hincident).2 with ⟨hnone, -⟩ | ⟨input', evaluated, hinvestigated⟩
    · rw [hnone] at hinput
      cases hinput
    · rw [hinvestigated.graphs, List.mem_singleton] at hinput
      exact hinput ▸ hinvestigated.safe_iff
  constructor
  · intro h hsome input hinput
    obtain ⟨incident, hincident⟩ := List.exists_mem_of_ne_nil _ hsome
    exact (hsafe incident hincident input hinput).mp (h incident hincident input hinput)
  · intro h incident hincident input hinput
    exact (hsafe incident hincident input hinput).mpr
      (h (List.ne_nil_of_mem hincident) input hinput)

/-! ### Answers that break the two promises -/

/-- The files of a trip at risk, whose traveler wants an hour to connect. -/
def filedTrip : World .memory where
  store :=
    { ({} : InMemoryRepository Response).createTrip connectionTrip with
      evidence := ⟨[⟨connectionTrip.tripId, escalated⟩], by decide⟩
      profiles :=
        ⟨[{ tenantId := "tenant"
            travelerId := "traveler"
            minimumConnectionMinutes := some 60
            consentVersion := "1"
            updatedAt := 0 }], by decide⟩ }

def filedTripManager : Caller where
  tenantId := some "tenant"
  actorRole := some .tenantAdmin
  actorId := some "grace"

/-- An answer that cites the evidence of the trip. -/
def rebooking (managerMessage : String) (requiresHumanApproval : Bool)
    (h : within 2000 managerMessage = true) : RecommendationOutput where
  severityExplanation := "The connection is at risk."
  evidenceIds := [.v4 0]
  uncertainty := "low"
  recommendedAction := "Rebook the connection."
  travelerMessage := "We are rebooking your connection."
  managerMessage
  requiresHumanApproval
  valid := ⟨by decide, by decide, by decide, by decide, h⟩

/-- A model that selects no tool and gives one answer. -/
def answering (output : RecommendationOutput) : GraphHost where
  provider := { apiKey := some "key" }
  selectTool := .ok none
  recommend := .ok { output, recommendationId := .v5 "model", generatedAt := 0 }
  recommendationId := .v5 "fallback"
  generatedAt := 0
  occurredAt _ := 0
  interruptPayload _ := []

/-- A schema-valid answer that waives the approval is stored as it is. -/
theorem unapproved_stored :
    let log := escalationOf .switchedOn .still
      (fun _ => answering (rebooking "Rebook." false (by decide))) filedTripManager (.v4 1) none
      filedTrip
    ¬ ∀ incident ∈ log.incidents, ∀ input ∈ log.graphs, ∀ r ∈ incident.recommendation,
      Safe log input r := by
  intro log h
  have hgraphs : log.graphs ≠ [] := by
    have hlength : log.graphs.length = 1 := by decide +kernel
    intro hnone
    rw [hnone] at hlength
    cases hlength
  have hstored : some false ∈ log.incidents.map (fun incident =>
      incident.recommendation.map Recommendation.requiresHumanApproval) := by decide +kernel
  obtain ⟨input, hinput⟩ := List.exists_mem_of_ne_nil _ hgraphs
  obtain ⟨incident, hincident, hwaived⟩ := List.mem_map.mp hstored
  obtain ⟨r, hr, hfalse⟩ := Option.map_eq_some_iff.mp hwaived
  cases (h incident hincident input hinput r hr).requiresHumanApproval.symm.trans hfalse

/-- A message of the length that the schema allows. -/
def longMessage : String := String.ofList (List.replicate 2000 'a')

theorem length_longMessage : longMessage.length = 2000 := by
  unfold longMessage
  rw [String.length_ofList]
  exact List.length_replicate

theorem within_longMessage : within 2000 longMessage = true := by
  rw [within_iff, length_longMessage]
  exact ⟨by decide, le_rfl⟩

def longAnswer : RecommendationOutput := rebooking longMessage true within_longMessage

theorem length_longAnswer : 1920 < longAnswer.managerMessage.length := by
  have hmessage : longAnswer.managerMessage = longMessage := rfl
  rw [hmessage, length_longMessage]
  decide

section Overlong

variable {output : RecommendationOutput}

theorem answering_overlong (hlong : 1920 < output.managerMessage.length)
    (hasked : (answering output).asked input = true)
    (hcites : output.evidenceIds ⊆ input.evidence.map EvidenceEnvelope.evidenceId) :
    (answering output).Overlong input := by
  refine ⟨{ output, recommendationId := .v5 "model", generatedAt := 0 }, ?_, hlong⟩
  unfold GraphHost.trusted
  rw [if_pos hasked, Option.mem_def, Option.filter_eq_some_iff]
  exact ⟨rfl, decide_eq_true hcites⟩

/-- The graph under one answer, with its recommendation taken out. -/
def unrecommended (output : RecommendationOutput) (_ : ℕ) (input : GraphInput) :
    Except Fault GraphOutcome :=
  ((answering output).investigate input).map fun result =>
    { result with recommendation := some none }

theorem investigate_unrecommended (hcites : input.evidence ≠ [])
    (hroute : Graph.routeBySeverity input.state = .loadMemoryContext)
    (hlong : (answering output).Overlong input) (tick : ℕ) :
    (answering output).investigate input = unrecommended output tick input := by
  unfold unrecommended
  cases h : (answering output).investigate input with
  | error fault => rfl
  | ok result =>
    obtain ⟨minimum, evaluated, hevaluated, hrecommendation, -⟩ :=
      GraphHost.investigate_result hroute h
    have hsome := (answering output).isSome_chosen input.incident.incidentId hcites
      (GraphHost.length_rankEligible_le hevaluated)
    rw [Option.not_isSome_iff_eq_none.mp (hsome.not.mpr (not_not.mpr hlong))] at hrecommendation
    show Except.ok result = .ok { result with recommendation := some none }
    rw [← hrecommendation]

/-- The record of an assessment under the graph without its recommendation. -/
def unrecommendedLog (output : RecommendationOutput) (svc : Service) (env : Env) (caller : Caller)
    (tripId : Uuid) (w : World b) : Escalation :=
  ((Api.assessTrip svc caller tripId none).run (env.recorded (unrecommended output)) (w, {})).2.2

theorem escalationOf_overlong (svc : Service) (env : Env) (caller : Caller) (tripId : Uuid)
    (w : World b) (hlong : 1920 < output.managerMessage.length)
    (h : ∀ input ∈ (unrecommendedLog output svc env caller tripId w).graphs, input.evidence ≠ [] ∧
      Graph.routeBySeverity input.state = .loadMemoryContext ∧
      (answering output).asked input = true ∧
      output.evidenceIds ⊆ input.evidence.map EvidenceEnvelope.evidenceId) :
    escalationOf svc env (fun _ => answering output) caller tripId none w =
      unrecommendedLog output svc env caller tripId w := by
  unfold escalationOf unrecommendedLog
  rw [run_congr_graph]
  intro input hinput tick
  obtain ⟨hcites, hroute, hasked, hids⟩ := h input hinput
  exact investigate_unrecommended hcites hroute (answering_overlong hlong hasked hids) tick

end Overlong

theorem overlong_log :
    escalationOf .switchedOn .still (fun _ => answering longAnswer) filedTripManager (.v4 1) none
      filedTrip = unrecommendedLog longAnswer .switchedOn .still filedTripManager (.v4 1) filedTrip :=
  escalationOf_overlong _ _ _ _ _ length_longAnswer (by decide +kernel)

theorem not_kept_of_none (h : none ∈ log.incidents.map Incident.recommendation) :
    ¬ ∀ incident ∈ log.incidents, incident.status = .pendingApproval ∧ Kept hosts log incident := by
  intro hkept
  obtain ⟨incident, hincident, hnone⟩ := List.mem_map.mp h
  obtain ⟨-, r, hr, -⟩ := hkept incident hincident
  cases hnone.symm.trans hr

/-- A schema-valid answer of the allowed length leaves the escalated incident without any
recommendation. -/
theorem overlong_lost :
    let log := escalationOf .switchedOn .still (fun _ => answering longAnswer) filedTripManager
      (.v4 1) none filedTrip
    ¬ ∀ incident ∈ log.incidents, incident.status = .pendingApproval ∧
      Kept (fun _ => answering longAnswer) log incident := by
  intro log
  have hlog : log = unrecommendedLog longAnswer .switchedOn .still filedTripManager (.v4 1)
      filedTrip := overlong_log
  clear_value log
  subst hlog
  exact not_kept_of_none (by decide +kernel)

end RouteShield
