import RouteShield.Api.Incidents
import RouteShield.Api.Recommendations

/-!
Recovery candidates are evaluated and ranked in three places: by the graph, for a manager's
candidate set, and for the alternatives of a trip. All three hold them to the corporate policy; the
graph alone holds them to the minimum connection that the traveler confirmed as well.
-/

namespace RouteShield

/-! ### What the policy decides -/

/-- Neither the candidate's own facts nor the policy give a reason to exclude it. -/
def PolicyEligible (candidate : RecoveryCandidate) (policy : CorporateTravelPolicy) : Prop :=
  exclusionReasons candidate policy.minimumConnectionMinutes = [] ∧
    (evaluateRecoveryPolicy candidate policy).eligible = true

theorem evaluateCandidate_eq_ok {candidate : RecoveryCandidate} {minimum : ℕ}
    {evaluated : EvaluatedCandidate} (h : evaluateCandidate candidate minimum = .ok evaluated) :
    evaluated.toRecoveryCandidate = candidate ∧
      evaluated.eligible = decide (exclusionReasons candidate minimum = []) ∧
      evaluated.lifecycleState =
        if !candidate.available then .unavailable
        else if !candidate.policyCompliant then .policyIneligible
        else if !evaluated.eligible then .ineligible
        else .eligible := by
  simp only [evaluateCandidate, evaluateCandidateWith] at h
  split at h
  · obtain ⟨score, -, h⟩ := except_bind_eq_ok.mp h
    split at h
    · cases h
      exact ⟨rfl, rfl, rfl⟩
    · split at h
      · cases h
        exact ⟨rfl, rfl, rfl⟩
      · cases h
  · cases h
    exact ⟨rfl, rfl, rfl⟩

theorem evaluatePolicyEligibleCandidate_eq_ok {candidate : RecoveryCandidate}
    {policy : CorporateTravelPolicy} {evaluated : EvaluatedCandidate}
    (h : evaluatePolicyEligibleCandidate candidate policy = .ok evaluated) :
    evaluated.candidateId = candidate.candidateId ∧
      evaluated.connectionMinutes = candidate.connectionMinutes ∧
      (evaluated.eligible = true ↔ PolicyEligible candidate policy) := by
  unfold evaluatePolicyEligibleCandidate evaluatePolicyEligibleCandidateWith at h
  obtain ⟨alone, halone, h⟩ := except_bind_eq_ok.mp h
  obtain ⟨hcandidate, heligible, -⟩ := evaluateCandidate_eq_ok halone
  have hid := congrArg RecoveryCandidate.candidateId hcandidate
  have hconnection := congrArg RecoveryCandidate.connectionMinutes hcandidate
  dsimp only at h
  split at h
  · next hdecision =>
    cases h
    refine ⟨hid, hconnection, ?_⟩
    rw [heligible, decide_eq_true_iff, RecoveryCandidate.underPolicy, hdecision, Bool.and_true]
    exact (and_iff_left hdecision).symm
  · next hdecision =>
    cases h
    exact ⟨hid, hconnection, iff_of_false Bool.false_ne_true fun h => hdecision h.2⟩

/-- The traveler's minimum leaves a candidate, or makes it ineligible. -/
theorem applyTravelerMinimumConnection_cases (candidate : EvaluatedCandidate)
    (minimum : Option ℤ) :
    (candidate.eligible = true → ∀ m ∈ minimum, m ≠ 0 → m ≤ candidate.connectionMinutes) ∧
        applyTravelerMinimumConnection candidate minimum = candidate ∨
      candidate.eligible = true ∧ (∃ m ∈ minimum, m ≠ 0 ∧ ¬ m ≤ candidate.connectionMinutes) ∧
        (applyTravelerMinimumConnection candidate minimum).eligible = false := by
  unfold applyTravelerMinimumConnection
  cases minimum with
  | none => exact .inl ⟨fun _ _ h => (by cases h), rfl⟩
  | some m =>
    dsimp only
    split
    · next h =>
      refine .inl ⟨fun heligible m' hm' hne => ?_, rfl⟩
      cases hm'
      rcases h with h | h | h
      · exact absurd h hne
      · exact h
      · cases heligible.symm.trans h
    · next h =>
      rw [not_or, not_or, Bool.not_eq_false] at h
      exact .inr ⟨h.2.2, ⟨m, rfl, h.1, h.2.1⟩, rfl⟩

/-- No candidate that the policy leaves eligible connects in less than the profile's minimum. -/
def MeetsMinimum (profile : Option TravelerPreferenceProfile) (policy : CorporateTravelPolicy)
    (candidates : List RecoveryCandidate) : Prop :=
  ∀ p ∈ profile, ∀ minimum ∈ p.minimumConnectionMinutes, ∀ candidate ∈ candidates,
    PolicyEligible candidate policy → minimum ≤ candidate.connectionMinutes

/-! ### The graph -/

namespace Graph

variable {s : RouteRiskState} {candidates : List RecoveryCandidate}
  {evaluated : List EvaluatedCandidate}

/-- The two nodes that decide on the alternatives. -/
def recoveryOptions (s : RouteRiskState) (alternatives : List RecoveryCandidate) :
    Except Fault RouteRiskState :=
  (verifyAlternativeEligibility s alternatives).map rankEligibleRecoveryOptions

/-- The graph holds what the policy decided to the traveler's minimum, and ranks the rest. -/
theorem recoveryOptions_eq
    (h : (candidates.mapM fun c => evaluatePolicyEligibleCandidate c {}) = .ok evaluated) :
    let tightened := evaluated.map fun c => applyTravelerMinimumConnection c (travelerMinimum s)
    ∃ s', recoveryOptions s candidates = .ok s' ∧
      s'.alternativeCandidates = some (displayed tightened) ∧
      s'.eligibleAlternatives = rankEligible tightened := by
  intro tightened
  have hevaluated : evaluateAlternatives candidates {} (travelerMinimum s) = .ok tightened := by
    rw [evaluateAlternatives_eq, h]
    rfl
  simp only [recoveryOptions, verifyAlternativeEligibility, hevaluated]
  exact ⟨_, rfl, rfl, rfl⟩

/-- The minimum that the graph reads is the one that the traveler confirmed. -/
theorem travelerMinimum_loadMemoryContext {input : GraphInput}
    (hmemory : s.memoryContext = (loadMemoryContext input.state).memoryContext) :
    travelerMinimum s =
      (input.profile.bind TravelerPreferenceProfile.minimumConnectionMinutes).map Int.ofNat := by
  have hcontext : s.memoryContext = (graphTravelerContext input.profile).map (fun supplied =>
      supplied.filter (fun field => field.1 ∈ allowedFields)) := hmemory
  unfold travelerMinimum
  rw [hcontext]
  cases hprofile : input.profile with
  | none => rfl
  | some profile =>
    cases hminimum : profile.minimumConnectionMinutes with
    | none => simp [graphTravelerContext, allowedFields, Json.get?, hminimum]
    | some minimum => simp [graphTravelerContext, allowedFields, Json.get?, hminimum]

end Graph

/-! ### What a display shows -/

/-- Whether a candidate is eligible, and where it stands. -/
def EvaluatedCandidate.shown (candidate : EvaluatedCandidate) : String × Bool × Option ℕ :=
  (candidate.candidateId, candidate.eligible, candidate.displayedPosition)

variable {f : EvaluatedCandidate → EvaluatedCandidate} {evaluated : List EvaluatedCandidate}

/-- Where a change can only exclude, it excludes nothing exactly when it changes nothing. -/
def Excludes (f : EvaluatedCandidate → EvaluatedCandidate) : Prop :=
  ∀ c, f c = c ∨ c.eligible = true ∧ (f c).eligible = false

theorem Excludes.eq_self (hf : Excludes f) {c : EvaluatedCandidate}
    (h : (f c).eligible = c.eligible) : f c = c := by
  rcases hf c with hsame | ⟨heligible, hexcluded⟩
  · exact hsame
  · cases heligible.symm.trans (h.symm.trans hexcluded)

theorem Excludes.countP_eq_iff (hf : Excludes f) :
    ((evaluated.map f).countP fun c => c.eligible) = (evaluated.countP fun c => c.eligible) ↔
      ∀ c ∈ evaluated, f c = c := by
  constructor
  · induction evaluated with
    | nil => exact fun _ _ hc => (by cases hc)
    | cons c evaluated ih =>
      intro hcount
      have hle : ((evaluated.map f).countP fun c => c.eligible) ≤
          (evaluated.countP fun c => c.eligible) := by
        rw [List.countP_map]
        refine List.countP_mono_left fun d _ hd => ?_
        rcases hf d with hsame | ⟨heligible, -⟩
        · rw [← hsame]
          exact hd
        · exact heligible
      rw [List.map_cons, List.countP_cons, List.countP_cons] at hcount
      rcases hf c with hsame | ⟨heligible, hexcluded⟩
      · rw [hsame] at hcount
        exact List.forall_mem_cons.mpr ⟨hsame, ih (Nat.add_right_cancel hcount)⟩
      · simp only [heligible, hexcluded, if_true, Bool.false_eq_true, if_false] at hcount
        omega
  · intro h
    rw [List.map_congr_left h, List.map_id']

/-- The ranked candidates are shown as before exactly when none is excluded. -/
theorem Excludes.shown_rankEligible_iff (hf : Excludes f) :
    (rankEligible (evaluated.map f)).map EvaluatedCandidate.shown =
        (rankEligible evaluated).map EvaluatedCandidate.shown ↔ ∀ c ∈ evaluated, f c = c := by
  constructor
  · intro h
    have hlength := congrArg List.length h
    rw [List.length_map, List.length_map, length_rankEligible, length_rankEligible] at hlength
    exact hf.countP_eq_iff.mp hlength
  · intro h
    rw [List.map_congr_left h, List.map_id']

/-- So are all the candidates with their positions. -/
theorem Excludes.shown_displayed_iff (hf : Excludes f) :
    (Graph.displayed (evaluated.map f)).map EvaluatedCandidate.shown =
        (Graph.displayed evaluated).map EvaluatedCandidate.shown ↔ ∀ c ∈ evaluated, f c = c := by
  constructor
  · intro h
    have heligible : ∀ candidates, ((Graph.displayed candidates).map
        EvaluatedCandidate.shown).map (fun shown => shown.2.1) =
          candidates.map fun c => c.eligible := by
      intro candidates
      simp [Graph.displayed, EvaluatedCandidate.shown, Function.comp_def]
    have hcount := congrArg (List.map fun shown => shown.2.1) h
    rw [heligible, heligible, List.map_map] at hcount
    exact fun c hc => hf.eq_self (List.map_inj_left.mp hcount c hc)
  · intro h
    rw [List.map_congr_left h, List.map_id']

theorem excludes_applyTravelerMinimumConnection (minimum : Option ℤ) :
    Excludes fun c => applyTravelerMinimumConnection c minimum := by
  intro c
  rcases applyTravelerMinimumConnection_cases c minimum with ⟨-, hsame⟩ | ⟨heligible, -, hexcluded⟩
  · exact .inl hsame
  · exact .inr ⟨heligible, hexcluded⟩

/-! ### The service -/

namespace Api

open Prog

variable {svc : Service} {α : Type}

/-- The ranked alternatives of a trip, among those that the tool for them finds. -/
def alternativesForTrip (svc : Service) (alternatives : List RecoveryCandidate) (caller : Caller)
    (tripId : Uuid) : Api (List EvaluatedCandidate) := do
  let tenantId ← requireTenant caller.tenantId
  let trip ← found (← repo (.getTrip tenantId tripId)) 404 "trip not found"
  requireTripAccess svc trip caller [.traveler, .travelManager, .dutyOfCare, .tenantAdmin]
  let evaluated ← .ofExcept (alternatives.mapM (fun c =>
    evaluatePolicyEligibleCandidate c svc.recoveryPolicy))
  return rankEligible evaluated

theorem alternativesForTrip_eq_ok {b : Backend} {env : Env} {w : World b} {caller : Caller}
    {tripId : Uuid} {alternatives : List RecoveryCandidate} {answer : List EvaluatedCandidate}
    (h : ((alternativesForTrip svc alternatives caller tripId).run env.exec w).1 = .ok answer) :
    ∃ evaluated, (alternatives.mapM fun c =>
      evaluatePolicyEligibleCandidate c svc.recoveryPolicy) = .ok evaluated ∧
        answer = rankEligible evaluated := by
  obtain ⟨tenantId, w₁, -, h⟩ := run_bind_eq_ok.mp (Prod.ext h rfl)
  obtain ⟨found?, w₂, -, h⟩ := run_bind_eq_ok.mp h
  obtain ⟨trip, w₃, -, h⟩ := run_bind_eq_ok.mp h
  obtain ⟨u, w₄, -, h⟩ := run_bind_eq_ok.mp h
  obtain ⟨evaluated, w₅, hevaluated, h⟩ := run_bind_eq_ok.mp h
  rw [run_ofExcept] at hevaluated
  exact ⟨evaluated, congrArg Prod.fst hevaluated, (Except.ok.inj (congrArg Prod.fst h)).symm⟩

/-- Calls that save only candidate sets of a kind. -/
def Saves (P : RecoveryCandidateSet → Prop) : {α : Type} → Effect α → Prop
  | _, .repo (.saveCandidateSet _ candidateSet) => P candidateSet
  | _, _ => True

theorem Quiet.saves {P : RecoveryCandidateSet → Prop} {p : Api α} (h : Quiet p) :
    p.Only (Saves P) := by
  refine only_mono h fun op hop => ?_
  unfold Saves
  split
  · cases hop
  · trivial

theorem Saves.mono {P Q : RecoveryCandidateSet → Prop} {op : Effect α} (h : Saves P op)
    (hPQ : ∀ candidateSet, P candidateSet → Q candidateSet) : Saves Q op := by
  unfold Saves at h ⊢
  split
  · exact hPQ _ h
  · trivial

/-- Every set that a manager's candidates are saved in is evaluated under the policy. -/
theorem createCandidateSet_saves {caller : Caller} {incidentId : Uuid}
    {candidates : List RecoveryCandidate} :
    (createCandidateSet svc caller incidentId candidates).Only (Saves fun candidateSet =>
      ∃ evaluated, (candidates.mapM fun c =>
        evaluatePolicyEligibleCandidate c svc.recoveryPolicy) = .ok evaluated ∧
          candidateSet.candidates = Graph.displayed evaluated) := by
  refine only_bind (callFree_requireRole _ _).only fun _ => ?_
  refine only_bind (callFree_requireTenant _).only fun tenantId => ?_
  refine only_bind (only_requireIncidentTripAccess trivial fun _ => trivial) fun owned => ?_
  obtain ⟨incident, trip⟩ := owned
  refine only_bind (only_claimOptionalMutation trivial fun _ => trivial) fun claimed => ?_
  obtain ⟨requestHash, replay⟩ := claimed
  cases replay with
  | some record => exact (callFree_replay _ _).only
  | none =>
    refine only_bind ?_ fun candidateSet =>
      only_bind (quiet_completeOptionalMutation _ _ _ _ _).saves fun _ => only_pure _
    cases hevaluated : candidates.mapM fun c =>
        evaluatePolicyEligibleCandidate c svc.recoveryPolicy with
    | error fault => exact only_throw fault
    | ok evaluated =>
      show Only _ (uuid4 >>= fun candidateSetId => _)
      refine only_bind (quiet_perform rfl).saves fun candidateSetId => ?_
      refine only_bind (quiet_perform rfl).saves fun createdAt => ?_
      refine only_bind (only_perform ⟨evaluated, rfl, rfl⟩) fun _ => ?_
      refine only_bind (callFree_requireActorId _).only fun actorId => ?_
      refine only_bind (quiet_emitEvent _).saves fun _ => ?_
      exact only_bind (quiet_emitEvent _).saves fun _ => only_pure _

end Api

/-- What is saved along a run is of the kind that its calls save. -/
theorem saves_run {b : Backend} {α : Type} {P : RecoveryCandidateSet → Prop} {p : Api α}
    (hp : p.Only (Api.Saves P)) (env : Env) (w : World b) :
    ∀ candidateSet ∈ (p.run (env.recorded env.invokeGraph) (w, {})).2.2.sets, P candidateSet := by
  refine hp.run (R := fun s s' : World b × Escalation => (∀ candidateSet ∈ s.2.sets, P candidateSet) →
    ∀ candidateSet ∈ s'.2.sets, P candidateSet) (fun _ h => h) (fun h h' hs => h' (h hs)) ?_ (w, {})
    (fun _ hnone => (by cases hnone))
  intro γ op s hop hs
  show ∀ candidateSet ∈ (s.2.record op _).sets, P candidateSet
  unfold Escalation.record
  split
  · exact hs
  · intro candidateSet hcandidateSet
    rcases List.mem_append.mp hcandidateSet with hold | hnew
    · exact hs candidateSet hold
    · rw [List.mem_singleton.mp hnew]
      exact hop
  · exact hs
  · exact hs

/-- A sequence that returns after a quiet part goes on with the record as it was. -/
theorem Api.Quiet.run_bind {b : Backend} {α β : Type} {p : Api α} (hp : Api.Quiet p)
    {f : α → Api β} {env : Env} {graph : ℕ → GraphInput → Except Fault GraphOutcome} {w : World b}
    {log : Escalation} {r : β} {s' : World b × Escalation}
    (h : (p >>= f).run (env.recorded graph) (w, log) = (.ok r, s')) :
    ∃ a w', p.run (env.recorded graph) (w, log) = (.ok a, w', log) ∧
      (f a).run (env.recorded graph) (w', log) = (.ok r, s') := by
  obtain ⟨a, ⟨w', log'⟩, ha, hf⟩ := Prog.run_bind_eq_ok.mp h
  have hkept : ((w', log') : World b × Escalation).2 = log := by
    have hlog : (p.run (env.recorded graph) (w, log)).2.2 = log := hp.run
      (R := fun s s' : World b × Escalation => s'.2 = s.2) (fun _ => rfl)
      (fun h h' => h'.trans h) (fun op s hop => Escalation.record_quiet s.2 hop _) (w, log)
    rwa [ha] at hlog
  obtain rfl : log' = log := hkept
  exact ⟨a, w', ha, hf⟩

/-- The answer to a request is the stored one of a request that was completed before. -/
def Replays {b : Backend} (idempotencyKey : Option String) (answer : RecoveryCandidateSet) : Prop :=
  ∃ (claim : Claim) (now : Time) (fresh : ℕ → Uuid) (s : b.State) (record : MutationRecord),
    Api.keyed idempotencyKey = some claim.idempotencyKey ∧
      (b.exec (.claimIdempotency claim) now fresh s).1 = .ok (.replay, record) ∧
      record.responsePayload = some (.candidateSet answer)

theorem replay_eq_pure {record : MutationRecord} {answer : RecoveryCandidateSet}
    (h : Api.Stored.replay Response.ofCandidateSet record = pure answer) :
    record.responsePayload = some (.candidateSet answer) := by
  unfold Api.Stored.replay at h
  split at h
  · next a ha =>
    obtain rfl := Prog.pure_injective h
    obtain ⟨response, hresponse, hdecode⟩ := Option.bind_eq_some_iff.mp ha
    rw [hresponse]
    cases response with
    | candidateSet body =>
      obtain rfl := Option.some.inj hdecode
      rfl
    | _ => cases hdecode
  · cases h

theorem claimOptionalMutation_replay {b : Backend} {svc : Service} {env : Env}
    {graph : ℕ → GraphInput → Except Fault GraphOutcome} {s s' : World b × Escalation}
    {tenantId scope : String} {idempotencyKey requestHash : Option String} {payload : Payload}
    {record : MutationRecord}
    (h : (Api.claimOptionalMutation svc tenantId idempotencyKey scope payload).run
      (env.recorded graph) s = (.ok (requestHash, some record), s')) :
    ∃ (claim : Claim) (now : Time) (fresh : ℕ → Uuid) (t : b.State),
      Api.keyed idempotencyKey = some claim.idempotencyKey ∧
        (b.exec (.claimIdempotency claim) now fresh t).1 = .ok (.replay, record) := by
  unfold Api.claimOptionalMutation at h
  cases hkey : Api.keyed idempotencyKey with
  | none =>
    rw [hkey] at h
    obtain ⟨u, t, -, h⟩ := Prog.run_bind_eq_ok.mp h
    cases h
  | some key =>
    rw [hkey] at h
    obtain ⟨⟨hash, replay⟩, t, hclaim, h⟩ := Prog.run_bind_eq_ok.mp h
    cases h
    obtain ⟨claimedAt, t₁, -, hclaim⟩ := Prog.run_bind_eq_ok.mp hclaim
    obtain ⟨⟨disposition, claimed⟩, t₂, hanswer, hclaim⟩ := Prog.run_bind_eq_ok.mp hclaim
    rw [Api.repo, Prog.run_perform] at hanswer
    cases disposition with
    | execute => cases hclaim
    | replay =>
      cases hclaim
      exact ⟨_, _, _, _, rfl, congrArg Prod.fst hanswer⟩
    | conflict => cases hclaim
    | inProgress => cases hclaim

/-- A request for a candidate set that returns and replays nothing has saved the one set that it
returns, with the candidates in the places that the policy gives them. -/
theorem createCandidateSet_granted {b : Backend} {svc : Service} {env : Env}
    {graph : ℕ → GraphInput → Except Fault GraphOutcome} {w w' : World b} {log log' : Escalation}
    {caller : Caller} {incidentId : Uuid} {candidates : List RecoveryCandidate}
    {answer : RecoveryCandidateSet}
    (h : (Api.createCandidateSet svc caller incidentId candidates).run (env.recorded graph)
      (w, log) = (.ok answer, w', log')) :
    Replays (b := b) caller.idempotencyKey answer ∧ log'.sets = log.sets ∨
      log'.sets = log.sets ++ [answer] ∧ answer.incidentId = incidentId ∧
        ∃ evaluated, (candidates.mapM fun c =>
          evaluatePolicyEligibleCandidate c svc.recoveryPolicy) = .ok evaluated ∧
            answer.candidates = Graph.displayed evaluated := by
  have haccess : ∀ tenantId, Api.Quiet (Api.requireIncidentTripAccess svc tenantId incidentId caller
      [.travelManager, .tenantAdmin]) := fun _ => Api.only_requireIncidentTripAccess rfl fun _ => rfl
  unfold Api.createCandidateSet at h
  obtain ⟨_, w₁, -, h⟩ := (Api.quiet_of_callFree (Api.callFree_requireRole _ _)).run_bind h
  obtain ⟨tenantId, w₂, -, h⟩ := (Api.quiet_of_callFree (Api.callFree_requireTenant _)).run_bind h
  obtain ⟨⟨incident, trip⟩, w₃, -, h⟩ := (haccess tenantId).run_bind h
  obtain ⟨⟨requestHash, replay⟩, w₄, hclaim, h⟩ :=
    (Api.quiet_claimOptionalMutation _ _ _ _).run_bind h
  cases replay with
  | some record =>
    obtain ⟨claim, now, fresh, s, hkey, hreplay⟩ := claimOptionalMutation_replay hclaim
    obtain ⟨hpure, hsame⟩ := (Api.callFree_replay Response.ofCandidateSet record).run_eq_ok h
    obtain ⟨rfl, rfl⟩ := Prod.mk.inj hsame
    exact .inl ⟨⟨claim, now, fresh, s, record, hkey, hreplay, replay_eq_pure hpure⟩, rfl⟩
  | none =>
    obtain ⟨candidateSet, ⟨w₅, log₅⟩, hbody, h⟩ := Prog.run_bind_eq_ok.mp h
    obtain ⟨_, w₆, -, h⟩ := (Api.quiet_completeOptionalMutation _ _ _ _ _).run_bind h
    cases h
    cases hevaluated : candidates.mapM fun c =>
        evaluatePolicyEligibleCandidate c svc.recoveryPolicy with
    | error fault =>
      rw [hevaluated] at hbody
      cases hbody
    | ok evaluated =>
      rw [hevaluated] at hbody
      change Prog.run _ (Api.uuid4 >>= fun candidateSetId => _) _ = _ at hbody
      obtain ⟨candidateSetId, w₇, -, hbody⟩ := (Api.quiet_perform rfl).run_bind hbody
      obtain ⟨createdAt, w₈, -, hbody⟩ := (Api.quiet_perform rfl).run_bind hbody
      obtain ⟨_, ⟨w₉, log₉⟩, hsaved, hbody⟩ := Prog.run_bind_eq_ok.mp hbody
      obtain ⟨actorId, w₁₀, -, hbody⟩ :=
        (Api.quiet_of_callFree (Api.callFree_requireActorId _)).run_bind hbody
      obtain ⟨_, w₁₁, -, hbody⟩ := (Api.quiet_emitEvent _).run_bind hbody
      obtain ⟨_, w₁₂, -, hbody⟩ := (Api.quiet_emitEvent _).run_bind hbody
      cases hbody
      rw [Api.repo, Prog.run_perform] at hsaved
      exact .inr ⟨(congrArg (fun r => r.2.2.sets) hsaved).symm, rfl, evaluated, rfl, rfl⟩

/-! ### Agreement -/

theorem applyTravelerMinimumConnection_eq_self_iff (candidate : EvaluatedCandidate)
    (minimum : Option ℤ) :
    applyTravelerMinimumConnection candidate minimum = candidate ↔
      (candidate.eligible = true → ∀ m ∈ minimum, m ≠ 0 → m ≤ candidate.connectionMinutes) := by
  rcases applyTravelerMinimumConnection_cases candidate minimum with
    ⟨hmeets, hsame⟩ | ⟨heligible, ⟨m, hm, hne, hbelow⟩, hexcluded⟩
  · exact iff_of_true hsame hmeets
  · refine iff_of_false (fun hsame => ?_) fun hmeets => hbelow (hmeets heligible m hm hne)
    rw [hsame] at hexcluded
    cases heligible.symm.trans hexcluded

theorem forall_mem_iff_of_forall₂ {A B : Type*} {R : A → B → Prop} {P : A → Prop} {Q : B → Prop}
    {xs : List A} {ys : List B} (h : List.Forall₂ R xs ys) (hR : ∀ x y, R x y → (Q y ↔ P x)) :
    (∀ y ∈ ys, Q y) ↔ ∀ x ∈ xs, P x := by
  induction h with
  | nil => simp
  | cons hxy _ ih => rw [List.forall_mem_cons, List.forall_mem_cons, hR _ _ hxy, ih]

section Agreement

variable {svc : Service} {input : GraphInput} {s : RouteRiskState}
  {candidates : List RecoveryCandidate} {evaluated : List EvaluatedCandidate}
  (hmemory : s.memoryContext = (Graph.loadMemoryContext input.state).memoryContext)

include hmemory

/-- The confirmed minimum excludes none of the candidates that the policy evaluated. -/
theorem tightened_eq_iff
    (h : (candidates.mapM fun c => evaluatePolicyEligibleCandidate c {}) = .ok evaluated) :
    (∀ c ∈ evaluated, applyTravelerMinimumConnection c (Graph.travelerMinimum s) = c) ↔
      MeetsMinimum input.profile {} candidates := by
  have hevery : (∀ c ∈ evaluated,
      applyTravelerMinimumConnection c (Graph.travelerMinimum s) = c) ↔
        ∀ c ∈ candidates, PolicyEligible c {} → ∀ p ∈ input.profile,
          ∀ minimum ∈ p.minimumConnectionMinutes, minimum ≤ c.connectionMinutes := by
    refine forall_mem_iff_of_forall₂ (mapM_eq_ok.mp h) fun c e he => ?_
    obtain ⟨-, hconnection, heligible⟩ := evaluatePolicyEligibleCandidate_eq_ok he
    rw [applyTravelerMinimumConnection_eq_self_iff, heligible, hconnection,
      Graph.travelerMinimum_loadMemoryContext hmemory]
    refine imp_congr_right fun _ => ?_
    constructor
    · intro hmeets p hp minimum hminimum
      by_cases hzero : minimum = 0
      · omega
      · have hm := hmeets minimum (by simp [Option.mem_def.mp hp, Option.mem_def.mp hminimum])
          (by exact_mod_cast hzero)
        exact_mod_cast hm
    · intro hmeets m hm _
      obtain ⟨minimum, hminimum, rfl⟩ := Option.map_eq_some_iff.mp hm
      obtain ⟨p, hp, hminimum⟩ := Option.bind_eq_some_iff.mp hminimum
      exact Int.ofNat_le.mpr (hmeets p hp minimum hminimum)
  rw [hevery]
  exact ⟨fun h p hp minimum hminimum c hc heligible => h c hc heligible p hp minimum hminimum,
    fun h c hc heligible p hp minimum hminimum => h p hp minimum hminimum c hc heligible⟩

/-- The graph ranks the candidates as the policy alone does when the minimum excludes none. -/
theorem ranked_agree_iff
    (h : (candidates.mapM fun c => evaluatePolicyEligibleCandidate c {}) = .ok evaluated) :
    (∃ s', Graph.recoveryOptions s candidates = .ok s' ∧
        s'.eligibleAlternatives.map EvaluatedCandidate.shown =
          (rankEligible evaluated).map EvaluatedCandidate.shown) ↔
      MeetsMinimum input.profile {} candidates := by
  obtain ⟨s', hs', -, heligible⟩ := Graph.recoveryOptions_eq (s := s) h
  rw [← tightened_eq_iff hmemory h,
    ← (excludes_applyTravelerMinimumConnection (Graph.travelerMinimum s)).shown_rankEligible_iff,
    ← heligible]
  constructor
  · rintro ⟨t, ht, hshown⟩
    cases hs'.symm.trans ht
    exact hshown
  · exact fun hshown => ⟨s', hs', hshown⟩

theorem displayed_agree_iff
    (h : (candidates.mapM fun c => evaluatePolicyEligibleCandidate c {}) = .ok evaluated) :
    (∃ s' alternatives, Graph.recoveryOptions s candidates = .ok s' ∧
        s'.alternativeCandidates = some alternatives ∧
        alternatives.map EvaluatedCandidate.shown =
          (Graph.displayed evaluated).map EvaluatedCandidate.shown) ↔
      MeetsMinimum input.profile {} candidates := by
  obtain ⟨s', hs', hcandidates, -⟩ := Graph.recoveryOptions_eq (s := s) h
  rw [← tightened_eq_iff hmemory h,
    ← (excludes_applyTravelerMinimumConnection (Graph.travelerMinimum s)).shown_displayed_iff]
  constructor
  · rintro ⟨t, alternatives, ht, halternatives, hshown⟩
    cases hs'.symm.trans ht
    cases hcandidates.symm.trans halternatives
    exact hshown
  · exact fun hshown => ⟨s', _, hs', hcandidates, hshown⟩

/-- Under one policy, the alternatives of a trip and a manager's candidate set show what the graph
shows for the same candidates exactly when the traveler's confirmed minimum excludes none of them
that the policy leaves. The set is the one that a request saves and returns, unless it replays the
answer of an earlier one. -/
theorem recovery_constraints_agree_iff (hpolicy : svc.recoveryPolicy = {}) {b : Backend} (env : Env)
    (w : World b) (caller : Caller) (tripId incidentId : Uuid) :
    (∀ answer,
      ((Api.alternativesForTrip svc candidates caller tripId).run env.exec w).1 = .ok answer →
        ((∃ s', Graph.recoveryOptions s candidates = .ok s' ∧
            s'.eligibleAlternatives.map EvaluatedCandidate.shown =
              answer.map EvaluatedCandidate.shown) ↔
          MeetsMinimum input.profile {} candidates)) ∧
    (∀ candidateSet ∈ ((Api.createCandidateSet svc caller incidentId candidates).run
        (env.recorded env.invokeGraph) (w, {})).2.2.sets,
      (∃ s' alternatives, Graph.recoveryOptions s candidates = .ok s' ∧
          s'.alternativeCandidates = some alternatives ∧
          alternatives.map EvaluatedCandidate.shown =
            candidateSet.candidates.map EvaluatedCandidate.shown) ↔
        MeetsMinimum input.profile {} candidates) ∧
    ∀ answer s', (Api.createCandidateSet svc caller incidentId candidates).run
        (env.recorded env.invokeGraph) (w, {}) = (.ok answer, s') →
      Replays (b := b) caller.idempotencyKey answer ∨ s'.2.sets = [answer] := by
  refine ⟨fun answer hanswer => ?_, fun candidateSet hcandidateSet => ?_, fun answer s' hrun => ?_⟩
  · obtain ⟨evaluated, hevaluated, rfl⟩ := Api.alternativesForTrip_eq_ok hanswer
    rw [hpolicy] at hevaluated
    exact ranked_agree_iff hmemory hevaluated
  · obtain ⟨evaluated, hevaluated, hcandidates⟩ :=
      saves_run Api.createCandidateSet_saves env w candidateSet hcandidateSet
    rw [hpolicy] at hevaluated
    rw [hcandidates]
    exact displayed_agree_iff hmemory hevaluated
  · rcases createCandidateSet_granted hrun with ⟨hreplays, -⟩ | ⟨hsets, -⟩
    · exact .inl hreplays
    · exact .inr hsets

end Agreement

/-! ### A traveler who wants an hour to connect -/

/-- The graph that an assessment of the filed trip starts. -/
def filedGraph : GraphInput :=
  (escalationOf .switchedOn .still (fun _ => answering (rebooking "Rebook." true (by decide)))
    filedTripManager (.v4 1) none filedTrip).graphs.get ⟨0, by decide +kernel⟩

theorem filedGraph_minimum :
    filedGraph.profile.bind TravelerPreferenceProfile.minimumConnectionMinutes = some 60 := by
  decide +kernel

theorem not_meetsMinimum_filedGraph :
    ¬ MeetsMinimum filedGraph.profile {} fixtureAlternatives := by
  intro h
  obtain ⟨profile, hprofile, hminimum⟩ := Option.bind_eq_some_iff.mp filedGraph_minimum
  obtain ⟨candidate, hcandidate, hbelow, heligible⟩ : ∃ candidate ∈ fixtureAlternatives,
      candidate.connectionMinutes < 60 ∧ PolicyEligible candidate {} :=
    ⟨_, List.mem_cons_of_mem _ (List.mem_singleton.mpr rfl), by decide, by decide, by decide⟩
  have hle := h profile hprofile 60 hminimum candidate hcandidate heligible
  omega

/-- The alternatives of the trip list an option that its graph has excluded. -/
theorem minimum_left_out :
    ¬ ∀ answer,
      ((Api.alternativesForTrip .switchedOn fixtureAlternatives filedTripManager (.v4 1)).run
        Env.still.exec filedTrip).1 = .ok answer →
      ∃ s', Graph.recoveryOptions (Graph.loadMemoryContext filedGraph.state) fixtureAlternatives =
          .ok s' ∧
        s'.eligibleAlternatives.map EvaluatedCandidate.shown =
          answer.map EvaluatedCandidate.shown := by
  intro h
  have hok : ((Api.alternativesForTrip .switchedOn fixtureAlternatives filedTripManager
      (.v4 1)).run Env.still.exec filedTrip).1.isOk = true := by decide +kernel
  cases hrun : ((Api.alternativesForTrip .switchedOn fixtureAlternatives filedTripManager
      (.v4 1)).run Env.still.exec filedTrip).1 with
  | error fault =>
    rw [hrun] at hok
    cases hok
  | ok answer =>
    have hagree := h answer hrun
    obtain ⟨evaluated, hevaluated, rfl⟩ := Api.alternativesForTrip_eq_ok hrun
    exact not_meetsMinimum_filedGraph ((ranked_agree_iff rfl hevaluated).mp hagree)

/-- An incident of the trip. -/
def filedIncident : World .memory where
  store := filedTrip.store.saveIncident
    { incidentId := .v4 2
      tenantId := "tenant"
      tripId := .v4 1
      assessmentId := .v4 3
      severity := .high
      correlationId := .v4 4
      createdAt := 0
      updatedAt := 0 }

/-- What a manager's candidate set for the incident leaves. -/
def filedCandidateSet : Except Fault RecoveryCandidateSet × World .memory × Escalation :=
  (Api.createCandidateSet .switchedOn filedTripManager (.v4 2) fixtureAlternatives).run
    (Env.still.recorded Env.still.invokeGraph) (filedIncident, {})

theorem recovery_constraints_agree_iff_filed :
    (∀ answer,
      ((Api.alternativesForTrip .switchedOn fixtureAlternatives filedTripManager (.v4 1)).run
          Env.still.exec filedIncident).1 = .ok answer →
        ((∃ s', Graph.recoveryOptions (Graph.loadMemoryContext filedGraph.state)
              fixtureAlternatives = .ok s' ∧
            s'.eligibleAlternatives.map EvaluatedCandidate.shown =
              answer.map EvaluatedCandidate.shown) ↔
          MeetsMinimum filedGraph.profile {} fixtureAlternatives)) ∧
    (∀ candidateSet ∈ filedCandidateSet.2.2.sets,
      (∃ s' alternatives, Graph.recoveryOptions (Graph.loadMemoryContext filedGraph.state)
            fixtureAlternatives = .ok s' ∧
          s'.alternativeCandidates = some alternatives ∧
          alternatives.map EvaluatedCandidate.shown =
            candidateSet.candidates.map EvaluatedCandidate.shown) ↔
        MeetsMinimum filedGraph.profile {} fixtureAlternatives) ∧
    filedCandidateSet.1.isOk = true ∧ filedCandidateSet.2.2.sets.length = 1 := by
  obtain ⟨halternatives, hsets, -⟩ := @recovery_constraints_agree_iff .switchedOn filedGraph
    (Graph.loadMemoryContext filedGraph.state) fixtureAlternatives rfl rfl .memory Env.still
    filedIncident filedTripManager (.v4 1) (.v4 2)
  exact ⟨halternatives, hsets, by decide +kernel, by decide +kernel⟩

end RouteShield
