import RouteShield.Api.Checks
import RouteShield.Api.Controls
import RouteShield.Api.Incidents

/-!
How a decision request goes through its calls. It reads the incident twice, once for access
and once to decide; from the second read to the save of the incident it is deciding, and in
between it saves the approval and may queue an action.
-/

namespace RouteShield

inductive DecisionPhase where
  | entered
  | checked
  | deciding (incident : Incident) (approval : Option ApprovalRecord) (queued : Bool)
  | over

namespace DecisionPhase

/-- The phase after a call and its answer. -/
def advance : DecisionPhase → {α : Type} → Effect α → Except Fault α → DecisionPhase
  | .entered, _, .repo (.getIncident _ _), _ => .checked
  | .checked, _, .repo (.getIncident _ _), .ok (some incident) =>
    if incident.status = .pendingApproval then .deciding incident none false else .over
  | .checked, _, .repo (.getIncident _ _), _ => .over
  | .deciding incident _ queued, _, .repo (.saveApproval approval), _ =>
    .deciding incident (some approval) queued
  | .deciding incident approval _, _, .repo (.saveActionDispatch _), _ =>
    .deciding incident approval true
  | .deciding _ _ _, _, .repo (.saveIncident _), _ => .over
  | phase, _, _, _ => phase

/-- The calls that can move the phase. -/
def moves : {α : Type} → Effect α → Bool
  | _, .repo (.getIncident _ _) => true
  | _, .repo (.saveApproval _) => true
  | _, .repo (.saveActionDispatch _) => true
  | _, .repo (.saveIncident _) => true
  | _, _ => false

theorem advance_still (phase : DecisionPhase) {α : Type} {op : Effect α} (h : moves op = false)
    (r : Except Fault α) : phase.advance op r = phase := by
  unfold advance
  split <;> first | rfl | cases h

/-- A decision begins when the second read finds the incident waiting. -/
theorem deciding_of_advance {phase : DecisionPhase} {tenantId : String} {incidentId : Uuid}
    {r : Except Fault (Option Incident)} {incident : Incident} {approval : Option ApprovalRecord}
    {queued : Bool} (hphase : phase = .entered ∨ phase = .checked)
    (h : phase.advance (.repo (.getIncident tenantId incidentId)) r =
      .deciding incident approval queued) :
    phase = .checked ∧ r = .ok (some incident) ∧ incident.status = .pendingApproval ∧
      approval = none ∧ queued = false := by
  rcases hphase with rfl | rfl
  · cases h
  · rcases r with fault | _ | found
    · cases h
    · cases h
    · simp only [advance] at h
      split_ifs at h with hpending
      cases h
      exact ⟨rfl, rfl, hpending, rfl, rfl⟩

/-- An action is in the outbox and its incident still waits for a decision. -/
def Queued : DecisionPhase → Prop
  | .deciding _ _ queued => queued = true
  | _ => False

def Deciding : DecisionPhase → Prop
  | .deciding _ _ _ => True
  | _ => False

theorem Queued.deciding {phase : DecisionPhase} (h : phase.Queued) : phase.Deciding := by
  cases phase with
  | deciding => trivial
  | _ => exact h

end DecisionPhase

/-- The phase, with the ticks so far and the last identifier drawn for an event. -/
structure DecisionGhost where
  tick : ℕ
  phase : DecisionPhase
  drawn : Option Uuid := none

def DecisionGhost.advance (g : DecisionGhost) {α : Type} (op : Effect α) (r : Except Fault α) :
    DecisionGhost where
  tick := g.tick + 1
  phase := g.phase.advance op r
  drawn := drawnAfter g.drawn op r

/-- What depends on the use: the incidents, control values and answers of event recording that
a decision may count on, the decisions that may queue an action, and where it may stop. -/
structure DecisionTerms where
  incident : Incident → Prop
  override : ℕ → String → RuntimeControlName → Except Fault (Option RuntimeControlChange) → Prop
  platform : ℕ → RuntimeControlName → Except Fault (Option PlatformRuntimeControlChange) → Prop
  event : Except Fault Unit → Prop
  mayQueue : ApprovalDecision → Prop
  stop : DecisionPhase → Prop
  stop_of_not_queued : ∀ phase, ¬phase.Queued → stop phase
  stop_of_refused : ∀ fault, event (.error fault) → ∀ phase, stop phase

namespace DecisionTerms

def allowed (terms : DecisionTerms) (g : DecisionGhost) : {α : Type} → Effect α → Prop
  | _, .repo (.saveApproval approval) =>
    ∃ incident, g.phase = .deciding incident none false ∧
      approval.incidentId = incident.incidentId
  | _, .repo (.saveActionDispatch action) =>
    ∃ incident approval, g.phase = .deciding incident (some approval) false ∧
      action.incidentId = incident.incidentId ∧ action.approvalId = approval.approvalId ∧
      terms.mayQueue approval.decision
  | _, .repo (.saveIncident incident') =>
    ∃ incident approval queued, g.phase = .deciding incident (some approval) queued ∧
      incident'.incidentId = incident.incidentId ∧
      incident'.status = Api.decidedStatus approval.decision
  | _, .repo (.recordEvent event) => g.drawn = some event.eventId
  | _, .repo (.getIncident _ _) => g.phase = .entered ∨ g.phase = .checked
  | _, .repo (.claimDueActionDispatches _) => False
  | _, .repo (.completeActionDispatch _ _ _) => False
  | _, .repo (.saveRuntimeControlChange _) => False
  | _, .repo (.savePlatformControlChange _) => False
  | _, .repo (.eraseTravelerData _ _ _) => False
  | _, .repo (.purgeExpired _) => False
  | _, .sendAction _ => False
  | _, _ => True

def promised (terms : DecisionTerms) (g : DecisionGhost) :
    {α : Type} → Effect α → Except Fault α → Prop
  | _, .now, r => ∃ time, r = .ok time
  | _, .uuid4, r => ∃ id, r = .ok id
  | _, .repo (.getIncident _ incidentId), r =>
    ∀ incident, r = .ok (some incident) →
      incident.incidentId = incidentId ∧ terms.incident incident
  | _, .repo (.saveApproval _), r => r = .ok ()
  | _, .repo (.saveActionDispatch _), r => r = .ok ()
  | _, .repo (.saveIncident _), r => r = .ok ()
  | _, .repo (.getRuntimeControlOverride tenantId controlName), r =>
    terms.override g.tick tenantId controlName r
  | _, .repo (.getPlatformControlOverride controlName), r => terms.platform g.tick controlName r
  | _, .repo (.recordEvent _), r => terms.event r
  | _, _, _ => True

def contract (terms : DecisionTerms) : Prog.Contract Effect Fault DecisionGhost where
  allowed g := terms.allowed g
  promised g := terms.promised g
  advance g := g.advance
  stop g := terms.stop g.phase

end DecisionTerms

/-- A decision on a pending incident may queue an action when the control, read at its tick,
is on. -/
def DecisionTerms.MayQueue (terms : DecisionTerms) (svc : Service) (tick : ℕ) (tenantId : String)
    (incidentId : Uuid) (payload : ApprovalRequest) : Prop :=
  payload.finalActionPayload ≠ [] →
    ∀ incident, terms.incident incident → incident.incidentId = incidentId →
      incident.status = .pendingApproval →
    ∀ o p, terms.override tick tenantId .approvalActionsEnabled (.ok o) →
      (o = none → terms.platform (tick + 1) .approvalActionsEnabled (.ok p)) →
      svc.controlValue o p .approvalActionsEnabled = true → terms.mayQueue payload.decision

namespace Api

open Prog

variable {svc : Service} {terms : DecisionTerms} {g : DecisionGhost} {α : Type}
  {Q : DecisionGhost → α → Prop}

/-! ### The parts of a decision -/

theorem now_follows {Q : DecisionGhost → Time → Prop}
    (h : ∀ time, Q { g with tick := g.tick + 1 } time) : now.Follows terms.contract Q g := by
  refine ⟨trivial, fun r hr => ?_⟩
  obtain ⟨time, rfl⟩ := hr
  show Q ⟨g.tick + 1, g.phase.advance _ _, _⟩ time
  rw [g.phase.advance_still rfl]
  exact h time

theorem uuid4_follows {Q : DecisionGhost → Uuid → Prop}
    (h : ∀ id, Q { g with tick := g.tick + 1, drawn := some id } id) :
    uuid4.Follows terms.contract Q g := by
  refine ⟨trivial, fun r hr => ?_⟩
  obtain ⟨id, rfl⟩ := hr
  show Q ⟨g.tick + 1, g.phase.advance _ _, _⟩ id
  rw [g.phase.advance_still rfl]
  exact h id

/-- A read or write that the phase does not depend on, outside the stretch with an action. -/
theorem still_follows {op : Effect α} (hstill : DecisionPhase.moves op = false)
    (hallowed : terms.allowed g op) (hstop : terms.stop g.phase)
    (h : ∀ a, terms.promised g op (.ok a) →
      Q ⟨g.tick + 1, g.phase, drawnAfter g.drawn op (.ok a)⟩ a) :
    (perform op).Follows terms.contract Q g := by
  refine follows_perform hallowed (fun a ha => ?_) fun e _ => ?_
  · show Q ⟨g.tick + 1, g.phase.advance op (.ok a), _⟩ a
    rw [g.phase.advance_still hstill]
    exact h a ha
  · show terms.stop (g.phase.advance op (.error e))
    rwa [g.phase.advance_still hstill]

/-- An event is recorded in every phase: where recording may be refused, a decision may stop. -/
theorem recordEvent_follows {fields : EventFields} {key : String}
    {Q : DecisionGhost → Uuid → Prop} (h : ∀ id, Q ⟨g.tick + 3, g.phase, none⟩ id) :
    (recordEvent fields key).Follows terms.contract Q g := by
  refine follows_seq (uuid4_follows fun eventId => ?_)
  refine follows_seq (now_follows fun emittedAt => ?_)
  refine follows_seq (follows_perform rfl (fun _ _ => ?_)
    fun fault hfault => terms.stop_of_refused fault hfault _)
  show Q ⟨g.tick + 3, g.phase.advance _ _, none⟩ eventId
  rw [g.phase.advance_still rfl]
  exact h eventId

theorem emitEvent_follows {fields : EventFields} {Q : DecisionGhost → Unit → Prop}
    (h : Q ⟨g.tick + 3, g.phase, none⟩ ()) : (emitEvent fields).Follows terms.contract Q g :=
  follows_seq (recordEvent_follows fun _ => follows_pure h)

/-- Until an action is queued, checks may raise. -/
theorem check_follows {p : Api α} (hp : p.CallFree) (hq : ¬g.phase.Queued)
    (h : ∀ a, p = pure a → Q g a) : p.Follows terms.contract Q g :=
  follows_callFree hp h (terms.stop_of_not_queued _ hq)

theorem getIncident_follows {tenantId : String} {incidentId : Uuid}
    (hg : g.phase = .entered ∨ g.phase = .checked)
    {Q : DecisionGhost → Option Incident → Prop}
    (h : ∀ found, (∀ incident, found = some incident →
        incident.incidentId = incidentId ∧ terms.incident incident) →
      Q ⟨g.tick + 1, g.phase.advance (.repo (.getIncident tenantId incidentId)) (.ok found),
        g.drawn⟩ found)
    (hstop : ∀ e, ¬(g.phase.advance (.repo (.getIncident tenantId incidentId))
      (.error e)).Queued) :
    (repo (.getIncident tenantId incidentId)).Follows terms.contract Q g := by
  refine follows_perform hg (fun found hfound => h found ?_) fun e _ => ?_
  · exact fun incident hi => hfound incident (by rw [hi])
  · exact terms.stop_of_not_queued _ (hstop e)

theorem controlEnabled_follows {tenantId : String} {name : RuntimeControlName}
    {Q : DecisionGhost → Bool → Prop} (hq : ¬g.phase.Queued)
    (h : ∀ o p, terms.override g.tick tenantId name (.ok o) →
      (o = none → terms.platform (g.tick + 1) name (.ok p)) →
      ∀ tick, Q ⟨tick, g.phase, g.drawn⟩ (svc.controlValue o p name)) :
    (controlEnabled svc tenantId name).Follows terms.contract Q g := by
  have hstop := terms.stop_of_not_queued _ hq
  refine follows_seq (still_follows rfl trivial hstop fun o ho => ?_)
  cases o with
  | some override => exact follows_pure (h (some override) none ho (by simp) _)
  | none =>
    refine follows_seq (still_follows rfl trivial hstop fun p hp => ?_)
    have hv := h none p ho (fun _ => hp) (g.tick + 1 + 1)
    cases p with
    | some platform => exact follows_pure hv
    | none => exact follows_pure hv

/-- The access check reads the incident for the first time. -/
theorem requireIncidentTripAccess_follows {tenantId : String} {incidentId : Uuid}
    {caller : Caller} {roles : List UserRole} {Q : DecisionGhost → Incident × Trip → Prop}
    (hg : g.phase = .entered) (h : ∀ a, Q ⟨g.tick + 2, .checked, g.drawn⟩ a) :
    (requireIncidentTripAccess svc tenantId incidentId caller roles).Follows terms.contract Q
      g := by
  have hq : ¬DecisionPhase.checked.Queued := id
  refine follows_seq (getIncident_follows (.inl hg) (fun found _ => ?_) fun e => ?_)
  · rw [hg]
    refine follows_seq (check_follows (callFree_found _ _ _) hq fun incident _ => ?_)
    refine follows_seq (still_follows rfl trivial (terms.stop_of_not_queued _ hq) fun trip? _ => ?_)
    refine follows_seq (check_follows (callFree_found _ _ _) hq fun trip _ => ?_)
    refine follows_seq (check_follows (callFree_requireTripAccess _ _ _) hq fun _ _ => ?_)
    exact follows_pure (h (incident, trip))
  · rw [hg]
    exact hq

theorem claimOptionalMutation_follows {tenantId key scope : String} {keyHeader : Option String}
    {payload : Payload} {Q : DecisionGhost → Option String × Option MutationRecord → Prop}
    (hkey : keyed keyHeader = some key) (hq : ¬g.phase.Queued)
    (h : ∀ a, Q ⟨g.tick + 2, g.phase, g.drawn⟩ a) :
    (claimOptionalMutation svc tenantId keyHeader scope payload).Follows terms.contract Q g := by
  have hstop := terms.stop_of_not_queued _ hq
  unfold claimOptionalMutation
  rw [hkey]
  refine follows_seq (follows_seq (now_follows fun claimedAt => ?_))
  refine follows_seq (still_follows rfl trivial hstop ?_)
  rintro ⟨disposition, record⟩ -
  cases disposition with
  | execute => exact follows_pure (follows_pure (h _))
  | replay => exact follows_pure (follows_pure (h _))
  | conflict => exact follows_throw hstop
  | inProgress => exact follows_throw hstop

theorem completeOptionalMutation_follows {tenantId : String} {key requestHash : Option String}
    {status : ℕ} {response : Response} {Q : DecisionGhost → Unit → Prop} (hq : ¬g.phase.Queued)
    (h : ∀ g' : DecisionGhost, g'.phase = g.phase → Q g' ()) :
    (completeOptionalMutation tenantId key requestHash status response).Follows terms.contract Q
      g := by
  unfold completeOptionalMutation
  split
  · refine follows_seq (still_follows rfl trivial (terms.stop_of_not_queued _ hq) fun _ _ => ?_)
    exact follows_pure (h _ rfl)
  · exact follows_pure (h g rfl)

/-! ### The decision -/

theorem queueAction_follows {incident : Incident} {approval : ApprovalRecord} {tenantId : String}
    {Q : DecisionGhost → ActionDispatchRecord → Prop}
    (hg : g.phase = .deciding incident (some approval) false)
    (hmay : terms.mayQueue approval.decision)
    (h : ∀ (g' : DecisionGhost) action,
      g'.phase = .deciding incident (some approval) true → Q g' action) :
    (queueAction incident approval tenantId).Follows terms.contract Q g := by
  have hq : ¬g.phase.Queued := by rw [hg]; exact Bool.false_ne_true
  refine follows_seq (check_follows (callFree_validate _ _) hq fun _ _ => ?_)
  refine follows_seq (now_follows fun nextAttemptAt => ?_)
  refine follows_seq (now_follows fun createdAt => ?_)
  refine follows_seq (now_follows fun updatedAt => ?_)
  refine follows_seq (follows_perform ⟨incident, approval, hg, rfl, rfl, hmay⟩ (fun _ _ => ?_)
    fun e he => by cases he)
  refine follows_seq (emitEvent_follows (follows_pure (h _ _ ?_)))
  show DecisionPhase.advance g.phase _ _ = _
  rw [hg]
  rfl

theorem applyDecision_follows {incident : Incident} {approval : ApprovalRecord}
    {tenantId : String} {Q : DecisionGhost → Option ActionDispatchRecord → Prop}
    (hg : g.phase = .deciding incident none false)
    (hid : approval.incidentId = incident.incidentId)
    (hmay : approval.finalActionPayload ≠ [] → approval.actionDispatchStatus = "pending" →
      terms.mayQueue approval.decision)
    (h : ∀ (g' : DecisionGhost) action, g'.phase = .over → Q g' action) :
    (applyDecision incident approval tenantId).Follows terms.contract Q g := by
  refine follows_seq (follows_perform ⟨incident, hg, hid⟩ (fun _ _ => ?_) fun e he => by cases he)
  have hsaved : (terms.contract.advance g (.repo (.saveApproval approval)) (.ok ())).phase =
      .deciding incident (some approval) false := by
    show DecisionPhase.advance g.phase _ _ = _
    rw [hg]
    rfl
  refine follows_bind (P := fun (g' : DecisionGhost) _ => ∃ queued, g'.phase =
    .deciding incident (some approval) queued) ?_ fun g' action hg' => ?_
  · unfold queuePending
    split_ifs with haction
    · refine follows_seq (queueAction_follows hsaved (hmay haction.1 haction.2) ?_)
      exact fun g' action hg' => follows_pure ⟨true, hg'⟩
    · exact follows_pure ⟨false, hsaved⟩
  · obtain ⟨queued, hg'⟩ := hg'
    refine follows_seq (follows_perform ⟨incident, approval, queued, hg', rfl, rfl⟩
      (fun _ _ => follows_pure (h _ action ?_)) fun e he => by cases he)
    show DecisionPhase.advance g'.phase _ _ = _
    rw [hg']
    rfl

theorem announceDecision_follows {incident : Incident} {approval : ApprovalRecord}
    {tenantId : String} {action : Option ActionDispatchRecord} {Q : DecisionGhost → Unit → Prop}
    (hg : g.phase = .over) (h : ∀ g' : DecisionGhost, g'.phase = .over → Q g' ()) :
    (announceDecision incident approval tenantId action).Follows terms.contract Q g := by
  refine follows_bind (P := fun (g' : DecisionGhost) _ => g'.phase = .over) ?_ fun g' _ hg' =>
    emitEvent_follows (h _ hg')
  unfold resumeGraph
  split
  · exact still_follows rfl trivial (terms.stop_of_not_queued _ (by rw [hg]; exact id))
      fun _ _ => hg
  · exact follows_pure hg

/-- The action of a decision waits only when the control was read as on. -/
theorem dispatchStatus_follows {tenantId : String} {payload : JsonObject}
    {Q : DecisionGhost → String → Prop} (hq : ¬g.phase.Queued)
    (h : ∀ status, (payload ≠ [] → status = "pending" →
        ∃ o p, terms.override g.tick tenantId .approvalActionsEnabled (.ok o) ∧
          (o = none → terms.platform (g.tick + 1) .approvalActionsEnabled (.ok p)) ∧
          svc.controlValue o p .approvalActionsEnabled = true) →
      ∀ tick, Q ⟨tick, g.phase, g.drawn⟩ status) :
    (dispatchStatus svc tenantId payload).Follows terms.contract Q g := by
  unfold dispatchStatus
  split_ifs with hp
  · exact follows_pure (h _ (fun hne => absurd hp hne) _)
  · refine follows_seq (controlEnabled_follows hq fun o p ho hp' tick => ?_)
    split_ifs with hon
    · exact follows_pure (h _ (fun _ _ => ⟨o, p, ho, hp', hon⟩) tick)
    · exact follows_pure (h _ (fun _ hs => absurd hs (by decide)) tick)

theorem decideIncident_follows {incidentId : Uuid} {payload : ApprovalRequest} {tenantId : String}
    {Q : DecisionGhost → ApprovalRecord → Prop} (hg : g.phase = .checked)
    (hmay : terms.MayQueue svc (g.tick + 1) tenantId incidentId payload)
    (h : ∀ (g' : DecisionGhost) approval, g'.phase = .over → Q g' approval) :
    (decideIncident svc incidentId payload tenantId).Follows terms.contract Q g := by
  refine follows_seq (getIncident_follows (.inr hg) (fun found hid => ?_)
    fun e => by rw [hg]; exact id)
  have hq : ¬(g.phase.advance (.repo (.getIncident tenantId incidentId)) (.ok found)).Queued := by
    rw [hg]
    cases found with
    | none => exact id
    | some incident =>
      show ¬DecisionPhase.Queued (if _ then _ else _)
      split_ifs
      · exact Bool.false_ne_true
      · exact id
  refine follows_seq (check_follows (callFree_found _ _ _) hq fun incident hfound => ?_)
  obtain rfl := found_eq_pure hfound
  obtain ⟨hid, hincident⟩ := hid incident rfl
  refine follows_seq (check_follows (callFree_require _ _ _) hq fun _ hpending => ?_)
  have hpending : incident.status = .pendingApproval := by simpa using require_eq_pure hpending
  have hdeciding : g.phase.advance (.repo (.getIncident tenantId incidentId))
      (.ok (some incident)) = .deciding incident none false := by
    rw [hg]
    exact if_pos hpending
  rw [hdeciding] at hq ⊢
  refine follows_seq (dispatchStatus_follows hq fun status hstatus tick => ?_)
  refine follows_seq (uuid4_follows fun approvalId => ?_)
  refine follows_seq (now_follows fun decidedAt => ?_)
  refine follows_seq (applyDecision_follows rfl hid.symm ?_ ?_)
  · intro hp hs
    obtain ⟨o, p, ho, hpl, hon⟩ := hstatus hp hs
    exact hmay hp incident hincident hid hpending o p ho hpl hon
  · intro g' action hg'
    refine follows_seq (announceDecision_follows hg' fun g'' hg'' => ?_)
    exact follows_pure (h g'' _ hg'')

/-- A request to decide, from its checks to its stored response, does not return between the approval
and the incident. -/
theorem decide_ends {decision : ApprovalDecision} {caller : Caller} {incidentId : Uuid}
    {payload : ApprovalRequest} {tick : ℕ} {d : Option Uuid}
    (hmay : ∀ tenantId, caller.tenantId = some tenantId → payload.decision = decision →
      terms.MayQueue svc (tick + 5) tenantId incidentId payload) :
    (decide svc decision caller incidentId payload).Follows terms.contract
      (fun g' _ => ¬g'.phase.Deciding) ⟨tick, .entered, d⟩ := by
  have hq : ¬DecisionPhase.entered.Queued := id
  have hq' : ¬DecisionPhase.checked.Queued := id
  refine follows_seq (check_follows (callFree_requireRole _ _) hq fun _ _ => ?_)
  refine follows_seq (check_follows (callFree_requireActorMatchesPayload _ _) hq fun _ _ => ?_)
  refine follows_seq (check_follows (callFree_require _ _ _) hq fun _ hkey => ?_)
  refine follows_seq (check_follows (callFree_require _ _ _) hq fun _ hdecision => ?_)
  refine follows_seq (check_follows (callFree_requireTenant _) hq fun tenantId htenant => ?_)
  refine follows_seq (requireIncidentTripAccess_follows rfl fun _ => ?_)
  obtain ⟨key, hkey⟩ := Option.isSome_iff_exists.mp (require_eq_pure hkey)
  refine follows_seq (claimOptionalMutation_follows hkey hq' fun claimed => ?_)
  obtain ⟨requestHash, replay⟩ := claimed
  cases replay with
  | some record => exact check_follows (callFree_replay _ _) hq' fun _ _ => id
  | none =>
    have hpayload : payload.decision = decision := by simpa using require_eq_pure hdecision
    refine follows_seq (decideIncident_follows rfl
      (hmay tenantId (requireTenant_eq_pure htenant).1 hpayload) fun g' approval hg' => ?_)
    have hover : ¬g'.phase.Deciding := by rw [hg']; exact id
    refine follows_seq (completeOptionalMutation_follows (fun hq => hover hq.deciding)
      fun g'' hg'' => ?_)
    exact follows_pure (hg''.symm ▸ hover)

theorem decide_follows {decision : ApprovalDecision} {caller : Caller} {incidentId : Uuid}
    {payload : ApprovalRequest} {tick : ℕ} {d : Option Uuid}
    (hmay : ∀ tenantId, caller.tenantId = some tenantId → payload.decision = decision →
      terms.MayQueue svc (tick + 5) tenantId incidentId payload) :
    (decide svc decision caller incidentId payload).Follows terms.contract
      (fun g' _ => ¬g'.phase.Queued) ⟨tick, .entered, d⟩ :=
  follows_mono (decide_ends hmay) fun _ _ hend hq => hend hq.deciding

end Api

end RouteShield
