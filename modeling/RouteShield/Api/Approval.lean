import RouteShield.Api.DecisionContract
import RouteShield.Api.Notifications
import RouteShield.Lib.Runs

/-!
Which actions reach the outbox. A run takes approve and reject requests, dispatch jobs and
changes made elsewhere in any order. Each action in the outbox, and each action handed to
the sender, belongs to a recorded approval, as long as no reject request carries a payload
while the control is on.
-/

namespace RouteShield

variable {b : Backend} [DecisionStore b]

/-- The action refers to a recorded approval of its incident that approves. -/
def DecisionView.Approved (v : DecisionView) (action : ActionDispatchRecord) : Prop :=
  ∃ approval, v.approval action.incidentId = some approval ∧
    approval.incidentId = action.incidentId ∧ approval.approvalId = action.approvalId ∧
    approval.decision = .approve

/-- The incident, if it is there, waits for no decision. -/
def DecisionView.Decided (v : DecisionView) (incidentId : Uuid) : Prop :=
  ∀ incident, v.incident incidentId = some incident → incident.status ≠ .pendingApproval

/-- The action is in the outbox or was handed to the sender. -/
def World.Knows (w : World b) (action : ActionDispatchRecord) : Prop :=
  action ∈ w.decisions.outbox ∨ action ∈ w.sent

/-- Recorded events were drawn before the tick. -/
def EventsBefore (v : DecisionView) (tick : ℕ) : Prop :=
  ∀ n, .v4 n ∈ v.eventIds → n.unpair.1 < tick

structure Sound (w : World b) : Prop where
  events : EventsBefore w.decisions w.tick
  approved : ∀ action, w.Knows action → w.decisions.Approved action
  decided : ∀ action, w.Knows action → w.decisions.Decided action.incidentId

theorem drawn_notMem_eventIds {v : DecisionView} {tick : ℕ} (h : EventsBefore v tick) (k : ℕ) :
    drawn tick k ∉ v.eventIds := by
  intro hmem
  have hlt := h _ hmem
  simp at hlt

/-- A view with one more event, drawn at an earlier tick. -/
theorem EventsBefore.of_subset {v v' : DecisionView} {tick tick' : ℕ} (h : EventsBefore v tick)
    (hle : tick ≤ tick') {id : Uuid} (hid : ∀ n, id = .v4 n → n.unpair.1 < tick')
    (hv : ∀ i ∈ v'.eventIds, i = id ∨ i ∈ v.eventIds) : EventsBefore v' tick' := by
  intro n hn
  rcases hv _ hn with hn | hn
  · exact hid n hn.symm
  · exact (h n hn).trans_le hle

/-! ### The dispatch job -/

/-- The job hands over, and saves, only actions it was given. -/
def dispatchContract (given : ActionDispatchRecord → Prop) :
    Prog.Contract Effect Fault (Option Uuid) where
  allowed drawn {_} op := match op with
    | .repo (.saveActionDispatch action) => given action
    | .repo (.completeActionDispatch action _ _) => given action
    | .sendAction action => given action
    | .repo (.recordEvent event) => drawn = some event.eventId
    | .repo (.saveApproval _) => False
    | .repo (.saveIncident _) => False
    | .repo (.saveRuntimeControlChange _) => False
    | .repo (.savePlatformControlChange _) => False
    | .repo (.eraseTravelerData _ _ _) => False
    | .repo (.purgeExpired _) => False
    | _ => True
  promised _ {_} op r := match op with
    | .uuid4 => ∃ id, r = .ok id
    | .now => ∃ time, r = .ok time
    | .repo (.claimDueActionDispatches _) => ∀ claimed, r = .ok claimed → ∀ a ∈ claimed, given a
    | _ => True
  advance drawn {_} op r := drawnAfter drawn op r
  stop _ := True


namespace Api

open Prog

variable {svc : Service} {given : ActionDispatchRecord → Prop} {d : Option Uuid}

/-- A call that the job's contract says nothing about. -/
theorem dispatch_perform {α : Type} {op : Effect α}
    (h : (dispatchContract given).allowed d op) :
    (perform op : Api α).Follows (dispatchContract given) (fun _ _ => True) d :=
  follows_perform h (fun _ _ => trivial) fun _ _ => trivial

theorem dispatch_callFree {α : Type} {p : Api α} (hp : p.CallFree) :
    p.Follows (dispatchContract given) (fun _ _ => True) d :=
  follows_callFree hp (fun _ _ => trivial) trivial

theorem dispatch_controlEnabled (tenantId : String) (name : RuntimeControlName) :
    (controlEnabled svc tenantId name).Follows (dispatchContract given) (fun _ _ => True) d := by
  refine follows_bind (dispatch_perform trivial) fun d' override _ => ?_
  cases override with
  | some o => exact trivial
  | none =>
    refine follows_bind (dispatch_perform trivial) fun d'' platform _ => ?_
    cases platform <;> exact trivial

theorem dispatch_automationEnabled (tenantId : String) (name : RuntimeControlName) :
    (automationEnabled svc tenantId name).Follows (dispatchContract given) (fun _ _ => True) d := by
  refine follows_bind (dispatch_controlEnabled tenantId name) fun d' on _ => ?_
  cases on with
  | true => exact dispatch_controlEnabled tenantId _
  | false => exact trivial

theorem dispatch_emitEvent (fields : EventFields) :
    (emitEvent fields).Follows (dispatchContract given) (fun _ _ => True) d := by
  refine follows_seq (follows_seq ⟨trivial, fun r hr => ?_⟩)
  obtain ⟨eventId, rfl⟩ := hr
  refine follows_seq ⟨trivial, fun r hr => ?_⟩
  obtain ⟨emittedAt, rfl⟩ := hr
  exact follows_bind (dispatch_perform rfl) fun _ _ _ => trivial

theorem dispatch_emitDispatched (tenantId : String) (incidentId : Uuid)
    (outcome : ActionDispatchRecord) :
    (emitDispatched tenantId incidentId outcome).Follows (dispatchContract given)
      (fun _ _ => True) d := by
  refine follows_bind (P := fun _ _ => True) ?_ fun d' origin _ => dispatch_emitEvent _
  refine follows_bind (dispatch_perform trivial) fun d' incident _ => ?_
  cases incident with
  | some i => exact trivial
  | none => exact follows_bind (dispatch_perform trivial) fun _ _ _ => trivial

/-- An attempt keeps the decision of its action. -/
theorem attempted_same (action : ActionDispatchRecord) (result : ActionDispatchResult)
    (now : Time) : (action.attempted result now).1.SameDecision action := by
  unfold ActionDispatchRecord.attempted
  dsimp only
  split_ifs <;> exact ⟨rfl, rfl⟩

theorem dispatch_commitAction {claim : Option DispatchClaim} {attempted : ActionDispatchRecord}
    (h : given attempted) (attempt : ActionDispatchAttempt) :
    (commitAction claim attempted attempt).Follows (dispatchContract given) (fun _ _ => True)
      d := by
  cases claim with
  | some claim => exact follows_bind (dispatch_perform h) fun _ _ _ => trivial
  | none =>
    refine follows_bind (dispatch_perform h) fun d' _ _ => ?_
    exact follows_bind (dispatch_perform trivial) fun _ _ _ => trivial

theorem dispatch_attemptAction (hgiven : ∀ a a' : ActionDispatchRecord, a'.SameDecision a →
      given a → given a') {action : ActionDispatchRecord} (h : given action) (timestamp : Time) :
    (attemptAction action timestamp).Follows (dispatchContract given) (fun _ _ => True) d := by
  refine follows_bind (P := fun _ _ => True) ?_ fun d' result _ => ?_
  · refine follows_seq ⟨h, fun r _ => ?_⟩
    cases r <;> exact trivial
  · refine follows_bind (dispatch_callFree (callFree_validate _ _)) fun d'' _ _ => ?_
    refine follows_bind (dispatch_perform trivial) fun d'' attemptId _ => ?_
    exact dispatch_commitAction (hgiven action _ (attempted_same action result timestamp) h) _

theorem dispatch_claimedAction (hgiven : ∀ a a' : ActionDispatchRecord, a'.SameDecision a →
      given a → given a') {action : ActionDispatchRecord} (h : given action) :
    (dispatchClaimedAction svc action).Follows (dispatchContract given) (fun _ _ => True) d := by
  refine follows_bind (dispatch_automationEnabled _ _) fun d' on _ => ?_
  cases on with
  | false => exact trivial
  | true =>
    refine follows_bind (P := fun _ _ => True) ?_ fun d'' outcome _ => ?_
    · unfold dispatchApprovedAction
      split_ifs with hwaiting
      · refine follows_bind (dispatch_perform trivial) fun d'' timestamp _ => ?_
        split_ifs
        · exact dispatch_attemptAction hgiven h timestamp
        · exact trivial
      · exact trivial
    · exact follows_bind (dispatch_emitDispatched _ _ _) fun _ _ _ => trivial

theorem dispatchApprovedActionsJob_follows (svc : Service) (hgiven : ∀ a a' : ActionDispatchRecord,
      a'.SameDecision a → given a → given a') :
    (dispatchApprovedActionsJob svc).Follows (dispatchContract given) (fun _ _ => True) d := by
  refine follows_bind (P := fun _ claimed => ∀ a ∈ claimed, given a)
    (follows_perform trivial (fun claimed h => h claimed rfl) fun _ _ => trivial)
    fun d' claimed hclaimed => ?_
  refine follows_bind (follows_mapM (I := fun _ => True) (S := fun _ => True)
    (fun a ha d'' _ => ?_) trivial) fun _ _ _ => trivial
  exact follows_mono (dispatch_claimedAction hgiven (hclaimed a ha)) fun _ _ _ => ⟨trivial, trivial⟩

end Api

variable {env : Env} {w w' : World b}

theorem decisions_repo (env : Env) {α : Type} (op : RepoOp α) (w : World b) :
    DecisionStep w.decisions (env.clock w.tick) op (env.exec (.repo op) w).1
      (env.exec (.repo op) w).2.decisions :=
  DecisionStore.step op _ _ _

theorem World.Knows.of_same {action : ActionDispatchRecord} (ha : w'.Knows action)
    (hview : w'.decisions.outbox = w.decisions.outbox) (hsent : w'.sent = w.sent) :
    w.Knows action := by
  unfold World.Knows at ha ⊢
  rwa [hview, hsent] at ha

/-- During a job only the outbox, the events and what was sent change, and every action the
world knows belongs to an approved and decided incident of the start. -/
structure Dispatching (v₀ : DecisionView) (d : Option Uuid) (w : World b) : Prop where
  incident : w.decisions.incident = v₀.incident
  approval : w.decisions.approval = v₀.approval
  events : EventsBefore w.decisions w.tick
  drawn : ∀ id ∈ d, DrawnBefore id w.tick
  known : ∀ action, w.Knows action → v₀.Approved action ∧ v₀.Decided action.incidentId

theorem approved_same {v : DecisionView} {a a' : ActionDispatchRecord} (h : a'.SameDecision a)
    (ha : v.Approved a ∧ v.Decided a.incidentId) : v.Approved a' ∧ v.Decided a'.incidentId := by
  unfold DecisionView.Approved
  rw [h.1, h.2]
  exact ha

/-- A call that leaves the view, the outbox apart. -/
theorem Dispatching.step {v₀ : DecisionView} {d d' : Option Uuid} (h : Dispatching v₀ d w)
    (htick : w'.tick = w.tick + 1) (hincident : w'.decisions.incident = w.decisions.incident)
    (happroval : w'.decisions.approval = w.decisions.approval)
    (hevents : EventsBefore w'.decisions (w.tick + 1))
    (hd : ∀ id ∈ d', DrawnBefore id (w.tick + 1))
    (hknown : ∀ action, w'.Knows action → w.Knows action ∨
      (v₀.Approved action ∧ v₀.Decided action.incidentId)) : Dispatching v₀ d' w' where
  incident := hincident.trans h.incident
  approval := happroval.trans h.approval
  events := htick ▸ hevents
  drawn := htick ▸ hd
  known action ha := (hknown action ha).elim (h.known action) id

theorem EventsBefore.mono {v : DecisionView} {tick tick' : ℕ} (h : EventsBefore v tick)
    (hle : tick ≤ tick') : EventsBefore v tick' := fun n hn => (h n hn).trans_le hle

/-- A call that leaves the whole view and hands nothing over. -/
theorem Dispatching.still {v₀ : DecisionView} {d d' : Option Uuid} (h : Dispatching v₀ d w)
    (htick : w'.tick = w.tick + 1) (hview : w'.decisions = w.decisions)
    (hsent : w'.sent = w.sent) (hd : ∀ id ∈ d', DrawnBefore id (w.tick + 1)) :
    Dispatching v₀ d' w' :=
  h.step htick (by rw [hview]) (by rw [hview])
    (by rw [hview]; exact h.events.mono (Nat.le_succ _)) hd
    fun action ha => .inl (ha.of_same (by rw [hview]) hsent)

theorem dispatching_exec {v₀ : DecisionView} {α : Type} (d : Option Uuid) (op : Effect α)
    (w : World b) (h : Dispatching v₀ d w)
    (hop : (dispatchContract fun a => v₀.Approved a ∧ v₀.Decided a.incidentId).allowed d op) :
    (dispatchContract fun a => v₀.Approved a ∧ v₀.Decided a.incidentId).promised d op
        (env.exec op w).1 ∧
      Dispatching v₀ ((dispatchContract fun a => v₀.Approved a ∧ v₀.Decided a.incidentId).advance
        d op (env.exec op w).1) (env.exec op w).2 := by
  have hd : ∀ id ∈ d, DrawnBefore id (w.tick + 1) :=
    fun id hid => (h.drawn id hid).mono (Nat.le_succ _)
  have hevents : EventsBefore w.decisions (w.tick + 1) := h.events.mono (Nat.le_succ _)
  cases op with
  | now => exact ⟨⟨_, rfl⟩, h.still rfl rfl rfl hd⟩
  | uuid4 =>
    refine ⟨⟨_, rfl⟩, h.still rfl rfl rfl ?_⟩
    rintro id ⟨⟩
    exact drawnBefore_drawn w.tick
  | sendAction action =>
    refine ⟨trivial, h.step rfl rfl rfl hevents hd fun a ha => ?_⟩
    rcases ha with ha | ha
    · exact .inl (.inl ha)
    · rcases List.mem_append.mp ha with ha | ha
      · exact .inl (.inr ha)
      · rw [List.mem_singleton.mp ha]
        exact .inr hop
  | collectEvidence | invokeGraph | resumeGraph | putUpload | sendNotification =>
    exact ⟨trivial, h.still rfl rfl rfl hd⟩
  | repo op =>
    have hstep := decisions_repo env op w
    cases op with
    | saveApproval | saveIncident | saveRuntimeControlChange | savePlatformControlChange
    | eraseTravelerData | purgeExpired =>
      exact hop.elim
    | saveActionDispatch action =>
      obtain ⟨-, hview, -, houtbox⟩ := hstep
      refine ⟨trivial, h.step rfl (by rw [hview]) (by rw [hview]) (by rw [hview]; exact hevents) hd
        fun a ha => ?_⟩
      rcases ha with ha | ha
      · rcases houtbox a ha with rfl | ha
        · exact .inr hop
        · exact .inl (.inl ha)
      · exact .inl (.inr ha)
    | completeActionDispatch action attempt claimId =>
      obtain ⟨hview, houtbox⟩ := hstep
      refine ⟨trivial, h.step rfl (by rw [hview]) (by rw [hview]) (by rw [hview]; exact hevents) hd
        fun a ha => ?_⟩
      rcases ha with ha | ha
      · rcases houtbox a ha with ha | rfl
        · exact .inl (.inl ha)
        · exact .inr hop
      · exact .inl (.inr ha)
    | claimDueActionDispatches request =>
      obtain ⟨hview, houtbox, hclaimed⟩ := hstep
      have hsame : ∀ a : ActionDispatchRecord, (∃ b ∈ w.decisions.outbox, a.SameDecision b) →
          v₀.Approved a ∧ v₀.Decided a.incidentId := by
        rintro a ⟨b, hb, hab⟩
        exact approved_same hab (h.known b (.inl hb))
      refine ⟨fun claimed hok a ha => hsame a (hclaimed claimed hok a ha), h.step rfl
        (by rw [hview]) (by rw [hview]) (by rw [hview]; exact hevents) hd fun a ha => ?_⟩
      rcases ha with ha | ha
      · exact .inr (hsame a (houtbox a ha))
      · exact .inl (.inr ha)
    | recordEvent event =>
      obtain ⟨-, hview, hids⟩ := hstep
      refine ⟨trivial, h.step rfl (by rw [hview]) (by rw [hview]) ?_ nofun
        fun a ha => .inl ?_⟩
      · exact h.events.of_subset (Nat.le_succ _) (hd _ (by rw [hop]; rfl)) hids
      · rcases ha with ha | ha
        · rw [hview] at ha
          exact .inl ha
        · exact .inr ha
    | getIncident => exact ⟨trivial, h.still rfl hstep.1 rfl hd⟩
    | getRuntimeControlOverride | getPlatformControlOverride =>
      exact ⟨trivial, h.still rfl hstep.1 rfl hd⟩
    | _ => exact ⟨trivial, h.still rfl hstep rfl hd⟩

/-! ### A decision -/

/-- A decision reads the incidents and controls of its start, and may queue an action when it
approves. -/
def approvalTerms (env : Env) (v₀ : DecisionView) : DecisionTerms where
  incident incident := v₀.incident incident.incidentId = some incident
  override tick tenantId controlName r :=
    r = .ok (v₀.overrideAt tenantId controlName (env.clock tick))
  platform tick controlName r := r = .ok (v₀.platformAt controlName (env.clock tick))
  event r := r = .ok ()
  mayQueue decision := decision = .approve
  stop phase := ¬phase.Queued
  stop_of_not_queued _ h := h
  stop_of_refused _ h := by cases h

/-- During a decision: the actions known are approved, and decided too unless they are of the
incident being decided. -/
structure DecidingSound (v₀ : DecisionView) (g : DecisionGhost) (w : World b) : Prop where
  tick : w.tick = g.tick
  override : w.decisions.override = v₀.override
  platform : w.decisions.platform = v₀.platform
  events : EventsBefore w.decisions w.tick
  drawn : ∀ id ∈ g.drawn, id ∉ w.decisions.eventIds ∧ DrawnBefore id w.tick
  incident : g.phase ≠ .over → w.decisions.incident = v₀.incident
  approved : ∀ action, w.Knows action → w.decisions.Approved action
  decided : ∀ action, w.Knows action → w.decisions.Decided action.incidentId ∨
    ∃ incident approval, g.phase = .deciding incident approval true ∧
      action.incidentId = incident.incidentId
  deciding : ∀ incident approval queued, g.phase = .deciding incident approval queued →
    w.decisions.incident incident.incidentId = some incident ∧
      incident.status = .pendingApproval ∧
      ∀ a ∈ approval, w.decisions.approval incident.incidentId = some a ∧
        a.incidentId = incident.incidentId

/-- A call that leaves the view and the phase. -/
theorem DecidingSound.still {v₀ : DecisionView} {g : DecisionGhost} (h : DecidingSound v₀ g w)
    {drawn : Option Uuid} (htick : w'.tick = w.tick + 1) (hview : w'.decisions = w.decisions)
    (hsent : w'.sent = w.sent)
    (hd : ∀ id ∈ drawn, id ∉ w.decisions.eventIds ∧ DrawnBefore id (w.tick + 1)) :
    DecidingSound v₀ ⟨g.tick + 1, g.phase, drawn⟩ w' := by
  have hknows : ∀ action, w'.Knows action → w.Knows action :=
    fun action ha => ha.of_same (by rw [hview]) hsent
  constructor
  case tick => rw [htick, h.tick]
  case override => rw [hview, h.override]
  case platform => rw [hview, h.platform]
  case events => rw [hview, htick]; exact h.events.mono (Nat.le_succ _)
  case drawn => rw [hview, htick]; exact hd
  case incident => rw [hview]; exact h.incident
  case approved => rw [hview]; exact fun action ha => h.approved action (hknows action ha)
  case decided => rw [hview]; exact fun action ha => h.decided action (hknows action ha)
  case deciding => rw [hview]; exact h.deciding

section Deciding

variable {v₀ : DecisionView} {g : DecisionGhost}

/-- No known action is of an incident that is being decided and has none queued. -/
theorem DecidingSound.ne_of_deciding (h : DecidingSound v₀ g w) {incident : Incident}
    {approval : Option ApprovalRecord} (hg : g.phase = .deciding incident approval false)
    {action : ActionDispatchRecord} (ha : w.Knows action) :
    action.incidentId ≠ incident.incidentId := by
  intro hid
  obtain ⟨hincident, hpending, -⟩ := h.deciding incident approval false hg
  rcases h.decided action ha with hdecided | ⟨incident', approval', hg', -⟩
  · rw [hid] at hdecided
    exact hdecided incident hincident hpending
  · rw [hg] at hg'
    cases hg'

theorem DecidingSound.getIncident (h : DecidingSound v₀ g w) (env : Env) (tenantId : String)
    (incidentId : Uuid) (hg : g.phase = .entered ∨ g.phase = .checked) :
    (approvalTerms env v₀).promised g (.repo (.getIncident tenantId incidentId))
        (env.exec (.repo (.getIncident tenantId incidentId)) w).1 ∧
      DecidingSound v₀ (g.advance (.repo (.getIncident tenantId incidentId))
          (env.exec (.repo (.getIncident tenantId incidentId)) w).1)
        (env.exec (.repo (.getIncident tenantId incidentId)) w).2 := by
  obtain ⟨hview, hfound⟩ := decisions_repo env (.getIncident tenantId incidentId) w
  have hover : g.phase ≠ .over := by rcases hg with hg | hg <;> simp [hg]
  have hincident := h.incident hover
  have hdecided : ∀ action, w.Knows action → w.decisions.Decided action.incidentId := by
    intro action ha
    rcases h.decided action ha with hd | ⟨incident, approval, hg', -⟩
    · exact hd
    · rcases hg with hg | hg <;> simp [hg] at hg'
  have hstill : DecidingSound v₀ ⟨g.tick + 1, g.phase, g.drawn⟩
      (env.exec (.repo (.getIncident tenantId incidentId)) w).2 :=
    h.still rfl hview rfl
      fun id hid => ⟨(h.drawn id hid).1, (h.drawn id hid).2.mono (Nat.le_succ _)⟩
  refine ⟨fun incident hok => ?_, ?_⟩
  · obtain ⟨hmem, hid⟩ := hfound incident hok
    refine ⟨hid, ?_⟩
    show v₀.incident incident.incidentId = some incident
    rw [hid, ← hincident, hmem]
  · constructor
    case tick => exact hstill.tick
    case override => exact hstill.override
    case platform => exact hstill.platform
    case events => exact hstill.events
    case drawn => exact hstill.drawn
    case incident => exact fun _ => by rw [hview]; exact hincident
    case approved => exact hstill.approved
    case decided =>
      intro action ha
      left
      rw [hview]
      exact hdecided action (ha.of_same (by rw [hview]) rfl)
    case deciding =>
      intro incident approval queued hdeciding
      obtain ⟨-, hok, hpending, rfl, -⟩ := DecisionPhase.deciding_of_advance hg hdeciding
      obtain ⟨hmem, hid⟩ := hfound incident hok
      rw [hview, hid]
      exact ⟨hmem, hpending, by simp⟩

theorem DecidingSound.saveApproval (h : DecidingSound v₀ g w) {approval : ApprovalRecord}
    {incident : Incident} (hg : g.phase = .deciding incident none false)
    (hid : approval.incidentId = incident.incidentId) :
    DecidingSound v₀ (g.advance (.repo (.saveApproval approval)) (.ok ()))
      (env.exec (.repo (.saveApproval approval)) w).2 := by
  obtain ⟨-, hview⟩ := decisions_repo env (.saveApproval approval) w
  have hphase : (g.advance (.repo (.saveApproval approval)) (.ok ())).phase =
      .deciding incident (some approval) false := by
    show DecisionPhase.advance g.phase _ _ = _
    rw [hg]
    rfl
  have hknows : ∀ action, (env.exec (.repo (.saveApproval approval)) w).2.Knows action →
      w.Knows action := fun action ha => ha.of_same (by rw [hview]) rfl
  constructor
  case tick => exact congrArg (· + 1) h.tick
  case override => rw [hview]; exact h.override
  case platform => rw [hview]; exact h.platform
  case events => rw [hview]; exact h.events.mono (Nat.le_succ _)
  case drawn =>
    rw [hview]
    exact fun id hid => ⟨(h.drawn id hid).1, (h.drawn id hid).2.mono (Nat.le_succ _)⟩
  case incident => rw [hview]; exact fun _ => h.incident (by rw [hg]; exact nofun)
  case approved =>
    intro action ha
    obtain ⟨a, hmem, hrest⟩ := h.approved action (hknows action ha)
    refine ⟨a, ?_, hrest⟩
    rw [hview]
    have hne : action.incidentId ≠ approval.incidentId :=
      hid ▸ h.ne_of_deciding hg (hknows action ha)
    exact (Function.update_of_ne hne _ _).trans hmem
  case decided =>
    intro action ha
    rw [hview]
    refine (h.decided action (hknows action ha)).imp_right ?_
    rintro ⟨_, _, hg', -⟩
    rw [hg] at hg'
    cases hg'
  case deciding =>
    intro incident' approval' queued hg'
    rw [hphase] at hg'
    cases hg'
    obtain ⟨hincident, hpending, -⟩ := h.deciding incident none false hg
    rw [hview]
    refine ⟨hincident, hpending, ?_⟩
    rintro a ⟨⟩
    exact ⟨by rw [← hid]; exact Function.update_self .., hid⟩

theorem DecidingSound.saveActionDispatch (h : DecidingSound v₀ g w)
    {action : ActionDispatchRecord} {incident : Incident} {approval : ApprovalRecord}
    (hg : g.phase = .deciding incident (some approval) false)
    (hid : action.incidentId = incident.incidentId) (hap : action.approvalId = approval.approvalId)
    (happrove : approval.decision = .approve) :
    DecidingSound v₀ (g.advance (.repo (.saveActionDispatch action)) (.ok ()))
      (env.exec (.repo (.saveActionDispatch action)) w).2 := by
  obtain ⟨-, hview, -, houtbox⟩ := decisions_repo env (.saveActionDispatch action) w
  obtain ⟨hincident, hpending, hsaved⟩ := h.deciding incident (some approval) false hg
  have hphase : (g.advance (.repo (.saveActionDispatch action)) (.ok ())).phase =
      .deciding incident (some approval) true := by
    show DecisionPhase.advance g.phase _ _ = _
    rw [hg]
    rfl
  have hknows : ∀ a, (env.exec (.repo (.saveActionDispatch action)) w).2.Knows a →
      a = action ∨ w.Knows a := by
    rintro a (ha | ha)
    · exact (houtbox a ha).imp_right .inl
    · exact .inr (.inr ha)
  constructor
  case tick => exact congrArg (· + 1) h.tick
  case override => rw [hview]; exact h.override
  case platform => rw [hview]; exact h.platform
  case events => rw [hview]; exact h.events.mono (Nat.le_succ _)
  case drawn =>
    rw [hview]
    exact fun id hid => ⟨(h.drawn id hid).1, (h.drawn id hid).2.mono (Nat.le_succ _)⟩
  case incident => rw [hview]; exact fun _ => h.incident (by rw [hg]; exact nofun)
  case approved =>
    intro a ha
    rw [hview]
    rcases hknows a ha with rfl | ha
    · obtain ⟨hmem, haid⟩ := hsaved approval rfl
      exact ⟨approval, by rw [hid]; exact hmem, by rw [haid, hid], hap.symm, happrove⟩
    · exact h.approved a ha
  case decided =>
    intro a ha
    rw [hview]
    rcases hknows a ha with rfl | ha
    · exact .inr ⟨incident, some approval, hphase, hid⟩
    · refine (h.decided a ha).imp_right ?_
      rintro ⟨_, _, hg', -⟩
      rw [hg] at hg'
      cases hg'
  case deciding =>
    intro incident' approval' queued hg'
    rw [hphase] at hg'
    cases hg'
    rw [hview]
    exact ⟨hincident, hpending, hsaved⟩

theorem DecidingSound.saveIncident (h : DecidingSound v₀ g w) {incident incident' : Incident}
    {approval : ApprovalRecord} {queued : Bool}
    (hg : g.phase = .deciding incident (some approval) queued)
    (hid : incident'.incidentId = incident.incidentId)
    (hstatus : incident'.status = Api.decidedStatus approval.decision) :
    DecidingSound v₀ (g.advance (.repo (.saveIncident incident')) (.ok ()))
      (env.exec (.repo (.saveIncident incident')) w).2 := by
  obtain ⟨-, hview⟩ := decisions_repo env (.saveIncident incident') w
  have hphase : (g.advance (.repo (.saveIncident incident')) (.ok ())).phase = .over := by
    show DecisionPhase.advance g.phase _ _ = _
    rw [hg]
    rfl
  have hknows : ∀ a, (env.exec (.repo (.saveIncident incident')) w).2.Knows a → w.Knows a :=
    fun a ha => ha.of_same (by rw [hview]) rfl
  constructor
  case tick => exact congrArg (· + 1) h.tick
  case override => rw [hview]; exact h.override
  case platform => rw [hview]; exact h.platform
  case events => rw [hview]; exact h.events.mono (Nat.le_succ _)
  case drawn =>
    rw [hview]
    exact fun id hid => ⟨(h.drawn id hid).1, (h.drawn id hid).2.mono (Nat.le_succ _)⟩
  case incident => exact fun hover => absurd hphase hover
  case approved => rw [hview]; exact fun a ha => h.approved a (hknows a ha)
  case decided =>
    intro a ha
    left
    intro i hi
    rw [hview] at hi
    by_cases ha' : a.incidentId = incident'.incidentId
    · rw [ha'] at hi
      have hi' : incident' = i := by simpa using hi
      rw [← hi', hstatus]
      cases approval.decision <;> exact nofun
    · have hi : w.decisions.incident a.incidentId = some i :=
        (Function.update_of_ne ha' _ _).symm.trans hi
      rcases h.decided a (hknows a ha) with hd | ⟨_, _, hg', hid'⟩
      · exact hd i hi
      · rw [hg] at hg'
        cases hg'
        exact absurd (hid'.trans hid.symm) ha'
  case deciding =>
    intro _ _ _ hg'
    rw [hphase] at hg'
    cases hg'

theorem DecidingSound.recordEvent (h : DecidingSound v₀ g w) {event : EventRecord}
    (hd : g.drawn = some event.eventId) :
    (env.exec (.repo (.recordEvent event)) w).1 = .ok () ∧
      DecidingSound v₀ ⟨g.tick + 1, g.phase, none⟩ (env.exec (.repo (.recordEvent event)) w).2 := by
  obtain ⟨hok, hview, hids⟩ := decisions_repo env (.recordEvent event) w
  obtain ⟨hfresh, hbefore⟩ := h.drawn event.eventId (by rw [hd]; rfl)
  have hknows : ∀ a, (env.exec (.repo (.recordEvent event)) w).2.Knows a → w.Knows a :=
    fun a ha => ha.of_same (by rw [hview]) rfl
  refine ⟨hok hfresh, ?_⟩
  constructor
  case tick => exact congrArg (· + 1) h.tick
  case override => rw [hview]; exact h.override
  case platform => rw [hview]; exact h.platform
  case events => exact h.events.of_subset (Nat.le_succ _) (hbefore.mono (Nat.le_succ _)) hids
  case drawn => exact nofun
  case incident => rw [hview]; exact h.incident
  case approved => rw [hview]; exact fun a ha => h.approved a (hknows a ha)
  case decided => rw [hview]; exact fun a ha => h.decided a (hknows a ha)
  case deciding => rw [hview]; exact h.deciding

/-- Each call of a decision keeps the invariant and the promises. -/
theorem decidingSound_exec {α : Type} (g : DecisionGhost) (op : Effect α) (w : World b)
    (h : DecidingSound v₀ g w) (hop : (approvalTerms env v₀).contract.allowed g op) :
    (approvalTerms env v₀).contract.promised g op (env.exec op w).1 ∧
      DecidingSound v₀ ((approvalTerms env v₀).contract.advance g op (env.exec op w).1)
        (env.exec op w).2 := by
  have hd : ∀ id ∈ g.drawn, id ∉ w.decisions.eventIds ∧ DrawnBefore id (w.tick + 1) :=
    fun id hid => ⟨(h.drawn id hid).1, (h.drawn id hid).2.mono (Nat.le_succ _)⟩
  have hadvance : ∀ (hstill : DecisionPhase.moves op = false) (r : Except Fault α),
      (approvalTerms env v₀).contract.advance g op r =
        ⟨g.tick + 1, g.phase, drawnAfter g.drawn op r⟩ := fun hstill r => by
    show DecisionGhost.advance g op r = _
    rw [DecisionGhost.advance, g.phase.advance_still hstill]
  cases op with
  | now =>
    rw [hadvance rfl]
    exact ⟨⟨_, rfl⟩, h.still rfl rfl rfl hd⟩
  | uuid4 =>
    rw [hadvance rfl]
    refine ⟨⟨_, rfl⟩, h.still rfl rfl rfl ?_⟩
    rintro id ⟨⟩
    exact ⟨drawn_notMem_eventIds h.events 0, drawnBefore_drawn w.tick⟩
  | sendAction => exact hop.elim
  | collectEvidence | invokeGraph | resumeGraph | putUpload | sendNotification =>
    rw [hadvance rfl]
    exact ⟨trivial, h.still rfl rfl rfl hd⟩
  | repo op =>
    have hstep := decisions_repo env op w
    cases op with
    | getIncident tenantId incidentId => exact h.getIncident env tenantId incidentId hop
    | saveApproval approval =>
      obtain ⟨incident, hg, hid⟩ := hop
      rw [show (env.exec (.repo (.saveApproval approval)) w).1 = .ok () from hstep.1]
      exact ⟨rfl, h.saveApproval hg hid⟩
    | saveActionDispatch action =>
      obtain ⟨incident, approval, hg, hid, hap, hmay⟩ := hop
      rw [show (env.exec (.repo (.saveActionDispatch action)) w).1 = .ok () from hstep.1]
      exact ⟨rfl, h.saveActionDispatch hg hid hap hmay⟩
    | saveIncident incident' =>
      obtain ⟨incident, approval, queued, hg, hid, hstatus⟩ := hop
      rw [show (env.exec (.repo (.saveIncident incident')) w).1 = .ok () from hstep.1]
      exact ⟨rfl, h.saveIncident hg hid hstatus⟩
    | recordEvent event =>
      rw [hadvance rfl]
      exact h.recordEvent hop
    | claimDueActionDispatches | completeActionDispatch | saveRuntimeControlChange
    | savePlatformControlChange | eraseTravelerData | purgeExpired => exact hop.elim
    | getRuntimeControlOverride tenantId controlName =>
      rw [hadvance rfl]
      refine ⟨?_, h.still rfl hstep.1 rfl hd⟩
      show _ = Except.ok (DecisionView.overrideAt v₀ tenantId controlName (env.clock g.tick))
      rw [DecisionView.overrideAt, ← h.override, ← h.tick]
      exact hstep.2
    | getPlatformControlOverride controlName =>
      rw [hadvance rfl]
      refine ⟨?_, h.still rfl hstep.1 rfl hd⟩
      show _ = Except.ok (DecisionView.platformAt v₀ controlName (env.clock g.tick))
      rw [DecisionView.platformAt, ← h.platform, ← h.tick]
      exact hstep.2
    | _ =>
      rw [hadvance rfl]
      exact ⟨trivial, h.still rfl hstep rfl hd⟩

end Deciding

/-! ### Runs -/

/-- What can happen to the decisions: a request, a dispatch job, or a change made by the rest
of the service, settings of controls included. -/
inductive DecisionEvent (b : Backend) where
  | approve (caller : Caller) (incidentId : Uuid) (payload : ApprovalRequest)
  | reject (caller : Caller) (incidentId : Uuid) (payload : ApprovalRequest)
  | dispatch
  | elsewhere (store : b.State)

def DecisionEvent.step (svc : Service) (env : Env) (w : World b) : DecisionEvent b → World b
  | .approve caller incidentId payload =>
    ((Api.approveIncident svc caller incidentId payload).run env.exec w).2
  | .reject caller incidentId payload =>
    ((Api.rejectIncident svc caller incidentId payload).run env.exec w).2
  | .dispatch => ((Api.dispatchApprovedActionsJob svc).run env.exec w).2
  | .elsewhere store => { w with store, tick := w.tick + 1 }

/-- A reject request with a payload that finds its incident waiting and the control on. A
decision reads the control after five calls: two for access, the clock, the claim of the key
and the incident. -/
def RejectQueues (svc : Service) (env : Env) (w : World b) (caller : Caller) (incidentId : Uuid)
    (payload : ApprovalRequest) : Prop :=
  payload.decision = .reject ∧ payload.finalActionPayload ≠ [] ∧
    (∃ incident, w.decisions.incident incidentId = some incident ∧
      incident.status = .pendingApproval) ∧
    ∃ tenantId, caller.tenantId = some tenantId ∧
      svc.controlAt env w.decisions tenantId .approvalActionsEnabled (w.tick + 5) = true

/-- The rest of the service writes neither approvals nor the outbox, and lets no incident with
an action wait again. -/
structure Quiet (w : World b) (store : b.State) : Prop where
  outbox : (DecisionStore.view store).outbox = w.decisions.outbox
  approval : (DecisionStore.view store).approval = w.decisions.approval
  decided : ∀ action, w.Knows action → w.decisions.Decided action.incidentId →
    (DecisionStore.view store).Decided action.incidentId
  events : EventsBefore (DecisionStore.view store) (w.tick + 1)

/-- No reject request queues an action. -/
def DecisionEvent.Admissible (svc : Service) (env : Env) (w : World b) : DecisionEvent b → Prop
  | .reject caller incidentId payload => ¬RejectQueues svc env w caller incidentId payload
  | .elsewhere store => Quiet w store
  | _ => True

theorem decide_sound {svc : Service} {decision : ApprovalDecision} {caller : Caller}
    {incidentId : Uuid} {payload : ApprovalRequest} (h : Sound w)
    (hreject : decision = .reject → ¬RejectQueues svc env w caller incidentId payload) :
    Sound ((Api.decide svc decision caller incidentId payload).run env.exec w).2 := by
  have hmay : ∀ tenantId, caller.tenantId = some tenantId → payload.decision = decision →
      (approvalTerms env w.decisions).MayQueue svc (w.tick + 5) tenantId incidentId payload := by
    intro tenantId htenant hdecision hpayload incident hincident hid hpending o p ho hp hon
    show payload.decision = .approve
    cases decision with
    | approve => exact hdecision
    | reject =>
      refine absurd ⟨hdecision, hpayload, ⟨incident, hid ▸ hincident, hpending⟩, tenantId, htenant,
        ?_⟩ (hreject rfl)
      have ho : o = _ := Except.ok.inj ho
      rw [Service.controlAt, ← ho]
      cases o with
      | some override => exact hon
      | none =>
        have hp : p = _ := Except.ok.inj (hp rfl)
        rw [← hp]
        exact hon
  have hstart : DecidingSound w.decisions ⟨w.tick, .entered, none⟩ w := by
    refine ⟨rfl, rfl, rfl, h.events, fun _ hid => absurd hid (Option.not_mem_none _), fun _ => rfl,
      h.approved, fun action ha => .inl (h.decided action ha), fun _ _ _ hphase => ?_⟩
    cases hphase
  have hfollows := Api.decide_follows (d := none) hmay
  obtain ⟨g, hg, hend⟩ := hfollows.run (fun g op w => decidingSound_exec g op w) hstart
  have hstop : ¬g.phase.Queued := by
    split at hend
    · exact hend
    · exact hend
  refine ⟨hg.events, hg.approved, fun action ha => ?_⟩
  rcases hg.decided action ha with hd | ⟨incident, approval, hphase, -⟩
  · exact hd
  · exact absurd (by rw [hphase]; rfl) hstop

theorem dispatch_sound {svc : Service} (h : Sound w) :
    Sound ((Api.dispatchApprovedActionsJob svc).run env.exec w).2 := by
  have hstart : Dispatching w.decisions none w :=
    ⟨rfl, rfl, h.events, fun _ hid => absurd hid (Option.not_mem_none _),
      fun action ha => ⟨h.approved action ha, h.decided action ha⟩⟩
  have hfollows := Api.dispatchApprovedActionsJob_follows svc (d := none)
    fun _ _ hsame ha => approved_same (v := w.decisions) hsame ha
  obtain ⟨d, hd, -⟩ := hfollows.run dispatching_exec hstart
  refine ⟨hd.events, fun action ha => ?_, fun action ha => ?_⟩
  · obtain ⟨⟨approval, hmem, hrest⟩, -⟩ := hd.known action ha
    exact ⟨approval, by rw [hd.approval]; exact hmem, hrest⟩
  · have hdecided := (hd.known action ha).2
    rw [DecisionView.Decided, hd.incident]
    exact hdecided

theorem elsewhere_sound {store : b.State} (h : Sound w) (hq : Quiet w store) :
    Sound ({ w with store, tick := w.tick + 1 } : World b) := by
  have hknows : ∀ action, ({ w with store, tick := w.tick + 1 } : World b).Knows action →
      w.Knows action := fun action ha => ha.of_same hq.outbox rfl
  refine ⟨hq.events, fun action ha => ?_, fun action ha => ?_⟩
  · obtain ⟨approval, hmem, hrest⟩ := h.approved action (hknows action ha)
    exact ⟨approval, (congrFun hq.approval _).trans hmem, hrest⟩
  · exact hq.decided action (hknows action ha) (h.decided action (hknows action ha))

theorem sound_step {svc : Service} {event : DecisionEvent b} (h : Sound w)
    (hevent : event.Admissible svc env w) : Sound (event.step svc env w) := by
  cases event with
  | approve => exact decide_sound h (fun hd => by cases hd)
  | reject => exact decide_sound h (fun _ => hevent)
  | dispatch => exact dispatch_sound h
  | elsewhere store => exact elsewhere_sound h hevent

/-- From an empty outbox, in every run in which no reject request carries a payload to a
waiting incident while the control is on, each action in the outbox, and each action handed to
the sender, belongs to a recorded approval of its incident that approves. -/
theorem outbox_only_approved (svc : Service) (env : Env) (w : World b)
    (hempty : ∀ action, ¬w.Knows action) (hevents : EventsBefore w.decisions w.tick)
    (events : List (DecisionEvent b))
    (h : Meets (DecisionEvent.step svc env) (DecisionEvent.Admissible svc env) w events)
    (action : ActionDispatchRecord)
    (haction : (runFrom (DecisionEvent.step svc env) w events).Knows action) :
    (runFrom (DecisionEvent.step svc env) w events).decisions.Approved action := by
  have hstart : Sound w :=
    ⟨hevents, fun a ha => absurd ha (hempty a), fun a ha => absurd ha (hempty a)⟩
  exact (runFrom_inv Sound (fun _ _ => sound_step) hstart h).approved action haction

/-! ### A rejected action in the outbox -/

def sampleTrip : Trip where
  tenantId := "acme"
  travelerId := "ada"
  groundOrigin := "Oslo"
  destinationCountry := "SE"
  segments := []
  tripId := .v5 "trip"
  createdAt := 0

def sampleIncident : Incident where
  incidentId := .v5 "incident"
  tenantId := "acme"
  tripId := .v5 "trip"
  assessmentId := .v5 "assessment"
  severity := .high
  status := .pendingApproval
  correlationId := .v5 "correlation"
  createdAt := 0
  updatedAt := 0

/-- One trip with one incident that waits for a decision. -/
def pendingWorld : World .memory where
  store := InMemoryRepository.saveIncident (InMemoryRepository.saveTrip {} sampleTrip) sampleIncident

def sampleManager : Caller where
  tenantId := some "acme"
  actorRole := some .tenantAdmin
  actorId := some "grace"
  idempotencyKey := some "key"

def sampleDecision (decision : ApprovalDecision) : ApprovalRequest where
  decision
  actorId := "grace"
  reason := "reviewed"
  finalActionPayload := [("rebook", .bool true)]

/-- The rejection of an incident with a payload, and a dispatch job after it. -/
def rejectedWorld : World .memory :=
  runFrom (DecisionEvent.step .switchedOn .still) pendingWorld
    [.reject sampleManager (.v5 "incident") (sampleDecision .reject), .dispatch]

/-- A rejected action is handed to the sender. -/
theorem rejected_action_sent :
    ∃ action ∈ rejectedWorld.sent, ¬rejectedWorld.decisions.Approved action := by
  have hsent : rejectedWorld.sent.map (fun a => a.incidentId) = [.v5 "incident"] := by
    decide +kernel
  have hdecision : (rejectedWorld.decisions.approval (.v5 "incident")).map
      (fun a => a.decision) = some .reject := by
    decide +kernel
  obtain ⟨action, ha, hid⟩ := List.mem_map.mp (hsent ▸ List.mem_singleton_self _)
  refine ⟨action, ha, ?_⟩
  rintro ⟨approval, hmem, -, -, happrove⟩
  rw [hid] at hmem
  rw [hmem] at hdecision
  simp [happrove] at hdecision

/-- The approval of an incident with a payload, and a dispatch job after it. -/
def approvedRun : List (DecisionEvent .memory) :=
  [.approve sampleManager (.v5 "incident") (sampleDecision .approve), .dispatch]

theorem outbox_only_approved_sample :
    (runFrom (DecisionEvent.step .switchedOn .still) pendingWorld approvedRun).sent.length = 1 ∧
      ∀ action ∈ (runFrom (DecisionEvent.step .switchedOn .still) pendingWorld approvedRun).sent,
        (runFrom (DecisionEvent.step .switchedOn .still) pendingWorld
          approvedRun).decisions.Approved action := by
  refine ⟨by decide +kernel, ?_⟩
  intro action haction
  refine outbox_only_approved .switchedOn .still pendingWorld ?_ ?_ approvedRun
    ⟨trivial, trivial, trivial⟩ action (.inr haction)
  · rintro a (ha | ha)
    · exact Table.notMem_empty a ha
    · cases ha
  · rintro n ⟨e, he, -⟩
    cases he

end RouteShield
