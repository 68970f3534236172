import RouteShield.Api.Approval
import RouteShield.Api.Requests
import RouteShield.Lib.Pool

/-!
Requests to decide one incident, in any interleaving. A request checks that its incident waits for
a decision, and records the decision later, in three writes, without another look. As long as no
request records an approval of an incident that has one, the incident gets one action at most, and
its status is that of its approval.
-/

namespace RouteShield

structure DecisionRequest where
  decision : ApprovalDecision
  caller : Caller
  incidentId : Uuid
  payload : ApprovalRequest

def DecisionRequest.request (r : DecisionRequest) : Request :=
  match r.decision with
  | .approve => .approveIncident r.caller r.incidentId r.payload
  | .reject => .rejectIncident r.caller r.incidentId r.payload

/-- The program of a request. -/
def DecisionRequest.start (svc : Service) (r : DecisionRequest) : Api Unit :=
  Api.handle svc r.request

/-- A decision counts on nothing that the others could change. -/
def contendedTerms : DecisionTerms where
  incident _ := True
  override _ _ _ _ := True
  platform _ _ _ := True
  event _ := True
  mayQueue _ := True
  stop _ := True
  stop_of_not_queued _ _ := trivial
  stop_of_refused _ _ _ := trivial

theorem DecisionRequest.start_follows (svc : Service) (r : DecisionRequest) :
    (r.start svc).Follows contendedTerms.contract (fun g _ => ¬g.phase.Deciding)
      ⟨0, .entered, none⟩ := by
  have hdecide : ∀ decision : ApprovalDecision,
      (Api.decide svc decision r.caller r.incidentId r.payload).Follows contendedTerms.contract
        (fun g _ => ¬g.phase.Deciding) ⟨0, .entered, none⟩ :=
    fun decision => Api.decide_ends fun _ _ _ _ _ _ _ _ _ _ _ _ _ => trivial
  unfold start request
  cases r.decision with
  | approve => exact Prog.follows_bind (hdecide .approve) fun _ _ h => h
  | reject => exact Prog.follows_bind (hdecide .reject) fun _ _ h => h

/-- The approval of the incident that a request has recorded, before it saves the incident, and
whether its action is in the outbox. -/
def DecisionGhost.recorded? (k : Uuid) (g : DecisionGhost) : Option (ApprovalRecord × Bool) :=
  match g.phase with
  | .deciding incident (some approval) queued =>
    if incident.incidentId = k then some (approval, queued) else none
  | _ => none

/-- The request is between its approval and its incident. -/
def DecisionGhost.recording (k : Uuid) (g : DecisionGhost) : Bool := (g.recorded? k).isSome

/-- The approval that a call records. -/
def Effect.recordedApproval? : {α : Type} → Effect α → Option ApprovalRecord
  | _, .repo (.saveApproval approval) => some approval
  | _, _ => none

section Pool

variable {b : Backend} [DecisionStore b] {env : Env} {svc : Service} {w w' : World b} {k : Uuid}
  {phases : List DecisionGhost} {g g' : DecisionGhost} {i : ℕ}

theorem recorded?_deciding {incident : Incident} {approval : ApprovalRecord} {queued : Bool}
    (hg : g.phase = .deciding incident (some approval) queued) :
    g.recorded? k = if incident.incidentId = k then some (approval, queued) else none := by
  unfold DecisionGhost.recorded?
  rw [hg]

theorem deciding_of_recording (h : g.recording k = true) : g.phase.Deciding := by
  unfold DecisionGhost.recording DecisionGhost.recorded? at h
  split at h
  next hphase => rw [hphase]; trivial
  · cases h

/-! ### One request between the two writes -/

/-- Where one request at most is between the two writes, no other is beside one that is. -/
theorem eq_of_recording (halone : phases.countP (·.recording k) ≤ 1) (hi : phases[i]? = some g)
    (hg : g.recording k = true) {other : DecisionGhost} (hmem : other ∈ phases.set i g')
    (hother : other.recording k = true) : other = g' := by
  have hnone : (phases.set i ⟨0, .over, none⟩).countP (·.recording k) = 0 := by
    obtain ⟨hlt, hget⟩ := List.getElem?_eq_some_iff.mp hi
    have hover : DecisionGhost.recording k ⟨0, .over, none⟩ = false := rfl
    rw [List.countP_set hlt, hget, if_pos hg, hover, if_neg Bool.false_ne_true]
    omega
  have hset : phases.set i g' = (phases.set i ⟨0, .over, none⟩).set i g' :=
    (List.set_set _).symm
  rw [hset] at hmem
  rcases List.mem_or_eq_of_mem_set hmem with hold | heq
  · exact absurd hother (List.countP_eq_zero.mp hnone other hold)
  · exact heq

theorem countP_set_le_one (halone : phases.countP (·.recording k) ≤ 1) (hi : phases[i]? = some g)
    (h : g'.recording k = true → g.recording k = true ∨ phases.countP (·.recording k) = 0) :
    (phases.set i g').countP (·.recording k) ≤ 1 := by
  obtain ⟨hlt, hget⟩ := List.getElem?_eq_some_iff.mp hi
  rw [List.countP_set hlt, hget]
  cases hnew : g'.recording k with
  | false => simpa using halone.trans' (Nat.sub_le _ _)
  | true =>
    rcases h hnew with hold | hzero
    · rw [if_pos hold, if_pos rfl]
      omega
    · rw [hzero]
      simp

/-! ### What the requests keep -/

/-- What requests side by side keep of an incident: the action in the outbox is of its approval, a
decided status too, and one request at most is between the two writes. -/
structure Contending (k : Uuid) (phases : List DecisionGhost) (w : World b) : Prop where
  once : ∀ a ∈ w.decisions.outbox, ∀ a' ∈ w.decisions.outbox, a.incidentId = k →
    a'.incidentId = k → a = a'
  actions : ∀ a ∈ w.decisions.outbox, a.incidentId = k →
    ∃ approval, w.decisions.approval k = some approval ∧ a.approvalId = approval.approvalId
  waiting : w.decisions.approval k = none →
    ∃ incident, w.decisions.incident k = some incident ∧ incident.status = .pendingApproval
  decided : ∀ approval, w.decisions.approval k = some approval →
    ∃ incident, w.decisions.incident k = some incident ∧
      (incident.status = Api.decidedStatus approval.decision ∨
        incident.status = .pendingApproval ∧ ∃ g ∈ phases, g.recording k = true)
  recorded : ∀ g ∈ phases, ∀ approval queued, g.recorded? k = some (approval, queued) →
    w.decisions.approval k = some approval ∧
      (queued = false → ∀ a ∈ w.decisions.outbox, a.incidentId ≠ k)
  alone : phases.countP (·.recording k) ≤ 1

theorem Contending.mem_of_recording (h : Contending k phases w) (hg : g ∈ phases)
    (hrecording : g.recording k = true) :
    ∃ approval queued, g.recorded? k = some (approval, queued) ∧
      w.decisions.approval k = some approval := by
  obtain ⟨⟨approval, queued⟩, hrecorded⟩ := Option.isSome_iff_exists.mp hrecording
  exact ⟨approval, queued, hrecorded, (h.recorded g hg approval queued hrecorded).1⟩

/-- A call that leaves the incident, its approval and its actions, of a request that stays outside
or inside the two writes. -/
theorem Contending.keep (h : Contending k phases w) (hi : phases[i]? = some g)
    (hincident : w'.decisions.incident k = w.decisions.incident k)
    (happroval : w'.decisions.approval k = w.decisions.approval k)
    (houtbox : ∀ a ∈ w'.decisions.outbox, a.incidentId = k → a ∈ w.decisions.outbox)
    (hsame : g'.recorded? k = g.recorded? k) : Contending k (phases.set i g') w' := by
  have hg := List.mem_of_getElem? hi
  have hlt := (List.getElem?_eq_some_iff.mp hi).1
  have hrecording : g'.recording k = g.recording k := congrArg Option.isSome hsame
  constructor
  · intro a ha a' ha' hid hid'
    exact h.once a (houtbox a ha hid) a' (houtbox a' ha' hid') hid hid'
  · intro a ha hid
    rw [happroval]
    exact h.actions a (houtbox a ha hid) hid
  · rw [happroval, hincident]
    exact h.waiting
  · rw [happroval, hincident]
    intro approval hstored
    obtain ⟨incident, hfound, hstatus⟩ := h.decided approval hstored
    refine ⟨incident, hfound, hstatus.imp_right fun ⟨hpending, other, hother, hrec⟩ => ?_⟩
    refine ⟨hpending, ?_⟩
    obtain ⟨j, hj⟩ := List.mem_iff_getElem?.mp hother
    by_cases hij : i = j
    · subst hij
      obtain rfl : g = other := Option.some.inj (hi.symm.trans hj)
      exact ⟨g', List.mem_set hlt g', hrecording.trans hrec⟩
    · exact ⟨other, List.mem_of_getElem? ((List.getElem?_set_ne hij).trans hj), hrec⟩
  · intro other hother approval queued hrec
    rw [happroval]
    have hold : ∃ g ∈ phases, g.recorded? k = some (approval, queued) := by
      rcases List.mem_or_eq_of_mem_set hother with hold | rfl
      · exact ⟨other, hold, hrec⟩
      · exact ⟨g, hg, hsame.symm.trans hrec⟩
    obtain ⟨g₀, hg₀, hrec₀⟩ := hold
    obtain ⟨hstored, hnone⟩ := h.recorded g₀ hg₀ approval queued hrec₀
    exact ⟨hstored, fun hq a ha hid => hnone hq a (houtbox a ha hid) hid⟩
  · exact countP_set_le_one h.alone hi fun hnew => .inl (hrecording.symm.trans hnew)

/-- A call on another incident, of a request that is about another incident. -/
theorem recorded?_of_ne {incident : Incident} {approval : ApprovalRecord} {queued : Bool}
    (hne : incident.incidentId ≠ k) (hg : g.phase = .deciding incident (some approval) queued) :
    g.recorded? k = none := by
  rw [recorded?_deciding hg, if_neg hne]

/-- The first approval is recorded. -/
theorem Contending.saveApproval (h : Contending k phases w) {approval : ApprovalRecord}
    {incident : Incident} (hi : phases[i]? = some g) (hg : g.phase = .deciding incident none false)
    (hid : approval.incidentId = incident.incidentId)
    (hfirst : approval.incidentId = k → w.decisions.approval k = none) :
    Contending k (phases.set i (g.advance (.repo (.saveApproval approval)) (.ok ())))
      (env.exec (.repo (.saveApproval approval)) w).2 := by
  obtain ⟨-, hview⟩ := decisions_repo env (.saveApproval approval) w
  have hbefore : g.recorded? k = none := by
    unfold DecisionGhost.recorded?
    rw [hg]
  have hphase : (g.advance (.repo (.saveApproval approval)) (.ok ())).phase =
      .deciding incident (some approval) false := by
    show DecisionPhase.advance g.phase _ _ = _
    rw [hg]
    rfl
  by_cases hk : incident.incidentId = k
  · have hnone := hfirst (hid.trans hk)
    have happroval : (env.exec (.repo (.saveApproval approval)) w).2.decisions.approval k =
        some approval := by
      rw [hview, ← hk, ← hid]
      exact Function.update_self ..
    have hnew : (g.advance (.repo (.saveApproval approval)) (.ok ())).recorded? k =
        some (approval, false) := by
      rw [recorded?_deciding hphase, if_pos hk]
    have hquiet : ∀ other ∈ phases, ¬other.recording k = true := by
      intro other hother hrec
      obtain ⟨a, queued, -, hstored⟩ := h.mem_of_recording hother hrec
      rw [hnone] at hstored
      cases hstored
    have hactions : ∀ a ∈ w.decisions.outbox, a.incidentId ≠ k := by
      intro a ha hak
      obtain ⟨a', hstored, -⟩ := h.actions a ha hak
      rw [hnone] at hstored
      cases hstored
    have houtbox : (env.exec (.repo (.saveApproval approval)) w).2.decisions.outbox =
        w.decisions.outbox := by rw [hview]
    have hincident : (env.exec (.repo (.saveApproval approval)) w).2.decisions.incident =
        w.decisions.incident := by rw [hview]
    constructor
    · rw [houtbox]
      exact h.once
    · rw [houtbox]
      exact fun a ha hak => absurd hak (hactions a ha)
    · rw [happroval]
      exact nofun
    · rw [hincident]
      intro a _
      obtain ⟨stored, hstored, hpending⟩ := h.waiting hnone
      refine ⟨stored, hstored, .inr ⟨hpending, _, ?_, congrArg Option.isSome hnew⟩⟩
      exact List.mem_set (List.getElem?_eq_some_iff.mp hi).1 _
    · intro other hother a queued hrec
      rcases List.mem_or_eq_of_mem_set hother with hold | rfl
      · exact absurd (congrArg Option.isSome hrec) (hquiet other hold)
      · obtain ⟨rfl, -⟩ := Prod.mk.inj (Option.some.inj (hnew.symm.trans hrec))
        refine ⟨happroval, fun _ => ?_⟩
        rw [houtbox]
        exact hactions
    · exact countP_set_le_one h.alone hi fun _ => .inr (List.countP_eq_zero.mpr hquiet)
  · refine h.keep hi (by rw [hview]) ?_ (by rw [hview]; exact fun a ha _ => ha)
      ((recorded?_of_ne hk hphase).trans hbefore.symm)
    rw [hview]
    exact Function.update_of_ne (fun heq => hk (hid.symm.trans heq.symm)) _ _

/-- The action of the one approval goes into the outbox. -/
theorem Contending.saveActionDispatch (h : Contending k phases w) {action : ActionDispatchRecord}
    {incident : Incident} {approval : ApprovalRecord} (hi : phases[i]? = some g)
    (hg : g.phase = .deciding incident (some approval) false)
    (hid : action.incidentId = incident.incidentId)
    (happroval : action.approvalId = approval.approvalId) :
    Contending k (phases.set i (g.advance (.repo (.saveActionDispatch action)) (.ok ())))
      (env.exec (.repo (.saveActionDispatch action)) w).2 := by
  obtain ⟨-, hview, -, hadded⟩ := decisions_repo env (.saveActionDispatch action) w
  have hphase : (g.advance (.repo (.saveActionDispatch action)) (.ok ())).phase =
      .deciding incident (some approval) true := by
    show DecisionPhase.advance g.phase _ _ = _
    rw [hg]
    rfl
  by_cases hk : incident.incidentId = k
  · have hbefore : g.recorded? k = some (approval, false) := by
      rw [recorded?_deciding hg, if_pos hk]
    have hnew : (g.advance (.repo (.saveActionDispatch action)) (.ok ())).recorded? k =
        some (approval, true) := by
      rw [recorded?_deciding hphase, if_pos hk]
    have hrecording : g.recording k = true := congrArg Option.isSome hbefore
    obtain ⟨hstored, hnone⟩ :=
      h.recorded g (List.mem_of_getElem? hi) approval false hbefore
    have hone : ∀ a ∈ (env.exec (.repo (.saveActionDispatch action)) w).2.decisions.outbox,
        a.incidentId = k → a = action := by
      intro a ha hak
      rcases hadded a ha with rfl | hold
      · rfl
      · exact absurd hak (hnone rfl a hold)
    have hsame : (env.exec (.repo (.saveActionDispatch action)) w).2.decisions.approval =
        w.decisions.approval := by rw [hview]
    have hincident : (env.exec (.repo (.saveActionDispatch action)) w).2.decisions.incident =
        w.decisions.incident := by rw [hview]
    constructor
    · intro a ha a' ha' hak hak'
      rw [hone a ha hak, hone a' ha' hak']
    · intro a ha hak
      rw [hsame]
      obtain rfl := hone a ha hak
      exact ⟨approval, hstored, happroval⟩
    · rw [hsame, hstored]
      exact nofun
    · rw [hsame, hincident]
      intro a ha
      obtain ⟨found, hfound, hstatus⟩ := h.decided a ha
      refine ⟨found, hfound, hstatus.imp_right fun ⟨hpending, _⟩ => ?_⟩
      exact ⟨hpending, _, List.mem_set (List.getElem?_eq_some_iff.mp hi).1 _,
        congrArg Option.isSome hnew⟩
    · intro other hother a queued hrec
      obtain rfl := eq_of_recording h.alone hi hrecording hother (congrArg Option.isSome hrec)
      obtain ⟨rfl, rfl⟩ := Prod.mk.inj (Option.some.inj (hnew.symm.trans hrec))
      rw [hsame]
      exact ⟨hstored, nofun⟩
    · exact countP_set_le_one h.alone hi fun _ => .inl hrecording
  · refine h.keep hi (by rw [hview]) (by rw [hview]) (fun a ha hak => ?_)
      ((recorded?_of_ne hk hphase).trans (recorded?_of_ne hk hg).symm)
    rcases hadded a ha with rfl | hold
    · exact absurd (hid.symm.trans hak) hk
    · exact hold

/-- The incident gets the status of the one approval. -/
theorem Contending.saveIncident (h : Contending k phases w) {incident incident' : Incident}
    {approval : ApprovalRecord} {queued : Bool} (hi : phases[i]? = some g)
    (hg : g.phase = .deciding incident (some approval) queued)
    (hid : incident'.incidentId = incident.incidentId)
    (hstatus : incident'.status = Api.decidedStatus approval.decision) :
    Contending k (phases.set i (g.advance (.repo (.saveIncident incident')) (.ok ())))
      (env.exec (.repo (.saveIncident incident')) w).2 := by
  obtain ⟨-, hview⟩ := decisions_repo env (.saveIncident incident') w
  have hnew : (g.advance (.repo (.saveIncident incident')) (.ok ())).recorded? k = none := by
    have hphase : (g.advance (.repo (.saveIncident incident')) (.ok ())).phase = .over := by
      show DecisionPhase.advance g.phase _ _ = _
      rw [hg]
      rfl
    unfold DecisionGhost.recorded?
    rw [hphase]
  by_cases hk : incident.incidentId = k
  · have hbefore : g.recorded? k = some (approval, queued) := by
      rw [recorded?_deciding hg, if_pos hk]
    have hrecording : g.recording k = true := congrArg Option.isSome hbefore
    have hstored := (h.recorded g (List.mem_of_getElem? hi) approval queued hbefore).1
    have hsame : (env.exec (.repo (.saveIncident incident')) w).2.decisions.approval =
        w.decisions.approval := by rw [hview]
    have houtbox : (env.exec (.repo (.saveIncident incident')) w).2.decisions.outbox =
        w.decisions.outbox := by rw [hview]
    have hincident : (env.exec (.repo (.saveIncident incident')) w).2.decisions.incident k =
        some incident' := by
      rw [hview, ← hk, ← hid]
      exact Function.update_self ..
    constructor
    · rw [houtbox]
      exact h.once
    · rw [houtbox, hsame]
      exact h.actions
    · rw [hsame, hstored]
      exact nofun
    · rw [hsame, hincident]
      intro a ha
      obtain rfl : approval = a := Option.some.inj (hstored.symm.trans ha)
      exact ⟨incident', rfl, .inl hstatus⟩
    · intro other hother a queued' hrec
      obtain rfl := eq_of_recording h.alone hi hrecording hother (congrArg Option.isSome hrec)
      rw [hnew] at hrec
      cases hrec
    · exact countP_set_le_one h.alone hi fun _ => .inl hrecording
  · refine h.keep hi ?_ (by rw [hview]) (by rw [hview]; exact fun a ha _ => ha)
      (hnew.trans (recorded?_of_ne hk hg).symm)
    rw [hview]
    exact Function.update_of_ne (fun heq => hk (hid.symm.trans heq.symm)) _ _

/-- A call that no decision depends on. -/
theorem Contending.still (h : Contending k phases w) (hi : phases[i]? = some g) {α : Type}
    {op : Effect α} (hmoves : DecisionPhase.moves op = false)
    (hincident : (env.exec op w).2.decisions.incident = w.decisions.incident)
    (happroval : (env.exec op w).2.decisions.approval = w.decisions.approval)
    (houtbox : (env.exec op w).2.decisions.outbox = w.decisions.outbox) :
    Contending k (phases.set i (g.advance op (env.exec op w).1)) (env.exec op w).2 := by
  refine h.keep hi (by rw [hincident]) (by rw [happroval])
    (by rw [houtbox]; exact fun a ha _ => ha) ?_
  have hphase : (g.advance op (env.exec op w).1).phase = g.phase := g.phase.advance_still hmoves _
  unfold DecisionGhost.recorded?
  rw [hphase]

/-- A read of the incident begins no write. -/
theorem Contending.getIncident (h : Contending k phases w) (hi : phases[i]? = some g)
    {tenantId : String} {incidentId : Uuid} (hg : g.phase = .entered ∨ g.phase = .checked)
    (r : Except Fault (Option Incident)) (hview : w'.decisions = w.decisions) :
    Contending k (phases.set i (g.advance (.repo (.getIncident tenantId incidentId)) r)) w' := by
  refine h.keep hi (by rw [hview]) (by rw [hview]) (by rw [hview]; exact fun a ha _ => ha) ?_
  have hbefore : g.recorded? k = none := by
    unfold DecisionGhost.recorded?
    rcases hg with hg | hg <;> rw [hg]
  have hafter : (g.advance (.repo (.getIncident tenantId incidentId)) r).recorded? k = none := by
    unfold DecisionGhost.recorded?
    split
    next hphase =>
      obtain ⟨-, -, -, happroval, -⟩ := DecisionPhase.deciding_of_advance hg hphase
      cases happroval
    · rfl
  rw [hafter, hbefore]

/-- Each call of a request, as its contract allows it. -/
theorem Contending.call (h : Contending k phases w) {α : Type} {op : Effect α}
    (hi : phases[i]? = some g) (hop : contendedTerms.allowed g op)
    (hfirst : ∀ approval ∈ op.recordedApproval?, approval.incidentId = k →
      w.decisions.approval k = none) :
    contendedTerms.promised g op (env.exec op w).1 ∧
      Contending k (phases.set i (g.advance op (env.exec op w).1)) (env.exec op w).2 := by
  cases op with
  | now => exact ⟨⟨_, rfl⟩, h.still hi rfl rfl rfl rfl⟩
  | uuid4 => exact ⟨⟨_, rfl⟩, h.still hi rfl rfl rfl rfl⟩
  | sendAction => exact hop.elim
  | collectEvidence | invokeGraph | resumeGraph | putUpload | sendNotification =>
    exact ⟨trivial, h.still hi rfl rfl rfl rfl⟩
  | repo op =>
    have hstep := decisions_repo env op w
    cases op with
    | getIncident tenantId incidentId =>
      refine ⟨fun incident hok => ⟨(hstep.2 incident hok).2, trivial⟩, ?_⟩
      exact h.getIncident hi hop _ hstep.1
    | saveApproval approval =>
      obtain ⟨incident, hg, hid⟩ := hop
      rw [show (env.exec (.repo (.saveApproval approval)) w).1 = .ok () from hstep.1]
      exact ⟨rfl, h.saveApproval hi hg hid (hfirst approval rfl)⟩
    | saveActionDispatch action =>
      obtain ⟨incident, approval, hg, hid, happroval, -⟩ := hop
      rw [show (env.exec (.repo (.saveActionDispatch action)) w).1 = .ok () from hstep.1]
      exact ⟨rfl, h.saveActionDispatch hi hg hid happroval⟩
    | saveIncident incident' =>
      obtain ⟨incident, approval, queued, hg, hid, hstatus⟩ := hop
      rw [show (env.exec (.repo (.saveIncident incident')) w).1 = .ok () from hstep.1]
      exact ⟨rfl, h.saveIncident hi hg hid hstatus⟩
    | recordEvent event =>
      obtain ⟨-, hview, -⟩ := hstep
      exact ⟨trivial, h.still hi rfl (by rw [hview]) (by rw [hview]) (by rw [hview])⟩
    | claimDueActionDispatches | completeActionDispatch | saveRuntimeControlChange
    | savePlatformControlChange | eraseTravelerData | purgeExpired => exact hop.elim
    | getRuntimeControlOverride | getPlatformControlOverride =>
      have hview := hstep.1
      exact ⟨trivial, h.still hi rfl (by rw [hview]) (by rw [hview]) (by rw [hview])⟩
    | _ =>
      have hview := hstep
      exact ⟨trivial, h.still hi rfl (congrArg DecisionView.incident hview)
        (congrArg DecisionView.approval hview) (congrArg DecisionView.outbox hview)⟩

/-- An arriving request has recorded nothing. -/
theorem Contending.arrive (h : Contending k phases w) :
    Contending k (phases ++ [⟨0, .entered, none⟩]) w := by
  have hnew : ∀ other ∈ phases ++ [⟨0, .entered, none⟩], other.recording k = true →
      other ∈ phases := by
    intro other hother hrec
    rcases List.mem_append.mp hother with hold | hlast
    · exact hold
    · rw [List.mem_singleton.mp hlast] at hrec
      cases hrec
  refine ⟨h.once, h.actions, h.waiting, ?_, ?_, ?_⟩
  · intro approval hstored
    obtain ⟨incident, hfound, hstatus⟩ := h.decided approval hstored
    refine ⟨incident, hfound, hstatus.imp_right fun ⟨hpending, g, hg, hrec⟩ => ?_⟩
    exact ⟨hpending, g, List.mem_append_left _ hg, hrec⟩
  · intro g hg approval queued hrec
    exact h.recorded g (hnew g hg (congrArg Option.isSome hrec)) approval queued hrec
  · rw [List.countP_append]
    exact h.alone

/-! ### Runs -/

/-- The event records no approval of the incident, or the first one. -/
def RecordsFirst (k : Uuid) (pool : Pool Effect Fault (World b)) (e : PoolEvent DecisionRequest) :
    Prop :=
  ∀ approval ∈ pool.next? Effect.recordedApproval? e, approval.incidentId = k →
    pool.state.decisions.approval k = none

instance (pool : Pool Effect Fault (World b)) (e : PoolEvent DecisionRequest) :
    Decidable (RecordsFirst k pool e) :=
  inferInstanceAs (Decidable (∀ approval ∈ pool.next? Effect.recordedApproval? e,
    approval.incidentId = k → pool.state.decisions.approval k = none))

theorem joint_contending_apply {pool : Pool Effect Fault (World b)}
    (h : pool.Joint contendedTerms.contract (fun g _ => ¬g.phase.Deciding) (Contending k))
    {e : PoolEvent DecisionRequest} (he : RecordsFirst k pool e) :
    (pool.apply env.exec (DecisionRequest.start svc) e).Joint contendedTerms.contract
      (fun g _ => ¬g.phase.Deciding) (Contending k) := by
  refine Pool.joint_apply h e ?_ ?_
  · exact fun r phases _ hcontending => ⟨_, r.start_follows svc, hcontending.arrive⟩
  · intro γ op next i phases g hstep hi hcontending hg hop
    refine hcontending.call hg hop fun approval happroval => he approval ?_
    rw [hstep]
    simp only [Pool.next?, hi]
    exact happroval

/-- What requests leave of an incident: one action at most, of the one approval; a status that is
decided is that of the approval, and it is decided once all of them have returned. -/
structure DecidedOnce (pool : Pool Effect Fault (World b)) (k : Uuid) : Prop where
  once : ∀ a ∈ pool.state.decisions.outbox, ∀ a' ∈ pool.state.decisions.outbox,
    a.incidentId = k → a'.incidentId = k → a = a'
  actions : ∀ a ∈ pool.state.decisions.outbox, a.incidentId = k →
    ∃ approval, pool.state.decisions.approval k = some approval ∧
      a.approvalId = approval.approvalId
  agrees : ∀ incident, pool.state.decisions.incident k = some incident →
    incident.status ≠ .pendingApproval →
      ∃ approval, pool.state.decisions.approval k = some approval ∧
        incident.status = Api.decidedStatus approval.decision
  settled : (∀ p ∈ pool.threads, p.returned?.isSome = true) → ∀ approval,
    pool.state.decisions.approval k = some approval →
      ∃ incident, pool.state.decisions.incident k = some incident ∧
        incident.status = Api.decidedStatus approval.decision

theorem Contending.agrees (h : Contending k phases w) {incident : Incident}
    (hfound : w.decisions.incident k = some incident)
    (hstatus : incident.status ≠ .pendingApproval) :
    ∃ approval, w.decisions.approval k = some approval ∧
      incident.status = Api.decidedStatus approval.decision := by
  cases hstored : w.decisions.approval k with
  | none =>
    obtain ⟨waiting, hwaiting, hpending⟩ := h.waiting hstored
    obtain rfl : waiting = incident := Option.some.inj (hwaiting.symm.trans hfound)
    exact absurd hpending hstatus
  | some approval =>
    obtain ⟨decided, hdecided, hor⟩ := h.decided approval hstored
    obtain rfl : decided = incident := Option.some.inj (hdecided.symm.trans hfound)
    rcases hor with hagrees | ⟨hpending, -⟩
    · exact ⟨approval, rfl, hagrees⟩
    · exact absurd hpending hstatus

/-- An incident with an approval is decided once every request has returned. -/
theorem Contending.settled {pool : Pool Effect Fault (World b)}
    (h : Contending k phases pool.state)
    (hfollows : List.Forall₂ (fun g p => p.Follows contendedTerms.contract
      (fun g _ => ¬g.phase.Deciding) g) phases pool.threads)
    (hreturned : ∀ p ∈ pool.threads, p.returned?.isSome = true) {approval : ApprovalRecord}
    (hstored : pool.state.decisions.approval k = some approval) :
    ∃ incident, pool.state.decisions.incident k = some incident ∧
      incident.status = Api.decidedStatus approval.decision := by
  obtain ⟨incident, hfound, hstatus⟩ := h.decided approval hstored
  rcases hstatus with hagrees | ⟨-, g, hg, hrecording⟩
  · exact ⟨incident, hfound, hagrees⟩
  · obtain ⟨i, hi⟩ := List.mem_iff_getElem?.mp hg
    have hlen := hfollows.length_eq
    obtain ⟨hlt, hget⟩ := List.getElem?_eq_some_iff.mp hi
    have hfollow := hfollows.get hlt (hlen ▸ hlt)
    have hsome := hreturned _ (List.getElem_mem (hlen ▸ hlt))
    simp only [List.get_eq_getElem, hget] at hfollow
    generalize pool.threads[i] = p at hfollow hsome
    cases p with
    | pure u => exact absurd (deciding_of_recording hrecording) hfollow
    | throw e => cases hsome
    | call op next => cases hsome

/-- In every run of approve and reject requests side by side, of any callers and with any of them
stopped at any call, in which no approval of the incident is recorded over another: one action at
most is stored for the incident, of the stored approval, a decided status is that of the approval,
and the incident is decided once all requests have returned. -/
theorem one_decision (svc : Service) (env : Env) (w : World b) (k : Uuid) (incident : Incident)
    (hincident : w.decisions.incident k = some incident)
    (hpending : incident.status = .pendingApproval) (happroval : w.decisions.approval k = none)
    (houtbox : ∀ a ∈ w.decisions.outbox, a.incidentId ≠ k)
    (events : List (PoolEvent DecisionRequest))
    (hevents : Meets (Pool.apply env.exec (DecisionRequest.start svc)) (RecordsFirst k) ⟨w, []⟩
      events) :
    DecidedOnce (runFrom (Pool.apply env.exec (DecisionRequest.start svc)) ⟨w, []⟩ events) k := by
  have hstart : (⟨w, []⟩ : Pool Effect Fault (World b)).Joint contendedTerms.contract
      (fun g _ => ¬g.phase.Deciding) (Contending k) := by
    refine ⟨[], .nil, ?_⟩
    constructor
    · exact fun a ha _ _ hid _ => absurd hid (houtbox a ha)
    · exact fun a ha hid => absurd hid (houtbox a ha)
    · exact fun _ => ⟨incident, hincident, hpending⟩
    · intro approval hstored
      rw [happroval] at hstored
      cases hstored
    · exact fun g hg => absurd hg List.not_mem_nil
    · exact Nat.zero_le _
  obtain ⟨phases, hfollows, hcontending⟩ := runFrom_inv (Pool.Joint contendedTerms.contract
    (fun g _ => ¬g.phase.Deciding) (Contending k)) (fun _ _ h he => joint_contending_apply h he)
    hstart hevents
  exact ⟨hcontending.once, hcontending.actions, fun _ => hcontending.agrees,
    fun hreturned _ => hcontending.settled hfollows hreturned⟩

end Pool

/-! ### An approval and its retry -/

def sampleApproval : DecisionRequest :=
  ⟨.approve, sampleManager, .v5 "incident", sampleDecision .approve⟩

/-- A request to the end, and then the same request again. -/
def approvedTwice : List (PoolEvent DecisionRequest) :=
  .spawn sampleApproval :: List.replicate 30 (.step 0) ++
    .spawn sampleApproval :: List.replicate 30 (.step 1)

/-- The pool once both have returned. -/
def settledPool : Pool Effect Fault (World .memory) :=
  runFrom (Pool.apply Env.still.exec (DecisionRequest.start .switchedOn)) ⟨pendingWorld, []⟩
    approvedTwice

theorem one_decision_approvedTwice :
    DecidedOnce settledPool (.v5 "incident") ∧
      ∃ incident, settledPool.state.decisions.incident (.v5 "incident") = some incident ∧
        incident.status = .approved := by
  have hone : DecidedOnce settledPool (.v5 "incident") :=
    one_decision .switchedOn .still pendingWorld (.v5 "incident") sampleIncident
      (by decide +kernel) rfl (by decide +kernel) (fun a ha => absurd ha (Table.notMem_empty a))
      approvedTwice (by decide +kernel)
  have happrove : (settledPool.state.decisions.approval (.v5 "incident")).map
      (fun a => a.decision) = some .approve := by decide +kernel
  obtain ⟨approval, hstored, hdecision⟩ := Option.map_eq_some_iff.mp happrove
  obtain ⟨incident, hfound, hstatus⟩ := hone.settled (by decide +kernel) approval hstored
  rw [hdecision] at hstatus
  exact ⟨hone, incident, hfound, hstatus⟩

/-- Two requests, call by call in turn. -/
def approvedTogether : List (PoolEvent DecisionRequest) :=
  [.spawn sampleApproval, .spawn { sampleApproval with
    caller := { sampleManager with idempotencyKey := some "other" } }] ++
    (List.replicate 30 [.step 0, .step 1]).flatten

/-- Both check before either records, and two actions are stored. -/
example : (runFrom (Pool.apply Env.still.exec (DecisionRequest.start .switchedOn))
    ⟨pendingWorld, []⟩ approvedTogether).state.store.actionDispatches.rows.map
      (fun a => a.incidentId) = [.v5 "incident", .v5 "incident"] := by decide +kernel

end RouteShield
