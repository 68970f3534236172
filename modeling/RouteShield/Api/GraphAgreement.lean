import RouteShield.Agent.Resumption
import RouteShield.Api.DecisionRaces

/-!
Decisions and the graph that waits for one, in any interleaving. A request records its decision in
the repository and then resumes the graph, which runs to its end beside the repository and keeps
what it was told. What the graph ends with is what the repository has: the decision of the stored
approval, and the action in the outbox when the decision approves it.
-/

namespace RouteShield

/-- The world with the threads of the checkpointer. -/
structure AgentWorld (b : Backend) where
  world : World b
  threads : String → Option GraphThread

/-- What a graph that waits under a thread makes of a decision. -/
def AgentWorld.resumed {b : Backend} (a : AgentWorld b) (threadId : String)
    (resume : GraphResume) : Option (Except Fault GraphThread) :=
  match a.threads threadId with
  | some (.waiting s) => some ((Graph.conclude resume.json).map (GraphThread.ended s))
  | _ => none

/-- One effect. A graph that waits runs to its end, or raises and goes on waiting; of a thread that
does not wait the environment answers. -/
def Env.execAgent {b : Backend} (env : Env) {α : Type} (op : Effect α) (a : AgentWorld b) :
    Except Fault α × AgentWorld b :=
  match op with
  | .resumeGraph threadId resume =>
    match a.resumed threadId resume with
    | some (.ok thread) =>
      (.ok (), ⟨env.after a.world (.resumeGraph threadId resume),
        Function.update a.threads threadId (some thread)⟩)
    | some (.error fault) =>
      (.error fault, ⟨env.after a.world (.resumeGraph threadId resume), a.threads⟩)
    | none =>
      (env.answer a.world (.resumeGraph threadId resume),
        ⟨env.after a.world (.resumeGraph threadId resume), a.threads⟩)
  | op => ((env.exec op a.world).1, ⟨(env.exec op a.world).2, a.threads⟩)

/-- How far a decision has come: the incident it read, the approval it recorded with the action it
queued, the same once the incident is saved, and the end once the graph is resumed. -/
inductive ResumePhase where
  | entered
  | checked
  | deciding (incident : Incident)
  | recorded (incident : Incident) (approval : ApprovalRecord)
      (action : Option ActionDispatchRecord)
  | saved (incident : Incident) (approval : ApprovalRecord) (action : Option ActionDispatchRecord)
  | over

namespace ResumePhase

def advance : ResumePhase → {α : Type} → Effect α → Except Fault α → ResumePhase
  | .entered, _, .repo (.getIncident _ _), _ => .checked
  | .checked, _, .repo (.getIncident _ _), .ok (some incident) => .deciding incident
  | .checked, _, .repo (.getIncident _ _), _ => .over
  | .deciding incident, _, .repo (.saveApproval approval), _ => .recorded incident approval none
  | .recorded incident approval _, _, .repo (.saveActionDispatch action), _ =>
    .recorded incident approval (some action)
  | .recorded incident approval action, _, .repo (.saveIncident _), _ =>
    .saved incident approval action
  | .saved _ _ _, _, .resumeGraph _ _, _ => .over
  | φ, _, _, _ => φ

/-- The calls that can move the phase. -/
def moves : {α : Type} → Effect α → Bool
  | _, .repo (.getIncident _ _) | _, .repo (.saveApproval _) | _, .repo (.saveActionDispatch _)
  | _, .repo (.saveIncident _) | _, .resumeGraph _ _ => true
  | _, _ => false

theorem advance_still (φ : ResumePhase) {α : Type} {op : Effect α} (h : moves op = false)
    (r : Except Fault α) : φ.advance op r = φ := by
  unfold advance
  split <;> first | rfl | cases h

def allowed (φ : ResumePhase) : {α : Type} → Effect α → Prop
  | _, .repo (.getIncident _ _) => φ = .entered ∨ φ = .checked
  | _, .repo (.saveApproval approval) =>
    ∃ incident, φ = .deciding incident ∧ approval.incidentId = incident.incidentId
  | _, .repo (.saveActionDispatch action) =>
    ∃ incident approval, φ = .recorded incident approval none ∧
      action.incidentId = incident.incidentId ∧
      action.actionDispatchId = Api.actionDispatchId approval.approvalId ∧
      action.idempotencyKey = Api.actionIdempotencyKey approval.approvalId
  | _, .repo (.saveIncident incident') =>
    ∃ incident approval action, φ = .recorded incident approval action ∧
      incident'.incidentId = incident.incidentId ∧
      incident'.graphThreadId = incident.graphThreadId ∧
      incident'.status = Api.decidedStatus approval.decision
  | _, .resumeGraph threadId resume =>
    ∃ incident approval action, φ = .saved incident approval action ∧
      incident.graphThreadId = some threadId ∧ resume.decision = approval.decision ∧
      resume.action = action.map fun x => (x.actionDispatchId, x.idempotencyKey)
  | _, .repo (.claimDueActionDispatches _) => False
  | _, .repo (.completeActionDispatch _ _ _) => False
  | _, .repo (.eraseTravelerData _ _ _) => False
  | _, .repo (.purgeExpired _) => False
  | _, _ => True

/-- An incident that is read is the one asked for. -/
def promised : {α : Type} → Effect α → Except Fault α → Prop
  | _, .repo (.getIncident _ incidentId), r =>
    ∀ incident, r = .ok (some incident) → incident.incidentId = incidentId
  | _, _, _ => True

/-- The incident that a decision has read. -/
def incident? : ResumePhase → Option Incident
  | .deciding incident | .recorded incident _ _ | .saved incident _ _ => some incident
  | _ => none

/-- The decision on an incident that is recorded and not yet told to the graph. -/
def decision? (k : Uuid) : ResumePhase → Option (ApprovalRecord × Option ActionDispatchRecord)
  | .recorded incident approval action | .saved incident approval action =>
    if incident.incidentId = k then some (approval, action) else none
  | _ => none

def Saved : ResumePhase → Prop
  | .saved _ _ _ => True
  | _ => False

/-- A decision that is through has resumed the graph of its incident, if it has one. -/
def Through : ResumePhase → Prop
  | .recorded _ _ _ => False
  | .saved incident _ _ => incident.graphThreadId.filter (fun threadId => threadId ≠ "") = none
  | _ => True

end ResumePhase

/-- A decision request, from its checks to the resumption of the graph. -/
def resumption : Prog.Contract Effect Fault ResumePhase where
  allowed φ := φ.allowed
  promised _ := ResumePhase.promised
  advance φ := φ.advance
  stop _ := True

namespace Api

open Prog

variable {svc : Service} {φ : ResumePhase} {α : Type}

/-- A call that no phase depends on. -/
theorem still_resumes {op : Effect α} (hstill : ResumePhase.moves op = false)
    (hallowed : φ.allowed op) :
    (perform op).Follows resumption (fun φ' _ => φ' = φ) φ :=
  follows_perform hallowed (fun _ _ => φ.advance_still hstill _) fun _ _ => trivial

theorem check_resumes {p : Api α} (hp : p.CallFree) :
    p.Follows resumption (fun φ' a => φ' = φ ∧ p = pure a) φ :=
  follows_callFree hp (fun _ h => ⟨rfl, h⟩) trivial

theorem now_resumes : now.Follows resumption (fun φ' _ => φ' = φ) φ := still_resumes rfl trivial

theorem uuid4_resumes : uuid4.Follows resumption (fun φ' _ => φ' = φ) φ := still_resumes rfl trivial

theorem emitEvent_resumes (fields : EventFields) :
    (emitEvent fields).Follows resumption (fun φ' _ => φ' = φ) φ := by
  refine follows_bind (P := fun φ' _ => φ' = φ) ?_ fun _ _ h => follows_pure h
  refine follows_bind uuid4_resumes fun _ eventId h₁ => ?_
  refine follows_bind now_resumes fun _ emittedAt h₂ => ?_
  refine follows_bind (still_resumes rfl trivial) fun _ _ h₃ => follows_pure ?_
  exact h₃.trans (h₂.trans h₁)

theorem controlEnabled_resumes (tenantId : String) (name : RuntimeControlName) :
    (controlEnabled svc tenantId name).Follows resumption (fun φ' _ => φ' = φ) φ := by
  refine follows_bind (still_resumes rfl trivial) ?_
  rintro _ override rfl
  cases override with
  | some override => exact follows_pure rfl
  | none =>
    refine follows_bind (still_resumes rfl trivial) ?_
    rintro _ platform rfl
    cases platform <;> exact follows_pure rfl

theorem claimOptionalMutation_resumes (tenantId : String) (key : Option String) (scope : String)
    (payload : Payload) :
    (claimOptionalMutation svc tenantId key scope payload).Follows resumption
      (fun φ' _ => φ' = φ) φ := by
  unfold claimOptionalMutation
  split
  · refine follows_bind (check_resumes (callFree_require _ _ _)) ?_
    rintro _ _ ⟨rfl, -⟩
    exact follows_pure rfl
  · refine follows_bind (P := fun φ' _ => φ' = φ) ?_ fun _ _ h => follows_pure h
    refine follows_bind now_resumes ?_
    rintro _ claimedAt rfl
    refine follows_bind (still_resumes rfl trivial) ?_
    rintro _ ⟨disposition, record⟩ rfl
    cases disposition with
    | execute | replay => exact follows_pure rfl
    | conflict | inProgress => exact follows_throw trivial

theorem completeOptionalMutation_resumes (tenantId : String) (key requestHash : Option String)
    (status : ℕ) (response : Response) :
    (completeOptionalMutation tenantId key requestHash status response).Follows resumption
      (fun φ' _ => φ' = φ) φ := by
  unfold completeOptionalMutation
  split
  · exact follows_bind (still_resumes rfl trivial) fun _ _ h => follows_pure h
  · exact follows_pure rfl

/-- The access check is the first to read the incident. -/
theorem requireIncidentTripAccess_resumes (tenantId : String) (incidentId : Uuid) (caller : Caller)
    (roles : List UserRole) :
    (requireIncidentTripAccess svc tenantId incidentId caller roles).Follows resumption
      (fun φ' _ => φ' = .checked) .entered := by
  refine follows_bind (P := fun φ' _ => φ' = .checked)
    (follows_perform (.inl rfl) (fun _ _ => rfl) fun _ _ => trivial) ?_
  rintro _ found rfl
  refine follows_bind (check_resumes (callFree_found _ _ _)) ?_
  rintro _ incident ⟨rfl, -⟩
  refine follows_bind (still_resumes rfl trivial) ?_
  rintro _ trip? rfl
  refine follows_bind (check_resumes (callFree_found _ _ _)) ?_
  rintro _ trip ⟨rfl, -⟩
  refine follows_bind (check_resumes (callFree_requireTripAccess _ _ _)) ?_
  rintro _ _ ⟨rfl, -⟩
  exact follows_pure rfl

theorem queueAction_resumes (incident : Incident) (approval : ApprovalRecord) (tenantId : String) :
    (queueAction incident approval tenantId).Follows resumption
      (fun φ' action => φ' = .recorded incident approval (some action))
      (.recorded incident approval none) := by
  refine follows_bind (check_resumes (callFree_validate _ _)) ?_
  rintro _ _ ⟨rfl, -⟩
  refine follows_bind now_resumes ?_
  rintro _ nextAttemptAt rfl
  refine follows_bind now_resumes ?_
  rintro _ createdAt rfl
  refine follows_bind now_resumes ?_
  rintro _ updatedAt rfl
  refine follows_seq (follows_perform ⟨incident, approval, rfl, rfl, rfl, rfl⟩ (fun _ _ => ?_)
    fun _ _ => trivial)
  exact follows_bind (emitEvent_resumes _) fun _ _ h => follows_pure h

/-- The three writes of a decision. -/
theorem applyDecision_resumes {incident : Incident} {approval : ApprovalRecord}
    (tenantId : String) (hid : approval.incidentId = incident.incidentId) :
    (applyDecision incident approval tenantId).Follows resumption
      (fun φ' action => φ' = .saved incident approval action) (.deciding incident) := by
  refine follows_seq (follows_perform ⟨incident, rfl, hid⟩ (fun _ _ => ?_) fun _ _ => trivial)
  refine follows_bind (P := fun φ' action => φ' = .recorded incident approval action) ?_ ?_
  · unfold queuePending
    split_ifs
    · exact follows_map (queueAction_resumes incident approval tenantId)
    · exact follows_pure rfl
  · rintro _ action rfl
    refine follows_seq (follows_perform ⟨incident, approval, action, rfl, rfl, rfl, rfl⟩
      (fun _ _ => follows_pure rfl) fun _ _ => trivial)

/-- After the writes the graph is resumed with the decision and its action. -/
theorem announceDecision_resumes (incident : Incident) (approval : ApprovalRecord)
    (tenantId : String) (action : Option ActionDispatchRecord) :
    (announceDecision incident approval tenantId action).Follows resumption
      (fun φ' _ => φ'.Through) (.saved incident approval action) := by
  refine follows_bind (P := fun φ' _ => φ'.Through) ?_ fun φ' _ h => ?_
  · unfold resumeGraph
    split
    next threadId hthread =>
      refine follows_perform ⟨incident, approval, action, rfl, ?_, rfl, rfl⟩
        (fun _ _ => trivial) fun _ _ => trivial
      exact (Option.filter_eq_some_iff.mp hthread).1
    next hthread => exact follows_pure hthread
  · refine follows_mono (emitEvent_resumes _) ?_
    rintro _ _ rfl
    exact h

theorem decideIncident_resumes (incidentId : Uuid) (payload : ApprovalRequest) (tenantId : String) :
    (decideIncident svc incidentId payload tenantId).Follows resumption
      (fun φ' _ => φ'.Through) .checked := by
  refine follows_seq (follows_perform (.inr rfl) (fun found hread => ?_) fun _ _ => trivial)
  cases found with
  | none => exact follows_throw trivial
  | some incident =>
    have hid : incidentId = incident.incidentId := (hread incident rfl).symm
    show Prog.Follows resumption _ (.deciding incident) _
    refine follows_seq (follows_pure (a := incident) ?_)
    refine follows_bind (check_resumes (callFree_require _ _ _)) ?_
    rintro _ _ ⟨rfl, -⟩
    refine follows_bind (P := fun φ' _ => φ' = .deciding incident) ?_ ?_
    · unfold dispatchStatus
      split_ifs
      · exact follows_pure rfl
      · refine follows_bind (controlEnabled_resumes _ _) ?_
        rintro _ enabled rfl
        split_ifs <;> exact follows_pure rfl
    rintro _ actionDispatchStatus rfl
    refine follows_bind uuid4_resumes ?_
    rintro _ approvalId rfl
    refine follows_bind now_resumes ?_
    rintro _ decidedAt rfl
    refine follows_bind (applyDecision_resumes tenantId hid) ?_
    rintro _ action rfl
    exact follows_bind (announceDecision_resumes _ _ _ _) fun _ _ h => follows_pure h

/-- A decision request that is through leaves no graph waiting for what it recorded. -/
theorem decide_resumes (decision : ApprovalDecision) (caller : Caller) (incidentId : Uuid)
    (payload : ApprovalRequest) :
    (decide svc decision caller incidentId payload).Follows resumption
      (fun φ' _ => φ'.Through) .entered := by
  refine follows_bind (check_resumes (callFree_requireRole _ _)) ?_
  rintro _ _ ⟨rfl, -⟩
  refine follows_bind (check_resumes (callFree_requireActorMatchesPayload _ _)) ?_
  rintro _ _ ⟨rfl, -⟩
  refine follows_bind (check_resumes (callFree_require _ _ _)) ?_
  rintro _ _ ⟨rfl, -⟩
  refine follows_bind (check_resumes (callFree_require _ _ _)) ?_
  rintro _ _ ⟨rfl, -⟩
  refine follows_bind (check_resumes (callFree_requireTenant _)) ?_
  rintro _ tenantId ⟨rfl, -⟩
  refine follows_bind (requireIncidentTripAccess_resumes _ _ _ _) ?_
  rintro _ _ rfl
  refine follows_bind (claimOptionalMutation_resumes _ _ _ _) ?_
  rintro _ ⟨requestHash, replay⟩ rfl
  cases replay with
  | some record =>
    exact follows_callFree (callFree_replay _ _) (fun _ _ => trivial) trivial
  | none =>
    refine follows_bind (decideIncident_resumes _ _ _) fun φ' approval hthrough => ?_
    refine follows_bind (completeOptionalMutation_resumes _ _ _ _ _) ?_
    rintro _ _ rfl
    exact follows_pure hthrough

end Api

theorem DecisionRequest.start_resumes (svc : Service) (r : DecisionRequest) :
    (r.start svc).Follows resumption (fun φ _ => φ.Through) .entered := by
  unfold start request
  cases r.decision <;>
    exact Prog.follows_bind (Api.decide_resumes _ _ _ _) fun _ _ h => Prog.follows_pure h

/-! ### The outbox -/

/-- A backend whose outbox keeps the actions of other identifiers when one is saved. -/
class OutboxPuts (b : Backend) [DecisionStore b] : Prop where
  puts : ∀ (action : ActionDispatchRecord) (now : Time) (fresh : ℕ → Uuid) (s : b.State),
    ∀ x ∈ (DecisionStore.view s).outbox, x.actionDispatchId ≠ action.actionDispatchId →
      x ∈ (DecisionStore.view (b.exec (.saveActionDispatch action) now fresh s).2).outbox

instance : OutboxPuts .memory where
  puts action _ _ s x hx hne :=
    (Table.mem_put s.actionDispatches action x).mpr (.inr ⟨hx, hne⟩)

instance : OutboxPuts .postgres where
  puts action _ _ s x hx hne := by
    obtain ⟨row, hrow, rfl⟩ := hx
    exact ⟨row, (Table.mem_put s.actionDispatches _ row).mpr (.inr ⟨hrow, hne⟩), rfl⟩

/-- The action of an approval is in the outbox, under its identifier and its key. -/
def ActionListed (approvalId : Uuid) (outbox : Set ActionDispatchRecord) : Prop :=
  ∃ x ∈ outbox, x.actionDispatchId = Api.actionDispatchId approvalId ∧
    x.idempotencyKey = Api.actionIdempotencyKey approvalId

theorem actionDispatchId_injective : Function.Injective Api.actionDispatchId := fun _ _ h =>
  Uuid.str_injective ((String.append_right_inj _).mp (Uuid.v5.inj h))

/-- The outbox has of an incident the action of its decision, or none. -/
structure OutboxOf (k : Uuid) (approval : ApprovalRecord) (action : Option ActionDispatchRecord)
    (outbox : Set ActionDispatchRecord) : Prop where
  only : ∀ x ∈ outbox, x.incidentId = k → action = some x
  named : ∀ x ∈ action, x.actionDispatchId = Api.actionDispatchId approval.approvalId ∧
    x.idempotencyKey = Api.actionIdempotencyKey approval.approvalId
  listed : action.isSome → ActionListed approval.approvalId outbox

section Agreement

variable {b : Backend} [DecisionStore b] {env : Env} {svc : Service} {a a' : AgentWorld b}
  {k : Uuid} {threadId : String} {phases : List ResumePhase} {φ φ' : ResumePhase} {i : ℕ}
  {approval : ApprovalRecord} {action : Option ActionDispatchRecord}

abbrev AgentWorld.view (a : AgentWorld b) : DecisionView := a.world.decisions

/-- The graph of the thread waits for a decision. -/
def AgentWorld.WaitsAt (a : AgentWorld b) (threadId : String) : Prop :=
  ∃ s, a.threads threadId = some (.waiting s)

/-- The incident has the status of its decision. -/
def AgentWorld.DecidedAs (a : AgentWorld b) (k : Uuid) (approval : ApprovalRecord) : Prop :=
  ∃ incident, a.view.incident k = some incident ∧
    incident.status = Api.decidedStatus approval.decision

/-- The graph ended with the decision, and notes its action when the decision approves it. -/
def GraphEnd.Tells (final : GraphEnd) (approval : ApprovalRecord)
    (action : Option ActionDispatchRecord) : Prop :=
  final.finalStatus = approval.decision.value ∧
    ∀ entry, entry ∈ final.dispatchedActions ↔ approval.decision = .approve ∧ ∃ x ∈ action,
      entry = { actionDispatchId := .str x.actionDispatchId.str
                idempotencyKey := .str x.idempotencyKey }

/-! ### What the requests keep -/

/-- One request, and no other, is between its approval and the graph that waits. -/
structure Telling (k : Uuid) (threadId : String) (approval : ApprovalRecord)
    (action : Option ActionDispatchRecord) (phases : List ResumePhase) (a : AgentWorld b) (i : ℕ) :
    Prop where
  waits : a.WaitsAt threadId
  telling : ∃ φ, phases[i]? = some φ ∧ φ.decision? k = some (approval, action) ∧
    (φ.Saved → a.DecidedAs k approval)
  alone : ∀ j ψ, phases[j]? = some ψ → ψ.decision? k ≠ none → j = i

/-- The graph was told, and no request is left to tell it. -/
structure Told (k : Uuid) (threadId : String) (approval : ApprovalRecord)
    (action : Option ActionDispatchRecord) (phases : List ResumePhase) (a : AgentWorld b) :
    Prop where
  ended : ∃ s final, a.threads threadId = some (.ended s final) ∧ final.Tells approval action
  decided : a.DecidedAs k approval
  quiet : ∀ ψ ∈ phases, ψ.decision? k = none

/-- The thread is that of the incident, and of no other. -/
def NamesThread (k : Uuid) (threadId : String) (incident : Incident) : Prop :=
  incident.graphThreadId = some threadId ↔ incident.incidentId = k

structure Agreeing (k : Uuid) (threadId : String) (phases : List ResumePhase) (a : AgentWorld b) :
    Prop where
  named : ∀ id incident, a.view.incident id = some incident → NamesThread k threadId incident
  known : ∀ ψ ∈ phases, ∀ incident ∈ ψ.incident?, NamesThread k threadId incident
  before : a.view.approval k = none → a.WaitsAt threadId ∧
    (∀ x ∈ a.view.outbox, x.incidentId ≠ k) ∧ ∀ ψ ∈ phases, ψ.decision? k = none
  after : ∀ approval, a.view.approval k = some approval →
    ∃ action, OutboxOf k approval action a.view.outbox ∧
      ((∃ i, Telling k threadId approval action phases a i) ∨
        Told k threadId approval action phases a)

/-- What is left of the incident, its approval, its actions and its graph. -/
structure DecisionUntouched (k : Uuid) (threadId : String) (a a' : AgentWorld b) : Prop where
  approval : a'.view.approval k = a.view.approval k
  incident : a'.view.incident k = a.view.incident k
  thread : a'.threads threadId = a.threads threadId
  fewer : ∀ x ∈ a'.view.outbox, x.incidentId = k → x ∈ a.view.outbox
  listed : ∀ approvalId, ActionListed approvalId a.view.outbox →
    ActionListed approvalId a'.view.outbox

theorem DecisionUntouched.decidedAs (h : DecisionUntouched k threadId a a') :
    a'.DecidedAs k approval ↔ a.DecidedAs k approval := by
  simp only [AgentWorld.DecidedAs, h.incident]

theorem DecisionUntouched.waitsAt (h : DecisionUntouched k threadId a a') :
    a'.WaitsAt threadId ↔ a.WaitsAt threadId := by
  simp only [AgentWorld.WaitsAt, h.thread]

theorem OutboxOf.untouched (h : OutboxOf k approval action a.view.outbox)
    (hu : DecisionUntouched k threadId a a') : OutboxOf k approval action a'.view.outbox where
  only x hx hid := h.only x (hu.fewer x hx hid) hid
  named := h.named
  listed hsome := hu.listed _ (h.listed hsome)

theorem Agreeing.untouched (h : Agreeing k threadId phases a)
    (hu : DecisionUntouched k threadId a a')
    (hnamed : ∀ id incident, a'.view.incident id = some incident →
      NamesThread k threadId incident) : Agreeing k threadId phases a' where
  named := hnamed
  known := h.known
  before hnone := by
    obtain ⟨hwaits, houtbox, hquiet⟩ := h.before (hu.approval ▸ hnone)
    exact ⟨hu.waitsAt.mpr hwaits, fun x hx hid => houtbox x (hu.fewer x hx hid) hid, hquiet⟩
  after approval hstored := by
    obtain ⟨action, houtbox, hor⟩ := h.after approval (hu.approval ▸ hstored)
    refine ⟨action, houtbox.untouched hu, hor.imp ?_ ?_⟩
    · rintro ⟨i, hwaits, ⟨φ, hi, hφ, hsaved⟩, halone⟩
      exact ⟨i, hu.waitsAt.mpr hwaits,
        ⟨φ, hi, hφ, fun hs => hu.decidedAs.mpr (hsaved hs)⟩, halone⟩
    · rintro ⟨⟨s, final, hended, htells⟩, hdecided, hquiet⟩
      exact ⟨⟨s, final, hu.thread.trans hended, htells⟩, hu.decidedAs.mpr hdecided, hquiet⟩

/-- A request that has nothing to tell the graph moves on. -/
theorem Agreeing.rephase (h : Agreeing k threadId phases a) (hi : phases[i]? = some φ)
    (hφ : φ.decision? k = none) (hφ' : φ'.decision? k = none)
    (hknown : ∀ incident ∈ φ'.incident?, NamesThread k threadId incident) :
    Agreeing k threadId (phases.set i φ') a := by
  have hlt := (List.getElem?_eq_some_iff.mp hi).1
  have hquiet : (∀ ψ ∈ phases, ψ.decision? k = none) →
      ∀ ψ ∈ phases.set i φ', ψ.decision? k = none := by
    intro hall ψ hψ
    rcases List.mem_or_eq_of_mem_set hψ with hold | rfl
    · exact hall ψ hold
    · exact hφ'
  refine ⟨h.named, fun ψ hψ => ?_, fun hnone => ?_, fun approval hstored => ?_⟩
  · rcases List.mem_or_eq_of_mem_set hψ with hold | rfl
    · exact h.known ψ hold
    · exact hknown
  · obtain ⟨hwaits, houtbox, hall⟩ := h.before hnone
    exact ⟨hwaits, houtbox, hquiet hall⟩
  · obtain ⟨action, houtbox, ⟨j, hwaits, ⟨ψ, hj, hψ, hsaved⟩, halone⟩ | htold⟩ :=
      h.after approval hstored
    · have hne : i ≠ j := by
        rintro rfl
        obtain rfl : φ = ψ := Option.some.inj (hi.symm.trans hj)
        rw [hφ] at hψ
        cases hψ
      refine ⟨action, houtbox, .inl ⟨j, hwaits, ⟨ψ, ?_, hψ, hsaved⟩, fun l χ hl hχ => ?_⟩⟩
      · rw [List.getElem?_set_ne hne, hj]
      · by_cases hil : i = l
        · subst hil
          rw [List.getElem?_set_self hlt] at hl
          cases hl
          exact absurd hφ' hχ
        · rw [List.getElem?_set_ne hil] at hl
          exact halone l χ hl hχ
    · exact ⟨action, houtbox, .inr ⟨htold.ended, htold.decided, hquiet htold.quiet⟩⟩

/-- A request that has a decision to tell the graph: it is the stored one, and only this request
tells it. -/
theorem Agreeing.telling (h : Agreeing k threadId phases a) (hi : phases[i]? = some φ)
    (hφ : φ.decision? k = some (approval, action)) :
    a.view.approval k = some approval ∧ OutboxOf k approval action a.view.outbox ∧
      Telling k threadId approval action phases a i := by
  have hmem := List.mem_of_getElem? hi
  cases hstored : a.view.approval k with
  | none =>
    rw [(h.before hstored).2.2 φ hmem] at hφ
    cases hφ
  | some stored =>
    obtain ⟨action', houtbox, ⟨j, htelling⟩ | htold⟩ := h.after stored hstored
    · obtain rfl : i = j := htelling.alone i φ hi (by rw [hφ]; exact nofun)
      obtain ⟨ψ, hi', hψ, -⟩ := htelling.telling
      obtain rfl : φ = ψ := Option.some.inj (hi.symm.trans hi')
      obtain ⟨rfl, rfl⟩ := Prod.mk.inj (Option.some.inj (hφ.symm.trans hψ))
      exact ⟨rfl, houtbox, htelling⟩
    · rw [htold.quiet φ hmem] at hφ
      cases hφ

/-- Only the one request tells the graph, wherever it moves on to. -/
theorem alone_set
    (halone : ∀ j ψ, phases[j]? = some ψ → ψ.decision? k ≠ none → j = i) :
    ∀ j ψ, (phases.set i φ')[j]? = some ψ → ψ.decision? k ≠ none → j = i := by
  intro j ψ hj hψ
  by_cases hij : i = j
  · exact hij.symm
  · rw [List.getElem?_set_ne hij] at hj
    exact halone j ψ hj hψ

theorem known_set (hknown : ∀ ψ ∈ phases, ∀ incident ∈ ψ.incident?, NamesThread k threadId incident)
    (hφ' : ∀ incident ∈ φ'.incident?, NamesThread k threadId incident) :
    ∀ ψ ∈ phases.set i φ', ∀ incident ∈ ψ.incident?, NamesThread k threadId incident := by
  intro ψ hψ
  rcases List.mem_or_eq_of_mem_set hψ with hold | rfl
  · exact hknown ψ hold
  · exact hφ'

/-- The request that tells the graph makes a write for it. -/
theorem Agreeing.move (h : Agreeing k threadId phases a) (hi : phases[i]? = some φ)
    {action' : Option ActionDispatchRecord} (hφ' : φ'.decision? k = some (approval, action'))
    (hφ'known : ∀ incident ∈ φ'.incident?, NamesThread k threadId incident)
    (hnamed : ∀ id incident, a'.view.incident id = some incident →
      NamesThread k threadId incident)
    (hstored : a'.view.approval k = some approval) (hwaits : a'.WaitsAt threadId)
    (houtbox : OutboxOf k approval action' a'.view.outbox)
    (hsaved : φ'.Saved → a'.DecidedAs k approval)
    (halone : ∀ j ψ, phases[j]? = some ψ → ψ.decision? k ≠ none → j = i) :
    Agreeing k threadId (phases.set i φ') a' where
  named := hnamed
  known := known_set h.known hφ'known
  before hnone := by
    rw [hstored] at hnone
    cases hnone
  after stored hstored' := by
    obtain rfl : approval = stored := Option.some.inj (hstored.symm.trans hstored')
    have hself : (phases.set i φ')[i]? = some φ' :=
      List.getElem?_set_self (List.getElem?_eq_some_iff.mp hi).1
    exact ⟨action', houtbox,
      .inl ⟨i, hwaits, ⟨φ', hself, hφ', hsaved⟩, alone_set halone⟩⟩

/-! ### Each call -/

/-- The first approval of the incident is recorded. -/
theorem Agreeing.saveApproval (h : Agreeing k threadId phases a) {incident : Incident}
    (hi : phases[i]? = some (.deciding incident)) (hid : approval.incidentId = incident.incidentId)
    (hfirst : approval.incidentId = k → a.view.approval k = none)
    (hincident : a'.view.incident = a.view.incident)
    (happroval : a'.view.approval =
      Function.update a.view.approval approval.incidentId (some approval))
    (houtbox : a'.view.outbox = a.view.outbox) (hthreads : a'.threads = a.threads) :
    Agreeing k threadId (phases.set i (.recorded incident approval none)) a' := by
  have hknown : ∀ x ∈ (ResumePhase.recorded incident approval none).incident?,
      NamesThread k threadId x := h.known (.deciding incident) (List.mem_of_getElem? hi)
  have hnamed : ∀ id x, a'.view.incident id = some x → NamesThread k threadId x := by
    rw [hincident]
    exact h.named
  by_cases hk : incident.incidentId = k
  · obtain ⟨hwaits, hnone, hquiet⟩ := h.before (hfirst (hid.trans hk))
    refine h.move hi (if_pos hk) hknown hnamed ?_ ?_ ?_ False.elim ?_
    · rw [happroval, ← hk, ← hid]
      exact Function.update_self ..
    · rw [AgentWorld.WaitsAt, hthreads]
      exact hwaits
    · rw [houtbox]
      exact ⟨fun x hx hxk => absurd hxk (hnone x hx), fun _ hx => (Option.not_mem_none _ hx).elim,
        fun hsome => (Bool.false_ne_true hsome).elim⟩
    · exact fun j ψ hj hψ => absurd (hquiet ψ (List.mem_of_getElem? hj)) hψ
  · refine (h.untouched ⟨?_, ?_, ?_, ?_, ?_⟩ hnamed).rephase hi rfl (if_neg hk) hknown
    · rw [happroval]
      exact Function.update_of_ne (fun heq => hk (hid.symm.trans heq.symm)) _ _
    · rw [hincident]
    · rw [hthreads]
    · rw [houtbox]
      exact fun x hx _ => hx
    · rw [houtbox]
      exact fun _ hlisted => hlisted

/-- The action of a decision goes into the outbox. -/
theorem Agreeing.saveActionDispatch (h : Agreeing k threadId phases a) {incident : Incident}
    {x : ActionDispatchRecord} (hi : phases[i]? = some (.recorded incident approval none))
    (hid : x.incidentId = incident.incidentId)
    (hdispatch : x.actionDispatchId = Api.actionDispatchId approval.approvalId)
    (hkey : x.idempotencyKey = Api.actionIdempotencyKey approval.approvalId)
    (hincident : a'.view.incident = a.view.incident)
    (happroval : a'.view.approval = a.view.approval) (hmem : x ∈ a'.view.outbox)
    (hadded : ∀ y ∈ a'.view.outbox, y = x ∨ y ∈ a.view.outbox)
    (hputs : ∀ y ∈ a.view.outbox, y.actionDispatchId ≠ x.actionDispatchId → y ∈ a'.view.outbox)
    (hthreads : a'.threads = a.threads) :
    Agreeing k threadId (phases.set i (.recorded incident approval (some x))) a' := by
  have hknown : ∀ y ∈ (ResumePhase.recorded incident approval (some x)).incident?,
      NamesThread k threadId y :=
    h.known (.recorded incident approval none) (List.mem_of_getElem? hi)
  have hnamed : ∀ id y, a'.view.incident id = some y → NamesThread k threadId y := by
    rw [hincident]
    exact h.named
  by_cases hk : incident.incidentId = k
  · obtain ⟨hstored, houtbox, htelling⟩ := h.telling hi (if_pos hk)
    refine h.move hi (if_pos hk) hknown hnamed ?_ ?_ ⟨?_, ?_, ?_⟩ False.elim htelling.alone
    · rw [happroval]
      exact hstored
    · rw [AgentWorld.WaitsAt, hthreads]
      exact htelling.waits
    · intro y hy hyk
      rcases hadded y hy with rfl | hold
      · rfl
      · cases houtbox.only y hold hyk
    · intro y hy
      obtain rfl : x = y := Option.some.inj hy
      exact ⟨hdispatch, hkey⟩
    · exact fun _ => ⟨x, hmem, hdispatch, hkey⟩
  · refine (h.untouched ⟨?_, ?_, ?_, ?_, ?_⟩ hnamed).rephase hi (if_neg hk) (if_neg hk) hknown
    · rw [happroval]
    · rw [hincident]
    · rw [hthreads]
    · intro y hy hyk
      rcases hadded y hy with rfl | hold
      · exact absurd (hid.symm.trans hyk) hk
      · exact hold
    · rintro approvalId ⟨y, hy, hyid, hykey⟩
      by_cases hsame : y.actionDispatchId = x.actionDispatchId
      · -- the action that is replaced has the identifier of the new one, and so its key
        obtain rfl : approval.approvalId = approvalId :=
          actionDispatchId_injective (hdispatch.symm.trans (hsame.symm.trans hyid))
        exact ⟨x, hmem, hdispatch, hkey⟩
      · exact ⟨y, hputs y hy hsame, hyid, hykey⟩

/-- The incident of a decision gets its status. -/
theorem Agreeing.saveIncident (h : Agreeing k threadId phases a) {incident incident' : Incident}
    (hi : phases[i]? = some (.recorded incident approval action))
    (hid : incident'.incidentId = incident.incidentId)
    (hthread : incident'.graphThreadId = incident.graphThreadId)
    (hstatus : incident'.status = Api.decidedStatus approval.decision)
    (hincident : a'.view.incident =
      Function.update a.view.incident incident'.incidentId (some incident'))
    (happroval : a'.view.approval = a.view.approval) (houtbox : a'.view.outbox = a.view.outbox)
    (hthreads : a'.threads = a.threads) :
    Agreeing k threadId (phases.set i (.saved incident approval action)) a' := by
  have hknown : ∀ y ∈ (ResumePhase.saved incident approval action).incident?,
      NamesThread k threadId y :=
    h.known (.recorded incident approval action) (List.mem_of_getElem? hi)
  have hnames : NamesThread k threadId incident' := by
    have hread := hknown incident rfl
    rw [NamesThread, hthread, hid]
    exact hread
  have hnamed : ∀ id y, a'.view.incident id = some y → NamesThread k threadId y := by
    rw [hincident]
    intro id y hy
    by_cases heq : id = incident'.incidentId
    · subst heq
      rw [Function.update_self] at hy
      exact Option.some.inj hy ▸ hnames
    · rw [Function.update_of_ne heq] at hy
      exact h.named id y hy
  by_cases hk : incident.incidentId = k
  · obtain ⟨hstored, hkept, htelling⟩ := h.telling hi (if_pos hk)
    refine h.move hi (if_pos hk) hknown hnamed ?_ ?_ ?_ (fun _ => ⟨incident', ?_, hstatus⟩)
      htelling.alone
    · rw [happroval]
      exact hstored
    · rw [AgentWorld.WaitsAt, hthreads]
      exact htelling.waits
    · rw [houtbox]
      exact hkept
    · rw [hincident, ← hk, ← hid]
      exact Function.update_self ..
  · refine (h.untouched ⟨?_, ?_, ?_, ?_, ?_⟩ hnamed).rephase hi (if_neg hk) (if_neg hk) hknown
    · rw [happroval]
    · rw [hincident]
      exact Function.update_of_ne (fun heq => hk (hid.symm.trans heq.symm)) _ _
    · rw [hthreads]
    · rw [houtbox]
      exact fun y hy _ => hy
    · rw [houtbox]
      exact fun _ hlisted => hlisted

/-- A resumption leaves the repository, and every other thread. -/
theorem execAgent_resumeGraph (env : Env) (a : AgentWorld b) (thread threadId : String)
    (resume : GraphResume) :
    (env.execAgent (.resumeGraph thread resume) a).2.view = a.view ∧
      (thread ≠ threadId →
        (env.execAgent (.resumeGraph thread resume) a).2.threads threadId =
          a.threads threadId) := by
  simp only [Env.execAgent]
  split
  · exact ⟨rfl, fun hne => Function.update_of_ne (Ne.symm hne) _ _⟩
  · exact ⟨rfl, fun _ => rfl⟩
  · exact ⟨rfl, fun _ => rfl⟩

omit [DecisionStore b] in
/-- A graph that waits is told a decision, and ends. -/
theorem execAgent_waiting (env : Env) {thread : String} {resume : GraphResume}
    (hwaits : a.WaitsAt thread) (hkey : ∀ x ∈ resume.action, x.2 ≠ "") :
    ∃ s final, Graph.conclude resume.json = .ok final ∧
      (env.execAgent (.resumeGraph thread resume) a).2.threads thread =
        some (.ended s final) := by
  obtain ⟨s, hs⟩ := hwaits
  obtain ⟨final, hfinal, -⟩ := Graph.conclude_resume resume hkey
  have hresumed : a.resumed thread resume = some (.ok (.ended s final)) := by
    simp only [AgentWorld.resumed, hs, hfinal]
    rfl
  refine ⟨s, final, hfinal, ?_⟩
  simp only [Env.execAgent, hresumed]
  exact Function.update_self ..

/-- The graph is told the decision that is recorded. -/
theorem Agreeing.resumeGraph (h : Agreeing k threadId phases a) {incident : Incident}
    {thread : String} {resume : GraphResume}
    (hi : phases[i]? = some (.saved incident approval action))
    (hthread : incident.graphThreadId = some thread)
    (hdecision : resume.decision = approval.decision)
    (haction : resume.action = action.map fun x => (x.actionDispatchId, x.idempotencyKey)) :
    Agreeing k threadId (phases.set i .over) (env.execAgent (.resumeGraph thread resume) a).2 := by
  obtain ⟨hview, hother⟩ := execAgent_resumeGraph env a thread threadId resume
  have hnames : NamesThread k threadId incident :=
    h.known _ (List.mem_of_getElem? hi) incident rfl
  have hover : ∀ x ∈ ResumePhase.over.incident?, NamesThread k threadId x :=
    fun _ hx => (Option.not_mem_none _ hx).elim
  by_cases hk : incident.incidentId = k
  · obtain rfl : thread = threadId := Option.some.inj (hthread.symm.trans (hnames.mpr hk))
    obtain ⟨hstored, houtbox, htelling⟩ := h.telling hi (if_pos hk)
    have hkey : ∀ x ∈ resume.action, x.2 ≠ "" := by
      intro x hx
      rw [haction] at hx
      obtain ⟨y, hy, rfl⟩ := Option.map_eq_some_iff.mp hx
      simp [(houtbox.named y hy).2, Api.actionIdempotencyKey]
    obtain ⟨s, final, hfinal, hended⟩ := execAgent_waiting env htelling.waits hkey
    obtain ⟨final', hfinal', hstatus, hentries⟩ := Graph.conclude_resume resume hkey
    obtain rfl : final = final' := Except.ok.inj (hfinal.symm.trans hfinal')
    have hquiet : ∀ ψ ∈ phases.set i .over, ψ.decision? k = none := by
      intro ψ hψ
      obtain ⟨j, hj⟩ := List.mem_iff_getElem?.mp hψ
      by_contra hne
      obtain rfl := alone_set htelling.alone j ψ hj hne
      rw [List.getElem?_set_self (List.getElem?_eq_some_iff.mp hi).1] at hj
      cases hj
      exact hne rfl
    refine ⟨?_, known_set h.known hover, ?_, ?_⟩
    · rw [hview]
      exact h.named
    · rw [hview, hstored]
      exact fun hnone => by cases hnone
    · rw [hview, hstored]
      rintro _ ⟨⟩
      refine ⟨action, houtbox, .inr ⟨⟨s, final, hended, ?_, fun entry => ?_⟩, ?_, hquiet⟩⟩
      · rw [hstatus, hdecision]
      · rw [hentries entry, hdecision, haction]
        simp only [Option.mem_def, Option.map_eq_some_iff]
        constructor
        · rintro ⟨happrove, x, ⟨y, hy, rfl⟩, rfl⟩
          exact ⟨happrove, y, hy, rfl⟩
        · rintro ⟨happrove, y, hy, rfl⟩
          exact ⟨happrove, _, ⟨y, hy, rfl⟩, rfl⟩
      · obtain ⟨φ, hi', -, hsaved⟩ := htelling.telling
        obtain rfl := Option.some.inj (hi.symm.trans hi')
        rw [AgentWorld.DecidedAs, hview]
        exact hsaved trivial
  · have hne : thread ≠ threadId := fun heq => hk (hnames.mp (hthread.trans (congrArg some heq)))
    refine (h.untouched ⟨?_, ?_, hother hne, ?_, ?_⟩ ?_).rephase hi (if_neg hk) rfl hover
    all_goals rw [hview]
    · exact fun x hx _ => hx
    · exact fun _ hlisted => hlisted
    · exact h.named

/-- A call that no decision depends on. -/
theorem Agreeing.still (h : Agreeing k threadId phases a) (hi : phases[i]? = some φ) {α : Type}
    {op : Effect α} (hmoves : ResumePhase.moves op = false) (r : Except Fault α)
    (hincident : a'.view.incident = a.view.incident)
    (happroval : a'.view.approval = a.view.approval) (houtbox : a'.view.outbox = a.view.outbox)
    (hthreads : a'.threads = a.threads) :
    Agreeing k threadId (phases.set i (φ.advance op r)) a' := by
  have hsame : phases.set i (φ.advance op r) = phases := by
    obtain ⟨hlt, rfl⟩ := List.getElem?_eq_some_iff.mp hi
    rw [ResumePhase.advance_still _ hmoves, List.set_getElem_self]
  rw [hsame]
  refine h.untouched ⟨by rw [happroval], by rw [hincident], by rw [hthreads], ?_, ?_⟩ ?_
  · rw [houtbox]
    exact fun x hx _ => hx
  · rw [houtbox]
    exact fun _ hlisted => hlisted
  · rw [hincident]
    exact h.named

/-- A read of the incident begins a decision on what it finds. -/
theorem Agreeing.getIncident (h : Agreeing k threadId phases a) (hi : phases[i]? = some φ)
    {tenantId : String} {incidentId : Uuid} (hφ : φ = .entered ∨ φ = .checked)
    {r : Except Fault (Option Incident)}
    (hread : ∀ incident, r = .ok (some incident) →
      a.view.incident incidentId = some incident) (hview : a'.view = a.view)
    (hthreads : a'.threads = a.threads) :
    Agreeing k threadId (phases.set i (φ.advance (.repo (.getIncident tenantId incidentId)) r))
      a' := by
  have hbefore : φ.decision? k = none := by rcases hφ with rfl | rfl <;> rfl
  have hkept : Agreeing k threadId phases a' := by
    refine h.untouched ⟨by rw [hview], by rw [hview], by rw [hthreads], ?_, ?_⟩ ?_
    · rw [hview]
      exact fun x hx _ => hx
    · rw [hview]
      exact fun _ hlisted => hlisted
    · rw [hview]
      exact h.named
  rcases hφ with rfl | rfl
  · exact hkept.rephase hi rfl rfl fun _ hx => (Option.not_mem_none _ hx).elim
  · rcases r with fault | _ | incident
    · exact hkept.rephase hi rfl rfl fun _ hx => (Option.not_mem_none _ hx).elim
    · exact hkept.rephase hi rfl rfl fun _ hx => (Option.not_mem_none _ hx).elim
    · have hnames : ∀ x ∈ (ResumePhase.deciding incident).incident?, NamesThread k threadId x := by
        intro x hx
        obtain rfl : incident = x := Option.some.inj hx
        exact h.named incidentId incident (hread incident rfl)
      exact hkept.rephase hi rfl rfl hnames

/-- Each call of a request, as its contract allows it. -/
theorem Agreeing.call [OutboxPuts b] (h : Agreeing k threadId phases a) {α : Type} {op : Effect α}
    (hi : phases[i]? = some φ) (hop : φ.allowed op)
    (hfirst : ∀ approval ∈ op.recordedApproval?, approval.incidentId = k →
      a.view.approval k = none) :
    ResumePhase.promised op (env.execAgent op a).1 ∧
      Agreeing k threadId (phases.set i (φ.advance op (env.execAgent op a).1))
        (env.execAgent op a).2 := by
  cases op with
  | now | uuid4 | collectEvidence | invokeGraph | putUpload | sendNotification | sendAction =>
    exact ⟨trivial, h.still hi rfl _ rfl rfl rfl rfl⟩
  | resumeGraph thread resume =>
    obtain ⟨incident, approval, action, rfl, hthread, hdecision, haction⟩ := hop
    exact ⟨trivial, h.resumeGraph hi hthread hdecision haction⟩
  | repo op =>
    have hstep := decisions_repo env op a.world
    cases op with
    | getIncident tenantId incidentId =>
      obtain ⟨hview, hread⟩ := hstep
      exact ⟨fun incident hok => (hread incident hok).2,
        h.getIncident hi hop (fun incident hok => (hread incident hok).1) hview rfl⟩
    | saveApproval approval =>
      obtain ⟨incident, rfl, hid⟩ := hop
      obtain ⟨-, hview⟩ := hstep
      have hincident := congrArg DecisionView.incident hview
      have happroval := congrArg DecisionView.approval hview
      have houtbox := congrArg DecisionView.outbox hview
      exact ⟨trivial, h.saveApproval hi hid (hfirst approval rfl) hincident happroval houtbox rfl⟩
    | saveActionDispatch x =>
      obtain ⟨incident, approval, rfl, hid, hdispatch, hkey⟩ := hop
      obtain ⟨-, hview, hmem, hadded⟩ := hstep
      have hincident := congrArg DecisionView.incident hview
      have happroval := congrArg DecisionView.approval hview
      exact ⟨trivial, h.saveActionDispatch hi hid hdispatch hkey hincident happroval hmem hadded
        (OutboxPuts.puts x _ _ a.world.store) rfl⟩
    | saveIncident incident' =>
      obtain ⟨incident, approval, action, rfl, hid, hthread, hstatus⟩ := hop
      obtain ⟨-, hview⟩ := hstep
      have hincident := congrArg DecisionView.incident hview
      have happroval := congrArg DecisionView.approval hview
      have houtbox := congrArg DecisionView.outbox hview
      exact ⟨trivial, h.saveIncident hi hid hthread hstatus hincident happroval houtbox rfl⟩
    | claimDueActionDispatches | completeActionDispatch | eraseTravelerData | purgeExpired =>
      exact hop.elim
    | recordEvent event =>
      have hview := hstep.2.1
      have hincident := congrArg DecisionView.incident hview
      have happroval := congrArg DecisionView.approval hview
      have houtbox := congrArg DecisionView.outbox hview
      exact ⟨trivial, h.still hi rfl _ hincident happroval houtbox rfl⟩
    | getRuntimeControlOverride | getPlatformControlOverride =>
      have hview := hstep.1
      have hincident := congrArg DecisionView.incident hview
      have happroval := congrArg DecisionView.approval hview
      have houtbox := congrArg DecisionView.outbox hview
      exact ⟨trivial, h.still hi rfl _ hincident happroval houtbox rfl⟩
    | _ =>
      have hincident := congrArg DecisionView.incident hstep
      have happroval := congrArg DecisionView.approval hstep
      have houtbox := congrArg DecisionView.outbox hstep
      exact ⟨trivial, h.still hi rfl _ hincident happroval houtbox rfl⟩

/-- An arriving request has nothing to tell. -/
theorem Agreeing.arrive (h : Agreeing k threadId phases a) :
    Agreeing k threadId (phases ++ [.entered]) a := by
  have hmem : ∀ ψ ∈ phases ++ [ResumePhase.entered], ψ ∈ phases ∨ ψ = .entered := by
    intro ψ hψ
    rcases List.mem_append.mp hψ with hold | hlast
    · exact .inl hold
    · exact .inr (List.mem_singleton.mp hlast)
  have hquiet : (∀ ψ ∈ phases, ψ.decision? k = none) →
      ∀ ψ ∈ phases ++ [.entered], ψ.decision? k = none := by
    intro hall ψ hψ
    rcases hmem ψ hψ with hold | rfl
    · exact hall ψ hold
    · rfl
  refine ⟨h.named, fun ψ hψ x hx => ?_, fun hnone => ?_, fun approval hstored => ?_⟩
  · rcases hmem ψ hψ with hold | rfl
    · exact h.known ψ hold x hx
    · exact (Option.not_mem_none _ hx).elim
  · obtain ⟨hwaits, houtbox, hall⟩ := h.before hnone
    exact ⟨hwaits, houtbox, hquiet hall⟩
  · obtain ⟨action, houtbox, ⟨i, hwaits, ⟨φ, hi, hφ, hsaved⟩, halone⟩ | htold⟩ :=
      h.after approval hstored
    · have hlt := (List.getElem?_eq_some_iff.mp hi).1
      refine ⟨action, houtbox, .inl ⟨i, hwaits, ⟨φ, ?_, hφ, hsaved⟩, fun j ψ hj hψ => ?_⟩⟩
      · rw [List.getElem?_append_left hlt, hi]
      · rcases hmem ψ (List.mem_of_getElem? hj) with hold | rfl
        · rcases lt_or_ge j phases.length with hjlt | hjge
          · rw [List.getElem?_append_left hjlt] at hj
            exact halone j ψ hj hψ
          · rw [List.getElem?_append_right hjge, List.getElem?_singleton] at hj
            split_ifs at hj
            cases hj
            exact absurd rfl hψ
        · exact absurd rfl hψ
    · exact ⟨action, houtbox, .inr ⟨htold.ended, htold.decided, hquiet htold.quiet⟩⟩

/-! ### Runs -/

/-- The event records no approval of the incident, or the first one. -/
def ApprovesFirst (k : Uuid) (pool : Pool Effect Fault (AgentWorld b))
    (e : PoolEvent DecisionRequest) : Prop :=
  ∀ approval ∈ pool.next? Effect.recordedApproval? e, approval.incidentId = k →
    pool.state.view.approval k = none

instance (pool : Pool Effect Fault (AgentWorld b)) (e : PoolEvent DecisionRequest) :
    Decidable (ApprovesFirst k pool e) :=
  inferInstanceAs (Decidable (∀ approval ∈ pool.next? Effect.recordedApproval? e,
    approval.incidentId = k → pool.state.view.approval k = none))

theorem joint_agreeing_apply [OutboxPuts b] {pool : Pool Effect Fault (AgentWorld b)}
    (h : pool.Joint resumption (fun φ _ => φ.Through) (Agreeing k threadId))
    {e : PoolEvent DecisionRequest} (he : ApprovesFirst k pool e) :
    (pool.apply env.execAgent (DecisionRequest.start svc) e).Joint resumption
      (fun φ _ => φ.Through) (Agreeing k threadId) := by
  refine Pool.joint_apply h e ?_ ?_
  · exact fun r phases _ hagreeing => ⟨.entered, r.start_resumes svc, hagreeing.arrive⟩
  · intro γ op next i phases φ hstep hi hagreeing hφ hop
    refine hagreeing.call hφ hop fun approval happroval => he approval ?_
    rw [hstep]
    simp only [Pool.next?, hi]
    exact happroval

/-- A graph that has ended ended with the stored approval of a decided incident; the action it
notes is in the outbox, and an approved incident's action is noted. Once every request has
returned, the graph of an incident with an approval has ended. -/
structure GraphAgrees (pool : Pool Effect Fault (AgentWorld b)) (k : Uuid) (threadId : String) :
    Prop where
  ended : ∀ s final, pool.state.threads threadId = some (.ended s final) →
    ∃ approval, pool.state.view.approval k = some approval ∧ pool.state.DecidedAs k approval ∧
      final.finalStatus = approval.decision.value ∧
      (∀ entry ∈ final.dispatchedActions, approval.decision = .approve ∧
        ∃ x ∈ pool.state.view.outbox, entry.Names x) ∧
      (approval.decision = .approve → ∀ x ∈ pool.state.view.outbox, x.incidentId = k →
        ∃ entry ∈ final.dispatchedActions, entry.Names x)
  settled : (∀ p ∈ pool.threads, p.returned?.isSome = true) → ∀ approval,
    pool.state.view.approval k = some approval →
      ∃ s final, pool.state.threads threadId = some (.ended s final)

theorem Agreeing.ended (h : Agreeing k threadId phases a) {s : RouteRiskState} {final : GraphEnd}
    (hended : a.threads threadId = some (.ended s final)) :
    ∃ approval action, a.view.approval k = some approval ∧ a.DecidedAs k approval ∧
      OutboxOf k approval action a.view.outbox ∧ final.Tells approval action := by
  have hwaits : ¬a.WaitsAt threadId := by
    rintro ⟨s', hs'⟩
    cases hended.symm.trans hs'
  cases hstored : a.view.approval k with
  | none => exact absurd (h.before hstored).1 hwaits
  | some approval =>
    obtain ⟨action, houtbox, ⟨i, htelling⟩ | htold⟩ := h.after approval hstored
    · exact absurd htelling.waits hwaits
    · obtain ⟨s', final', hended', htells⟩ := htold.ended
      cases hended.symm.trans hended'
      exact ⟨approval, action, rfl, htold.decided, houtbox, htells⟩

theorem Agreeing.settled (h : Agreeing k threadId phases a) (hthread : threadId ≠ "")
    (hthrough : ∀ φ ∈ phases, φ.Through) (hstored : a.view.approval k = some approval) :
    ∃ s final, a.threads threadId = some (.ended s final) := by
  obtain ⟨action, -, ⟨i, htelling⟩ | htold⟩ := h.after approval hstored
  · obtain ⟨φ, hi, hφ, -⟩ := htelling.telling
    have hmem := List.mem_of_getElem? hi
    have hdone := hthrough φ hmem
    cases φ with
    | saved incident approval' action' =>
      have hk : incident.incidentId = k := by
        by_contra hne
        rw [ResumePhase.decision?, if_neg hne] at hφ
        cases hφ
      have hnames : incident.graphThreadId = some threadId :=
        (h.known _ hmem incident rfl).mpr hk
      rw [ResumePhase.Through, hnames] at hdone
      simp [hthread] at hdone
    | recorded => exact hdone.elim
    | _ => cases hφ
  · obtain ⟨s, final, hended, -⟩ := htold.ended
    exact ⟨s, final, hended⟩

theorem Agreeing.graphAgrees {pool : Pool Effect Fault (AgentWorld b)}
    (h : Agreeing k threadId phases pool.state) (hthread : threadId ≠ "")
    (hfollows : List.Forall₂ (fun φ p => p.Follows resumption (fun φ _ => φ.Through) φ) phases
      pool.threads) : GraphAgrees pool k threadId where
  ended s final hended := by
    obtain ⟨approval, action, hstored, hdecided, houtbox, hstatus, hentries⟩ := h.ended hended
    refine ⟨approval, hstored, hdecided, hstatus, fun entry hentry => ?_,
      fun happrove x hx hid => ?_⟩
    · obtain ⟨happrove, x, hx, rfl⟩ := (hentries entry).mp hentry
      obtain ⟨y, hy, hyid, hykey⟩ := houtbox.listed (by rw [Option.mem_def.mp hx]; rfl)
      obtain ⟨hxid, hxkey⟩ := houtbox.named x hx
      refine ⟨happrove, y, hy, ?_, ?_, rfl⟩
      · rw [hyid, ← hxid]
      · rw [hykey, ← hxkey]
    · exact ⟨_, (hentries _).mpr ⟨happrove, x, houtbox.only x hx hid, rfl⟩, rfl, rfl, rfl⟩
  settled hreturned approval hstored := by
    refine h.settled hthread (fun φ hφ => ?_) hstored
    obtain ⟨i, hi⟩ := List.mem_iff_getElem?.mp hφ
    have hlen := hfollows.length_eq
    obtain ⟨hlt, hget⟩ := List.getElem?_eq_some_iff.mp hi
    have hfollow := hfollows.get hlt (hlen ▸ hlt)
    have hsome := hreturned _ (List.getElem_mem (hlen ▸ hlt))
    simp only [List.get_eq_getElem, hget] at hfollow
    generalize pool.threads[i] = p at hfollow hsome
    cases p with
    | pure u => exact hfollow
    | throw e => cases hsome
    | call op next => cases hsome

/-- In every run of approve and reject requests side by side, of any callers and with any of them
stopped at any call, in which no approval of the incident is recorded over another, the graph that
waits for the incident's decision ends, if it does, with what the repository has. -/
theorem graph_agrees [OutboxPuts b] (svc : Service) (env : Env) (a : AgentWorld b) (k : Uuid)
    (threadId : String) (hthread : threadId ≠ "")
    (hnamed : ∀ id incident, a.view.incident id = some incident → NamesThread k threadId incident)
    (hwaits : a.WaitsAt threadId) (happroval : a.view.approval k = none)
    (houtbox : ∀ x ∈ a.view.outbox, x.incidentId ≠ k) (events : List (PoolEvent DecisionRequest))
    (hevents : Meets (Pool.apply env.execAgent (DecisionRequest.start svc)) (ApprovesFirst k)
      ⟨a, []⟩ events) :
    GraphAgrees (runFrom (Pool.apply env.execAgent (DecisionRequest.start svc)) ⟨a, []⟩ events) k
      threadId := by
  have hstart : (⟨a, []⟩ : Pool Effect Fault (AgentWorld b)).Joint resumption
      (fun φ _ => φ.Through) (Agreeing k threadId) := by
    refine ⟨[], .nil, hnamed, fun _ hψ => absurd hψ List.not_mem_nil,
      fun _ => ⟨hwaits, houtbox, fun _ hψ => absurd hψ List.not_mem_nil⟩,
      fun approval hstored => ?_⟩
    rw [happroval] at hstored
    cases hstored
  obtain ⟨phases, hfollows, hagreeing⟩ := runFrom_inv (Pool.Joint resumption
    (fun φ _ => φ.Through) (Agreeing k threadId)) (fun _ _ h he => joint_agreeing_apply h he)
    hstart hevents
  exact hagreeing.graphAgrees hthread hfollows

end Agreement

/-! ### A graph that waits for an approval -/

/-- An incident that waits for a decision, with a graph. -/
def threadedIncident : Incident := { sampleIncident with graphThreadId := some "thread" }

/-- The graph of the incident at its gate. -/
def gatedState : RouteRiskState :=
  { tripId := "trip"
    incidentId := "incident"
    severity := "high"
    evidence := []
    coreSourcesUnavailable := .arr []
    reactIterations := 0
    toolAudit := [] }

def waitingAgent : AgentWorld .memory where
  world.store := InMemoryRepository.saveIncident (InMemoryRepository.saveTrip {} sampleTrip)
    threadedIncident
  threads := Function.update (fun _ => none) "thread" (some (.waiting gatedState))

/-- The pool once an approval and its retry have returned. -/
def agentPool : Pool Effect Fault (AgentWorld .memory) :=
  runFrom (Pool.apply Env.still.execAgent (DecisionRequest.start .switchedOn)) ⟨waitingAgent, []⟩
    approvedTwice

theorem graph_agrees_approvedTwice :
    GraphAgrees agentPool (.v5 "incident") "thread" ∧
      ∃ s final, agentPool.state.threads "thread" = some (.ended s final) ∧
        final.finalStatus = "approve" := by
  have hagrees : GraphAgrees agentPool (.v5 "incident") "thread" := by
    refine graph_agrees .switchedOn .still waitingAgent (.v5 "incident") "thread" (by decide)
      (fun id incident hfound => ?_) ⟨_, rfl⟩ (by decide +kernel)
      (fun x hx => absurd hx (Table.notMem_empty x)) approvedTwice (by decide +kernel)
    have hfound' : waitingAgent.world.store.incidents.find? id = some incident := hfound
    rcases (Table.mem_put _ _ _).mp ((Table.find?_eq_some _).mp hfound').1 with rfl | ⟨hmem, -⟩
    · exact iff_of_true rfl rfl
    · exact absurd hmem (Table.notMem_empty _)
  have happrove : (agentPool.state.view.approval (.v5 "incident")).map
      (fun a => a.decision) = some .approve := by decide +kernel
  obtain ⟨approval, hstored, hdecision⟩ := Option.map_eq_some_iff.mp happrove
  obtain ⟨s, final, hended⟩ := hagrees.settled (by decide +kernel) approval hstored
  obtain ⟨approval', hstored', -, hstatus, -⟩ := hagrees.ended s final hended
  cases hstored.symm.trans hstored'
  rw [hdecision] at hstatus
  exact ⟨hagrees, s, final, hended, hstatus⟩

end RouteShield
