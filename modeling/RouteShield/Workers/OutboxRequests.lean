import RouteShield.Workers.OutboxHistory
import RouteShield.Api.HandlerFootprints

/-!
What a request may do to an outbox. A notification is queued, and an action, under an identifier
that the handler has just drawn; an acknowledgement saves the notification that its handler
read, once it was delivered. No other request that is not a worker's writes an outbox.
-/

namespace RouteShield

variable {ρ α R γ : Type}

/-- The identifiers that a handler has drawn, and the records that it has read. -/
structure ServePhase (ρ : Type) where
  drawn : List Uuid := []
  read : List ρ := []

/-- More was drawn and read since. -/
structure ServePhase.Within (φ φ' : ServePhase ρ) : Prop where
  drawn : φ.drawn ⊆ φ'.drawn
  read : φ.read ⊆ φ'.read

theorem ServePhase.Within.refl (φ : ServePhase ρ) : φ.Within φ :=
  ⟨fun _ h => h, fun _ h => h⟩

theorem ServePhase.Within.trans {φ₁ φ₂ φ₃ : ServePhase ρ} (h : φ₁.Within φ₂) (h' : φ₂.Within φ₃) :
    φ₁.Within φ₃ :=
  ⟨List.Subset.trans h.drawn h'.drawn, List.Subset.trans h.read h'.read⟩

namespace Outbox

variable (K : Outbox ρ α R)

/-- The calls on the outbox that a handler may make. -/
def Serves (φ : ServePhase ρ) {γ : Type} : OutboxCall ρ α γ → Prop
  | .save r => (∃ id ∈ φ.drawn, K.key r = K.keyOf id ∧ K.entry r = { data := r }) ∨
    ∃ sent ∈ φ.read, (K.entry sent).status = .sent ∧ K.acknowledges sent r
  | call => call.Quiet

def readAfter (φ : ServePhase ρ) {γ : Type} : OutboxCall ρ α γ → Except Fault γ → List ρ
  | .get, .ok (some r) => r :: φ.read
  | .save _, _ => []
  | _, _ => φ.read

def drawnNow {γ : Type} : Effect γ → Except Fault γ → List Uuid
  | .uuid4, .ok id => [id]
  | _, _ => []

def drawnAfter (φ : ServePhase ρ) (fresh : List Uuid) {γ : Type} : OutboxCall ρ α γ → List Uuid
  | .save _ => []
  | _ => fresh ++ φ.drawn

def serveContract : Prog.Contract Effect Fault (ServePhase ρ) where
  allowed φ {_} op := K.Serves φ (K.viewOf op)
  promised _ {_} _ _ := True
  advance φ {_} op answer :=
    { drawn := drawnAfter φ (drawnNow op answer) (K.viewOf op)
      read := readAfter φ (K.viewOf op) answer }
  stop _ := True

variable {K} {φ : ServePhase ρ}

open Prog hiding pure
open Api

theorem within_advance {op : Effect γ} (hquiet : (K.viewOf op).Quiet) (answer : Except Fault γ) :
    φ.Within (K.serveContract.advance φ op answer) := by
  constructor
  · show φ.drawn ⊆ drawnAfter φ (drawnNow op answer) (K.viewOf op)
    cases hview : K.viewOf op <;> rw [hview] at hquiet <;>
      first | exact List.subset_append_right _ _ | exact hquiet.elim
  · show φ.read ⊆ readAfter φ (K.viewOf op) answer
    cases hview : K.viewOf op <;> rw [hview] at hquiet <;> first | exact hquiet.elim | skip
    · cases answer with
      | error fault => exact List.Subset.refl _
      | ok found =>
        cases found with
        | none => exact List.Subset.refl _
        | some r => exact List.subset_cons_self _ _
    · exact List.Subset.refl _

theorem serves_of_quiet {op : Effect γ} (hquiet : (K.viewOf op).Quiet) :
    K.serveContract.allowed φ op := by
  show K.Serves φ (K.viewOf op)
  cases hview : K.viewOf op <;> rw [hview] at hquiet <;> first | exact hquiet | exact hquiet.elim

theorem viewOf_quiet (hK : K.Lawful) {op : Effect γ} (h : K.collection ∉ op.writes) :
    (K.viewOf op).Quiet := by
  cases op with
  | repo op => exact hK.view_quiet op h
  | _ => trivial

/-- A program that leaves the outbox only adds to what was drawn and read. -/
theorem serves_of_writes (hK : K.Lawful) (cs : List Collection) {β : Type} {p : Api β}
    (hp : Writes cs p) (hcs : K.collection ∉ cs) :
    p.Follows K.serveContract (fun φ' _ => φ.Within φ') φ := by
  have hquiet : p.Only (fun op => (K.viewOf op).Quiet) :=
    only_mono hp.only fun op hop => viewOf_quiet hK fun hmem => hcs (hop _ hmem)
  suffices h : ∀ ψ, φ.Within ψ → p.Follows K.serveContract (fun φ' _ => φ.Within φ') ψ from
    h φ (.refl φ)
  clear hp
  induction p with
  | pure a => exact fun ψ hψ => hψ
  | throw e => exact fun ψ _ => trivial
  | call op next ih =>
    intro ψ hψ
    exact ⟨serves_of_quiet hquiet.1, fun answer _ => ih answer (hquiet.2 answer) _
      (hψ.trans (within_advance hquiet.1 answer))⟩

/-- A request that leaves the outbox. -/
theorem serves_beside (hK : K.Lawful) (cs : List Collection) {β : Type} {p : Api β}
    (hp : Writes cs p) (hcs : K.collection ∉ cs) :
    p.Follows K.serveContract (fun _ _ => True) φ :=
  follows_mono (serves_of_writes hK cs hp hcs) fun _ _ _ => trivial

/-- A mutation serves when its body does. -/
theorem serves_mutation (hK : K.Lawful) (hidempotency : K.collection ≠ .idempotency)
    {β : Type} {svc : Service} {tenantId : String} {key : Option String} {scope : String}
    {payload : Payload} {status : ℕ} {stored : Stored β} {body : Api β}
    (hbody : ∀ φ', φ.Within φ' → body.Follows K.serveContract (fun _ _ => True) φ') :
    (mutation svc tenantId key scope payload status stored body).Follows K.serveContract
      (fun _ _ => True) φ := by
  have hledger : K.collection ∉ [Collection.idempotency] := by simpa using hidempotency
  refine follows_bind (serves_of_writes hK [.idempotency]
    (writes_claimOptionalMutation (by simp) tenantId key scope payload) hledger) ?_
  rintro φ' ⟨requestHash, replay⟩ hφ'
  cases replay with
  | some record => exact follows_callFree (callFree_replay stored record) (fun _ _ => trivial) trivial
  | none =>
    refine follows_bind (hbody φ' hφ') fun φ'' a _ => ?_
    exact serves_beside hK [.idempotency]
      (writes_bind (writes_completeOptionalMutation (by simp) _ _ _ _ _) fun _ => writes_pure _)
      hledger

/-- A record that is new is saved under an identifier drawn before. -/
theorem serves_save {β : Type} {op : RepoOp Unit} {r : ρ} {f : Unit → Api β}
    (hview : K.view op = .save r) (hsaves : K.Serves φ (OutboxCall.save r : OutboxCall ρ α Unit))
    (hf : ∀ φ', (f ()).Follows K.serveContract (fun _ _ => True) φ') :
    (repo op >>= f).Follows K.serveContract (fun _ _ => True) φ := by
  refine follows_seq (follows_perform ?_ (fun _ _ => hf _) fun _ _ => trivial)
  show K.Serves φ (K.view op)
  rw [hview]
  exact hsaves

end Outbox

open Prog hiding pure
open Api Outbox

variable {svc : Service}

/-- A drawn identifier is there for the save that comes later. -/
theorem serves_uuid4 {K : Outbox ρ α R} {φ : ServePhase ρ} {β : Type} {f : Uuid → Api β}
    (hf : ∀ id φ', id ∈ φ'.drawn → (f id).Follows K.serveContract (fun _ _ => True) φ') :
    (uuid4 >>= f).Follows K.serveContract (fun _ _ => True) φ := by
  refine follows_seq (follows_perform trivial (fun id _ => hf id _ ?_) fun _ _ => trivial)
  exact List.mem_append_left _ List.mem_cons_self

theorem serves_now {K : Outbox ρ α R} {φ : ServePhase ρ} {β : Type} {f : Time → Api β}
    (hf : ∀ time φ', φ.Within φ' → (f time).Follows K.serveContract (fun _ _ => True) φ') :
    (now >>= f).Follows K.serveContract (fun _ _ => True) φ := by
  refine follows_seq (follows_perform trivial (fun time _ => hf time _ ?_) fun _ _ => trivial)
  exact ⟨fun _ h => h, fun _ h => h⟩

theorem saveQueued_serves (tenantId : String) (actorId : Option String)
    (payload : NotificationCreate) (φ : ServePhase NotificationRecord) :
    (saveQueued tenantId actorId payload).Follows notificationOutbox.serveContract
      (fun _ _ => True) φ := by
  refine follows_seq (follows_callFree (callFree_validate _ _) (fun _ _ => ?_) trivial)
  refine serves_uuid4 fun notificationId φ₁ hdrawn => ?_
  refine serves_now fun nextAttemptAt φ₂ h₂ => serves_now fun createdAt φ₃ h₃ =>
    serves_now fun updatedAt φ₄ h₄ => ?_
  refine serves_save rfl (.inl ⟨notificationId, (h₂.trans (h₃.trans h₄)).drawn hdrawn, rfl, rfl⟩)
    fun φ₅ => ?_
  refine serves_beside notificationOutbox_lawful [.events] ?_ (by decide)
  grind

theorem queueNotification_serves (caller : Caller) (payload : NotificationCreate)
    (φ : ServePhase NotificationRecord) :
    (queueNotification svc caller payload).Follows notificationOutbox.serveContract
      (fun _ _ => True) φ := by
  refine follows_seq (follows_callFree (callFree_requireRole _ _) (fun _ _ => ?_) trivial)
  refine follows_seq (follows_callFree (callFree_requireTenant _) (fun tenantId _ => ?_) trivial)
  refine follows_bind (serves_of_writes notificationOutbox_lawful [] ?_ (by decide)) ?_
  · unfold requireNotificationAccess
    grind
  · intro φ' _ _
    exact serves_mutation notificationOutbox_lawful (by decide) fun φ'' _ =>
      saveQueued_serves tenantId caller.actorId payload φ''

theorem acknowledged_serves {sent : NotificationRecord} (actorId : String)
    {φ : ServePhase NotificationRecord} (hread : sent ∈ φ.read) :
    (acknowledged sent actorId).Follows notificationOutbox.serveContract (fun _ _ => True) φ := by
  refine follows_seq (follows_callFree (callFree_require _ _ _) (fun _ _ => ?_) trivial)
  split_ifs with hdelivered
  · refine serves_now fun acknowledgedAt φ' h' => ?_
    refine serves_save rfl (.inr ⟨sent, h'.read hread, ?_, acknowledgedAt, actorId, rfl⟩)
      fun φ'' => trivial
    exact congrArg NotificationStatus.entry hdelivered
  · trivial

theorem acknowledgeNotification_serves (caller : Caller) (notificationId : Uuid)
    (actorId : String) (φ : ServePhase NotificationRecord) :
    (acknowledgeNotification svc caller notificationId actorId).Follows
      notificationOutbox.serveContract (fun _ _ => True) φ := by
  refine follows_seq (follows_callFree (callFree_requireRole _ _) (fun _ _ => ?_) trivial)
  refine follows_seq (follows_callFree (callFree_requireActorMatchesPayload _ _)
    (fun acknowledgementActorId _ => ?_) trivial)
  refine follows_seq (follows_callFree (callFree_requireTenant _) (fun tenantId _ => ?_) trivial)
  refine follows_seq (follows_perform trivial (fun answer _ => ?_) fun _ _ => trivial)
  cases answer with
  | none => exact follows_throw (by trivial)
  | some sent =>
    refine follows_seq (follows_pure (a := sent) ?_)
    refine follows_seq (follows_callFree (callFree_require _ _ _) (fun _ _ => ?_) trivial)
    refine follows_bind (serves_of_writes notificationOutbox_lawful [] ?_ (by decide)) ?_
    · unfold requireAcknowledgeAccess
      grind
    · intro φ' _ h'
      exact serves_mutation notificationOutbox_lawful (by decide) fun φ'' h'' =>
        acknowledged_serves _ ((h'.trans h'').read List.mem_cons_self)

theorem queueAction_serves (incident : Incident) (approval : ApprovalRecord) (tenantId : String)
    {φ : ServePhase ActionDispatchRecord} (hdrawn : approval.approvalId ∈ φ.drawn) :
    (queueAction incident approval tenantId).Follows actionOutbox.serveContract
      (fun _ _ => True) φ := by
  refine follows_seq (follows_callFree (callFree_validate _ _) (fun _ _ => ?_) trivial)
  refine serves_now fun nextAttemptAt φ₂ h₂ => serves_now fun createdAt φ₃ h₃ =>
    serves_now fun updatedAt φ₄ h₄ => ?_
  refine serves_save rfl
    (.inl ⟨approval.approvalId, (h₂.trans (h₃.trans h₄)).drawn hdrawn, rfl, rfl⟩) fun φ₅ => ?_
  exact serves_beside actionOutbox_lawful [.events] (by grind) (by decide)

theorem decideIncident_serves (incidentId : Uuid) (payload : ApprovalRequest) (tenantId : String)
    (φ : ServePhase ActionDispatchRecord) :
    (decideIncident svc incidentId payload tenantId).Follows actionOutbox.serveContract
      (fun _ _ => True) φ := by
  have hK := actionOutbox_lawful
  refine follows_bind (serves_beside hK [] (writes_repo nofun) (by decide))
    fun φ₁ found? _ => ?_
  refine follows_seq (follows_callFree (callFree_found _ _ _) (fun incident _ => ?_) trivial)
  refine follows_seq (follows_callFree (callFree_require _ _ _) (fun _ _ => ?_) trivial)
  refine follows_bind (serves_beside hK [] ?_ (by decide)) fun φ₂ status _ => ?_
  · unfold dispatchStatus
    grind
  refine serves_uuid4 fun approvalId φ₃ hdrawn => serves_now fun decidedAt φ₄ h₄ => ?_
  refine follows_bind (P := fun _ _ => True) ?_ fun φ₅ action _ => ?_
  · refine follows_bind (serves_of_writes hK [.approvals]
      (writes_repo (by simp [RepoOp.writes])) (by decide)) fun φ₆ _ h₆ => ?_
    refine follows_bind (P := fun _ _ => True) ?_ fun φ₇ action _ => ?_
    · unfold queuePending
      split_ifs
      · rw [map_eq_pure_bind]
        exact follows_bind (queueAction_serves incident _ tenantId ((h₄.trans h₆).drawn hdrawn))
          fun _ _ _ => trivial
      · trivial
    · exact serves_beside hK [.incidents] (writes_bind (writes_repo (by simp [RepoOp.writes]))
        fun _ => writes_pure _) (by decide)
  · refine serves_beside hK [.events] (writes_bind ?_ fun _ => writes_pure _) (by decide)
    unfold announceDecision resumeGraph
    grind

theorem decide_serves (decision : ApprovalDecision) (caller : Caller) (incidentId : Uuid)
    (payload : ApprovalRequest) (φ : ServePhase ActionDispatchRecord) :
    (Api.decide svc decision caller incidentId payload).Follows actionOutbox.serveContract
      (fun _ _ => True) φ := by
  refine follows_seq (follows_callFree (callFree_requireRole _ _) (fun _ _ => ?_) trivial)
  refine follows_seq (follows_callFree (callFree_requireActorMatchesPayload _ _) (fun _ _ => ?_)
    trivial)
  refine follows_seq (follows_callFree (callFree_require _ _ _) (fun _ _ => ?_) trivial)
  refine follows_seq (follows_callFree (callFree_require _ _ _) (fun _ _ => ?_) trivial)
  refine follows_seq (follows_callFree (callFree_requireTenant _) (fun tenantId _ => ?_) trivial)
  refine follows_bind (serves_beside actionOutbox_lawful []
    (writes_requireIncidentTripAccess _ _ _ _) (by decide)) fun φ' _ _ => ?_
  exact serves_mutation actionOutbox_lawful (by decide) fun φ'' _ =>
    decideIncident_serves incidentId payload tenantId φ''

/-- The request is a run of a worker that leases records, or takes records out. -/
def Request.works : Request → Bool
  | .dispatchNotifications _ => true
  | .dispatchDueNotifications => true
  | .dispatchApprovedActions => true
  | .processPrivacyDeletionRequests => true
  | .runRetention => true
  | _ => false

theorem handle_serves_notifications {req : Request} (hreq : req.works = false)
    (φ : ServePhase NotificationRecord) :
    (handle svc req).Follows notificationOutbox.serveContract (fun _ _ => True) φ := by
  cases req with
  | queueNotification caller payload =>
    exact follows_bind (queueNotification_serves caller payload φ) fun _ _ _ => trivial
  | acknowledgeNotification caller id actorId =>
    exact follows_bind (acknowledgeNotification_serves caller id actorId φ) fun _ _ _ => trivial
  | dispatchNotifications | dispatchDueNotifications | dispatchApprovedActions
  | processPrivacyDeletionRequests | runRetention => cases hreq
  | _ =>
    exact serves_beside notificationOutbox_lawful _ (writes_handle _)
      (by simp [notificationOutbox, Request.writes, assessedCollections])

theorem handle_serves_actions {req : Request} (hreq : req.works = false)
    (φ : ServePhase ActionDispatchRecord) :
    (handle svc req).Follows actionOutbox.serveContract (fun _ _ => True) φ := by
  cases req with
  | approveIncident caller id payload =>
    exact follows_bind (decide_serves .approve caller id payload φ) fun _ _ _ => trivial
  | rejectIncident caller id payload =>
    exact follows_bind (decide_serves .reject caller id payload φ) fun _ _ _ => trivial
  | dispatchNotifications | dispatchDueNotifications | dispatchApprovedActions
  | processPrivacyDeletionRequests | runRetention => cases hreq
  | _ =>
    exact serves_beside actionOutbox_lawful _ (writes_handle _)
      (by simp [actionOutbox, Request.writes, assessedCollections])

end RouteShield
