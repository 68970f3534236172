import RouteShield.Api.Frame
import RouteShield.Api.Incidents
import RouteShield.Api.Notifications
import RouteShield.Lib.Outbox

/-!
The two outboxes of the service as instances of one. An outbox is given by its records and
attempts, by what the repository's calls are to it, and by what its sender is told; the
programs of both workers are the one program of an outbox.
-/

namespace RouteShield

def DispatchClaim.lease (claim : DispatchClaim) : Lease Uuid Time := ⟨claim.claimId, claim.expiresAt⟩

/-- A repository call, as an outbox of records `ρ` with attempts `α` sees it. -/
inductive OutboxCall (ρ α : Type) : Type → Type 1 where
  | claim (request : LeaseRequest) : OutboxCall ρ α (List ρ)
  | complete (record : ρ) (attempt : α) (claimId : Uuid) : OutboxCall ρ α (Option ρ)
  | save (record : ρ) : OutboxCall ρ α Unit
  | get : OutboxCall ρ α (Option ρ)
  /-- An attempt that is recorded outside a lease. -/
  | note : OutboxCall ρ α Unit
  | remove {γ : Type} : OutboxCall ρ α γ
  | other {γ : Type} : OutboxCall ρ α γ

/-- A call that leaves the outbox. -/
def OutboxCall.Quiet {ρ α γ : Type} : OutboxCall ρ α γ → Prop
  | .get => True
  | .other => True
  | _ => False

/-- A call that leaves the outbox, or takes records out of it. -/
def OutboxCall.Passive {ρ α γ : Type} : OutboxCall ρ α γ → Prop
  | .remove => True
  | call => call.Quiet

/-- The call takes whole records out of the collections that it writes. -/
def Effect.Removes {α : Type} : Effect α → Prop
  | .repo (.eraseTravelerData _ _ _) => True
  | .repo (.purgeExpired _) => True
  | _ => False

/-- What an effect writes; what is handed to a sender counts for the sender's outbox. -/
def Effect.touches {α : Type} : Effect α → List Collection
  | .sendNotification _ => [.notifications]
  | .sendAction _ => [.actions]
  | op => op.writes

/-- An outbox of records `ρ` with attempts `α`, whose sender answers with an `R`. -/
structure Outbox (ρ α R : Type) where
  collection : Collection
  key : ρ → Uuid
  claim : ρ → Option DispatchClaim
  waiting : ρ → Bool
  leasable : ρ → Time → Bool
  attemptable : ρ → Time → Bool
  leased : ρ → DispatchClaim → ρ
  released : ρ → ρ
  attempted : ρ → R → Time → ρ × String
  attemptKey : α → Uuid
  /-- The attempt that is filed, with what was attempted and what it became. -/
  filed : Uuid → ρ → Time → R → ρ × String → α
  attemptId : α → Uuid
  model : String
  valid : ρ → R → Bool
  /-- The result's texts fit an attempt. -/
  storable : R → Bool
  send : ρ → Effect R
  raised : R
  success : R → Bool
  /-- What is handed to the sender. -/
  sent : {γ : Type} → Effect γ → Option ρ
  /-- What a worker takes the sender's answer for. -/
  outcome : {γ : Type} → Effect γ → Except Fault γ → Option R
  acknowledges : ρ → ρ → Prop
  claimDue : LeaseRequest → RepoOp (List ρ)
  complete : ρ → α → Uuid → RepoOp (Option ρ)
  save : ρ → RepoOp Unit
  note : α → RepoOp Unit
  /-- The key of the record that is made with an identifier. -/
  keyOf : Uuid → Uuid
  entry : ρ → Entry Uuid Time ρ
  tried : α → Try
  view : {γ : Type} → RepoOp γ → OutboxCall ρ α γ

namespace Outbox

variable {ρ α R : Type} (K : Outbox ρ α R)

def viewOf {γ : Type} : Effect γ → OutboxCall ρ α γ
  | .repo op => K.view op
  | _ => .other

/-- What the parts of an outbox have to do with each other. -/
structure Lawful : Prop where
  keyOf_injective : Function.Injective K.keyOf
  key_leased : ∀ r c, K.key (K.leased r c) = K.key r
  key_released : ∀ r, K.key (K.released r) = K.key r
  key_attempted : ∀ r result now, K.key (K.attempted r result now).1 = K.key r
  attemptKey_filed : ∀ id r now result, K.attemptKey (K.filed id r now result
    (K.attempted r result now)) = K.key r
  claim_leased : ∀ r c, K.claim (K.leased r c) = some c
  entry_data : ∀ r, (K.entry r).data = r
  entry_leased : ∀ r c, K.entry (K.leased r c) =
    { K.entry r with lease := some c.lease, data := K.leased r c }
  entry_lease : ∀ r, (K.entry r).lease = (K.claim r).map DispatchClaim.lease
  entry_released : ∀ r result now, (K.entry r).status = .waiting →
    K.entry (K.released (K.attempted r result now).1) =
      (K.entry r).attempted maxAttempts (K.success result) (K.released (K.attempted r result now).1)
  key_acknowledges : ∀ r r', K.acknowledges r r' → K.key r' = K.key r
  entry_acknowledges : ∀ r r', K.acknowledges r r' →
    K.entry r' = { K.entry r with status := .acknowledged, data := r' }
  tried_filed : ∀ id r now result, K.tried (K.filed id r now result
    (K.attempted r result now)) = ⟨(K.entry r).count + 1, K.success result⟩
  waiting_iff : ∀ r, K.waiting r = true ↔ (K.entry r).status = .waiting
  leasable_unclaimed : ∀ r now, K.leasable r now = true → unclaimed (K.claim r) now = true
  attemptable_claim : ∀ r now, K.attemptable r now = true →
    ∀ c ∈ K.claim r, now < c.expiresAt
  view_claimDue : ∀ request, K.view (K.claimDue request) = .claim request
  view_complete : ∀ r a id, K.view (K.complete r a id) = .complete r a id
  view_quiet : ∀ {γ : Type} (op : RepoOp γ), K.collection ∉ op.writes → (K.view op).Quiet
  view_removes : ∀ {γ : Type} (op : Effect γ), op.Removes → K.viewOf op = .remove ∧ K.sent op = none
  sent_send : ∀ r, K.sent (K.send r) = some r
  sent_repo : ∀ {γ : Type} (op : RepoOp γ), K.sent (.repo op) = none
  sent_quiet : ∀ {γ : Type} (op : Effect γ), K.collection ∉ op.touches → K.sent op = none
  outcome_send : ∀ r result, K.outcome (K.send r) (.ok result) = some result
  outcome_raised : ∀ r fault, K.outcome (K.send r) (.error fault) = some K.raised
  valid_attempted : ∀ r result now, (K.entry r).count < maxAttempts → K.storable result = true →
    K.valid (K.attempted r result now).1 result = true
  storable_raised : K.storable K.raised = true

/-! ### The worker's program -/

open Api

/-- The sender's answer; what it raises is an answer too. -/
def ask (r : ρ) : Api R := do
  match ← .attempt (K.send r) with
  | .ok result => return result
  | .error _ => return K.raised

def commit (claim : Option DispatchClaim) (attempted : ρ) (attempt : α) : Api ρ :=
  match claim with
  | some claim => do
    let completed ← repo (K.complete attempted attempt claim.claimId)
    return completed.getD attempted
  | none => do
    repo (K.save attempted)
    repo (K.note attempt)
    return attempted

def attempt (r : ρ) (timestamp : Time) : Api ρ := do
  let result ← K.ask r
  let (attempted, outcome) := K.attempted r result timestamp
  validate K.model (K.valid attempted result)
  let attemptId ← uuid4
  K.commit (K.claim r) attempted (K.filed attemptId r timestamp result (attempted, outcome))

def deliver (r : ρ) : Api ρ := do
  if K.waiting r then do
    let timestamp ← now
    if K.attemptable r timestamp then K.attempt r timestamp else return r
  else return r

end Outbox

/-! ### Notifications -/

def NotificationStatus.entry : NotificationStatus → EntryStatus
  | .queued => .waiting
  | .retryScheduled => .waiting
  | .delivered => .sent
  | .failed => .failed
  | .acknowledged => .acknowledged
  | .cancelled => .dropped

def notificationOutbox : Outbox NotificationRecord NotificationAttempt DeliveryResult where
  collection := .notifications
  key := NotificationRecord.notificationId
  claim := NotificationRecord.dispatchClaim
  waiting := NotificationRecord.waiting
  leasable := NotificationRecord.leasable
  attemptable := NotificationRecord.attemptable
  leased := NotificationRecord.leased
  released := NotificationRecord.released
  attempted := NotificationRecord.attempted
  attemptKey := NotificationAttempt.notificationId
  filed attemptId notification timestamp result attempted :=
    { attemptId
      notificationId := notification.notificationId
      attemptNumber := attempted.1.attemptCount
      attemptedAt := timestamp
      outcome := attempted.2
      providerMessageReference := result.providerMessageReference
      errorCode := result.errorCode }
  attemptId := NotificationAttempt.attemptId
  model := "NotificationAttempt"
  valid attempted result := attempted.attemptCount ≤ 10 &&
    result.providerMessageReference.all (fun text => text.length ≤ 256) &&
    Api.namedOrNone result.errorCode
  storable result := result.providerMessageReference.all (fun text => text.length ≤ 256) &&
    Api.namedOrNone result.errorCode
  send := .sendNotification
  raised := { delivered := false, errorCode := some "sender_exception" }
  success := DeliveryResult.delivered
  sent {_} op := match op with
    | .sendNotification notification => some notification
    | _ => none
  outcome {_} op answer := match op, answer with
    | .sendNotification _, .ok result => some result
    | .sendNotification _, .error _ =>
      some { delivered := false, errorCode := some "sender_exception" }
    | _, _ => none
  acknowledges notification acknowledged := ∃ acknowledgedAt actorId, acknowledged =
    { notification with
      status := .acknowledged
      acknowledgedAt := some acknowledgedAt
      acknowledgementActorId := some actorId
      updatedAt := acknowledgedAt }
  claimDue := .claimDueNotifications
  complete := .completeNotificationDelivery
  save := .saveNotification
  note := .recordNotificationAttempt
  keyOf id := id
  entry notification :=
    { data := notification
      status := notification.status.entry
      count := notification.attemptCount
      lease := notification.dispatchClaim.map DispatchClaim.lease }
  tried attempt := ⟨attempt.attemptNumber, attempt.outcome = "delivered"⟩
  view {_} op := match op with
    | .claimDueNotifications request => .claim request
    | .completeNotificationDelivery notification attempt claimId =>
      .complete notification attempt claimId
    | .saveNotification notification => .save notification
    | .getNotification _ _ => .get
    | .recordNotificationAttempt _ => .note
    | .eraseTravelerData _ _ _ => .remove
    | .purgeExpired _ => .remove
    | _ => .other

theorem sendNotification_eq : Api.sendNotification = notificationOutbox.ask := by
  funext r
  refine congrArg (Prog.bind _) (funext fun answer => ?_)
  cases answer <;> rfl

theorem commitDelivery_eq : Api.commitDelivery = notificationOutbox.commit := by
  funext claim attempted attempt
  cases claim <;> rfl

theorem attemptDelivery_eq : Api.attemptDelivery = notificationOutbox.attempt := by
  funext r timestamp
  unfold Api.attemptDelivery Outbox.attempt
  rw [sendNotification_eq, commitDelivery_eq]
  rfl

/-- The worker's program is the source's. -/
theorem deliverNotification_eq : Api.deliverNotification = notificationOutbox.deliver := by
  funext r
  unfold Api.deliverNotification Outbox.deliver
  rw [attemptDelivery_eq]
  rfl

/-! ### Actions -/

def ActionDispatchStatus.entry : ActionDispatchStatus → EntryStatus
  | .queued => .waiting
  | .retryScheduled => .waiting
  | .dispatched => .sent
  | .failed => .failed
  | .suppressed => .dropped

def actionOutbox : Outbox ActionDispatchRecord ActionDispatchAttempt ActionDispatchResult where
  collection := .actions
  key := ActionDispatchRecord.actionDispatchId
  claim := ActionDispatchRecord.dispatchClaim
  waiting := ActionDispatchRecord.waiting
  leasable := ActionDispatchRecord.leasable
  attemptable := ActionDispatchRecord.attemptable
  leased := ActionDispatchRecord.leased
  released := ActionDispatchRecord.released
  attempted := ActionDispatchRecord.attempted
  attemptKey := ActionDispatchAttempt.actionDispatchId
  filed attemptId action timestamp result attempted :=
    { attemptId
      actionDispatchId := action.actionDispatchId
      attemptNumber := attempted.1.attemptCount
      attemptedAt := timestamp
      outcome := attempted.2
      externalReference := result.externalReference
      errorCode := result.errorCode }
  attemptId := ActionDispatchAttempt.attemptId
  model := "ActionDispatchAttempt"
  valid attempted result := attempted.attemptCount ≤ 10 &&
    result.externalReference.all (fun text => text.length ≤ 256) && Api.namedOrNone result.errorCode
  storable result := result.externalReference.all (fun text => text.length ≤ 256) &&
    Api.namedOrNone result.errorCode
  send := .sendAction
  raised := { dispatched := false, errorCode := some "action_sender_exception" }
  success := ActionDispatchResult.dispatched
  sent {_} op := match op with
    | .sendAction action => some action
    | _ => none
  outcome {_} op answer := match op, answer with
    | .sendAction _, .ok result => some result
    | .sendAction _, .error _ =>
      some { dispatched := false, errorCode := some "action_sender_exception" }
    | _, _ => none
  acknowledges _ _ := False
  claimDue := .claimDueActionDispatches
  complete := .completeActionDispatch
  save := .saveActionDispatch
  note := .recordActionDispatchAttempt
  keyOf := Api.actionDispatchId
  entry action :=
    { data := action
      status := action.status.entry
      count := action.attemptCount
      lease := action.dispatchClaim.map DispatchClaim.lease }
  tried attempt := ⟨attempt.attemptNumber, attempt.outcome = "dispatched"⟩
  view {_} op := match op with
    | .claimDueActionDispatches request => .claim request
    | .completeActionDispatch action attempt claimId => .complete action attempt claimId
    | .saveActionDispatch action => .save action
    | .recordActionDispatchAttempt _ => .note
    | .eraseTravelerData _ _ _ => .remove
    | .purgeExpired _ => .remove
    | _ => .other

theorem sendAction_eq : Api.sendAction = actionOutbox.ask := by
  funext r
  refine congrArg (Prog.bind _) (funext fun answer => ?_)
  cases answer <;> rfl

theorem commitAction_eq : Api.commitAction = actionOutbox.commit := by
  funext claim attempted attempt
  cases claim <;> rfl

theorem attemptAction_eq : Api.attemptAction = actionOutbox.attempt := by
  funext r timestamp
  unfold Api.attemptAction Outbox.attempt
  rw [sendAction_eq, commitAction_eq]
  rfl

/-- The worker's program is the source's. -/
theorem dispatchApprovedAction_eq : Api.dispatchApprovedAction = actionOutbox.deliver := by
  funext r
  unfold Api.dispatchApprovedAction Outbox.deliver
  rw [attemptAction_eq]
  rfl

theorem Api.actionDispatchId_injective : Function.Injective Api.actionDispatchId := by
  intro a b h
  exact Uuid.str_injective ((String.append_right_inj _).mp (Uuid.v5.inj h))

theorem NotificationRecord.attemptCount_attempted (r : NotificationRecord)
    (result : DeliveryResult) (now : Time) :
    (r.attempted result now).1.attemptCount = r.attemptCount + 1 := by
  unfold NotificationRecord.attempted
  dsimp only
  split_ifs <;> rfl

theorem ActionDispatchRecord.attemptCount_attempted (r : ActionDispatchRecord)
    (result : ActionDispatchResult) (now : Time) :
    (r.attempted result now).1.attemptCount = r.attemptCount + 1 := by
  unfold ActionDispatchRecord.attempted
  dsimp only
  split_ifs <;> rfl

theorem notificationOutbox_lawful : notificationOutbox.Lawful where
  keyOf_injective := Function.injective_id
  key_leased _ _ := rfl
  key_released _ := rfl
  key_attempted r result now := by
    show (r.attempted result now).1.notificationId = r.notificationId
    unfold NotificationRecord.attempted
    dsimp only
    split_ifs <;> rfl
  attemptKey_filed _ _ _ _ := rfl
  claim_leased _ _ := rfl
  entry_data _ := rfl
  entry_leased _ _ := rfl
  entry_lease _ := rfl
  entry_released r result now hwaiting := by
    have hstatus : (r.attempted result now).1.status.entry = if result.delivered then .sent else
        if maxAttempts ≤ r.attemptCount + 1 then .failed else .waiting := by
      unfold NotificationRecord.attempted
      dsimp only
      split_ifs <;> rfl
    show Entry.mk _ (r.attempted result now).1.status.entry
      (r.attempted result now).1.attemptCount none = _
    rw [hstatus, r.attemptCount_attempted result now]
    rfl
  key_acknowledges := by
    rintro r _ ⟨acknowledgedAt, actorId, rfl⟩
    rfl
  entry_acknowledges := by
    rintro r _ ⟨acknowledgedAt, actorId, rfl⟩
    rfl
  tried_filed id r now result := by
    show Try.mk (r.attempted result now).1.attemptCount
      (decide ((r.attempted result now).2 = "delivered")) = _
    unfold NotificationRecord.attempted
    dsimp only [notificationOutbox]
    split_ifs with hsuccess hlimit <;> simp [hsuccess]
  waiting_iff r := by
    show r.waiting = true ↔ r.status.entry = .waiting
    unfold NotificationRecord.waiting
    cases r.status <;> simp [NotificationStatus.entry]
  leasable_unclaimed r now h := by
    have h : decide (_ ∧ _) = true := h
    exact (of_decide_eq_true h).2
  attemptable_claim r now h := by
    have h : decide (_ ∧ _) = true := h
    exact (of_decide_eq_true h).2.2
  view_claimDue _ := rfl
  view_complete _ _ _ := rfl
  view_quiet op hop := by
    cases op <;> first
      | trivial
      | exact absurd List.mem_cons_self hop
      | exact absurd (show _ ∈ erasedCollections by decide) hop
      | exact absurd (show _ ∈ purgedCollections by decide) hop
  view_removes op hop := by
    cases op with
    | repo op =>
      cases op with
      | eraseTravelerData | purgeExpired => exact ⟨rfl, rfl⟩
      | _ => exact hop.elim
    | _ => exact hop.elim
  sent_send _ := rfl
  sent_repo _ := rfl
  sent_quiet op hop := by
    cases op with
    | sendNotification r => exact absurd List.mem_cons_self hop
    | _ => rfl
  outcome_send _ _ := rfl
  outcome_raised _ _ := rfl
  valid_attempted r result now hcount hstorable := by
    show (decide ((r.attempted result now).1.attemptCount ≤ 10) && _ && _) = true
    have hcount : r.attemptCount < 5 := hcount
    rw [r.attemptCount_attempted result now, decide_eq_true (by omega), Bool.true_and]
    exact hstorable
  storable_raised := by decide

theorem actionOutbox_lawful : actionOutbox.Lawful where
  keyOf_injective := Api.actionDispatchId_injective
  key_leased _ _ := rfl
  key_released _ := rfl
  key_attempted r result now := by
    show (r.attempted result now).1.actionDispatchId = r.actionDispatchId
    unfold ActionDispatchRecord.attempted
    dsimp only
    split_ifs <;> rfl
  attemptKey_filed _ _ _ _ := rfl
  claim_leased _ _ := rfl
  entry_data _ := rfl
  entry_leased _ _ := rfl
  entry_lease _ := rfl
  entry_released r result now hwaiting := by
    have hstatus : (r.attempted result now).1.status.entry = if result.dispatched then .sent else
        if maxAttempts ≤ r.attemptCount + 1 then .failed else .waiting := by
      unfold ActionDispatchRecord.attempted
      dsimp only
      split_ifs <;> rfl
    show Entry.mk _ (r.attempted result now).1.status.entry
      (r.attempted result now).1.attemptCount none = _
    rw [hstatus, r.attemptCount_attempted result now]
    rfl
  key_acknowledges _ _ h := h.elim
  entry_acknowledges _ _ h := h.elim
  tried_filed id r now result := by
    show Try.mk (r.attempted result now).1.attemptCount
      (decide ((r.attempted result now).2 = "dispatched")) = _
    unfold ActionDispatchRecord.attempted
    dsimp only [actionOutbox]
    split_ifs with hsuccess hlimit <;> simp [hsuccess]
  waiting_iff r := by
    show r.waiting = true ↔ r.status.entry = .waiting
    unfold ActionDispatchRecord.waiting
    cases r.status <;> simp [ActionDispatchStatus.entry]
  leasable_unclaimed r now h := by
    have h : decide (_ ∧ _) = true := h
    exact (of_decide_eq_true h).2
  attemptable_claim r now h := by
    have h : decide (_ ∧ _) = true := h
    exact (of_decide_eq_true h).2.2
  view_claimDue _ := rfl
  view_complete _ _ _ := rfl
  view_quiet op hop := by
    cases op <;> first
      | trivial
      | exact absurd List.mem_cons_self hop
      | exact absurd (show _ ∈ erasedCollections by decide) hop
      | exact absurd (show _ ∈ purgedCollections by decide) hop
  view_removes op hop := by
    cases op with
    | repo op =>
      cases op with
      | eraseTravelerData | purgeExpired => exact ⟨rfl, rfl⟩
      | _ => exact hop.elim
    | _ => exact hop.elim
  sent_send _ := rfl
  sent_repo _ := rfl
  sent_quiet op hop := by
    cases op with
    | sendAction r => exact absurd List.mem_cons_self hop
    | _ => rfl
  outcome_send _ _ := rfl
  outcome_raised _ _ := rfl
  valid_attempted r result now hcount hstorable := by
    show (decide ((r.attempted result now).1.attemptCount ≤ 10) && _ && _) = true
    have hcount : r.attemptCount < 5 := hcount
    rw [r.attemptCount_attempted result now, decide_eq_true (by omega), Bool.true_and]
    exact hstorable
  storable_raised := by decide

end RouteShield
