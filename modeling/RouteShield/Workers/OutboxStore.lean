import RouteShield.Store.ClaimLimit
import RouteShield.Workers.Outbox

/-!
What both repositories do to the outboxes. Each call does to the records and to the attempts
what its kind says, and nothing else.
-/

namespace RouteShield

variable {ρ α R : Type}

/-- Under each key the record and its attempts stay, or both go. -/
def Removes (find find' : Uuid → Option ρ) (attempts attempts' : Uuid → List α) : Prop :=
  ∀ k, (find' k = find k ∧ attempts' k = attempts k) ∨ (find' k = none ∧ attempts' k = [])

/-- What a call does to the record and to the attempts under each key. -/
def OutboxCall.Does (K : Outbox ρ α R) (now : Time) (fresh : ℕ → Uuid)
    (find find' : Uuid → Option ρ) (attempts attempts' : Uuid → List α) :
    {γ : Type} → OutboxCall ρ α γ → Except Fault γ → Prop
  | _, .claim request, answer => attempts' = attempts ∧ ∃ copies, answer = .ok copies ∧
    copies.map (fun copy => (K.claim copy).map DispatchClaim.claimId) =
      (List.range copies.length).map (fun i => some (fresh i)) ∧
    (copies.map K.key).Nodup ∧
    (∀ copy ∈ copies, find' (K.key copy) = some copy ∧
      ∃ r claimId, find (K.key copy) = some r ∧ K.waiting r = true ∧ K.leasable r now = true ∧
        copy = K.leased r (request.claim now claimId)) ∧
    ∀ k, k ∉ copies.map K.key → find' k = find k
  | _, .complete r a claimId, answer =>
    (∃ current, find (K.key r) = some current ∧
      (K.claim current).map DispatchClaim.claimId = some claimId ∧
      answer = .ok (some (K.released r)) ∧
      find' = Function.update find (K.key r) (some (K.released r)) ∧
      attempts' = Function.update attempts (K.attemptKey a) (attempts (K.attemptKey a) ++ [a])) ∨
    ((∀ r', answer ≠ .ok (some r')) ∧ find' = find ∧ attempts' = attempts)
  | _, .save r, answer => answer = .ok () ∧ find' = Function.update find (K.key r) (some r) ∧
    attempts' = attempts
  | _, .get, answer => find' = find ∧ attempts' = attempts ∧
    ∀ r, answer = .ok (some r) → find (K.key r) = some r
  | _, .note, _ => True
  | _, .remove, _ => Removes find find' attempts attempts'
  | _, .other, _ => find' = find ∧ attempts' = attempts

/-- A completion finds its own lease on the record, and files an attempt under a new identifier. -/
def OutboxCall.FindsLease (K : Outbox ρ α R) (find : Uuid → Option ρ)
    (attempts : Uuid → List α) : {γ : Type} → OutboxCall ρ α γ → Prop
  | _, .complete r attempt claimId =>
    (∃ current, find (K.key r) = some current ∧
      (K.claim current).map DispatchClaim.claimId = some claimId) ∧
    ∀ k, ∀ filed ∈ attempts k, K.attemptId filed ≠ K.attemptId attempt
  | _, _ => True

def OutboxCall.Accepted {γ : Type} : OutboxCall ρ α γ → Except Fault γ → Prop
  | .complete _ _ _, answer => ∃ r, answer = .ok (some r)
  | _, _ => True

/-- A backend that keeps the records of an outbox and their attempts. -/
class OutboxStore (K : Outbox ρ α R) (b : Backend) where
  find : b.State → Uuid → Option ρ
  attempts : b.State → Uuid → List α
  key_of_find : ∀ {s : b.State} {k : Uuid} {r : ρ}, find s k = some r → K.key r = k
  does : ∀ {γ : Type} (op : RepoOp γ) (now : Time) (fresh : ℕ → Uuid) (s : b.State),
    (K.view op).Does K now fresh (find s) (find (b.exec op now fresh s).2) (attempts s)
      (attempts (b.exec op now fresh s).2) (b.exec op now fresh s).1
  accepts : ∀ {γ : Type} (op : RepoOp γ) (now : Time) (fresh : ℕ → Uuid) (s : b.State),
    (K.view op).FindsLease K (find s) (attempts s) → (K.view op).Accepted (b.exec op now fresh s).1

/-! ### Tables -/

section Tables

variable {β : Type} {id : β → Uuid} {leasing : Leasing id} {fresh : ℕ → Uuid} {chosen : List β}
  {t : Table id}

theorem find?_foldl_each (hchosen : chosen.Sublist t.rows) {b : β}
    (hb : b ∈ leasing.each fresh chosen) :
    ((leasing.each fresh chosen).foldl Table.put t).find? (id b) = some b :=
  Table.find?_key _ ((Leasing.mem_foldl_each hchosen).mpr (.inl hb))

theorem find?_foldl_each_of_notMem (hchosen : chosen.Sublist t.rows) {k : Uuid}
    (hk : k ∉ (leasing.each fresh chosen).map id) :
    ((leasing.each fresh chosen).foldl Table.put t).find? k = t.find? k := by
  refine Table.find?_congr fun b hb => ?_
  subst hb
  rw [Leasing.mem_foldl_each hchosen]
  constructor
  · rintro (hmem | ⟨hmem, -⟩)
    · exact absurd (List.mem_map_of_mem hmem) hk
    · exact hmem
  · intro hmem
    rw [Leasing.map_each] at hk
    exact .inr ⟨hmem, hk⟩

/-- The identifiers of the leases are drawn one after the other. -/
theorem map_each_claim {γ : Type} {g : β → Option γ} {f : Uuid → γ}
    (h : ∀ b claimId, g (leasing.lease b claimId) = some (f claimId)) :
    (leasing.each fresh chosen).map g =
      (List.range (leasing.each fresh chosen).length).map (fun i => some (f (fresh i))) := by
  rw [Leasing.length_each, Leasing.each, List.map_map]
  conv_rhs => rw [List.range_eq_range', ← List.zipIdx_map_snd 0 chosen, List.map_map]
  exact List.map_congr_left fun x _ => h x.1 (fresh x.2)

end Tables

variable {K : Outbox ρ α R} {now : Time}

/-- Leasing rows that wait and are due is a claim. -/
theorem claim_does (hK : K.Lawful) {β : Type} (payload : β → ρ)
    (t : Table (fun row => K.key (payload row)))
    (leasing : Leasing (fun row => K.key (payload row))) (request : LeaseRequest)
    (fresh : ℕ → Uuid) (attempts : Uuid → List α)
    (hlease : ∀ row claimId, payload (leasing.lease row claimId) =
      K.leased (payload row) (request.claim now claimId))
    {chosen : List β} (hchosen : chosen.Sublist t.rows)
    (hdue : ∀ row ∈ chosen, K.waiting (payload row) = true ∧
      K.leasable (payload row) now = true) :
    (OutboxCall.claim request).Does K now fresh (fun k => (t.find? k).map payload)
      (fun k => (((leasing.each fresh chosen).foldl Table.put t).find? k).map payload)
      attempts attempts (.ok ((leasing.each fresh chosen).map payload)) := by
  refine ⟨rfl, _, rfl, ?_, ?_, ?_, ?_⟩
  · rw [List.map_map, List.length_map]
    refine map_each_claim (f := fun claimId => claimId) fun row claimId => ?_
    show (K.claim (payload (leasing.lease row claimId))).map DispatchClaim.claimId = some claimId
    rw [hlease, hK.claim_leased]
    rfl
  · rw [List.map_map]
    show ((leasing.each fresh chosen).map (fun row => K.key (payload row))).Nodup
    rw [Leasing.map_each]
    exact t.nodup.sublist (hchosen.map _)
  · intro copy hcopy
    obtain ⟨row, hrow, rfl⟩ := List.mem_map.mp hcopy
    refine ⟨?_, ?_⟩
    · dsimp only
      rw [find?_foldl_each hchosen hrow]
      rfl
    · obtain ⟨source, hsource, i, rfl⟩ := Leasing.mem_each hrow
      have hkey := leasing.id_lease source (fresh i)
      refine ⟨payload source, fresh i, ?_, (hdue source hsource).1, (hdue source hsource).2,
        hlease source (fresh i)⟩
      dsimp only at hkey ⊢
      rw [hkey, t.find?_key (hchosen.subset hsource)]
      rfl
  · intro k hk
    rw [List.map_map] at hk
    dsimp only
    rw [find?_foldl_each_of_notMem hchosen hk]

/-- Dropping rows together with what is filed under their keys is a removal. -/
theorem remove_does {β : Type} {id : β → Uuid} {t : Table id} {p : β → Bool} (keys : List Uuid)
    (hp : ∀ b ∈ t, p b = true ↔ id b ∉ keys) (attempts attempts' : Uuid → List α)
    (hattempts : ∀ k, attempts' k = if k ∉ keys then attempts k else []) :
    Removes t.find? (t.filter p).find? attempts attempts' := by
  intro k
  rw [t.find?_filter p k, hattempts k]
  by_cases hk : k ∈ keys
  · refine .inr ⟨?_, if_neg (not_not_intro hk)⟩
    rw [Option.filter_eq_none_iff]
    intro b hb hpb
    obtain ⟨hmem, rfl⟩ := t.find?_eq_some.mp hb
    exact (hp b hmem).mp hpb hk
  · refine .inl ⟨?_, if_pos hk⟩
    cases hfind : t.find? k with
    | none => rfl
    | some b =>
      obtain ⟨hmem, rfl⟩ := t.find?_eq_some.mp hfind
      rw [Option.filter_some, if_pos ((hp b hmem).mpr hk)]

/-- In memory an attempt stays filed as long as its record is stored. -/
theorem remove_does_memory {id : ρ → Uuid} {t : Table id} {p : ρ → Bool}
    {filed : Table (Bucket.id (κ := Uuid) (α := α))} :
    Removes t.find? (t.filter p).find? filed.items
      (filed.filter (fun b => ((t.filter p).find? b.id).isSome)).items := by
  intro k
  have hitems := filed.items_filter (fun k => ((t.filter p).find? k).isSome) k
  cases hfind : (t.filter p).find? k with
  | none =>
    rw [hfind] at hitems
    exact .inr ⟨rfl, hitems⟩
  | some r =>
    rw [hfind] at hitems
    refine .inl ⟨?_, hitems⟩
    rw [t.find?_filter] at hfind
    exact (Option.filter_eq_some_iff.mp hfind).1.symm

/-- A put document is found under its key. -/
theorem payload_put_update {β : Type} {id : β → Uuid} {payload : β → ρ} (t : Table id) (b : β) :
    (fun k => ((t.put b).find? k).map payload) =
      Function.update (fun k => (t.find? k).map payload) (id b) (some (payload b)) := by
  rw [t.find?_put_update]
  funext k
  simp only [Function.update_apply]
  split_ifs <;> rfl

/-- A row under a new key joins the rows of its group. -/
theorem filter_put_update {β : Type} {id group : β → Uuid} (t : Table id) {b : β}
    (h : t.find? (id b) = none) :
    (fun k => (t.put b).rows.filter (fun x => group x = k)) =
      Function.update (fun k => t.rows.filter (fun x => group x = k)) (group b)
        (t.rows.filter (fun x => group x = group b) ++ [b]) := by
  funext k
  rw [t.rows_put h, List.filter_append, Function.update_apply]
  split_ifs with hk
  · rw [hk, List.filter_singleton, decide_eq_true rfl]
    rfl
  · rw [List.filter_singleton, decide_eq_false (Ne.symm hk)]
    exact List.append_nil _

/-- What qualifies is picked from the table in its order. -/
theorem qualifying_sublist {β : Type} {p q : β → Bool} {rows : List β} {limit : ℕ} :
    ((qualifying p q rows).take limit).Sublist rows :=
  (List.take_sublist _ _).trans List.filter_sublist

/-! ### In memory -/

namespace InMemoryRepository

variable (s : InMemoryRepository Response)

theorem claimDueNotifications_does (request : LeaseRequest) (now : Time) (fresh : ℕ → Uuid) :
    (OutboxCall.claim request).Does notificationOutbox now fresh s.notifications.find?
      (s.claimDueNotifications request now fresh).2.notifications.find?
      s.notificationAttempts.items
      (s.claimDueNotifications request now fresh).2.notificationAttempts.items
      (.ok (s.claimDueNotifications request now fresh).1) := by
  have hclaim := claim_does notificationOutbox_lawful (fun r => r) s.notifications
    (request.notification now) request fresh s.notificationAttempts.items (fun _ _ => rfl)
    (show ((s.dueNotifications request now).take request.limit).Sublist _ from qualifying_sublist)
    (fun r hr => by
      obtain ⟨hwaits, hdue⟩ := (mem_qualifying.mp (List.mem_of_mem_take hr)).2
      rw [Bool.and_eq_true] at hwaits
      exact ⟨hwaits.2, hdue⟩)
  simp only [Option.map_id', List.map_id'] at hclaim
  rw [claimDueNotifications_snd, claimDueNotifications_fst]
  exact hclaim

theorem completeNotificationDelivery_does (record : NotificationRecord)
    (attempt : NotificationAttempt) (claimId : Uuid) (now : Time) (fresh : ℕ → Uuid) :
    let r := s.completeNotificationDelivery record attempt claimId
    (OutboxCall.complete record attempt claimId).Does notificationOutbox now fresh
      s.notifications.find? r.2.notifications.find? s.notificationAttempts.items
      r.2.notificationAttempts.items (.ok r.1) := by
  intro r
  unfold r completeNotificationDelivery
  split
  next hnone => exact .inr ⟨by simp, rfl, rfl⟩
  next current hfind =>
    split_ifs with hclaim
    · exact .inl ⟨current, hfind, hclaim, rfl, Table.find?_put_update _ _, Table.items_push _ _ _⟩
    · exact .inr ⟨by simp, rfl, rfl⟩

theorem claimDueActionDispatches_does (request : LeaseRequest) (now : Time) (fresh : ℕ → Uuid) :
    (OutboxCall.claim request).Does actionOutbox now fresh s.actionDispatches.find?
      (s.claimDueActionDispatches request now fresh).2.actionDispatches.find?
      s.actionDispatchAttempts.items
      (s.claimDueActionDispatches request now fresh).2.actionDispatchAttempts.items
      (.ok (s.claimDueActionDispatches request now fresh).1) := by
  have hclaim := claim_does actionOutbox_lawful (fun r => r) s.actionDispatches
    (request.action now) request fresh s.actionDispatchAttempts.items (fun _ _ => rfl)
    (show ((s.dueActionDispatches request now).take request.limit).Sublist _ from
      qualifying_sublist)
    (fun r hr => by
      obtain ⟨hwaits, hdue⟩ := (mem_qualifying.mp (List.mem_of_mem_take hr)).2
      rw [Bool.and_eq_true] at hwaits
      exact ⟨hwaits.2, hdue⟩)
  simp only [Option.map_id', List.map_id'] at hclaim
  rw [claimDueActionDispatches_snd, claimDueActionDispatches_fst]
  exact hclaim

theorem completeActionDispatch_does (record : ActionDispatchRecord)
    (attempt : ActionDispatchAttempt) (claimId : Uuid) (now : Time) (fresh : ℕ → Uuid) :
    let r := s.completeActionDispatch record attempt claimId
    (OutboxCall.complete record attempt claimId).Does actionOutbox now fresh
      s.actionDispatches.find? r.2.actionDispatches.find? s.actionDispatchAttempts.items
      r.2.actionDispatchAttempts.items (.ok r.1) := by
  intro r
  unfold r completeActionDispatch
  split
  next hnone => exact .inr ⟨by simp, rfl, rfl⟩
  next current hfind =>
    split_ifs with hclaim
    · exact .inl ⟨current, hfind, hclaim, rfl, Table.find?_put_update _ _, Table.items_push _ _ _⟩
    · exact .inr ⟨by simp, rfl, rfl⟩

theorem eraseTravelerData_removes (tenantId travelerId : String) (scope : DeletionRequestScope) :
    let s' := (s.eraseTravelerData tenantId travelerId scope).2
    Removes s.notifications.find? s'.notifications.find? s.notificationAttempts.items
        s'.notificationAttempts.items ∧
      Removes s.actionDispatches.find? s'.actionDispatches.find? s.actionDispatchAttempts.items
        s'.actionDispatchAttempts.items := by
  unfold eraseTravelerData
  dsimp only
  split_ifs
  · exact ⟨fun k => .inl ⟨rfl, rfl⟩, fun k => .inl ⟨rfl, rfl⟩⟩
  · exact ⟨remove_does_memory, remove_does_memory⟩

theorem purgeExpired_removes (now : Time) (cutoffs : Cutoffs) :
    let s' := (s.purgeExpired now cutoffs).2
    Removes s.notifications.find? s'.notifications.find? s.notificationAttempts.items
        s'.notificationAttempts.items ∧
      Removes s.actionDispatches.find? s'.actionDispatches.find? s.actionDispatchAttempts.items
        s'.actionDispatchAttempts.items := by
  refine ⟨remove_does _ (fun n _ => decide_eq_true_iff) _ _ fun k => ?_, remove_does_memory⟩
  exact (s.notificationAttempts.items_filter (fun id => decide (id ∉ _)) k).trans (by simp)

theorem completeNotificationDelivery_accepted {record : NotificationRecord}
    {attempt : NotificationAttempt} {claimId : Uuid}
    (h : (OutboxCall.complete record attempt claimId).FindsLease notificationOutbox
      s.notifications.find? s.notificationAttempts.items) :
    ∃ r, Except.ok (ε := Fault) (s.completeNotificationDelivery record attempt claimId).1 =
      .ok (some r) := by
  obtain ⟨⟨current, hfind, hclaim⟩, -⟩ := h
  have hfind : s.notifications.find? record.notificationId = some current := hfind
  have hclaim : current.dispatchClaim.map DispatchClaim.claimId = some claimId := hclaim
  refine ⟨record.released, congrArg Except.ok ?_⟩
  unfold completeNotificationDelivery
  rw [hfind]
  dsimp only
  rw [if_pos hclaim]

theorem completeActionDispatch_accepted {record : ActionDispatchRecord}
    {attempt : ActionDispatchAttempt} {claimId : Uuid}
    (h : (OutboxCall.complete record attempt claimId).FindsLease actionOutbox
      s.actionDispatches.find? s.actionDispatchAttempts.items) :
    ∃ r, Except.ok (ε := Fault) (s.completeActionDispatch record attempt claimId).1 =
      .ok (some r) := by
  obtain ⟨⟨current, hfind, hclaim⟩, -⟩ := h
  have hfind : s.actionDispatches.find? record.actionDispatchId = some current := hfind
  have hclaim : current.dispatchClaim.map DispatchClaim.claimId = some claimId := hclaim
  refine ⟨record.released, congrArg Except.ok ?_⟩
  unfold completeActionDispatch
  rw [hfind]
  dsimp only
  rw [if_pos hclaim]

variable {s} in
theorem getNotification_stored {tenantId : String} {id : Uuid} {r : NotificationRecord}
    (h : Except.ok (ε := Fault) (s.getNotification tenantId id) = .ok (some r)) :
    s.notifications.find? r.notificationId = some r := by
  have hfind := (Option.filter_eq_some_iff.mp (Except.ok.inj h)).1
  rw [((Table.find?_eq_some _).mp hfind).2]
  exact hfind

end InMemoryRepository

/-! ### In the database -/

namespace PostgresRepository

variable (s : PostgresRepository Response)

def notification (k : Uuid) : Option NotificationRecord :=
  (s.notifications.find? k).map TenantRow.payload

def attemptsOfNotification (k : Uuid) : List NotificationAttempt :=
  s.notificationAttempts.rows.filter (fun attempt => attempt.notificationId = k)

def actionDispatch (k : Uuid) : Option ActionDispatchRecord :=
  (s.actionDispatches.find? k).map ActionDispatchRow.payload

def attemptsOfAction (k : Uuid) : List ActionDispatchAttempt :=
  s.actionDispatchAttempts.rows.filter (fun attempt => attempt.actionDispatchId = k)

theorem claimDueNotifications_does (request : LeaseRequest) (now : Time) (fresh : ℕ → Uuid) :
    (OutboxCall.claim request).Does notificationOutbox now fresh s.notification
      (s.claimDueNotifications request now fresh).2.notification s.attemptsOfNotification
      (s.claimDueNotifications request now fresh).2.attemptsOfNotification
      (.ok (s.claimDueNotifications request now fresh).1) := by
  have hclaim := claim_does notificationOutbox_lawful
    (fun row : TenantRow NotificationRecord => row.payload) s.notifications
    (request.notificationRow now) request fresh s.attemptsOfNotification (fun _ _ => rfl)
    (show (cutBatch (fun row => request.admits row.tenantId && row.payload.waiting)
      (fun row => row.payload.leasable now) request.limit s.notifications.rows).Sublist _ from
      List.filter_sublist.trans ((List.take_sublist _ _).trans List.filter_sublist))
    (fun row hrow => by
      obtain ⟨hcut, hdue⟩ := List.mem_filter.mp hrow
      have hwaits := (List.mem_filter.mp (List.mem_of_mem_take hcut)).2
      rw [Bool.and_eq_true] at hwaits
      exact ⟨hwaits.2, hdue⟩)
  exact hclaim

theorem completeNotificationDelivery_does (record : NotificationRecord)
    (attempt : NotificationAttempt) (claimId : Uuid) (now : Time) (fresh : ℕ → Uuid) :
    let r := s.completeNotificationDelivery record attempt claimId
    (OutboxCall.complete record attempt claimId).Does notificationOutbox now fresh s.notification
      r.2.notification s.attemptsOfNotification r.2.attemptsOfNotification r.1 := by
  intro r
  unfold r completeNotificationDelivery
  split
  next hnone => exact .inr ⟨by simp, rfl, rfl⟩
  next current hfind =>
    split_ifs with hclaim
    · split
      next attempts hinsert =>
        obtain ⟨hnew, rfl⟩ := s.notificationAttempts.insert_eq_some.mp hinsert
        refine .inl ⟨current.payload, congrArg (Option.map _) hfind, hclaim, rfl, ?_, ?_⟩
        · exact payload_put_update s.notifications { current with payload := record.released }
        · exact filter_put_update s.notificationAttempts hnew
      next hrefused => exact .inr ⟨by simp, rfl, rfl⟩
    · exact .inr ⟨by simp, rfl, rfl⟩

theorem claimDueActionDispatches_does (request : LeaseRequest) (now : Time) (fresh : ℕ → Uuid) :
    (OutboxCall.claim request).Does actionOutbox now fresh s.actionDispatch
      (s.claimDueActionDispatches request now fresh).2.actionDispatch s.attemptsOfAction
      (s.claimDueActionDispatches request now fresh).2.attemptsOfAction
      (.ok (s.claimDueActionDispatches request now fresh).1) := by
  have hclaim := claim_does actionOutbox_lawful (fun row : ActionDispatchRow => row.payload)
    s.actionDispatches (request.actionRow now) request fresh s.attemptsOfAction (fun _ _ => rfl)
    (show (cutBatch (fun row => request.admits row.tenantId && row.payload.waiting)
      (fun row => row.payload.leasable now) request.limit s.actionDispatches.rows).Sublist _ from
      List.filter_sublist.trans ((List.take_sublist _ _).trans List.filter_sublist))
    (fun row hrow => by
      obtain ⟨hcut, hdue⟩ := List.mem_filter.mp hrow
      have hwaits := (List.mem_filter.mp (List.mem_of_mem_take hcut)).2
      rw [Bool.and_eq_true] at hwaits
      exact ⟨hwaits.2, hdue⟩)
  exact hclaim

theorem completeActionDispatch_does (record : ActionDispatchRecord)
    (attempt : ActionDispatchAttempt) (claimId : Uuid) (now : Time) (fresh : ℕ → Uuid) :
    let r := s.completeActionDispatch record attempt claimId
    (OutboxCall.complete record attempt claimId).Does actionOutbox now fresh s.actionDispatch
      r.2.actionDispatch s.attemptsOfAction r.2.attemptsOfAction r.1 := by
  intro r
  unfold r completeActionDispatch
  split
  next hnone => exact .inr ⟨by simp, rfl, rfl⟩
  next current hfind =>
    split_ifs with hclaim
    · split
      next attempts hinsert =>
        obtain ⟨hnew, rfl⟩ := s.actionDispatchAttempts.insert_eq_some.mp hinsert
        refine .inl ⟨current.payload, congrArg (Option.map _) hfind, hclaim, rfl, ?_, ?_⟩
        · exact payload_put_update s.actionDispatches { current with payload := record.released }
        · exact filter_put_update s.actionDispatchAttempts hnew
      next hrefused => exact .inr ⟨by simp, rfl, rfl⟩
    · exact .inr ⟨by simp, rfl, rfl⟩

/-- Dropping rows, and the attempts that belong to them. -/
theorem removes_filter {β γ : Type} {id : β → Uuid} {aid : γ → Uuid} {group : γ → Uuid}
    {payload : β → ρ} (t : Table id) {p : β → Bool} (filed : Table aid) (keys : List Uuid)
    (hp : ∀ b ∈ t, p b = true ↔ id b ∉ keys) :
    Removes (fun k => (t.find? k).map payload) (fun k => ((t.filter p).find? k).map payload)
      (fun k => filed.rows.filter (fun a => group a = k))
      (fun k => (filed.filter (fun a => group a ∉ keys)).rows.filter (fun a => group a = k)) := by
  intro k
  refine (remove_does keys hp (fun k => filed.rows.filter (fun a => group a = k))
    (fun k => (filed.filter (fun a => group a ∉ keys)).rows.filter (fun a => group a = k))
    (fun k => ?_) k).imp
    (And.imp_left (congrArg (Option.map payload))) (And.imp_left (congrArg (Option.map payload)))
  rw [Table.filter_rows, List.filter_filter]
  split_ifs with hk
  · rw [List.filter_eq_nil_iff]
    intro a _ ha
    simp only [Bool.and_eq_true, decide_eq_true_eq] at ha
    exact ha.2 (ha.1 ▸ hk)
  · refine List.filter_congr fun a _ => ?_
    by_cases ha : group a = k <;> simp [ha, hk]

/-- The actions whose incident column is none of the identifiers. -/
theorem kept_iff_notMem (incidentIds : List Uuid) {row : ActionDispatchRow}
    (h : row ∈ s.actionDispatches) :
    decide (row.incidentId ∉ incidentIds) = true ↔
      row.payload.actionDispatchId ∉ s.actionIdsOf incidentIds := by
  rw [decide_eq_true_eq, not_iff_not, actionIdsOf, List.mem_map]
  constructor
  · intro hid
    exact ⟨row, List.mem_filter.mpr ⟨h, decide_eq_true hid⟩, rfl⟩
  · rintro ⟨row', hrow', hid⟩
    obtain ⟨hmem, hin⟩ := List.mem_filter.mp hrow'
    rw [← s.actionDispatches.key_inj hmem h hid]
    exact of_decide_eq_true hin

theorem eraseTravelerData_removes (tenantId travelerId : String) (scope : DeletionRequestScope) :
    let s' := (s.eraseTravelerData tenantId travelerId scope).2
    Removes s.notification s'.notification s.attemptsOfNotification s'.attemptsOfNotification ∧
      Removes s.actionDispatch s'.actionDispatch s.attemptsOfAction s'.attemptsOfAction := by
  unfold eraseTravelerData
  dsimp only
  split_ifs
  · exact ⟨fun k => .inl ⟨rfl, rfl⟩, fun k => .inl ⟨rfl, rfl⟩⟩
  · constructor
    · exact removes_filter s.notifications s.notificationAttempts _
        fun row _ => decide_eq_true_iff
    · exact removes_filter s.actionDispatches s.actionDispatchAttempts _
        fun row hrow => s.kept_iff_notMem _ hrow

theorem purgeExpired_removes (now : Time) (cutoffs : Cutoffs) :
    let s' := (s.purgeExpired now cutoffs).2
    Removes s.notification s'.notification s.attemptsOfNotification s'.attemptsOfNotification ∧
      Removes s.actionDispatch s'.actionDispatch s.attemptsOfAction s'.attemptsOfAction := by
  constructor
  · exact removes_filter s.notifications s.notificationAttempts _ fun row _ => decide_eq_true_iff
  · exact removes_filter s.actionDispatches s.actionDispatchAttempts _
      fun row hrow => s.kept_iff_notMem _ hrow

theorem notification_saveNotification (r : NotificationRecord) :
    (s.saveNotification r).notification =
      Function.update s.notification r.notificationId (some r) := by
  exact payload_put_update s.notifications _

theorem actionDispatch_saveActionDispatch (r : ActionDispatchRecord) :
    (s.saveActionDispatch r).actionDispatch =
      Function.update s.actionDispatch r.actionDispatchId (some r) := by
  exact payload_put_update s.actionDispatches _

theorem completeNotificationDelivery_accepted {record : NotificationRecord}
    {attempt : NotificationAttempt} {claimId : Uuid}
    (h : (OutboxCall.complete record attempt claimId).FindsLease notificationOutbox s.notification
      s.attemptsOfNotification) :
    ∃ r, (s.completeNotificationDelivery record attempt claimId).1 = .ok (some r) := by
  obtain ⟨⟨current, hfind, hclaim⟩, hnew⟩ := h
  obtain ⟨row, hrow, rfl⟩ := Option.map_eq_some_iff.mp hfind
  have hrow : s.notifications.find? record.notificationId = some row := hrow
  have hclaim : row.payload.dispatchClaim.map DispatchClaim.claimId = some claimId := hclaim
  have hinsert : s.notificationAttempts.insert attempt = some (s.notificationAttempts.put attempt) := by
    refine (s.notificationAttempts.insert_eq_some).mpr ⟨?_, rfl⟩
    cases hfiled : s.notificationAttempts.find? attempt.attemptId with
    | none => rfl
    | some filed =>
      obtain ⟨hmem, hid⟩ := (Table.find?_eq_some _).mp hfiled
      exact absurd hid
        (hnew filed.notificationId filed (List.mem_filter.mpr ⟨hmem, decide_eq_true rfl⟩))
  refine ⟨record.released, ?_⟩
  unfold completeNotificationDelivery
  rw [hrow]
  dsimp only
  rw [if_pos hclaim, hinsert]

theorem completeActionDispatch_accepted {record : ActionDispatchRecord}
    {attempt : ActionDispatchAttempt} {claimId : Uuid}
    (h : (OutboxCall.complete record attempt claimId).FindsLease actionOutbox s.actionDispatch
      s.attemptsOfAction) :
    ∃ r, (s.completeActionDispatch record attempt claimId).1 = .ok (some r) := by
  obtain ⟨⟨current, hfind, hclaim⟩, hnew⟩ := h
  obtain ⟨row, hrow, rfl⟩ := Option.map_eq_some_iff.mp hfind
  have hrow : s.actionDispatches.find? record.actionDispatchId = some row := hrow
  have hclaim : row.payload.dispatchClaim.map DispatchClaim.claimId = some claimId := hclaim
  have hinsert : s.actionDispatchAttempts.insert attempt =
      some (s.actionDispatchAttempts.put attempt) := by
    refine (s.actionDispatchAttempts.insert_eq_some).mpr ⟨?_, rfl⟩
    cases hfiled : s.actionDispatchAttempts.find? attempt.attemptId with
    | none => rfl
    | some filed =>
      obtain ⟨hmem, hid⟩ := (Table.find?_eq_some _).mp hfiled
      exact absurd hid
        (hnew filed.actionDispatchId filed (List.mem_filter.mpr ⟨hmem, decide_eq_true rfl⟩))
  refine ⟨record.released, ?_⟩
  unfold completeActionDispatch
  rw [hrow]
  dsimp only
  rw [if_pos hclaim, hinsert]

variable {s}

theorem key_of_notification {k : Uuid} {r : NotificationRecord} (h : s.notification k = some r) :
    r.notificationId = k := by
  obtain ⟨row, hrow, rfl⟩ := Option.map_eq_some_iff.mp h
  exact ((Table.find?_eq_some _).mp hrow).2

theorem key_of_actionDispatch {k : Uuid} {r : ActionDispatchRecord}
    (h : s.actionDispatch k = some r) : r.actionDispatchId = k := by
  obtain ⟨row, hrow, rfl⟩ := Option.map_eq_some_iff.mp h
  exact ((Table.find?_eq_some _).mp hrow).2

theorem getNotification_stored {tenantId : String} {id : Uuid} {r : NotificationRecord}
    (h : Except.ok (ε := Fault) (s.getNotification tenantId id) = .ok (some r)) :
    s.notification r.notificationId = some r := by
  obtain ⟨hfind, hid⟩ := s.notifications.payload?_eq_some (Except.ok.inj h)
  rw [hid]
  exact hfind

end PostgresRepository

/-! ### The outboxes of both repositories -/

instance : OutboxStore notificationOutbox .memory where
  find s := s.notifications.find?
  attempts s := s.notificationAttempts.items
  key_of_find h := ((Table.find?_eq_some _).mp h).2
  accepts op now fresh s hfinds := by
    cases op with
    | completeNotificationDelivery record attempt claimId =>
      exact s.completeNotificationDelivery_accepted hfinds
    | _ => trivial
  does op now fresh s := by
    by_cases hop : Collection.notifications ∈ op.writes
    · cases op with
      | claimDueNotifications request => exact s.claimDueNotifications_does request now fresh
      | completeNotificationDelivery r attempt claimId =>
        exact s.completeNotificationDelivery_does r attempt claimId now fresh
      | saveNotification r => exact ⟨rfl, Table.find?_put_update _ _, rfl⟩
      | recordNotificationAttempt attempt => trivial
      | eraseTravelerData tenantId travelerId scope =>
        exact (s.eraseTravelerData_removes tenantId travelerId scope).1
      | purgeExpired cutoffs => exact (s.purgeExpired_removes now cutoffs).1
      | _ => exact absurd hop (by simp [RepoOp.writes])
    · have hframe := Framed.frame op now fresh s hop
      have hfind := congrArg (fun s : InMemoryRepository Response => s.notifications.find?) hframe
      have hattempts :=
        congrArg (fun s : InMemoryRepository Response => s.notificationAttempts.items) hframe
      have hquiet := notificationOutbox_lawful.view_quiet op hop
      cases op with
      | getNotification tenantId id =>
        exact ⟨hfind, hattempts, fun _ => InMemoryRepository.getNotification_stored⟩
      | claimDueNotifications | completeNotificationDelivery | saveNotification
      | recordNotificationAttempt | eraseTravelerData | purgeExpired =>
        exact hquiet.elim
      | _ => exact ⟨hfind, hattempts⟩

instance : OutboxStore notificationOutbox .postgres where
  find s := s.notification
  attempts s := s.attemptsOfNotification
  key_of_find h := PostgresRepository.key_of_notification h
  accepts op now fresh s hfinds := by
    cases op with
    | completeNotificationDelivery record attempt claimId =>
      exact s.completeNotificationDelivery_accepted hfinds
    | _ => trivial
  does op now fresh s := by
    by_cases hop : Collection.notifications ∈ op.writes
    · cases op with
      | claimDueNotifications request => exact s.claimDueNotifications_does request now fresh
      | completeNotificationDelivery r attempt claimId =>
        exact s.completeNotificationDelivery_does r attempt claimId now fresh
      | saveNotification r => exact ⟨rfl, s.notification_saveNotification r, rfl⟩
      | recordNotificationAttempt attempt => trivial
      | eraseTravelerData tenantId travelerId scope =>
        exact (s.eraseTravelerData_removes tenantId travelerId scope).1
      | purgeExpired cutoffs => exact (s.purgeExpired_removes now cutoffs).1
      | _ => exact absurd hop (by simp [RepoOp.writes])
    · have hframe := Framed.frame op now fresh s hop
      have hfind := congrArg (fun s : PostgresRepository Response => s.notification) hframe
      have hattempts :=
        congrArg (fun s : PostgresRepository Response => s.attemptsOfNotification) hframe
      have hquiet := notificationOutbox_lawful.view_quiet op hop
      cases op with
      | getNotification tenantId id =>
        exact ⟨hfind, hattempts, fun _ => PostgresRepository.getNotification_stored⟩
      | claimDueNotifications | completeNotificationDelivery | saveNotification
      | recordNotificationAttempt | eraseTravelerData | purgeExpired =>
        exact hquiet.elim
      | _ => exact ⟨hfind, hattempts⟩

instance : OutboxStore actionOutbox .memory where
  find s := s.actionDispatches.find?
  attempts s := s.actionDispatchAttempts.items
  key_of_find h := ((Table.find?_eq_some _).mp h).2
  accepts op now fresh s hfinds := by
    cases op with
    | completeActionDispatch record attempt claimId =>
      exact s.completeActionDispatch_accepted hfinds
    | _ => trivial
  does op now fresh s := by
    by_cases hop : Collection.actions ∈ op.writes
    · cases op with
      | claimDueActionDispatches request => exact s.claimDueActionDispatches_does request now fresh
      | completeActionDispatch r attempt claimId =>
        exact s.completeActionDispatch_does r attempt claimId now fresh
      | saveActionDispatch r => exact ⟨rfl, Table.find?_put_update _ _, rfl⟩
      | recordActionDispatchAttempt attempt => trivial
      | eraseTravelerData tenantId travelerId scope =>
        exact (s.eraseTravelerData_removes tenantId travelerId scope).2
      | purgeExpired cutoffs => exact (s.purgeExpired_removes now cutoffs).2
      | _ => exact absurd hop (by simp [RepoOp.writes])
    · have hframe := Framed.frame op now fresh s hop
      have hfind := congrArg (fun s : InMemoryRepository Response => s.actionDispatches.find?) hframe
      have hattempts :=
        congrArg (fun s : InMemoryRepository Response => s.actionDispatchAttempts.items) hframe
      have hquiet := actionOutbox_lawful.view_quiet op hop
      cases op with
      | claimDueActionDispatches | completeActionDispatch | saveActionDispatch
      | recordActionDispatchAttempt | eraseTravelerData | purgeExpired =>
        exact hquiet.elim
      | _ => exact ⟨hfind, hattempts⟩

instance : OutboxStore actionOutbox .postgres where
  find s := s.actionDispatch
  attempts s := s.attemptsOfAction
  key_of_find h := PostgresRepository.key_of_actionDispatch h
  accepts op now fresh s hfinds := by
    cases op with
    | completeActionDispatch record attempt claimId =>
      exact s.completeActionDispatch_accepted hfinds
    | _ => trivial
  does op now fresh s := by
    by_cases hop : Collection.actions ∈ op.writes
    · cases op with
      | claimDueActionDispatches request => exact s.claimDueActionDispatches_does request now fresh
      | completeActionDispatch r attempt claimId =>
        exact s.completeActionDispatch_does r attempt claimId now fresh
      | saveActionDispatch r => exact ⟨rfl, s.actionDispatch_saveActionDispatch r, rfl⟩
      | recordActionDispatchAttempt attempt => trivial
      | eraseTravelerData tenantId travelerId scope =>
        exact (s.eraseTravelerData_removes tenantId travelerId scope).2
      | purgeExpired cutoffs => exact (s.purgeExpired_removes now cutoffs).2
      | _ => exact absurd hop (by simp [RepoOp.writes])
    · have hframe := Framed.frame op now fresh s hop
      have hfind := congrArg (fun s : PostgresRepository Response => s.actionDispatch) hframe
      have hattempts :=
        congrArg (fun s : PostgresRepository Response => s.attemptsOfAction) hframe
      have hquiet := actionOutbox_lawful.view_quiet op hop
      cases op with
      | claimDueActionDispatches | completeActionDispatch | saveActionDispatch
      | recordActionDispatchAttempt | eraseTravelerData | purgeExpired =>
        exact hquiet.elim
      | _ => exact ⟨hfind, hattempts⟩

end RouteShield
