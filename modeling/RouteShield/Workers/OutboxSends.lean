import RouteShield.Workers.OutboxRuns

/-!
Sends and attempts. A worker sends before it completes its lease, and a completion that is refused
leaves no attempt. As long as every completion finds its own lease on the record and every answer
of the sender makes an attempt that can be filed, the sends of a record are its attempts.
-/

namespace RouteShield

variable {ρ α R γ : Type} {b : Backend}

namespace Outbox

variable (K : Outbox ρ α R)

/-- A worker stands between a send of a record and its completion: it draws at most identifiers
before it completes the record. -/
inductive Committing (k : Uuid) : Api Unit → Prop
  | complete {op : Effect (Option ρ)} {next : Except Fault (Option ρ) → Api Unit} (r : ρ)
      (attempt : α) (claimId : Uuid) :
      K.viewOf op = .complete r attempt claimId → K.key r = k → Committing k (.call op next)
  | draw {next : Except Fault Uuid → Api Unit} (id : Uuid) :
      Committing k (next (.ok id)) → Committing k (.call .uuid4 next)

variable [OutboxStore K b]

/-- A worker that comes in is a dispatcher; a call finds its lease, or an answer that can be
filed. -/
structure Recordable (env : Env) (pool : OutboxPool b) (e : PoolEvent OutboxWork) : Prop where
  dispatches : ∀ work, e = .spawn work → ¬work.Removes
  finds : ∀ {γ : Type} (i : ℕ) (op : Effect γ) (next : Except Fault γ → Api Unit), e = .step i →
    pool.threads[i]? = some (.call op next) → (K.viewOf op).FindsLease K
      (OutboxStore.find K pool.state.1.store) (OutboxStore.attempts K pool.state.1.store)
  storable : ∀ {γ : Type} (i : ℕ) (op : Effect γ) (next : Except Fault γ → Api Unit), e = .step i →
    pool.threads[i]? = some (.call op next) →
    ∀ result ∈ K.outcome op (env.answer pool.state.1 op), K.storable result = true

/-- While no worker is between a send of a record and its completion, the sends of that record are
its attempts, five at most. -/
def OnRecord (pool : OutboxPool b) : Prop :=
  ∀ k, (∀ p ∈ pool.threads, ¬K.Committing k p) →
    pool.state.2.sends k = (OutboxStore.attempts K pool.state.1.store k).length ∧
      pool.state.2.sends k ≤ 5

/-- The workers that are sending a record. -/
def sendingOf (φs : List (WorkPhase ρ)) (k : Uuid) : ℕ :=
  φs.countP (fun φ => φ.sending.map K.key = some k)

structure Counted (env : Env) (h₀ : Uuid → History Uuid Time ρ) (φs : List (WorkPhase ρ))
    (s : World b × OutboxLedger) : Prop extends K.Attended env h₀ φs s where
  counted : ∀ k, s.2.sends k = (OutboxStore.attempts K s.1.store k).length + K.sendingOf φs k

variable {K} {env : Env} {s : World b × OutboxLedger} {h₀ : Uuid → History Uuid Time ρ}
  {φs : List (WorkPhase ρ)} {φ : WorkPhase ρ} {op : Effect γ}

open Prog hiding pure

omit [OutboxStore K b] in
/-- A worker that is sending goes on to its completion. -/
theorem committing_of_sending (hK : K.Lawful) {p : Api Unit} {φ : WorkPhase ρ}
    (hp : p.Follows (K.workContract True) (fun φ' _ => φ'.sending = none) φ) {copy : ρ}
    (hsending : φ.sending = some copy) : K.Committing (K.key copy) p := by
  have hbusy : φ.sending ≠ none := Option.ne_none_iff_exists'.mpr ⟨copy, hsending⟩
  induction p generalizing φ with
  | pure a => exact absurd hp hbusy
  | throw e => exact absurd (hp trivial) hbusy
  | call op next ih =>
    obtain ⟨hpermits, -, hhurries⟩ := hp.1
    cases op with
    | uuid4 =>
      have hsent : K.sent (.uuid4 : Effect Uuid) = none := hK.sent_quiet .uuid4 List.not_mem_nil
      have hsending' : ((K.workContract True).advance φ .uuid4 (.ok (.v4 0))).sending =
          some copy := by
        show (K.sent (.uuid4 : Effect Uuid)).or φ.sending = some copy
        rw [hsent]
        exact hsending
      refine .draw (.v4 0) (ih _ (hp.2 (.ok (.v4 0)) ⟨⟨_, rfl⟩, trivial, fun _ r hr => ?_⟩)
        hsending' (Option.ne_none_iff_exists'.mpr ⟨copy, hsending'⟩))
      rw [hsent] at hr
      cases hr
    | repo op =>
      have hcompletes : (K.view op).completes ≠ none := hhurries hbusy
      have hpermits : K.Permits True φ (K.view op) := hpermits
      cases hview : K.view op with
      | complete r attempt claimId =>
        rw [hview] at hpermits
        obtain ⟨sent, -, hsent, -, result, timestamp, id, rfl, rfl⟩ := hpermits
        rw [hsending] at hsent
        cases hsent
        exact .complete _ _ claimId hview (hK.key_attempted copy result timestamp)
      | _ =>
        rw [hview] at hcompletes
        exact absurd rfl hcompletes
    | _ => exact (hhurries hbusy).elim

variable (K) in
omit [OutboxStore K b] in
theorem sendingOf_set {i : ℕ} (hi : φs[i]? = some φ) (φ' : WorkPhase ρ) (k : Uuid) :
    K.sendingOf (φs.set i φ') k + (if φ.sending.map K.key = some k then 1 else 0) =
      K.sendingOf φs k + (if φ'.sending.map K.key = some k then 1 else 0) := by
  obtain ⟨hlength, hget⟩ := List.getElem?_eq_some_iff.mp hi
  unfold sendingOf
  rw [List.countP_set hlength, hget]
  simp only [decide_eq_true_eq]
  by_cases hk : φ.sending.map K.key = some k
  · have hpos : 0 < φs.countP (fun φ => φ.sending.map K.key = some k) :=
      List.countP_pos_iff.mpr ⟨φ, List.mem_of_getElem? hi, decide_eq_true hk⟩
    rw [if_pos hk]
    omega
  · rw [if_neg hk]
    omega

/-- What a strict worker relies on, it gets where its completion finds its lease and the sender's
answer can be filed. -/
theorem Attended.promised_strict (hK : K.Lawful) (h : K.Attended env h₀ φs s) (hφ : φ ∈ φs)
    (hop : (K.workContract True).allowed φ op)
    (hfinds : (K.viewOf op).FindsLease K (OutboxStore.find K s.1.store)
      (OutboxStore.attempts K s.1.store))
    (hstorable : ∀ result ∈ K.outcome op (env.answer s.1 op), K.storable result = true) :
    (K.workContract True).promised φ op (K.exec env op s).1 := by
  have hordinary : (K.workContract False).promised φ op (K.exec env op s).1 :=
    Attended.promised hK s op
  obtain ⟨hreliable, hpromises, -⟩ := hordinary
  refine ⟨hreliable, ?_, fun _ r hr result hresult t => ?_⟩
  · have hpromises : K.Promises False (K.viewOf op) (env.answer s.1 op) := hpromises
    show K.Promises True (K.viewOf op) (env.answer s.1 op)
    have haccepted : (K.viewOf op).Accepted (env.answer s.1 op) := by
      cases op with
      | repo op => exact OutboxStore.accepts op (env.clock s.1.tick) (drawn s.1.tick) s.1.store hfinds
      | _ => trivial
    generalize env.answer s.1 op = answer at hpromises haccepted
    cases hview : K.viewOf op with
    | complete r attempt claimId =>
      rw [hview] at haccepted
      exact fun _ => haccepted
    | claim request =>
      rw [hview] at hpromises
      cases answer with
      | ok r => exact hpromises
      | error e => trivial
    | _ => trivial
  · obtain ⟨hheld, -⟩ := hop.2.1 r hr
    obtain ⟨claim, -, -, -, hcount⟩ := h.held φ hφ r hheld
    exact hK.valid_attempted r result t hcount (hstorable result hresult)

/-- A send counts one more for its record, and so does the attempt that its completion files. -/
theorem Counted.step (hK : K.Lawful) (hclock : Monotone env.clock) (h : K.Counted env h₀ φs s)
    {i : ℕ} (hi : φs[i]? = some φ) (hop : (K.workContract True).allowed φ op)
    (hpromised : (K.workContract True).promised φ op (K.exec env op s).1) :
    K.Counted env h₀ (φs.set i ((K.workContract True).advance φ op (K.exec env op s).1))
      (K.exec env op s).2 := by
  refine ⟨h.toAttended.step hK hclock hi hop.1, fun k => ?_⟩
  have hset := K.sendingOf_set hi ((K.workContract True).advance φ op (K.exec env op s).1) k
  have hcounted := h.counted k
  have hdoes := effect_does (K := K) env s.1 op
  have hsends : (K.exec env op s).2.2.sends k =
      s.2.sends k + if (K.sent op).map K.key = some k then 1 else 0 := rfl
  have hsending : ((K.workContract True).advance φ op (K.exec env op s).1).sending =
      sendingAfter φ (K.sent op) (K.viewOf op) := rfl
  have hstore : (K.exec env op s).2.1 = env.after s.1 op := rfl
  rw [hsends, hstore]
  rw [hsending] at hset
  have hother : (K.viewOf op).completes = none →
      OutboxStore.attempts K (env.after s.1 op).store = OutboxStore.attempts K s.1.store →
      s.2.sends k + (if (K.sent op).map K.key = some k then 1 else 0) =
        (OutboxStore.attempts K (env.after s.1 op).store k).length +
          K.sendingOf (φs.set i ((K.workContract True).advance φ op (K.exec env op s).1)) k := by
    intro hnone hattempts
    have hnow : sendingAfter φ (K.sent op) (K.viewOf op) = (K.sent op).or φ.sending := by
      cases hview : K.viewOf op <;> rw [hview] at hnone <;> first | rfl | cases hnone
    rw [hnow] at hset
    rw [hattempts]
    cases hsent : K.sent op with
    | none =>
      rw [hsent, Option.none_or] at hset
      simp only [Option.map_none, reduceCtorEq, if_false] at hset ⊢
      omega
    | some r =>
      have hidle : φ.sending = none := (hop.2.1 r hsent).2.1
      rw [hsent, hidle, Option.some_or] at hset
      simp only [Option.map_none, reduceCtorEq, if_false] at hset
      omega
  cases hview : K.viewOf op with
  | complete r attempt claimId =>
    have hpermits := hop.1
    have haccepted : K.Promises True (K.viewOf op) (env.answer s.1 op) := hpromised.2.1
    rw [hview] at hpermits haccepted hdoes hset
    obtain ⟨copy, hheld, hcopy, hclaimed, result, timestamp, id, rfl, rfl⟩ := hpermits
    obtain ⟨r', hr'⟩ := haccepted trivial
    have hsent : K.sent op = none := by
      by_contra hsome
      obtain ⟨r, hr⟩ := Option.ne_none_iff_exists'.mp hsome
      have hidle : φ.sending = none := (hop.2.1 r hr).2.1
      rw [hcopy] at hidle
      cases hidle
    rcases hdoes with ⟨current, -, -, -, -, hattempts⟩ | ⟨hrefused, -, -⟩
    · rw [hattempts, hK.attemptKey_filed, hsent]
      have hnow : sendingAfter φ (K.sent op) (OutboxCall.complete (α := α)
        (K.attempted copy result timestamp).1 (K.filed id copy timestamp result
          (K.attempted copy result timestamp)) claimId) = none := rfl
      rw [hnow, hcopy] at hset
      simp only [Option.map_none, Option.map_some, Option.some.injEq, reduceCtorEq, if_false]
        at hset ⊢
      by_cases hk : K.key copy = k
      · rw [if_pos hk] at hset
        rw [hk, Function.update_self, List.length_append, List.length_singleton]
        omega
      · rw [if_neg hk] at hset
        rw [Function.update_of_ne (Ne.symm hk)]
        omega
    · exact absurd hr' (hrefused r')
  | claim request =>
    rw [hview] at hdoes hother
    exact hother rfl hdoes.1
  | get =>
    rw [hview] at hdoes hother
    exact hother rfl hdoes.2.1
  | other =>
    rw [hview] at hdoes hother
    exact hother rfl hdoes.2
  | _ =>
    have hpermits := hop.1
    rw [hview] at hpermits
    first | exact hpermits.elim | exact absurd trivial hpermits

omit [OutboxStore K b] in
theorem sendingOf_append (φs : List (WorkPhase ρ)) (k : Uuid) :
    K.sendingOf (φs ++ [({} : WorkPhase ρ)]) k = K.sendingOf φs k := by
  simp [sendingOf]

/-- What a call or a new worker preserves. -/
theorem counted_apply (hK : K.Lawful) {svc : Service} (hops : K.Operated svc)
    (hclock : Monotone env.clock) {pool : OutboxPool b} {e : PoolEvent OutboxWork}
    (h : pool.Joint (K.workContract True) (fun φ _ => φ.sending = none) (K.Counted env h₀))
    (he : K.Recordable env pool e) :
    (pool.apply (K.exec env) (OutboxWork.start svc) e).Joint (K.workContract True)
      (fun φ _ => φ.sending = none) (K.Counted env h₀) := by
  refine Pool.joint_apply h e (fun work φs hspawn hφs => ?_) ?_
  · refine ⟨{}, hops.work True work {} (fun _ => he.dispatches work hspawn) rfl, ?_⟩
    refine ⟨hφs.toAttended.spawn, fun k => ?_⟩
    rw [sendingOf_append]
    exact hφs.counted k
  · intro γ op next i φs φ hstep hthread hφs hi hop
    have hpromised := hφs.toAttended.promised_strict hK (List.mem_of_getElem? hi) hop
      (he.finds i op next hstep hthread) (he.storable i op next hstep hthread)
    exact ⟨hpromised, hφs.step hK hclock hi hop hpromised⟩

/-- Where no worker is between a send of a record and its completion, none is sending it. -/
theorem onRecord_of_counted (hK : K.Lawful) {pool : OutboxPool b}
    (h : pool.Joint (K.workContract True) (fun φ _ => φ.sending = none) (K.Counted env h₀)) :
    K.OnRecord pool := by
  intro k hidle
  obtain ⟨φs, hfollows, hφs⟩ := h
  have hnone : K.sendingOf φs k = 0 := by
    refine List.countP_eq_zero.mpr fun φ hφ hsending => ?_
    obtain ⟨i, hi⟩ := List.mem_iff_getElem?.mp hφ
    obtain ⟨p, hp, hfollow, -⟩ := Pool.forall₂_set hfollows.flip hi
    obtain ⟨copy, hcopy, hkey⟩ := Option.map_eq_some_iff.mp (of_decide_eq_true hsending)
    exact hidle p (List.mem_of_getElem? hp) (hkey ▸ committing_of_sending hK hfollow hcopy)
  have hcounted : pool.state.2.sends k =
      (OutboxStore.attempts K pool.state.1.store k).length := by
    rw [hφs.counted k, hnone, Nat.add_zero]
  refine ⟨hcounted, hcounted ▸ ?_⟩
  have horderly := hφs.sound.orderly k
  cases hfind : OutboxStore.find K pool.state.1.store k with
  | none =>
    have htries : (OutboxStore.attempts K pool.state.1.store k).map K.tried = [] :=
      horderly.absent (congrArg (Option.map K.entry) hfind)
    rw [List.map_eq_nil_iff.mp htries]
    exact Nat.zero_le 5
  | some r =>
    have hentry : (K.history pool.state k).entry = some (K.entry r) :=
      congrArg (Option.map K.entry) hfind
    have hlength := congrArg List.length (horderly.numbered _ hentry)
    rw [List.length_map, List.length_range'] at hlength
    have hlength : ((OutboxStore.attempts K pool.state.1.store k).map K.tried).length =
      (K.entry r).count := hlength
    rw [List.length_map] at hlength
    rw [hlength]
    exact horderly.count_le hentry

/-- In a run of dispatchers whose completions find their leases and whose sends can be filed,
every state has its sends on record. -/
theorem onRecord_of_recordable (hK : K.Lawful) {svc : Service} (hops : K.Operated svc)
    (hclock : Monotone env.clock) {pool : OutboxPool b}
    (h : pool.Joint (K.workContract True) (fun φ _ => φ.sending = none) (K.Counted env h₀))
    {events : List (PoolEvent OutboxWork)}
    (hmeets : Meets (Pool.apply (K.exec env) (OutboxWork.start svc)) (K.Recordable env) pool
      events) :
    K.OnRecord (runFrom (Pool.apply (K.exec env) (OutboxWork.start svc)) pool events) := by
  induction events generalizing pool with
  | nil => exact onRecord_of_counted hK h
  | cons e events ih => exact ih (counted_apply hK hops hclock h hmeets.1) hmeets.2

/-- No worker has come in yet. -/
theorem Sound.counted {s : World b × OutboxLedger} (h : K.Sound env s)
    (hsends : ∀ k, s.2.sends k = (OutboxStore.attempts K s.1.store k).length) :
    (⟨s, []⟩ : OutboxPool b).Joint (K.workContract True) (fun φ _ => φ.sending = none)
      (K.Counted env (K.history s)) :=
  ⟨[], .nil, ⟨h, fun _ => .refl, nofun, nofun⟩, hsends⟩

end Outbox

/-- Every send is on record in every run of dispatchers whose completions find their leases and
whose sends can be filed. -/
theorem sends_on_record [OutboxStore notificationOutbox b] [OutboxStore actionOutbox b]
    (svc : Service) (env : Env) (hclock : Monotone env.clock) (w : World b) (l : OutboxLedger)
    (events : List (PoolEvent OutboxWork)) :
    (notificationOutbox.Sound env (w, l) →
      (∀ k, l.sends k = (OutboxStore.attempts notificationOutbox w.store k).length) →
      Meets (Pool.apply (notificationOutbox.exec env) (OutboxWork.start svc))
        (notificationOutbox.Recordable env) ⟨(w, l), []⟩ events →
      notificationOutbox.OnRecord (runFrom (Pool.apply (notificationOutbox.exec env)
        (OutboxWork.start svc)) ⟨(w, l), []⟩ events)) ∧
    (actionOutbox.Sound env (w, l) →
      (∀ k, l.sends k = (OutboxStore.attempts actionOutbox w.store k).length) →
      Meets (Pool.apply (actionOutbox.exec env) (OutboxWork.start svc))
        (actionOutbox.Recordable env) ⟨(w, l), []⟩ events →
      actionOutbox.OnRecord (runFrom (Pool.apply (actionOutbox.exec env)
        (OutboxWork.start svc)) ⟨(w, l), []⟩ events)) :=
  ⟨fun hs hsends => Outbox.onRecord_of_recordable notificationOutbox_lawful
      (notificationOutbox_operated svc) hclock (hs.counted hsends),
    fun hs hsends => Outbox.onRecord_of_recordable actionOutbox_lawful
      (actionOutbox_operated svc) hclock (hs.counted hsends)⟩

/-! ### A send that takes longer than its lease -/

/-- The clock passes the end of a lease that was granted at the start. -/
def Env.lateFrom (tick : ℕ) : Env :=
  { Env.still with clock := fun n => if n < tick then 0 else minutes 6 }

theorem Env.monotone_lateFrom (tick : ℕ) : Monotone (Env.lateFrom tick).clock := by
  intro m n hmn
  show (if m < tick then 0 else minutes 6) ≤ if n < tick then 0 else minutes 6
  have hsix : (0 : ℤ) ≤ minutes 6 := by decide
  split_ifs <;> first | exact le_rfl | exact hsix | omega

/-- An administrator has queued a notification, and nothing is sent yet. -/
def queuedOutbox (env : Env) : World .memory × OutboxLedger :=
  (runFrom (notificationOutbox.apply .switchedOn env) emptyOutbox [queuedNotice]).state

theorem queuedOutbox_sound {env : Env} (hclock : Monotone env.clock) :
    notificationOutbox.Sound env (queuedOutbox env) := by
  have hempty : notificationOutbox.Sound env emptyOutbox.state :=
    Outbox.sound_of_fresh (fun _ => rfl) fun _ => rfl
  obtain ⟨φs, -, hφs⟩ := hempty.inOrder.apply notificationOutbox_lawful
    (notificationOutbox_operated .switchedOn) hclock (.serve _)
  exact hφs.sound

/-- The notification is sent once by each of two dispatchers. The lease of the first runs out
while it sends; the second leases the notification again, sends it and completes it. -/
def slowSend : List (PoolEvent OutboxWork) :=
  [.spawn .dispatchDueNotifications, .spawn .dispatchDueNotifications] ++
    List.replicate 7 (.step 0) ++ List.replicate 13 (.step 1) ++ List.replicate 6 (.step 0)

def Outbox.sentBy (events : List (PoolEvent OutboxWork)) (tick : ℕ) : OutboxPool .memory :=
  runFrom (Pool.apply (notificationOutbox.exec (Env.lateFrom tick))
    (OutboxWork.start .switchedOn)) ⟨queuedOutbox (Env.lateFrom tick), []⟩ events

/-- Both dispatchers have ended, and one of the two sends has left no attempt. -/
theorem late_send_unrecorded :
    notificationOutbox.Sound (Env.lateFrom 16) (queuedOutbox (Env.lateFrom 16)) ∧
      ∃ k, (Outbox.sentBy slowSend 16).state.2.sends k = 2 ∧
        (OutboxStore.attempts notificationOutbox
          (Outbox.sentBy slowSend 16).state.1.store k).length = 1 ∧
        ¬notificationOutbox.OnRecord (Outbox.sentBy slowSend 16) := by
  have hended : ∀ p ∈ (Outbox.sentBy slowSend 16).threads, ¬p.Next (fun _ => True) := by
    decide +kernel
  have hsends : (Outbox.sentBy slowSend 16).state.1.store.notifications.rows.map (fun r =>
      ((Outbox.sentBy slowSend 16).state.2.sends r.notificationId,
        (OutboxStore.attempts notificationOutbox (Outbox.sentBy slowSend 16).state.1.store
          r.notificationId).length)) = [(2, 1)] := by
    decide +kernel
  obtain ⟨r, -, hr⟩ := List.mem_map.mp (hsends ▸ List.mem_cons_self)
  obtain ⟨hsent, hfiled⟩ := Prod.mk.inj hr
  refine ⟨queuedOutbox_sound (Env.monotone_lateFrom 16), r.notificationId, hsent, hfiled, ?_⟩
  intro hrecord
  have hsame := (hrecord r.notificationId fun p hp hcommitting => hended p hp ?_).1
  · rw [hsent, hfiled] at hsame
    exact absurd hsame (by decide)
  · cases hcommitting <;> trivial

/-- A completion comes under the lease that is on the record. -/
def OutboxCall.onLease (K : Outbox ρ α R) (find : Uuid → Option ρ) : OutboxCall ρ α γ → Bool
  | .complete r _ claimId =>
    ((find (K.key r)).bind K.claim).map DispatchClaim.claimId = some claimId
  | _ => true

theorem notificationAttempts_of_rows {s : Backend.memory.State}
    (h : s.notificationAttempts.rows = []) (k : Uuid) :
    OutboxStore.attempts notificationOutbox s k = [] := by
  show s.notificationAttempts.items k = []
  unfold Table.items Table.find?
  rw [h]
  rfl

/-- A dispatcher comes in, or the next call completes a record under its lease, if it
completes one, with an answer of the sender that can be filed; no attempt is filed yet. -/
def InTime (env : Env) (pool : OutboxPool .memory) : PoolEvent OutboxWork → Prop
  | .spawn work => ¬work.Removes
  | .step i => pool.state.1.store.notificationAttempts.rows = [] ∧
    ¬pool.Calls (fun op => ((notificationOutbox.viewOf op).onLease notificationOutbox
      pool.state.1.store.notifications.find? && (notificationOutbox.outcome op
        (env.answer pool.state.1 op)).all notificationOutbox.storable) = false)
      (.step i : PoolEvent OutboxWork)

instance (env : Env) (pool : OutboxPool .memory) : ∀ e, Decidable (InTime env pool e)
  | .spawn work => inferInstanceAs (Decidable ¬work.Removes)
  | .step _ => inferInstanceAs (Decidable (_ ∧ ¬_))

theorem InTime.recordable {env : Env} {pool : OutboxPool .memory} {e : PoolEvent OutboxWork}
    (h : InTime env pool e) : notificationOutbox.Recordable env pool e := by
  cases e with
  | spawn work =>
    refine ⟨?_, fun _ _ _ hstep => ?_, fun _ _ _ hstep => ?_⟩
    · rintro work ⟨⟩
      exact h
    · cases hstep
    · cases hstep
  | step i =>
    obtain ⟨hattempts, hcalls⟩ := h
    have hnext : ∀ {γ : Type} (op : Effect γ) (next : Except Fault γ → Api Unit),
        pool.threads[i]? = some (.call op next) →
        (notificationOutbox.viewOf op).onLease notificationOutbox
          pool.state.1.store.notifications.find? = true ∧ (notificationOutbox.outcome op
          (env.answer pool.state.1 op)).all notificationOutbox.storable = true := by
      intro γ op next hthread
      rw [← Bool.and_eq_true]
      by_contra hfalse
      exact hcalls ⟨_, hthread, eq_false_of_ne_true hfalse⟩
    refine ⟨nofun, ?_, ?_⟩
    · rintro γ j op next ⟨⟩ hthread
      obtain ⟨hlease, -⟩ := hnext op next hthread
      cases hview : notificationOutbox.viewOf op with
      | complete r attempt claimId =>
        rw [hview] at hlease
        obtain ⟨claim, hclaim, hid⟩ := Option.map_eq_some_iff.mp (of_decide_eq_true hlease)
        obtain ⟨current, hfind, hcurrent⟩ := Option.bind_eq_some_iff.mp hclaim
        refine ⟨⟨current, hfind, ?_⟩, fun k filed hfiled => ?_⟩
        · rw [hcurrent, Option.map_some, hid]
        · rw [notificationAttempts_of_rows hattempts] at hfiled
          cases hfiled
      | _ => trivial
    · rintro γ j op next ⟨⟩ hthread result hresult
      obtain ⟨-, hstorable⟩ := hnext op next hthread
      rw [hresult] at hstorable
      exact hstorable

/-- The first dispatcher alone sends the notification in time, and its attempt is on record. -/
theorem sends_on_record_in_time :
    let pool := Outbox.sentBy (.spawn .dispatchDueNotifications :: List.replicate 9 (.step 0)) 30
    notificationOutbox.OnRecord pool ∧
      pool.state.1.store.notifications.rows.map (fun r => pool.state.2.sends r.notificationId) =
        [1] := by
  intro pool
  have hclock := Env.monotone_lateFrom 30
  have hrows : (queuedOutbox (Env.lateFrom 30)).1.store.notificationAttempts.rows = [] := by
    decide +kernel
  have hintime : Meets (Pool.apply (notificationOutbox.exec (Env.lateFrom 30))
      (OutboxWork.start .switchedOn)) (InTime (Env.lateFrom 30)) ⟨queuedOutbox (Env.lateFrom 30), []⟩
      (.spawn .dispatchDueNotifications :: List.replicate 9 (.step 0)) := by decide +kernel
  refine ⟨?_, by decide +kernel⟩
  refine (sends_on_record .switchedOn (Env.lateFrom 30) hclock (queuedOutbox (Env.lateFrom 30)).1
    (queuedOutbox (Env.lateFrom 30)).2
    (.spawn .dispatchDueNotifications :: List.replicate 9 (.step 0))).1 (queuedOutbox_sound hclock)
    (fun k => ?_) (hintime.mono fun _ _ => InTime.recordable)
  rw [notificationAttempts_of_rows hrows]
  rfl

end RouteShield
