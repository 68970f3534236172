import RouteShield.Api.HandlerFootprints
import RouteShield.Workers.OutboxHistory

/-!
What a worker may do to an outbox, in the order in which it does it: it leases records, hands a
copy that it holds to the sender right after it has seen the lease run, and commits the attempt
under that lease. The dispatchers of both outboxes, the deletion worker and the retention worker
keep to it with either outbox. A strict worker stops nowhere between a send and its completion,
given answers that can be stored, and takes no record out.
-/

namespace RouteShield

variable {ρ α R γ : Type}

/-- The copies that a worker holds, the time it has just read, and the copy that it has sent. -/
structure WorkPhase (ρ : Type) where
  held : List ρ := []
  checked : Option Time := none
  sending : Option ρ := none

/-- The clock and the identifiers answer always. -/
def Effect.Reliable : {γ : Type} → Effect γ → Except Fault γ → Prop
  | _, .now, answer => ∃ time, answer = .ok time
  | _, .uuid4, answer => ∃ id, answer = .ok id
  | _, _, _ => True

namespace Outbox

variable (K : Outbox ρ α R)

def claimId (copy : ρ) : Option Uuid := (K.claim copy).map DispatchClaim.claimId

/-- The calls on the outbox that a worker may make in a phase. -/
def Permits (strict : Prop) (φ : WorkPhase ρ) {γ : Type} : OutboxCall ρ α γ → Prop
  | .claim _ => φ.sending = none
  | .complete r attempt claimId =>
    ∃ copy ∈ φ.held, φ.sending = some copy ∧ K.Attempts copy r attempt claimId
  | .save _ => False
  | .note => False
  | .remove => ¬strict
  | .get => True
  | .other => True

/-- What a worker hands to the sender: a waiting copy whose lease was running just now. -/
def MaySend (φ : WorkPhase ρ) (r : ρ) : Prop :=
  r ∈ φ.held ∧ φ.sending = none ∧ K.waiting r = true ∧
    ∃ t, φ.checked = some t ∧ K.attemptable r t = true

/-- What a worker relies on in the outbox's answers. -/
def Promises (strict : Prop) {γ : Type} : OutboxCall ρ α γ → Except Fault γ → Prop
  | .claim _, .ok copies => (copies.map K.claimId).Nodup ∧ ∀ copy ∈ copies, K.claim copy ≠ none
  | .complete _ _ _, answer => strict → ∃ r, answer = .ok (some r)
  | _, _ => True

/-- The sender's answer makes an attempt that can be filed. -/
def Files {γ : Type} (op : Effect γ) (answer : Except Fault γ) : Prop :=
  ∀ r ∈ K.sent op, ∀ result ∈ K.outcome op answer, ∀ t,
    K.valid (K.attempted r result t).1 result = true

def heldAfter (φ : WorkPhase ρ) {γ : Type} : OutboxCall ρ α γ → Except Fault γ → List ρ
  | .claim _, .ok copies => φ.held ++ copies
  | .complete _ _ claimId, _ => φ.held.filter (fun copy => K.claimId copy ≠ some claimId)
  | _, _ => φ.held

def sendingAfter (φ : WorkPhase ρ) (sent : Option ρ) {γ : Type} : OutboxCall ρ α γ → Option ρ
  | .complete _ _ _ => none
  | _ => sent.or φ.sending

def checkedAt {γ : Type} : Effect γ → Except Fault γ → Option Time
  | .now, .ok time => some time
  | _, _ => none

/-- Between a send and its completion a worker does nothing but draw an identifier. -/
def Hurries {γ : Type} : Effect γ → Prop
  | .uuid4 => True
  | .repo op => (K.view op).completes ≠ none
  | _ => False

def workContract (strict : Prop) : Prog.Contract Effect Fault (WorkPhase ρ) where
  allowed φ {_} op := K.Permits strict φ (K.viewOf op) ∧ (∀ r ∈ K.sent op, K.MaySend φ r) ∧
    (φ.sending ≠ none → K.Hurries op)
  promised _ {_} op answer :=
    op.Reliable answer ∧ K.Promises strict (K.viewOf op) answer ∧ (strict → K.Files op answer)
  advance φ {_} op answer :=
    { held := K.heldAfter φ (K.viewOf op) answer
      checked := checkedAt op answer
      sending := sendingAfter φ (K.sent op) (K.viewOf op) }
  stop φ := strict → φ.sending = none

/-- A call that leaves the outbox or, to a worker that is not strict, takes records out of it. -/
def Passive (strict : Prop) {γ : Type} (op : Effect γ) : Prop :=
  ((K.viewOf op).Quiet ∨ ¬strict ∧ (K.viewOf op).Passive) ∧ K.sent op = none

variable {K} {strict : Prop} {φ : WorkPhase ρ}

theorem passive_of_touches (hK : K.Lawful) {op : Effect γ} (h : K.collection ∉ op.touches) :
    K.Passive strict op := by
  refine ⟨.inl ?_, hK.sent_quiet op h⟩
  cases op with
  | repo op => exact hK.view_quiet op h
  | _ => trivial

open Prog hiding pure
open Api

/-- A worker that makes only passive calls holds what it held. -/
theorem follows_of_passive {β : Type} {p : Api β} (hp : p.Only (K.Passive strict))
    (hsending : φ.sending = none) :
    p.Follows (K.workContract strict) (fun φ' _ => φ'.held = φ.held ∧ φ'.sending = none) φ := by
  suffices h : ∀ ψ : WorkPhase ρ, ψ.held = φ.held → ψ.sending = none →
      p.Follows (K.workContract strict) (fun φ' _ => φ'.held = φ.held ∧ φ'.sending = none) ψ from
    h φ rfl hsending
  induction p with
  | pure a => exact fun ψ hheld hsend => ⟨hheld, hsend⟩
  | throw e => exact fun ψ _ hsend _ => hsend
  | call op next ih =>
    obtain ⟨⟨hview, hsent⟩, hnext⟩ := hp
    intro ψ hheld hsend
    refine ⟨⟨?_, fun r hr => ?_, fun h => absurd hsend h⟩,
      fun answer _ => ih answer (hnext answer) _ ?_ ?_⟩
    · rcases hview with hquiet | ⟨hstrict, hpassive⟩
      · cases hop : K.viewOf op <;> rw [hop] at hquiet <;> trivial
      · cases hop : K.viewOf op <;> rw [hop] at hpassive <;> trivial
    · rw [hsent] at hr
      cases hr
    · rw [← hheld]
      show K.heldAfter ψ (K.viewOf op) answer = ψ.held
      rcases hview with hquiet | ⟨-, hpassive⟩
      · cases hop : K.viewOf op <;> rw [hop] at hquiet <;> first | rfl | exact hquiet.elim
      · cases hop : K.viewOf op <;> rw [hop] at hpassive <;> first | rfl | exact hpassive.elim
    · show sendingAfter ψ (K.sent op) (K.viewOf op) = none
      rw [hsent]
      cases K.viewOf op <;> first | rfl | exact hsend

theorem viewOf_send (hK : K.Lawful) (r : ρ) : K.viewOf (K.send r) = .other := by
  cases h : K.send r with
  | repo op =>
    have hsent := hK.sent_send r
    rw [h, hK.sent_repo] at hsent
    cases hsent
  | _ => rfl

/-- The sender is asked for a copy that may be sent, and the copy is then being sent. -/
theorem ask_follows (hK : K.Lawful) {r : ρ} (hsend : K.MaySend φ r) :
    (K.ask r).Follows (K.workContract strict) (fun φ' result => φ'.held = φ.held ∧
      φ'.sending = some r ∧ (strict → ∀ t, K.valid (K.attempted r result t).1 result = true)) φ := by
  have hsent := hK.sent_send r
  have hview := viewOf_send hK r
  refine ⟨⟨?_, ?_, fun h => absurd hsend.2.1 h⟩, fun answer hpromised => ?_⟩
  · rw [hview]
    trivial
  · rw [hsent]
    rintro _ ⟨⟩
    exact hsend
  · have hphase : ((K.workContract strict).advance φ (K.send r) answer).held = φ.held ∧
        ((K.workContract strict).advance φ (K.send r) answer).sending = some r := by
      constructor
      · show K.heldAfter φ (K.viewOf (K.send r)) answer = φ.held
        rw [hview]
        rfl
      · show sendingAfter φ (K.sent (K.send r)) (K.viewOf (K.send r)) = some r
        rw [hview, hsent]
        rfl
    have hvalid : ∀ result ∈ K.outcome (K.send r) answer, strict → ∀ t,
        K.valid (K.attempted r result t).1 result = true :=
      fun result hresult hstrict t => hpromised.2.2 hstrict r hsent result hresult t
    cases answer with
    | ok result => exact ⟨hphase.1, hphase.2, hvalid result (hK.outcome_send r result)⟩
    | error fault => exact ⟨hphase.1, hphase.2, hvalid K.raised (hK.outcome_raised r fault)⟩

/-- The other copies stay held. -/
def Keeps (K : Outbox ρ α R) (φ φ' : WorkPhase ρ) (r : ρ) : Prop :=
  φ'.sending = none ∧ ∀ copy ∈ φ.held, K.claimId copy ≠ K.claimId r → copy ∈ φ'.held

/-- An attempt is committed under the lease of its copy. -/
theorem commit_follows (hK : K.Lawful) {r : ρ} {attempt : α} {copy : ρ} (hheld : copy ∈ φ.held)
    (hsending : φ.sending = some copy) (hclaim : K.claim copy ≠ none)
    (hattempts : ∀ claim, K.claim copy = some claim → K.Attempts copy r attempt claim.claimId) :
    (K.commit (K.claim copy) r attempt).Follows (K.workContract strict)
      (fun φ' _ => K.Keeps φ φ' copy) φ := by
  obtain ⟨claim, hclaim⟩ := Option.ne_none_iff_exists'.mp hclaim
  have hview := hK.view_complete r attempt claim.claimId
  have hkeeps : ∀ answer : Except Fault (Option ρ), K.Keeps φ ((K.workContract strict).advance φ
      (.repo (K.complete r attempt claim.claimId)) answer) copy := by
    intro answer
    constructor
    · show sendingAfter φ _ (K.view (K.complete r attempt claim.claimId)) = none
      rw [hview]
      rfl
    · intro other hother hne
      show other ∈ K.heldAfter φ (K.view (K.complete r attempt claim.claimId)) answer
      rw [hview]
      refine List.mem_filter.mpr ⟨hother, decide_eq_true ?_⟩
      unfold claimId at hne ⊢
      rw [hclaim] at hne
      exact hne
  rw [hclaim]
  refine follows_seq (follows_perform ⟨?_, fun r hr => ?_, fun _ => ?_⟩ (fun completed _ => ?_)
    fun fault _ => ?_)
  · show K.Permits strict φ (K.view (K.complete r attempt claim.claimId))
    rw [hview]
    exact ⟨copy, hheld, hsending, hattempts claim hclaim⟩
  · rw [hK.sent_repo] at hr
    cases hr
  · show (K.view (K.complete r attempt claim.claimId)).completes ≠ none
    rw [hview]
    nofun
  · exact hkeeps (.ok completed)
  · exact fun _ => (hkeeps (.error fault)).1

/-- To read the clock or draw an identifier changes nothing that is held. -/
theorem follows_idle (hK : K.Lawful) {β δ : Type} (op : Effect β) (hop : op.touches = [])
    (hview : K.viewOf op = .other) (hreliable : ∀ answer, op.Reliable answer → ∃ a, answer = .ok a)
    (hhurries : φ.sending ≠ none → K.Hurries op)
    {f : β → Api δ} {Q : WorkPhase ρ → δ → Prop}
    (hf : ∀ a, (f a).Follows (K.workContract strict) Q
      { φ with checked := checkedAt op (.ok a) }) :
    (perform op >>= f).Follows (K.workContract strict) Q φ := by
  have hsent : K.sent op = none := hK.sent_quiet op (hop ▸ List.not_mem_nil)
  refine ⟨⟨?_, fun r hr => ?_, hhurries⟩, fun answer hpromised => ?_⟩
  · rw [hview]
    trivial
  · rw [hsent] at hr
    cases hr
  · obtain ⟨a, rfl⟩ := hreliable answer hpromised.1
    have hphase : (K.workContract strict).advance φ op (.ok a) =
        { φ with checked := checkedAt op (.ok a) } := by
      show WorkPhase.mk (K.heldAfter φ (K.viewOf op) (.ok a)) _
        (sendingAfter φ (K.sent op) (K.viewOf op)) = _
      rw [hview, hsent]
      rfl
    rw [hphase]
    exact hf a

theorem attempt_follows (hK : K.Lawful) {r : ρ} {timestamp : Time} (hclaim : K.claim r ≠ none)
    (hsend : K.MaySend φ r) :
    (K.attempt r timestamp).Follows (K.workContract strict) (fun φ' _ => K.Keeps φ φ' r) φ := by
  refine follows_bind (ask_follows hK hsend) fun φ₁ result ⟨hheld, hsending, hvalid⟩ => ?_
  show (validate K.model (K.valid (K.attempted r result timestamp).1 result) >>= fun _ =>
    uuid4 >>= fun attemptId => K.commit (K.claim r) (K.attempted r result timestamp).1
      (K.filed attemptId r timestamp result (K.attempted r result timestamp))).Follows _ _ _
  unfold validate
  split_ifs with hstored
  · refine follows_idle hK .uuid4 rfl rfl (fun _ h => h) (fun _ => trivial) fun attemptId => ?_
    have hown : r ∈ φ₁.held := hheld ▸ hsend.1
    refine follows_mono (commit_follows hK hown hsending hclaim fun claim hclaimed => ?_)
      fun φ' _ hkeeps => ⟨hkeeps.1, fun copy hcopy => hkeeps.2 copy ?_⟩
    · exact ⟨congrArg (Option.map DispatchClaim.claimId) hclaimed, result, timestamp, attemptId,
        rfl, rfl⟩
    · exact hheld ▸ hcopy
  · exact fun hstrict => absurd (hvalid hstrict timestamp) hstored

/-- A dispatcher attempts a copy that it holds, and keeps the others. -/
theorem deliver_follows (hK : K.Lawful) {r : ρ} (hheld : r ∈ φ.held) (hclaim : K.claim r ≠ none)
    (hsending : φ.sending = none) :
    (K.deliver r).Follows (K.workContract strict) (fun φ' _ => K.Keeps φ φ' r) φ := by
  have hstays : ∀ time, K.Keeps φ { φ with checked := time } r :=
    fun time => ⟨hsending, fun copy hcopy _ => hcopy⟩
  unfold deliver
  split_ifs with hwaiting
  · refine follows_idle hK .now rfl rfl (fun _ h => h) (absurd hsending) fun timestamp => ?_
    split_ifs with hattemptable
    · exact attempt_follows hK hclaim ⟨hheld, hsending, hwaiting, timestamp, rfl, hattemptable⟩
    · exact hstays _
  · exact hstays φ.checked

/-- A dispatcher attempts the copies that it leased, one after the other. -/
theorem dispatch_follows {β : Type} {copies : List ρ} {f : ρ → Api β}
    (hf : ∀ copy φ, copy ∈ φ.held → K.claim copy ≠ none → φ.sending = none →
      (f copy).Follows (K.workContract strict) (fun φ' _ => K.Keeps φ φ' copy) φ)
    (hnodup : (copies.map K.claimId).Nodup)
    (hcopies : ∀ copy ∈ copies, copy ∈ φ.held ∧ K.claim copy ≠ none) (hsending : φ.sending = none) :
    (copies.mapM f).Follows (K.workContract strict) (fun φ' _ => φ'.sending = none) φ := by
  let I : List ρ → WorkPhase ρ → Prop := fun rest φ => φ.sending = none ∧
    (rest.map K.claimId).Nodup ∧ ∀ copy ∈ rest, copy ∈ φ.held ∧ K.claim copy ≠ none
  have hloop : (copies.mapM f).Follows (K.workContract strict) (fun φ' _ => I [] φ') φ := by
    refine follows_mapM_rest (I := I) ?_ ⟨hsending, hnodup, hcopies⟩
    rintro copy rest ψ ⟨hsend, hdistinct, hrest⟩
    obtain ⟨hheld, hclaim⟩ := hrest copy List.mem_cons_self
    rw [List.map_cons, List.nodup_cons] at hdistinct
    refine follows_mono (hf copy ψ hheld hclaim hsend) fun ψ' _ hkeeps => ?_
    refine ⟨hkeeps.1, hdistinct.2, fun other hother => ?_⟩
    obtain ⟨hother', hclaim'⟩ := hrest other (List.mem_cons_of_mem copy hother)
    refine ⟨hkeeps.2 other hother' fun hsame => hdistinct.1 ?_, hclaim'⟩
    exact hsame ▸ List.mem_map_of_mem hother
  exact follows_mono hloop fun φ' _ h => h.1

/-- What comes around an attempt leaves the outbox. -/
theorem follows_beside (hK : K.Lawful) {β : Type} {p : Api β}
    (hp : p.Only (fun op => K.collection ∉ op.touches)) (hsending : φ.sending = none) :
    p.Follows (K.workContract strict) (fun φ' _ => φ'.held = φ.held ∧ φ'.sending = none) φ :=
  follows_of_passive (only_mono hp fun _ hop => passive_of_touches hK hop) hsending

theorem Keeps.of_held {r : ρ} {φ₁ φ₂ φ₃ : WorkPhase ρ} (h : K.Keeps φ₁ φ₂ r)
    (hheld : φ₃.held = φ₂.held) (hsending : φ₃.sending = none) : K.Keeps φ₁ φ₃ r :=
  ⟨hsending, fun copy hcopy hne => hheld ▸ h.2 copy hcopy hne⟩

/-- The claim of a batch, with the copies that it answers with held. -/
theorem claim_follows (hK : K.Lawful) {β : Type} {request : LeaseRequest} {f : List ρ → Api β}
    (hsending : φ.sending = none)
    (hf : ∀ copies ψ, (copies.map K.claimId).Nodup →
      (∀ copy ∈ copies, copy ∈ ψ.held ∧ K.claim copy ≠ none) → ψ.sending = none →
      (f copies).Follows (K.workContract strict) (fun φ' _ => φ'.sending = none) ψ) :
    (repo (K.claimDue request) >>= f).Follows (K.workContract strict)
      (fun φ' _ => φ'.sending = none) φ := by
  have hview := hK.view_claimDue request
  have hsent : K.sent (.repo (K.claimDue request)) = none := hK.sent_repo _
  refine follows_seq (follows_perform ⟨?_, fun r hr => ?_, absurd hsending⟩
    (fun copies hpromised => ?_) fun fault _ => ?_)
  · show K.Permits strict φ (K.view (K.claimDue request))
    rw [hview]
    exact hsending
  · rw [hsent] at hr
    cases hr
  · obtain ⟨-, hclaimed, -⟩ := hpromised
    have hclaimed : K.Promises strict (K.view (K.claimDue request)) (.ok copies) := hclaimed
    rw [hview] at hclaimed
    refine hf copies _ hclaimed.1 (fun copy hcopy => ⟨?_, hclaimed.2 copy hcopy⟩) ?_
    · show copy ∈ K.heldAfter φ (K.view (K.claimDue request)) (.ok copies)
      rw [hview]
      exact List.mem_append_right _ hcopy
    · show sendingAfter φ _ (K.view (K.claimDue request)) = none
      rw [hview, hsent]
      exact hsending
  · intro _
    show sendingAfter φ _ (K.view (K.claimDue request)) = none
    rw [hview, hsent]
    exact hsending

end Outbox

/-! ### The workers of the service -/

/-- The handler touches nothing outside the collections. -/
def Touches (cs : List Collection) {β : Type} (p : Prog Effect Fault β) : Prop :=
  p.Only (fun op => ∀ c ∈ op.touches, c ∈ cs)

namespace Api

open Prog hiding pure

variable {svc : Service} {cs : List Collection} {β δ : Type}

@[grind .] theorem touches_pure (a : β) : Touches cs (pure a : Api β) := trivial

@[grind ←] theorem touches_bind {p : Api β} {f : β → Api δ} (hp : Touches cs p)
    (hf : ∀ a, Touches cs (f a)) : Touches cs (p >>= f) := only_bind hp hf

@[grind ←] theorem touches_repo {op : RepoOp β} (h : ∀ c ∈ op.writes, c ∈ cs) :
    Touches cs (repo op) := only_perform h

@[grind .] theorem touches_now : Touches cs now := only_perform nofun

@[grind .] theorem touches_uuid4 : Touches cs uuid4 := only_perform nofun

theorem touches_callFree {p : Api β} (hp : p.CallFree) : Touches cs p := hp.only

@[grind .] theorem touches_emitEvent (h : .events ∈ cs) (fields : EventFields) :
    Touches cs (emitEvent fields) := by
  have hsave : ∀ event, Touches cs (repo (.recordEvent event)) := fun event =>
    touches_repo (List.forall_mem_singleton.mpr h)
  exact touches_bind (touches_bind touches_uuid4 fun _ => touches_bind touches_now fun _ =>
    touches_bind (hsave _) fun _ => touches_pure _) fun _ => touches_pure _

@[grind .] theorem touches_eventOrigin (tenantId : String) (incidentId : Option Uuid) :
    Touches cs (eventOrigin tenantId incidentId) := by
  refine touches_bind ?_ fun incident => ?_
  · cases incidentId with
    | none => exact touches_pure _
    | some id => exact touches_repo nofun
  · cases incident with
    | none => exact touches_bind touches_uuid4 fun _ => touches_pure _
    | some i => exact touches_pure _

@[grind .] theorem touches_controlEnabled (tenantId : String) (controlName : RuntimeControlName) :
    Touches cs (controlEnabled svc tenantId controlName) := by
  refine touches_bind (touches_repo nofun) fun override => ?_
  cases override with
  | some _ => exact touches_pure _
  | none =>
    refine touches_bind (touches_repo nofun) fun platform => ?_
    cases platform <;> exact touches_pure _

@[grind .] theorem touches_automationEnabled (tenantId : String)
    (controlName : RuntimeControlName) :
    Touches cs (automationEnabled svc tenantId controlName) := by
  refine touches_bind (touches_controlEnabled _ _) fun enabled => ?_
  split_ifs
  · exact touches_controlEnabled _ _
  · exact touches_pure _

@[grind .] theorem touches_emitDelivered (h : .events ∈ cs) (tenantId workerId : String)
    (outcome : NotificationRecord) : Touches cs (emitDelivered tenantId workerId outcome) :=
  touches_bind (touches_eventOrigin _ _) fun _ => touches_emitEvent h _

@[grind .] theorem touches_emitDispatched (h : .events ∈ cs) (tenantId : String)
    (incidentId : Uuid) (outcome : ActionDispatchRecord) :
    Touches cs (emitDispatched tenantId incidentId outcome) :=
  touches_bind (touches_eventOrigin _ _) fun _ => touches_emitEvent h _

@[grind ←] theorem touches_mapM {xs : List β} {f : β → Api δ} (h : ∀ x, Touches cs (f x)) :
    Touches cs (xs.mapM f) := only_mapM h

theorem touches_deliverNotification (h : .notifications ∈ cs) (r : NotificationRecord) :
    Touches cs (deliverNotification r) := by
  have hsent : Touches cs (sendNotification r) := by
    refine touches_bind (only_attempt (List.forall_mem_singleton.mpr h)) fun answer => ?_
    cases answer <;> exact touches_pure _
  have hrepo : ∀ {β : Type} {op : RepoOp β}, op.writes = [.notifications] → Touches cs (repo op) :=
    fun hop => touches_repo (hop ▸ List.forall_mem_singleton.mpr h)
  unfold deliverNotification
  split_ifs
  · refine touches_bind touches_now fun timestamp => ?_
    split_ifs
    · refine touches_bind hsent fun result => ?_
      refine touches_bind (touches_callFree (callFree_validate _ _)) fun _ => ?_
      refine touches_bind touches_uuid4 fun attemptId => ?_
      unfold commitDelivery
      split
      · exact touches_bind (hrepo rfl) fun _ => touches_pure _
      · exact touches_bind (hrepo rfl) fun _ => touches_bind (hrepo rfl) fun _ => touches_pure _
    · exact touches_pure _
  · exact touches_pure _

theorem touches_dispatchApprovedAction (h : .actions ∈ cs) (r : ActionDispatchRecord) :
    Touches cs (dispatchApprovedAction r) := by
  have hsent : Touches cs (sendAction r) := by
    refine touches_bind (only_attempt (List.forall_mem_singleton.mpr h)) fun answer => ?_
    cases answer <;> exact touches_pure _
  have hrepo : ∀ {β : Type} {op : RepoOp β}, op.writes = [.actions] → Touches cs (repo op) :=
    fun hop => touches_repo (hop ▸ List.forall_mem_singleton.mpr h)
  unfold dispatchApprovedAction
  split_ifs
  · refine touches_bind touches_now fun timestamp => ?_
    split_ifs
    · refine touches_bind hsent fun result => ?_
      refine touches_bind (touches_callFree (callFree_validate _ _)) fun _ => ?_
      refine touches_bind touches_uuid4 fun attemptId => ?_
      unfold commitAction
      split
      · exact touches_bind (hrepo rfl) fun _ => touches_pure _
      · exact touches_bind (hrepo rfl) fun _ => touches_bind (hrepo rfl) fun _ => touches_pure _
    · exact touches_pure _
  · exact touches_pure _

theorem touches_dispatchNotifications (caller : Caller) :
    Touches [.notifications, .events] (dispatchNotifications svc caller) := by
  refine touches_bind (touches_callFree (callFree_requireRole _ _)) fun _ => ?_
  refine touches_bind (touches_callFree (callFree_requireTenant _)) fun tenantId => ?_
  refine touches_bind (touches_automationEnabled _ _) fun enabled => ?_
  refine touches_bind (touches_callFree (callFree_require _ _ _)) fun _ => ?_
  refine touches_bind (touches_callFree (callFree_requireActorId _)) fun actorId => ?_
  refine touches_bind (touches_repo (by simp [RepoOp.writes])) fun pending => ?_
  refine touches_mapM fun item => ?_
  refine touches_bind (touches_deliverNotification (by simp) _) fun outcome => ?_
  exact touches_bind (touches_emitDelivered (by simp) _ _ _) fun _ => touches_pure _

theorem touches_dispatchDueNotificationsJob :
    Touches [.notifications, .events] (dispatchDueNotificationsJob svc) := by
  refine touches_bind (touches_repo (by simp [RepoOp.writes])) fun claimed => ?_
  refine only_map (touches_mapM fun item => ?_)
  refine touches_bind (touches_automationEnabled _ _) fun enabled => ?_
  split_ifs
  · refine touches_bind (touches_deliverNotification (by simp) _) fun outcome => ?_
    exact touches_bind (touches_emitDelivered (by simp) _ _ _) fun _ => touches_pure _
  · exact touches_pure _

theorem touches_dispatchApprovedActionsJob :
    Touches [.actions, .events] (dispatchApprovedActionsJob svc) := by
  refine touches_bind (touches_repo (by simp [RepoOp.writes])) fun claimed => ?_
  refine only_map (touches_mapM fun item => ?_)
  refine touches_bind (touches_automationEnabled _ _) fun enabled => ?_
  split_ifs
  · refine touches_bind (touches_dispatchApprovedAction (by simp) _) fun outcome => ?_
    exact touches_bind (touches_emitDispatched (by simp) _ _ _) fun _ => touches_pure _
  · exact touches_pure _

/-- A call that takes records out, or keeps to other collections than the outboxes. -/
def Clearing {γ : Type} (op : Effect γ) : Prop :=
  op.Removes ∨ ∀ c ∈ op.touches, c ∈ [Collection.deletionRequests, .events]

theorem clearing_of_touches {p : Api β} (hp : Touches [.deletionRequests, .events] p) :
    p.Only Clearing := only_mono hp fun _ hop => .inr hop

theorem clearing_processDeletions : processPrivacyDeletionRequestsJob.Only Clearing := by
  have hsave : ∀ request, (repo (.saveDeletionRequest request)).Only Clearing := fun request =>
    clearing_of_touches (touches_repo (by simp [RepoOp.writes]))
  unfold processPrivacyDeletionRequestsJob processDueDeletionRequests
  refine only_bind (only_bind (clearing_of_touches touches_now) fun timestamp => ?_)
    fun processed => ?_
  · refine only_bind (clearing_of_touches (touches_repo nofun)) fun requests => ?_
    refine only_mapM fun request => ?_
    refine only_bind (clearing_of_touches (touches_repo nofun)) fun holds => ?_
    split_ifs
    · refine only_bind (only_attempt (.inl trivial)) fun answer => ?_
      cases answer <;> exact only_bind (hsave _) fun _ => only_pure _
    · exact only_bind (hsave _) fun _ => only_pure _
  · refine only_bind (only_forM fun item => ?_) fun _ => only_pure _
    exact clearing_of_touches (touches_bind touches_uuid4 fun _ => touches_emitEvent (by simp) _)

theorem clearing_runRetentionJob : (runRetentionJob svc).Only Clearing := by
  refine only_bind (clearing_of_touches touches_now) fun timestamp => ?_
  refine only_bind (CallFree.only ⟨_, rfl⟩) fun cutoffs => ?_
  refine only_bind (only_perform (.inl trivial)) fun result => ?_
  refine clearing_of_touches (touches_bind touches_uuid4 fun _ => touches_bind touches_now fun _ =>
    touches_bind (touches_bind touches_uuid4 fun _ => touches_bind touches_now fun _ =>
      touches_bind (touches_repo (by simp [RepoOp.writes])) fun _ => touches_pure _) fun _ =>
        touches_pure _)

end Api

/-- A run of a worker that leases records, or takes records out. -/
inductive OutboxWork where
  | dispatchNotifications (caller : Caller)
  | dispatchDueNotifications
  | dispatchApprovedActions
  | processPrivacyDeletionRequests
  | runRetention

namespace OutboxWork

def request : OutboxWork → Request
  | .dispatchNotifications caller => .dispatchNotifications caller
  | .dispatchDueNotifications => .dispatchDueNotifications
  | .dispatchApprovedActions => .dispatchApprovedActions
  | .processPrivacyDeletionRequests => .processPrivacyDeletionRequests
  | .runRetention => .runRetention

def start (svc : Service) (work : OutboxWork) : Api Unit := Api.handle svc work.request

/-- The worker takes records out. -/
def Removes : OutboxWork → Prop
  | .processPrivacyDeletionRequests => True
  | .runRetention => True
  | _ => False

instance : DecidablePred Removes
  | .processPrivacyDeletionRequests => .isTrue trivial
  | .runRetention => .isTrue trivial
  | .dispatchNotifications _ => .isFalse id
  | .dispatchDueNotifications => .isFalse id
  | .dispatchApprovedActions => .isFalse id

end OutboxWork

section Workers

variable {K : Outbox ρ α R} {strict : Prop} {φ : WorkPhase ρ} {svc : Service}

open Prog hiding pure
open Api Outbox

theorem follows_discard {β : Type} {p : Api β}
    (hp : p.Follows (K.workContract strict) (fun φ' _ => φ'.sending = none) φ) :
    (discard p).Follows (K.workContract strict) (fun φ' _ => φ'.sending = none) φ :=
  follows_bind hp fun _ _ h => h

/-- The dispatcher of the other outbox. -/
theorem follows_of_touches (hK : K.Lawful) {β : Type} {p : Api β} {cs : List Collection}
    (hp : Touches cs p) (hcs : K.collection ∉ cs) (hsending : φ.sending = none) :
    (discard p).Follows (K.workContract strict) (fun φ' _ => φ'.sending = none) φ :=
  follows_discard (follows_mono
    (follows_beside hK (only_mono hp fun _ hop hmem => hcs (hop _ hmem)) hsending)
    fun _ _ h => h.2)

/-- A worker that takes records out. -/
theorem follows_of_clearing (hK : K.Lawful) {β : Type} {p : Api β} (hp : p.Only Clearing)
    (hcollection : K.collection ∉ [Collection.deletionRequests, .events]) (hstrict : ¬strict)
    (hsending : φ.sending = none) :
    (discard p).Follows (K.workContract strict) (fun φ' _ => φ'.sending = none) φ := by
  refine follows_discard (follows_mono (follows_of_passive (only_mono hp fun op hop => ?_) hsending)
    fun _ _ h => h.2)
  rcases hop with hremoves | htouches
  · obtain ⟨hview, hsent⟩ := hK.view_removes op hremoves
    exact ⟨.inr ⟨hstrict, hview ▸ trivial⟩, hsent⟩
  · exact passive_of_touches hK fun hmem => hcollection (htouches _ hmem)

/-- One leased record of a job: passed over while its tenant's controls are off. -/
theorem claimed_follows (hK : K.Lawful) (hevents : K.collection ≠ .events) {β : Type}
    {tenantId : String} {controlName : RuntimeControlName} {emit : ρ → Api Unit}
    (hemit : ∀ outcome, Touches [.events] (emit outcome)) (f : ρ → β) (other : β) (copy : ρ)
    {φ : WorkPhase ρ} (hheld : copy ∈ φ.held) (hclaim : K.claim copy ≠ none)
    (hsending : φ.sending = none) :
    (do
      if ← automationEnabled svc tenantId controlName then do
        let outcome ← K.deliver copy
        emit outcome
        return f outcome
      else return other : Api β).Follows (K.workContract strict)
        (fun φ' _ => K.Keeps φ φ' copy) φ := by
  have hbeside : ∀ {δ : Type} {p : Api δ}, Touches [.events] p →
      p.Only (fun op => K.collection ∉ op.touches) := fun hp =>
    only_mono hp fun _ hop hmem => hevents (List.mem_singleton.mp (hop _ hmem))
  refine follows_bind (follows_beside hK (hbeside (touches_automationEnabled _ _)) hsending)
    fun φ₁ enabled ⟨hheld₁, hsending₁⟩ => ?_
  split_ifs
  · refine follows_bind (deliver_follows hK (hheld₁ ▸ hheld) hclaim hsending₁)
      fun φ₂ outcome hkeeps => ?_
    refine follows_bind (follows_beside hK (hbeside (hemit outcome)) hkeeps.1)
      fun φ₃ _ ⟨hheld₃, hsending₃⟩ => ?_
    exact ⟨hsending₃, fun c hc hne => hheld₃ ▸ hkeeps.2 c (hheld₁ ▸ hc) hne⟩
  · exact ⟨hsending₁, fun c hc _ => hheld₁ ▸ hc⟩

theorem dispatchNotifications_follows (caller : Caller) {φ : WorkPhase NotificationRecord}
    (hsending : φ.sending = none) :
    (dispatchNotifications svc caller).Follows (notificationOutbox.workContract strict)
      (fun φ' _ => φ'.sending = none) φ := by
  have hK := notificationOutbox_lawful
  have hbeside : ∀ {δ : Type} {p : Api δ}, Touches [.events] p →
      p.Only (fun op => notificationOutbox.collection ∉ op.touches) := fun hp =>
    only_mono hp fun _ hop hmem => by cases List.mem_singleton.mp (hop _ hmem)
  have hstop : ∀ {ψ : WorkPhase NotificationRecord}, ψ.sending = none →
    (notificationOutbox.workContract strict).stop ψ := fun h _ => h
  refine follows_seq (follows_callFree (callFree_requireRole _ _) (fun _ _ => ?_) (hstop hsending))
  refine follows_seq (follows_callFree (callFree_requireTenant _) (fun tenantId _ => ?_)
    (hstop hsending))
  refine follows_bind (follows_beside hK (hbeside (touches_automationEnabled _ _)) hsending)
    fun ψ enabled ⟨_, hψ⟩ => ?_
  refine follows_seq (follows_callFree (callFree_require _ _ _) (fun _ _ => ?_) (hstop hψ))
  refine follows_seq (follows_callFree (callFree_requireActorId _) (fun actorId _ => ?_)
    (hstop hψ))
  refine claim_follows hK hψ fun copies ψ' hnodup hcopies hψ' => ?_
  refine dispatch_follows (fun copy χ hheld hclaim hχ => ?_) hnodup hcopies hψ'
  rw [deliverNotification_eq]
  refine follows_bind (deliver_follows hK hheld hclaim hχ) fun χ₁ outcome hkeeps => ?_
  refine follows_bind (follows_beside hK (hbeside (touches_emitDelivered (by simp) _ _ _))
    hkeeps.1) fun χ₂ _ ⟨hheld₂, hχ₂⟩ => ?_
  exact hkeeps.of_held hheld₂ hχ₂

theorem dispatchDueNotificationsJob_follows {φ : WorkPhase NotificationRecord}
    (hsending : φ.sending = none) :
    (dispatchDueNotificationsJob svc).Follows (notificationOutbox.workContract strict)
      (fun φ' _ => φ'.sending = none) φ := by
  refine claim_follows notificationOutbox_lawful hsending fun copies ψ hnodup hcopies hψ => ?_
  rw [map_eq_pure_bind]
  refine follows_bind (dispatch_follows (fun copy χ hheld hclaim hχ => ?_) hnodup hcopies hψ)
    fun _ _ h => h
  unfold dispatchClaimedNotification
  rw [deliverNotification_eq]
  exact claimed_follows notificationOutbox_lawful (by decide)
    (fun _ => touches_emitDelivered (by simp) _ _ _) _ _ copy hheld hclaim hχ

theorem dispatchApprovedActionsJob_follows {φ : WorkPhase ActionDispatchRecord}
    (hsending : φ.sending = none) :
    (dispatchApprovedActionsJob svc).Follows (actionOutbox.workContract strict)
      (fun φ' _ => φ'.sending = none) φ := by
  refine claim_follows actionOutbox_lawful hsending fun copies ψ hnodup hcopies hψ => ?_
  rw [map_eq_pure_bind]
  refine follows_bind (dispatch_follows (fun copy χ hheld hclaim hχ => ?_) hnodup hcopies hψ)
    fun _ _ h => h
  unfold dispatchClaimedAction
  rw [dispatchApprovedAction_eq]
  exact claimed_follows actionOutbox_lawful (by decide)
    (fun _ => touches_emitDispatched (by simp) _ _ _) _ _ copy hheld hclaim hχ

theorem OutboxWork.follows_notifications (work : OutboxWork) (hwork : strict → ¬work.Removes)
    {φ : WorkPhase NotificationRecord} (hsending : φ.sending = none) :
    (work.start svc).Follows (notificationOutbox.workContract strict)
      (fun φ' _ => φ'.sending = none) φ := by
  have hK := notificationOutbox_lawful
  cases work with
  | dispatchNotifications caller =>
    exact follows_discard (dispatchNotifications_follows caller hsending)
  | dispatchDueNotifications => exact follows_discard (dispatchDueNotificationsJob_follows hsending)
  | dispatchApprovedActions =>
    exact follows_of_touches hK touches_dispatchApprovedActionsJob (by decide) hsending
  | processPrivacyDeletionRequests =>
    exact follows_of_clearing hK clearing_processDeletions (by decide)
      (fun h => hwork h trivial) hsending
  | runRetention =>
    exact follows_of_clearing hK clearing_runRetentionJob (by decide)
      (fun h => hwork h trivial) hsending

theorem OutboxWork.follows_actions (work : OutboxWork) (hwork : strict → ¬work.Removes)
    {φ : WorkPhase ActionDispatchRecord} (hsending : φ.sending = none) :
    (work.start svc).Follows (actionOutbox.workContract strict)
      (fun φ' _ => φ'.sending = none) φ := by
  have hK := actionOutbox_lawful
  cases work with
  | dispatchNotifications caller =>
    exact follows_of_touches hK (touches_dispatchNotifications caller) (by decide) hsending
  | dispatchDueNotifications =>
    exact follows_of_touches hK touches_dispatchDueNotificationsJob (by decide) hsending
  | dispatchApprovedActions => exact follows_discard (dispatchApprovedActionsJob_follows hsending)
  | processPrivacyDeletionRequests =>
    exact follows_of_clearing hK clearing_processDeletions (by decide)
      (fun h => hwork h trivial) hsending
  | runRetention =>
    exact follows_of_clearing hK clearing_runRetentionJob (by decide)
      (fun h => hwork h trivial) hsending

end Workers

end RouteShield
