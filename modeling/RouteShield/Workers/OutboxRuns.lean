import RouteShield.Lib.Pool
import RouteShield.Workers.OutboxRequests
import RouteShield.Workers.OutboxWorkers

/-!
Any number of workers beside each other and beside the requests of callers. The workers' calls
interleave in any order, and a worker that is stepped no more has crashed; a request of a caller is
served between two calls. Every copy that a worker holds carries a lease of its own that it has
not completed yet, and every record stays orderly.
-/

namespace RouteShield

variable {ρ α R γ : Type} {b : Backend}

inductive OutboxEvent where
  | work (e : PoolEvent OutboxWork)
  | serve (req : { req : Request // req.works = false })

abbrev OutboxPool (b : Backend) := Pool Effect Fault (World b × OutboxLedger)

def OutboxCall.claimed : OutboxCall ρ α γ → Except Fault γ → List ρ
  | .claim _, .ok copies => copies
  | _, _ => []

namespace Outbox

variable (K : Outbox ρ α R)

def apply (svc : Service) (env : Env) (pool : OutboxPool b) : OutboxEvent → OutboxPool b
  | .work e => pool.apply (K.exec env) (OutboxWork.start svc) e
  | .serve req => { pool with state := ((Api.handle svc req.1).run (K.exec env) pool.state).2 }

variable [OutboxStore K b]

/-- A copy is held under a lease that is not completed yet. -/
def Held (s : World b × OutboxLedger) (copy : ρ) : Prop :=
  ∃ claim, K.claim copy = some claim ∧
    History.Fits (K.entry copy) claim.lease (K.history s (K.key copy)) ∧
    claim.claimId ∉ (K.history s (K.key copy)).completed ∧ (K.entry copy).count < maxAttempts

/-- Every record is orderly and came from where it started, and no two workers hold a copy under
one lease. -/
structure Attended (env : Env) (h₀ : Uuid → History Uuid Time ρ) (φs : List (WorkPhase ρ))
    (s : World b × OutboxLedger) : Prop where
  sound : K.Sound env s
  later : ∀ k, History.Later K.acknowledges maxAttempts (h₀ k) (K.history s k)
  held : ∀ φ ∈ φs, ∀ copy ∈ φ.held, K.Held s copy
  apart : ∀ (i j : ℕ) (φ ψ : WorkPhase ρ), i ≠ j → φs[i]? = some φ → φs[j]? = some ψ →
    ∀ copy ∈ φ.held, ∀ other ∈ ψ.held, K.claimId copy ≠ K.claimId other

variable {K} {env : Env} {s : World b × OutboxLedger} {h₀ : Uuid → History Uuid Time ρ}
  {φs : List (WorkPhase ρ)} {φ : WorkPhase ρ} {op : Effect γ} {answer : Except Fault γ}

omit [OutboxStore K b] in
theorem mem_heldAfter {copy : ρ} {call : OutboxCall ρ α γ} (h : copy ∈ K.heldAfter φ call answer) :
    (copy ∈ φ.held ∧ ∀ id ∈ call.completes, K.claimId copy ≠ some id) ∨
      copy ∈ call.claimed answer := by
  cases call with
  | claim request =>
    cases answer with
    | error fault => exact .inl ⟨h, nofun⟩
    | ok copies =>
      rcases List.mem_append.mp h with h | h
      · exact .inl ⟨h, nofun⟩
      · exact .inr h
  | complete r attempt claimId =>
    obtain ⟨hmem, hne⟩ := List.mem_filter.mp h
    refine .inl ⟨hmem, ?_⟩
    rintro _ ⟨⟩
    exact of_decide_eq_true hne
  | _ => exact .inl ⟨h, nofun⟩

omit [OutboxStore K b] in
theorem completes_of_marks {id k : Uuid} {call : OutboxCall ρ α γ}
    (h : id ∈ completedIn (call.marks K answer k)) : id ∈ call.completes := by
  cases call with
  | complete r attempt claimId =>
    cases answer with
    | error fault => cases h
    | ok completed =>
      cases completed with
      | none => cases h
      | some r' =>
        have h : id ∈ completedIn (if K.key r = k then [.completed claimId] else []) := h
        split_ifs at h
        · rw [List.mem_singleton.mp h]
          rfl
        · cases h
  | claim request =>
    cases answer with
    | error fault => cases h
    | ok copies =>
      exfalso
      have h : id ∈ completedIn (((copies.find? (fun copy => K.key copy = k)).bind
        K.claim).toList.map (fun claim => .granted claim.lease)) := h
      cases hfound : (copies.find? (fun copy => K.key copy = k)).bind K.claim <;>
        rw [hfound] at h <;> cases h
  | _ => cases h

theorem Held.granted {copy : ρ} (h : K.Held s copy) (hs : K.Sound env s) :
    ∃ id, K.claimId copy = some id ∧ DrawnBefore id s.1.tick := by
  obtain ⟨claim, hclaim, hfits, -⟩ := h
  refine ⟨claim.claimId, ?_, hs.leaseDrawn _ _ hfits.granted⟩
  unfold claimId
  rw [hclaim]
  rfl

/-- A held copy stays held while its lease is not completed. -/
theorem Held.step {copy : ρ} (h : K.Held s copy) (hK : K.Lawful) (hs : K.Sound env s)
    (hcovered : K.Covered s op) (hopen : ∀ id ∈ (K.viewOf op).completes, K.claimId copy ≠ some id) :
    K.Held (K.exec env op s).2 copy := by
  obtain ⟨claim, hclaim, hfits, hdone, hcount⟩ := h
  refine ⟨claim, hclaim, hfits.step (hs.history_step hK hcovered _), fun hmem => ?_, hcount⟩
  have hmem : claim.claimId ∈ completedIn (s.2.log (K.key copy)) ++
      completedIn ((K.viewOf op).marks K (env.answer s.1 op) (K.key copy)) := by
    rw [← completedIn_append]
    exact hmem
  rcases List.mem_append.mp hmem with hmem | hmem
  · exact hdone hmem
  · refine hopen _ (completes_of_marks hmem) ?_
    unfold claimId
    rw [hclaim]
    rfl

/-- The copies of a claim are held under leases that were just drawn. -/
theorem held_of_claimed (hK : K.Lawful) (hs : K.Sound env (K.exec env op s).2) {copy : ρ}
    (h : copy ∈ (K.viewOf op).claimed (env.answer s.1 op)) :
    K.Held (K.exec env op s).2 copy ∧ ∃ i, K.claimId copy = some (drawn s.1.tick i) := by
  have hdoes := effect_does (K := K) env s.1 op
  cases hview : K.viewOf op with
  | claim request =>
    rw [hview] at hdoes h
    obtain ⟨-, copies, hanswer, hids, hnodup, hleased, -⟩ := hdoes
    rw [hanswer] at h
    obtain ⟨hfind, r, claimId, -, hwaiting, -, hcopied⟩ := hleased copy h
    have hclaim : K.claim copy = some (request.claim (env.clock s.1.tick) claimId) := by
      rw [hcopied]
      exact hK.claim_leased r _
    have hentry : (K.history (K.exec env op s).2 (K.key copy)).entry = some (K.entry copy) :=
      congrArg (Option.map K.entry) hfind
    have hlease : (K.entry copy).lease = some (request.claim (env.clock s.1.tick) claimId).lease := by
      rw [hK.entry_lease, hclaim]
      rfl
    have hgranted : (request.claim (env.clock s.1.tick) claimId).lease ∈
        (K.history (K.exec env op s).2 (K.key copy)).granted := by
      show _ ∈ grantedIn (s.2.log (K.key copy) ++ (K.viewOf op).marks K (env.answer s.1 op)
        (K.key copy))
      rw [grantedIn_append, hview, hanswer]
      refine List.mem_append_right _ ?_
      show _ ∈ grantedIn (((copies.find? (fun c => K.key c = K.key copy)).bind
        K.claim).toList.map (fun claim => .granted claim.lease))
      rw [find?_claimed hnodup h, Option.bind_some, hclaim]
      exact List.mem_cons_self
    have hstatus : (K.entry copy).status = .waiting := by
      rw [hcopied, hK.entry_leased]
      exact (hK.waiting_iff r).mp hwaiting
    refine ⟨⟨_, hclaim, ⟨hstatus, hgranted, ?_⟩, ?_, ?_⟩, ?_⟩
    · intro e l he _ _
      rw [hentry] at he
      exact (Option.some.inj he).symm
    · exact ((hs.orderly _).leased _ _ hentry hlease).1
    · exact ((hs.orderly _).waiting _ hentry hstatus).1
    · have hid : K.claimId copy ∈ copies.map (fun copy => (K.claim copy).map DispatchClaim.claimId) :=
        List.mem_map_of_mem h
      rw [hids] at hid
      obtain ⟨i, -, hi⟩ := List.mem_map.mp hid
      exact ⟨i, hi.symm⟩
  | _ =>
    rw [hview] at h
    cases h

/-- A worker's call is covered by what it holds. -/
theorem Attended.covered (h : K.Attended env h₀ φs s) {strict : Prop} (hφ : φ ∈ φs)
    (hop : K.Permits strict φ (K.viewOf op)) : K.Covered s op := by
  unfold Outbox.Covered
  cases hview : K.viewOf op with
  | complete r attempt claimId =>
    rw [hview] at hop
    obtain ⟨copy, hheld, -, hattempts⟩ := hop
    obtain ⟨claim, hclaim, hfits, -⟩ := h.held φ hφ copy hheld
    exact ⟨copy, ⟨claim, hclaim, hfits⟩, hattempts⟩
  | save r =>
    rw [hview] at hop
    exact hop.elim
  | note =>
    rw [hview] at hop
    exact hop.elim
  | _ => trivial

theorem later_step (hK : K.Lawful) (hs : K.Sound env s) (hcovered : K.Covered s op) {k : Uuid}
    {h : History Uuid Time ρ} (hlater : History.Later K.acknowledges maxAttempts h (K.history s k)) :
    History.Later K.acknowledges maxAttempts h (K.history (K.exec env op s).2 k) :=
  hlater.tail ⟨_, hs.history_step hK hcovered k⟩

/-- What one call of one worker preserves. -/
theorem Attended.step (hK : K.Lawful) (hclock : Monotone env.clock) (h : K.Attended env h₀ φs s)
    {strict : Prop} {i : ℕ} (hi : φs[i]? = some φ) (hop : K.Permits strict φ (K.viewOf op)) :
    K.Attended env h₀
      (φs.set i ((K.workContract strict).advance φ op (K.exec env op s).1)) (K.exec env op s).2 := by
  have hcovered := h.covered (List.mem_of_getElem? hi) hop
  have hsound := h.sound.step hK hcovered (hclock (Nat.le_succ _))
  have hcompleted : ∀ id ∈ (K.viewOf op).completes, ∃ copy ∈ φ.held, K.claimId copy = some id := by
    intro id hid
    cases hview : K.viewOf op with
    | complete r attempt claimId =>
      rw [hview] at hop hid
      obtain ⟨copy, hheld, -, hattempts⟩ := hop
      cases hid
      exact ⟨copy, hheld, hattempts.1⟩
    | _ =>
      rw [hview] at hid
      cases hid
  -- the stepped worker holds what it held and what it was just granted
  have hself : ∀ copy ∈ K.heldAfter φ (K.viewOf op) (env.answer s.1 op),
      K.Held (K.exec env op s).2 copy ∧
        (copy ∈ φ.held ∨ ∃ n, K.claimId copy = some (drawn s.1.tick n)) := by
    intro copy hcopy
    rcases mem_heldAfter hcopy with ⟨hheld, hopen⟩ | hclaimed
    · exact ⟨(h.held φ (List.mem_of_getElem? hi) copy hheld).step hK h.sound hcovered hopen,
        .inl hheld⟩
    · obtain ⟨hheld, hdrawn⟩ := held_of_claimed hK hsound hclaimed
      exact ⟨hheld, .inr hdrawn⟩
  have hapart : ∀ j ψ, i ≠ j → φs[j]? = some ψ →
      ∀ copy ∈ K.heldAfter φ (K.viewOf op) (env.answer s.1 op), ∀ other ∈ ψ.held,
        K.claimId copy ≠ K.claimId other := by
    intro j ψ hij hj copy hcopy other hother hsame
    rcases (hself copy hcopy).2 with hheld | ⟨n, hn⟩
    · exact h.apart i j φ ψ hij hi hj copy hheld other hother hsame
    · obtain ⟨id, hid, hbefore⟩ :=
        (h.held ψ (List.mem_of_getElem? hj) other hother).granted h.sound
      rw [hn, hid] at hsame
      exact ne_drawn_of_drawnBefore hbefore n (Option.some.inj hsame).symm
  constructor
  · exact hsound
  · exact fun k => later_step hK h.sound hcovered (h.later k)
  · intro ψ hψ copy hcopy
    obtain ⟨j, hj⟩ := List.mem_iff_getElem?.mp hψ
    by_cases hij : i = j
    · subst hij
      rw [List.getElem?_set_self (List.getElem?_eq_some_iff.mp hi).1] at hj
      cases hj
      exact (hself copy hcopy).1
    · rw [List.getElem?_set_ne hij] at hj
      refine (h.held ψ (List.mem_of_getElem? hj) copy hcopy).step hK h.sound hcovered
        fun id hid hsame => ?_
      obtain ⟨own, hown, hownId⟩ := hcompleted id hid
      exact h.apart i j φ ψ hij hi hj own hown copy hcopy (hownId.trans hsame.symm)
  · intro j j' ψ ψ' hne hj hj' copy hcopy other hother
    have hlength := (List.getElem?_eq_some_iff.mp hi).1
    by_cases hij : i = j
    · subst hij
      rw [List.getElem?_set_self hlength] at hj
      rw [List.getElem?_set_ne hne] at hj'
      cases hj
      exact hapart j' ψ' hne hj' copy hcopy other hother
    · rw [List.getElem?_set_ne hij] at hj
      by_cases hij' : i = j'
      · subst hij'
        rw [List.getElem?_set_self hlength] at hj'
        cases hj'
        exact fun hsame => hapart j ψ hij hj other hother copy hcopy hsame.symm
      · rw [List.getElem?_set_ne hij'] at hj'
        exact h.apart j j' ψ ψ' hne hj hj' copy hcopy other hother

/-- What a worker relies on, the outbox gives, as long as it need not be strict. -/
theorem Attended.promised (hK : K.Lawful) (s : World b × OutboxLedger) (op : Effect γ) :
    (K.workContract False).promised φ op (K.exec env op s).1 := by
  refine ⟨?_, ?_, False.elim⟩
  · cases op with
    | now => exact ⟨_, rfl⟩
    | uuid4 => exact ⟨_, rfl⟩
    | _ => trivial
  · have hdoes := effect_does (K := K) env s.1 op
    show K.Promises False (K.viewOf op) (env.answer s.1 op)
    cases hview : K.viewOf op with
    | claim request =>
      rw [hview] at hdoes
      obtain ⟨-, copies, hanswer, hids, -, hleased, -⟩ := hdoes
      rw [hanswer]
      refine ⟨?_, fun copy hcopy => ?_⟩
      · show (copies.map (fun copy => (K.claim copy).map DispatchClaim.claimId)).Nodup
        rw [hids]
        refine List.Nodup.map (fun m n hmn => ?_) List.nodup_range
        simpa [drawn] using hmn
      · obtain ⟨-, r, claimId, -, -, -, hcopied⟩ := hleased copy hcopy
        rw [hcopied, hK.claim_leased]
        nofun
    | complete r attempt claimId => exact False.elim
    | _ => trivial

/-- A worker comes in holding nothing. -/
theorem Attended.spawn (h : K.Attended env h₀ φs s) :
    K.Attended env h₀ (φs ++ [({} : WorkPhase ρ)]) s where
  sound := h.sound
  later := h.later
  held φ hφ copy hcopy := by
    rcases List.mem_append.mp hφ with hφ | hφ
    · exact h.held φ hφ copy hcopy
    · rw [List.mem_singleton.mp hφ] at hcopy
      cases hcopy
  apart i j φ ψ hij hi hj copy hcopy other hother := by
    rw [List.getElem?_append] at hi hj
    split_ifs at hi hj with hi' hj' hj'
    · exact h.apart i j φ ψ hij hi hj copy hcopy other hother
    · rw [List.mem_singleton.mp (List.mem_of_getElem? hj)] at hother
      cases hother
    · rw [List.mem_singleton.mp (List.mem_of_getElem? hi)] at hcopy
      cases hcopy
    · rw [List.mem_singleton.mp (List.mem_of_getElem? hi)] at hcopy
      cases hcopy

/-- What was drawn and read while a request is served is still new, and still stored. -/
structure Attending (K : Outbox ρ α R) [OutboxStore K b] (env : Env)
    (h₀ : Uuid → History Uuid Time ρ) (φs : List (WorkPhase ρ)) (φ : ServePhase ρ)
    (s : World b × OutboxLedger) : Prop extends K.Attended env h₀ φs s where
  drawn : ∀ id ∈ φ.drawn, DrawnBefore id s.1.tick ∧ ¬s.2.seen (K.keyOf id)
  read : ∀ r ∈ φ.read, OutboxStore.find K s.1.store (K.key r) = some r

/-- A call that completes no lease leaves every worker what it holds. -/
theorem Attended.other (hK : K.Lawful) (hclock : Monotone env.clock) (h : K.Attended env h₀ φs s)
    (hcovered : K.Covered s op) (hnone : (K.viewOf op).completes = none) :
    K.Attended env h₀ φs (K.exec env op s).2 where
  sound := h.sound.step hK hcovered (hclock (Nat.le_succ _))
  later _ := later_step hK h.sound hcovered (h.later _)
  held φ hφ copy hcopy := by
    refine (h.held φ hφ copy hcopy).step hK h.sound hcovered fun id hid => ?_
    rw [hnone] at hid
    cases hid
  apart := h.apart

/-- An identifier that was drawn just now names no record. -/
theorem drawn_drawnNow (hs : K.Sound env s) {id : Uuid}
    (hid : id ∈ drawnNow op (K.exec env op s).1) :
    DrawnBefore id (s.1.tick + 1) ∧ ¬s.2.seen (K.keyOf id) := by
  cases op with
  | uuid4 =>
    rw [List.mem_singleton.mp hid]
    exact ⟨drawnBefore_drawn s.1.tick,
      fun hseen => ne_drawn_of_drawnBefore (hs.keyDrawn _ hseen) 0 rfl⟩
  | _ => cases hid

/-- A call that leaves the outbox adds to what was drawn and read. -/
theorem Attending.quiet (hK : K.Lawful) (hclock : Monotone env.clock) {φ : ServePhase ρ}
    (h : K.Attending env h₀ φs φ s) (hquiet : (K.viewOf op).Quiet) :
    K.Attending env h₀ φs (K.serveContract.advance φ op (K.exec env op s).1)
      (K.exec env op s).2 := by
  have hdoes := effect_does (K := K) env s.1 op
  have hcovered : K.Covered s op := by
    unfold Outbox.Covered
    cases hview : K.viewOf op <;> rw [hview] at hquiet <;> trivial
  have hnone : (K.viewOf op).completes = none := by
    cases hview : K.viewOf op <;> rw [hview] at hquiet <;> first | rfl | exact hquiet.elim
  have hstores : ∀ k, ¬(K.viewOf op).stores K k := by
    intro k
    cases hview : K.viewOf op <;> rw [hview] at hquiet <;> first | exact id | exact hquiet.elim
  have hfind : OutboxStore.find K (env.after s.1 op).store = OutboxStore.find K s.1.store := by
    cases hview : K.viewOf op <;> rw [hview] at hquiet hdoes <;>
      first | exact hdoes.1 | exact hquiet.elim
  refine ⟨h.toAttended.other hK hclock hcovered hnone, fun id hid => ?_, fun r hr => ?_⟩
  · have hid : id ∈ drawnAfter φ (drawnNow op (K.exec env op s).1) (K.viewOf op) := hid
    have hid : id ∈ drawnNow op (K.exec env op s).1 ++ φ.drawn := by
      cases hview : K.viewOf op <;> rw [hview] at hquiet hid <;>
        first | exact hid | exact hquiet.elim
    have hbefore : DrawnBefore id (s.1.tick + 1) ∧ ¬s.2.seen (K.keyOf id) := by
      rcases List.mem_append.mp hid with hid | hid
      · exact drawn_drawnNow h.sound hid
      · exact ⟨(h.drawn id hid).1.mono (Nat.le_succ _), (h.drawn id hid).2⟩
    exact ⟨hbefore.1, fun hseen => hseen.elim hbefore.2 (hstores _)⟩
  · show OutboxStore.find K (env.after s.1 op).store (K.key r) = some r
    rw [hfind]
    have hr : r ∈ readAfter φ (K.viewOf op) (env.answer s.1 op) := hr
    cases hview : K.viewOf op with
    | get =>
      rw [hview] at hdoes hr
      cases hanswer : env.answer s.1 op with
      | error fault =>
        rw [hanswer] at hr
        exact h.read r hr
      | ok found =>
        rw [hanswer] at hr hdoes
        cases found with
        | none => exact h.read r hr
        | some r' =>
          rcases List.mem_cons.mp hr with rfl | hr
          · exact hdoes.2.2 r rfl
          · exact h.read r hr
    | other =>
      rw [hview] at hr
      exact h.read r hr
    | _ =>
      rw [hview] at hquiet
      exact hquiet.elim

/-- What one call of a request preserves. -/
theorem Attending.step (hK : K.Lawful) (hclock : Monotone env.clock) {φ : ServePhase ρ}
    (h : K.Attending env h₀ φs φ s) (hop : K.serveContract.allowed φ op) :
    K.Attending env h₀ φs (K.serveContract.advance φ op (K.exec env op s).1)
      (K.exec env op s).2 := by
  have hop : K.Serves φ (K.viewOf op) := hop
  cases hview : K.viewOf op with
  | save r =>
    rw [hview] at hop
    have hcovered : K.Covered s op := by
      unfold Outbox.Covered
      rw [hview]
      rcases hop with ⟨id, hid, hkey, hentry⟩ | ⟨sent, hsent, hstatus, hack⟩
      · obtain ⟨hdrawn, hunseen⟩ := h.drawn id hid
        exact .inl ⟨id, hkey, hdrawn, hunseen, hentry⟩
      · exact .inr ⟨sent, h.read sent hsent, hstatus, hack⟩
    have hafter := h.toAttended.other hK hclock hcovered (by rw [hview]; rfl)
    refine ⟨hafter, fun id hid => ?_, fun r hr => ?_⟩
    · have hid : id ∈ drawnAfter φ (drawnNow op (K.exec env op s).1) (K.viewOf op) := hid
      rw [hview] at hid
      cases hid
    · have hr : r ∈ readAfter φ (K.viewOf op) (K.exec env op s).1 := hr
      rw [hview] at hr
      cases hr
  | _ =>
    rw [hview] at hop
    exact h.quiet hK hclock (hview ▸ hop)

/-- Every worker keeps to its contract, and the workers together fit the outbox. -/
def InOrder (K : Outbox ρ α R) [OutboxStore K b] (env : Env) (h₀ : Uuid → History Uuid Time ρ)
    (pool : OutboxPool b) : Prop :=
  pool.Joint (K.workContract False) (fun φ _ => φ.sending = none) (K.Attended env h₀)

/-- The workers and the handlers keep to the outbox's contracts. -/
structure Operated (K : Outbox ρ α R) (svc : Service) : Prop where
  work : ∀ (strict : Prop) (work : OutboxWork) (φ : WorkPhase ρ), (strict → ¬work.Removes) →
    φ.sending = none → (work.start svc).Follows (K.workContract strict)
      (fun φ' _ => φ'.sending = none) φ
  serve : ∀ (req : Request) (φ : ServePhase ρ), req.works = false →
    (Api.handle svc req).Follows K.serveContract (fun _ _ => True) φ

/-- What one event preserves. -/
theorem InOrder.apply (hK : K.Lawful) {svc : Service} (hops : K.Operated svc)
    (hclock : Monotone env.clock) {pool : OutboxPool b} (h : K.InOrder env h₀ pool)
    (e : OutboxEvent) : K.InOrder env h₀ (K.apply svc env pool e) := by
  cases e with
  | work e =>
    refine Pool.joint_apply h e (fun work φs _ hφs => ?_) ?_
    · exact ⟨{}, hops.work False work {} False.elim rfl, hφs.spawn⟩
    · intro γ op next i φs φ _ _ hφs hi hop
      exact ⟨Attended.promised hK pool.state op, hφs.step hK hclock hi hop.1⟩
  | serve req =>
    obtain ⟨φs, hfollows, hφs⟩ := h
    have hstart : K.Attending env h₀ φs {} pool.state := ⟨hφs, nofun, nofun⟩
    have hexec : ∀ {γ : Type} (φ : ServePhase ρ) (op : Effect γ) (s : World b × OutboxLedger),
        K.Attending env h₀ φs φ s → K.serveContract.allowed φ op →
          K.serveContract.promised φ op (K.exec env op s).1 ∧
            K.Attending env h₀ φs (K.serveContract.advance φ op (K.exec env op s).1)
              (K.exec env op s).2 :=
      fun φ op s hs hop => ⟨trivial, hs.step hK hclock hop⟩
    obtain ⟨φ', hφ', -⟩ := Prog.Follows.run hexec (hops.serve req.1 {} req.2) hstart
    exact ⟨φs, hfollows, hφ'.toAttended⟩

/-- From any state in order a run goes on in order. -/
theorem InOrder.restart {pool : OutboxPool b} (h : K.InOrder env h₀ pool) :
    K.InOrder env (K.history pool.state) pool := by
  obtain ⟨φs, hfollows, hφs⟩ := h
  exact ⟨φs, hfollows, ⟨hφs.sound, fun k => .refl, hφs.held, hφs.apart⟩⟩

theorem InOrder.run (hK : K.Lawful) {svc : Service} (hops : K.Operated svc)
    (hclock : Monotone env.clock) {pool : OutboxPool b} (h : K.InOrder env h₀ pool)
    (events : List OutboxEvent) : K.InOrder env h₀ (runFrom (K.apply svc env) pool events) := by
  induction events generalizing pool with
  | nil => exact h
  | cons e events ih => exact ih (h.apply hK hops hclock e)

/-! ### What every run gives -/

variable (K)

/-- The records at one time: at most one lease on each runs, and its attempts are numbered and
bounded, in turn and under the lease granted last. -/
structure Safe (env : Env) (s : World b × OutboxLedger) : Prop where
  oneLease : ∀ k, ∀ l ∈ (K.history s k).granted, ∀ l' ∈ (K.history s k).granted,
    l.id ∉ (K.history s k).completed → l'.id ∉ (K.history s k).completed →
    env.clock s.1.tick < l.expiresAt → env.clock s.1.tick < l'.expiresAt → l = l'
  inTurn : ∀ k, InTurn (s.2.log k)
  numbered : ∀ k r, OutboxStore.find K s.1.store k = some r →
    (OutboxStore.attempts K s.1.store k).map (fun attempt => (K.tried attempt).number) =
      List.range' 1 (K.entry r).count
  bounded : ∀ k r, OutboxStore.find K s.1.store k = some r → (K.entry r).count ≤ 5
  failed_iff : ∀ k r, OutboxStore.find K s.1.store k = some r →
    ((K.entry r).status = .failed ↔ (K.entry r).count = 5 ∧
      ∀ attempt ∈ OutboxStore.attempts K s.1.store k, (K.tried attempt).success = false)

/-- Since a record had ended it was leased, attempted and changed no more, but for being
acknowledged once it was sent, or taken out. -/
def Ended (k : Uuid) (r : ρ) (s s' : World b × OutboxLedger) : Prop :=
  s'.2.log k = s.2.log k ∧ (OutboxStore.find K s'.1.store k = none ∨
    (OutboxStore.attempts K s'.1.store k).map K.tried =
        (OutboxStore.attempts K s.1.store k).map K.tried ∧
      (OutboxStore.find K s'.1.store k = some r ∨ ((K.entry r).status = .sent ∧
        ∃ r', K.acknowledges r r' ∧ OutboxStore.find K s'.1.store k = some r')))

/-- A worker that decides to send finds the record still waiting, if it is stored. -/
def Begun (svc : Service) (env : Env) (pool : OutboxPool b) (e : OutboxEvent) : Prop :=
  ∀ i p r stored, e = .work (.step i) → (K.apply svc env pool e).threads[i]? = some p →
    p.Next (fun op => K.sent op = some r) →
    OutboxStore.find K pool.state.1.store (K.key r) = some stored → K.waiting stored = true

/-- A run of workers and requests keeps the outbox safe. -/
structure SafeRun (svc : Service) (env : Env) (pool : OutboxPool b) (events : List OutboxEvent) :
    Prop where
  safe : ∀ past future, events = past ++ future →
    K.Safe env (runFrom (K.apply svc env) pool past).state
  ended : ∀ past future, events = past ++ future → ∀ k r,
    OutboxStore.find K (runFrom (K.apply svc env) pool past).state.1.store k = some r →
    (K.entry r).status ≠ .waiting → K.Ended k r (runFrom (K.apply svc env) pool past).state
      (runFrom (K.apply svc env) pool events).state
  gone : ∀ past future, events = past ++ future → ∀ k,
    (runFrom (K.apply svc env) pool past).state.2.seen k →
    OutboxStore.find K (runFrom (K.apply svc env) pool past).state.1.store k = none →
    OutboxStore.find K (runFrom (K.apply svc env) pool events).state.1.store k = none
  begun : Meets (K.apply svc env) (K.Begun svc env) pool events

variable {K}

theorem Sound.safe (h : K.Sound env s) : K.Safe env s where
  oneLease k l hl l' hl' hopen hopen' hin hin' :=
    (h.orderly k).eq_of_open hl hl' hopen hopen' hin.not_ge hin'.not_ge
  inTurn k := (h.orderly k).inTurn
  numbered k r hfind := by
    have hnumbered := (h.orderly k).numbered _ (congrArg (Option.map K.entry) hfind)
    rw [← hnumbered]
    exact List.map_map.symm
  bounded k r hfind := (h.orderly k).count_le (congrArg (Option.map K.entry) hfind)
  failed_iff k r hfind := by
    rw [(h.orderly k).failed_iff (congrArg (Option.map K.entry) hfind)]
    exact and_congr_right fun _ => List.forall_mem_map

theorem ended_of_later (hK : K.Lawful) (hs : K.Sound env s) {s' : World b × OutboxLedger}
    {k : Uuid} {r : ρ} (hfind : OutboxStore.find K s.1.store k = some r)
    (hended : (K.entry r).status ≠ .waiting)
    (hlater : History.Later K.acknowledges maxAttempts (K.history s k) (K.history s' k)) :
    K.Ended k r s s' := by
  have hentry : (K.history s k).entry = some (K.entry r) := congrArg (Option.map K.entry) hfind
  have hdata : ∀ {r' : ρ} {e : Entry Uuid Time ρ}, (OutboxStore.find K s'.1.store k).map K.entry =
      some e → e.data = r' → OutboxStore.find K s'.1.store k = some r' := by
    intro r' e he hr'
    obtain ⟨found, hfound, hsame⟩ := Option.map_eq_some_iff.mp he
    rw [hfound, ← hr', ← hsame, hK.entry_data]
  obtain ⟨hlog, -, hnone | ⟨htries, hsame | ⟨hsent, d, hack, hacked⟩⟩⟩ :=
    History.Rests.later hended (hs.seen hfind) hentry hlater
  · exact ⟨hlog, .inl (Option.map_eq_none_iff.mp hnone)⟩
  · exact ⟨hlog, .inr ⟨htries, .inl (hdata hsame (hK.entry_data r))⟩⟩
  · rw [hK.entry_data] at hack
    exact ⟨hlog, .inr ⟨htries, .inr ⟨hsent, d, hack, hdata hacked rfl⟩⟩⟩

/-- While the lease of a held copy runs, the record is waiting. -/
theorem Held.waiting (hK : K.Lawful) (hs : K.Sound env s) {copy stored : ρ} (h : K.Held s copy)
    (hfind : OutboxStore.find K s.1.store (K.key copy) = some stored)
    (hruns : ∀ claim, K.claim copy = some claim → env.clock s.1.tick < claim.expiresAt) :
    K.waiting stored = true := by
  obtain ⟨claim, hclaim, hfits, hopen, -⟩ := h
  have hentry : (K.history s (K.key copy)).entry = some (K.entry stored) :=
    congrArg (Option.map K.entry) hfind
  have horderly := hs.orderly (K.key copy)
  have hlast : (K.history s (K.key copy)).granted.getLast? = some claim.lease := by
    rcases horderly.spent _ hfits.granted with hdone | hout | hlast
    · exact absurd hdone hopen
    · exact absurd hout (hruns claim hclaim).not_ge
    · exact hlast
  have hlease : (K.entry stored).lease = some claim.lease :=
    (horderly.fenced _ _ hentry hlast).resolve_right hopen
  rw [hK.waiting_iff, hfits.same _ _ hentry hlease rfl]
  exact hfits.waiting

theorem InOrder.begun (hK : K.Lawful) {svc : Service} {pool : OutboxPool b}
    (h : K.InOrder env h₀ pool) (e : OutboxEvent) : K.Begun svc env pool e := by
  rintro i p r stored rfl hp hnext hfind
  obtain ⟨φs, hfollows, hφs⟩ := h
  have hp : (pool.stepThread (K.exec env) i).threads[i]? = some p := hp
  unfold Pool.stepThread at hp
  split at hp
  next γ op next hi =>
    rw [List.getElem?_set_self (List.getElem?_eq_some_iff.mp hi).1] at hp
    cases hp
    obtain ⟨φ, hφ, hprog, -⟩ := Pool.forall₂_set hfollows hi
    have hfollows' := hprog.2 (K.exec env op pool.state).1 (Attended.promised hK pool.state op)
    -- the call just made read the clock, and the one that comes next sends
    cases hcall : next (K.exec env op pool.state).1 with
    | call op' next' =>
      rw [hcall] at hfollows' hnext
      obtain ⟨hheld, -, -, t, ht, hattemptable⟩ := hfollows'.1.2.1 r hnext
      have ht : checkedAt op (env.answer pool.state.1 op) = some t := ht
      cases op with
      | now =>
        cases ht
        refine (hφs.held φ (List.mem_of_getElem? hφ) r hheld).waiting hK hφs.sound hfind ?_
        exact fun claim hclaim => hK.attemptable_claim r _ hattemptable claim hclaim
      | _ => cases ht
    | _ =>
      rw [hcall] at hnext
      exact hnext.elim
  next hother =>
    cases p with
    | call op next => exact absurd hp (hother _ op next)
    | _ => exact hnext.elim

theorem InOrder.safeRun (hK : K.Lawful) {svc : Service} (hops : K.Operated svc)
    (hclock : Monotone env.clock) {pool : OutboxPool b} (h : K.InOrder env h₀ pool)
    (events : List OutboxEvent) : K.SafeRun svc env pool events := by
  have hpast : ∀ past, K.InOrder env h₀ (runFrom (K.apply svc env) pool past) :=
    fun past => h.run hK hops hclock past
  have hlater : ∀ past future, events = past ++ future → ∀ k,
      History.Later K.acknowledges maxAttempts
        (K.history (runFrom (K.apply svc env) pool past).state k)
        (K.history (runFrom (K.apply svc env) pool events).state k) := by
    rintro past future rfl k
    obtain ⟨φs, -, hφs⟩ := (hpast past).restart.run hK hops hclock future
    rw [runFrom_append]
    exact hφs.later k
  constructor
  · rintro past future -
    obtain ⟨φs, -, hφs⟩ := hpast past
    exact hφs.sound.safe
  · intro past future hsplit k r hfind hended
    obtain ⟨φs, -, hφs⟩ := hpast past
    exact ended_of_later hK hφs.sound hfind hended (hlater past future hsplit k)
  · intro past future hsplit k hseen hnone
    have hentry := ((hlater past future hsplit k).gone hseen (Option.map_eq_none_iff.mpr hnone)).2
    exact Option.map_eq_none_iff.mp hentry
  · exact Meets.of_inv (K.InOrder env h₀) (fun pool e hpool _ => hpool.apply hK hops hclock e)
      (fun pool e hpool => hpool.begun hK e) h (meets_true pool events)

end Outbox

theorem notificationOutbox_operated (svc : Service) : notificationOutbox.Operated svc where
  work _ work _ hwork hsending := work.follows_notifications hwork hsending
  serve _ φ hreq := handle_serves_notifications hreq φ

theorem actionOutbox_operated (svc : Service) : actionOutbox.Operated svc where
  work _ work _ hwork hsending := work.follows_actions hwork hsending
  serve _ φ hreq := handle_serves_actions hreq φ

/-- No worker has come in yet. -/
theorem Outbox.Sound.inOrder {K : Outbox ρ α R} [OutboxStore K b] {env : Env}
    {s : World b × OutboxLedger} (h : K.Sound env s) : K.InOrder env (K.history s) ⟨s, []⟩ :=
  ⟨[], .nil, h, fun _ => .refl, nofun, nofun⟩

/-- Whatever the workers and callers do, in whatever order, both outboxes stay safe: on each record
at most one lease runs, its attempts are committed in turn and under the last lease, at most five
of them, and a record that has ended is left as it is. -/
theorem leased_outbox_safety [OutboxStore notificationOutbox b] [OutboxStore actionOutbox b]
    (svc : Service) (env : Env) (hclock : Monotone env.clock) (w : World b) (l : OutboxLedger)
    (events : List OutboxEvent) :
    (notificationOutbox.Sound env (w, l) →
      notificationOutbox.SafeRun svc env ⟨(w, l), []⟩ events) ∧
    (actionOutbox.Sound env (w, l) → actionOutbox.SafeRun svc env ⟨(w, l), []⟩ events) :=
  ⟨fun h => h.inOrder.safeRun notificationOutbox_lawful (notificationOutbox_operated svc) hclock
      events,
    fun h => h.inOrder.safeRun actionOutbox_lawful (actionOutbox_operated svc) hclock events⟩

/-- A repository without records is sound, with a ledger that has nothing on it. -/
theorem Outbox.sound_of_fresh {K : Outbox ρ α R} [OutboxStore K b] {env : Env} {w : World b}
    (hfind : ∀ k, OutboxStore.find K w.store k = none)
    (hattempts : ∀ k, OutboxStore.attempts K w.store k = []) :
    K.Sound env (w, { seen := fun _ => False }) := by
  have hhistory : ∀ k, K.history (w, { seen := fun _ => False }) k =
      { known := False, entry := none } := by
    intro k
    simp [Outbox.history, Outbox.historyIn, hfind, hattempts]
  refine ⟨fun k => ?_, fun _ h => h.elim, fun k lease hlease => ?_⟩
  · rw [hhistory]
    constructor <;> simp [History.granted, History.completed, grantedIn, completedIn, InTurn]
  · rw [hhistory] at hlease
    cases hlease

/-- An administrator queues a notification. -/
def queuedNotice : OutboxEvent :=
  .serve ⟨.queueNotification { tenantId := some "acme", actorRole := some .tenantAdmin }
    { travelerId := "ada", channel := "in_app", recipientReference := "ada", subject := "Delay",
      body := "Gate change" }, rfl⟩

/-- An administrator queues a notification, and two runs of the job follow one another. -/
def queueThenDispatch : List OutboxEvent :=
  [queuedNotice,
    .work (.spawn .dispatchDueNotifications), .work (.spawn .dispatchDueNotifications)] ++
  (List.range 12).map (fun _ => .work (.step 0)) ++ [.work (.step 1)]

def emptyOutbox : OutboxPool .memory := ⟨({ store := {} }, { seen := fun _ => False }), []⟩

/-- The notification was attempted once, and the second run leased it no more. -/
theorem leased_outbox_safety_sample :
    notificationOutbox.SafeRun .switchedOn .still emptyOutbox queueThenDispatch ∧
      actionOutbox.SafeRun .switchedOn .still emptyOutbox queueThenDispatch ∧
      (runFrom (notificationOutbox.apply .switchedOn .still) emptyOutbox
        queueThenDispatch).state.1.store.notifications.rows.map (fun r =>
          (r.attemptCount, r.dispatchClaim)) = [(1, none)] := by
  have hsafe := leased_outbox_safety .switchedOn .still (fun _ _ _ => le_rfl)
    ({ store := {} } : World .memory) { seen := fun _ => False } queueThenDispatch
  refine ⟨hsafe.1 (Outbox.sound_of_fresh (fun _ => rfl) fun _ => rfl),
    hsafe.2 (Outbox.sound_of_fresh (fun _ => rfl) fun _ => rfl), ?_⟩
  decide +kernel

end RouteShield
