import Mathlib.Data.Int.ConditionallyCompleteOrder
import RouteShield.Workers.OutboxStore

/-!
The histories of an outbox's records. Beside the store a ledger keeps what was granted,
completed and sent for each record and which records were ever stored; a call that a worker or a
handler may make takes every record one step further in its history.
-/

namespace RouteShield

variable {ρ α R γ : Type}

/-- What was granted, completed and sent so far, and which records were stored. -/
structure OutboxLedger where
  log : Uuid → List (LeaseMark Uuid Time) := fun _ => []
  sends : Uuid → ℕ := fun _ => 0
  seen : Uuid → Prop

namespace OutboxCall

variable (K : Outbox ρ α R)

/-- The leases that a call grants on a record, or completes. -/
def marks : OutboxCall ρ α γ → Except Fault γ → Uuid → List (LeaseMark Uuid Time)
  | .claim _, .ok copies, k => ((copies.find? (fun copy => K.key copy = k)).bind K.claim).toList.map
    (fun claim => .granted claim.lease)
  | .complete r _ claimId, .ok (some _), k => if K.key r = k then [.completed claimId] else []
  | _, _, _ => []

/-- The lease under which a call completes an attempt. -/
def completes : OutboxCall ρ α γ → Option Uuid
  | .complete _ _ claimId => some claimId
  | _ => none

def stores : OutboxCall ρ α γ → Uuid → Prop
  | .save r, k => K.key r = k
  | _, _ => False

end OutboxCall

namespace Outbox

variable (K : Outbox ρ α R)

def record {γ : Type} (op : Effect γ) (answer : Except Fault γ) (l : OutboxLedger) :
    OutboxLedger where
  log k := l.log k ++ (K.viewOf op).marks K answer k
  sends k := l.sends k + if (K.sent op).map K.key = some k then 1 else 0
  seen k := l.seen k ∨ (K.viewOf op).stores K k

/-- One effect, with the ledger kept. -/
def exec {b : Backend} (env : Env) {γ : Type} (op : Effect γ) (s : World b × OutboxLedger) :
    Except Fault γ × (World b × OutboxLedger) :=
  Prog.logged env.exec K.record op s

def historyIn (find : Uuid → Option ρ) (attempts : Uuid → List α) (l : OutboxLedger) (k : Uuid) :
    History Uuid Time ρ where
  known := l.seen k
  entry := (find k).map K.entry
  tries := (attempts k).map K.tried
  log := l.log k

variable {K} {find find' : Uuid → Option ρ} {attempts attempts' : Uuid → List α}
  {l : OutboxLedger} {op : Effect γ} {answer : Except Fault γ} {k : Uuid} {now : Time}
  {fresh : ℕ → Uuid}

/-- Where a call neither marks nor stores, its history has what the repository has. -/
theorem historyIn_record (find : Uuid → Option ρ) (attempts : Uuid → List α)
    (hmarks : (K.viewOf op).marks K answer k = []) (hstores : ¬(K.viewOf op).stores K k) :
    K.historyIn find' attempts' (K.record op answer l) k =
      { K.historyIn find attempts l k with
        entry := (find' k).map K.entry, tries := (attempts' k).map K.tried } := by
  simp [historyIn, record, hmarks, hstores]

/-- A copy was leased, and the lease is the one that it carries. -/
def Fits (K : Outbox ρ α R) (copy : ρ) (h : History Uuid Time ρ) : Prop :=
  ∃ claim, K.claim copy = some claim ∧ History.Fits (K.entry copy) claim.lease h

/-- The attempt that a completion commits is one at a leased copy. -/
def Attempts (K : Outbox ρ α R) (copy r : ρ) (attempt : α) (claimId : Uuid) : Prop :=
  (K.claim copy).map DispatchClaim.claimId = some claimId ∧ ∃ result now id,
    r = (K.attempted copy result now).1 ∧
      attempt = K.filed id copy now result (K.attempted copy result now)

/-- A record is saved when it is new, under an identifier just drawn, or as the acknowledgement of
one that was sent. -/
def Saves (K : Outbox ρ α R) (tick : ℕ) (find : Uuid → Option ρ) (l : OutboxLedger) (r : ρ) :
    Prop :=
  (∃ id, K.key r = K.keyOf id ∧ DrawnBefore id tick ∧ ¬l.seen (K.keyOf id) ∧
      K.entry r = { data := r }) ∨
    ∃ sent, find (K.key sent) = some sent ∧ (K.entry sent).status = .sent ∧ K.acknowledges sent r

end Outbox

/-- What is known of a call before it is made. -/
def OutboxCall.Covered (K : Outbox ρ α R) (tick : ℕ) (find : Uuid → Option ρ)
    (attempts : Uuid → List α) (l : OutboxLedger) : {γ : Type} → OutboxCall ρ α γ → Prop
  | _, .complete r attempt claimId => ∃ copy,
    K.Fits copy (K.historyIn find attempts l (K.key copy)) ∧ K.Attempts copy r attempt claimId
  | _, .save r => K.Saves tick find l r
  | _, .note => False
  | _, _ => True

section Steps

variable {K : Outbox ρ α R} {find find' : Uuid → Option ρ} {attempts attempts' : Uuid → List α}
  {l : OutboxLedger} {now : Time} {fresh : ℕ → Uuid} {tick : ℕ}

open OutboxCall

theorem find?_claimed {copies : List ρ} (hnodup : (copies.map K.key).Nodup) {copy : ρ}
    (hcopy : copy ∈ copies) : copies.find? (fun c => K.key c = K.key copy) = some copy := by
  have hsome : (copies.find? (fun c => K.key c = K.key copy)).isSome :=
    List.find?_isSome.mpr ⟨copy, hcopy, by simp⟩
  obtain ⟨found, hfound⟩ := Option.isSome_iff_exists.mp hsome
  have hkey : K.key found = K.key copy := by simpa using List.find?_some hfound
  rw [hfound, List.inj_on_of_nodup_map hnodup (List.mem_of_find?_eq_some hfound) hcopy hkey]

/-- A claim grants a lease on each record that it answers with. -/
theorem claim_step (hK : K.Lawful) {op : Effect (List ρ)} {answer : Except Fault (List ρ)}
    {request : LeaseRequest} (hview : K.viewOf op = .claim request)
    (hdoes : (OutboxCall.claim request).Does K now fresh find find' attempts attempts' answer)
    (hfresh : ∀ i k, ∀ lease ∈ (K.historyIn find attempts l k).granted, lease.id ≠ fresh i)
    (k : Uuid) :
    History.Step K.acknowledges maxAttempts now (K.historyIn find attempts l k)
      (K.historyIn find' attempts' (K.record op answer l) k) := by
  obtain ⟨rfl, copies, rfl, hids, hnodup, hleased, hothers⟩ := hdoes
  by_cases hk : k ∈ copies.map K.key
  · obtain ⟨copy, hcopy, rfl⟩ := List.mem_map.mp hk
    obtain ⟨hfind', r, claimId, hfind, hwaiting, hleasable, hcopied⟩ := hleased copy hcopy
    have hclaim : K.claim copy = some (request.claim now claimId) := by
      rw [hcopied]
      exact hK.claim_leased r _
    have hdrawn : ∃ i, claimId = fresh i := by
      have hid : (K.claim copy).map DispatchClaim.claimId ∈
          copies.map (fun copy => (K.claim copy).map DispatchClaim.claimId) :=
        List.mem_map_of_mem hcopy
      rw [hids, hclaim] at hid
      obtain ⟨i, -, hi⟩ := List.mem_map.mp hid
      exact ⟨i, (Option.some.inj hi).symm⟩
    have hhistory : K.historyIn find' attempts' (K.record op (.ok copies) l) (K.key copy) =
        (K.historyIn find attempts' l (K.key copy)).grant (K.entry r)
          (request.claim now claimId).lease copy := by
      have hentry : K.entry copy = { K.entry r with
          lease := some (request.claim now claimId).lease, data := copy } := by
        rw [hcopied]
        exact hK.entry_leased r _
      simp [Outbox.historyIn, Outbox.record, History.grant, hview, marks, stores,
        find?_claimed hnodup hcopy, hclaim, hfind', hentry]
    rw [hhistory]
    refine .grant copy ?_ ((hK.waiting_iff r).mp hwaiting) ?_ ?_
    · show (find (K.key copy)).map K.entry = _
      rw [hfind]
      rfl
    · rw [hK.entry_lease]
      intro lease hlease
      obtain ⟨claim, hclaimed, rfl⟩ := Option.map_eq_some_iff.mp hlease
      exact of_decide_eq_true (hK.leasable_unclaimed r now hleasable) claim hclaimed
    · intro hmem
      obtain ⟨lease, hlease, hid⟩ := List.mem_map.mp hmem
      obtain ⟨i, rfl⟩ := hdrawn
      exact hfresh i _ lease hlease hid
  · have hnone : copies.find? (fun copy => K.key copy = k) = none := by
      rw [List.find?_eq_none]
      intro copy hcopy hkey
      exact hk (List.mem_map.mpr ⟨copy, hcopy, of_decide_eq_true hkey⟩)
    rw [Outbox.historyIn_record find attempts']
    · rw [hothers k hk]
      exact .stay _
    · rw [hview]
      simp [marks, hnone]
    · rw [hview]
      exact id

/-- A completion that is accepted commits the attempt of the copy that the record still is. -/
theorem complete_step (hK : K.Lawful) {op : Effect (Option ρ)} {answer : Except Fault (Option ρ)}
    {r : ρ} {attempt : α} {claimId : Uuid} (hview : K.viewOf op = .complete r attempt claimId)
    (hdoes : (OutboxCall.complete r attempt claimId).Does K now fresh find find' attempts attempts'
      answer)
    (hkey : ∀ {k r}, find k = some r → K.key r = k)
    (hcovered : (OutboxCall.complete r attempt claimId).Covered K tick find attempts l) (k : Uuid) :
    History.Step K.acknowledges maxAttempts now (K.historyIn find attempts l k)
      (K.historyIn find' attempts' (K.record op answer l) k) := by
  obtain ⟨copy, ⟨claim, hclaim, hfits⟩, hclaimed, result, timestamp, id, rfl, rfl⟩ := hcovered
  have hid : claim.claimId = claimId := by
    rw [hclaim] at hclaimed
    exact Option.some.inj hclaimed
  have hstores : ¬(K.viewOf op).stores K k := by
    rw [hview]
    exact not_false
  rcases hdoes with ⟨current, hfind, hcurrent, rfl, hfind', hattempts'⟩ | ⟨hrefused, rfl, rfl⟩
  · rw [hK.key_attempted] at hfind hfind'
    rw [hK.attemptKey_filed] at hattempts'
    subst hfind' hattempts'
    by_cases hk : K.key copy = k
    · subst hk
      have hcarries : ∃ claim', K.claim current = some claim' ∧ claim'.claimId = claimId :=
        Option.map_eq_some_iff.mp hcurrent
      obtain ⟨claim', hclaim', hid'⟩ := hcarries
      have hentry : (K.historyIn find attempts l (K.key copy)).entry = some (K.entry current) :=
        congrArg (Option.map K.entry) hfind
      have hlease : (K.entry current).lease = some claim'.lease := by
        rw [hK.entry_lease, hclaim']
        rfl
      have hsame : K.entry current = K.entry copy :=
        hfits.same _ _ hentry hlease (hid'.trans hid.symm)
      have hcopy : (K.entry copy).lease = some claim.lease := by
        rw [hK.entry_lease, hclaim]
        rfl
      have hhistory : K.historyIn
          (Function.update find (K.key copy) (some (K.released (K.attempted copy result timestamp).1)))
          (Function.update attempts (K.key copy) (attempts (K.key copy) ++
            [K.filed id copy timestamp result (K.attempted copy result timestamp)]))
          (K.record op (.ok (some (K.released (K.attempted copy result timestamp).1))) l)
          (K.key copy) =
          (K.historyIn find attempts l (K.key copy)).complete maxAttempts (K.success result)
            (K.entry copy) claim.lease.id (K.released (K.attempted copy result timestamp).1) := by
        simp [Outbox.historyIn, Outbox.record, History.complete, hview, marks, stores,
          hK.key_attempted, hK.tried_filed, hK.entry_released _ _ _ hfits.waiting, ← hid,
          DispatchClaim.lease]
      rw [hhistory]
      refine .complete (K.success result) _ ?_ hfits.waiting hcopy hfits.granted
      rw [hentry, hsame]
    · rw [Outbox.historyIn_record find attempts _ hstores]
      · rw [Function.update_of_ne (Ne.symm hk), Function.update_of_ne (Ne.symm hk)]
        exact .stay _
      · rw [hview]
        simp [marks, hK.key_attempted, hk]
  · rw [Outbox.historyIn_record find' attempts' _ hstores]
    · exact .stay _
    · rw [hview]
      cases answer with
      | error fault => rfl
      | ok completed =>
        cases completed with
        | none => rfl
        | some r' => exact absurd rfl (hrefused r')

theorem save_step (hK : K.Lawful) {op : Effect Unit} {answer : Except Fault Unit} {r : ρ}
    (hview : K.viewOf op = .save r)
    (hdoes : (OutboxCall.save r).Does K now fresh find find' attempts attempts' answer)
    (hcovered : (OutboxCall.save r : OutboxCall ρ α Unit).Covered K tick find attempts l)
    (hseen : ∀ k r, find k = some r → l.seen k) (k : Uuid) :
    History.Step K.acknowledges maxAttempts now (K.historyIn find attempts l k)
      (K.historyIn find' attempts' (K.record op answer l) k) := by
  obtain ⟨rfl, rfl, rfl⟩ := hdoes
  have hmarks : (K.viewOf op).marks K (.ok ()) k = [] := by
    rw [hview]
    rfl
  by_cases hk : K.key r = k
  · subst hk
    rcases hcovered with ⟨id, hid, -, hnew, hentry⟩ | ⟨sent, hfind, hsent, hack⟩
    · rw [← hid] at hnew
      have hhistory : K.historyIn (Function.update find (K.key r) (some r)) attempts'
          (K.record op (.ok ()) l) (K.key r) =
          { K.historyIn find attempts' l (K.key r) with
            known := True, entry := some { data := r } } := by
        simp [Outbox.historyIn, Outbox.record, hview, marks, stores, hentry]
      rw [hhistory]
      exact .arrive r hnew
    · have hkey := hK.key_acknowledges sent r hack
      have hhistory : K.historyIn (Function.update find (K.key r) (some r)) attempts'
          (K.record op (.ok ()) l) (K.key r) =
          { K.historyIn find attempts' l (K.key r) with
            entry := some { K.entry sent with status := .acknowledged, data := r } } := by
        have hknown : l.seen (K.key r) := hseen _ _ (hkey ▸ hfind)
        simp [Outbox.historyIn, Outbox.record, hview, marks, stores, hknown,
          hK.entry_acknowledges sent r hack]
      rw [hhistory]
      refine .acknowledge ?_ hsent ?_
      · show (find (K.key r)).map K.entry = _
        rw [hkey, hfind]
        rfl
      · rw [hK.entry_data]
        exact hack
  · rw [Outbox.historyIn_record find attempts' hmarks]
    · rw [Function.update_of_ne (Ne.symm hk)]
      exact .stay _
    · rw [hview]
      exact hk

/-- A call that a worker or a handler may make takes each record one step further. -/
theorem history_step (hK : K.Lawful) {op : Effect γ} {answer : Except Fault γ}
    (hdoes : (K.viewOf op).Does K now fresh find find' attempts attempts' answer)
    (hfresh : ∀ i k, ∀ lease ∈ (K.historyIn find attempts l k).granted, lease.id ≠ fresh i)
    (hkey : ∀ {k r}, find k = some r → K.key r = k)
    (hseen : ∀ k r, find k = some r → l.seen k)
    (hcovered : (K.viewOf op).Covered K tick find attempts l) (k : Uuid) :
    History.Step K.acknowledges maxAttempts now (K.historyIn find attempts l k)
      (K.historyIn find' attempts' (K.record op answer l) k) := by
  have hrest : find' k = find k ∧ attempts' k = attempts k ∨ find' k = none ∧ attempts' k = [] →
      (K.viewOf op).marks K answer k = [] → ¬(K.viewOf op).stores K k →
      History.Step K.acknowledges maxAttempts now (K.historyIn find attempts l k)
        (K.historyIn find' attempts' (K.record op answer l) k) := by
    rintro (⟨hfind, hattempts⟩ | ⟨hfind, hattempts⟩) hmarks hstores
    · rw [Outbox.historyIn_record find attempts hmarks hstores, hfind,
        hattempts]
      exact .stay _
    · rw [Outbox.historyIn_record find attempts hmarks hstores, hfind,
        hattempts]
      exact .remove _
  cases hview : K.viewOf op with
  | claim request =>
    rw [hview] at hdoes
    exact claim_step hK hview hdoes hfresh k
  | complete r attempt claimId =>
    rw [hview] at hdoes hcovered
    exact complete_step hK hview hdoes hkey hcovered k
  | save r =>
    rw [hview] at hdoes hcovered
    exact save_step hK hview hdoes hcovered hseen k
  | note =>
    rw [hview] at hcovered
    exact hcovered.elim
  | get =>
    rw [hview] at hdoes hrest
    obtain ⟨rfl, rfl, -⟩ := hdoes
    exact hrest (.inl ⟨rfl, rfl⟩) rfl id
  | remove =>
    rw [hview] at hdoes hrest
    exact hrest (hdoes k) rfl id
  | other =>
    rw [hview] at hdoes hrest
    obtain ⟨rfl, rfl⟩ := hdoes
    exact hrest (.inl ⟨rfl, rfl⟩) rfl id

/-- The leases of a claim have identifiers drawn for it. -/
theorem drawn_of_marks {op : Effect γ} {answer : Except Fault γ}
    (hdoes : (K.viewOf op).Does K now fresh find find' attempts attempts' answer) {k : Uuid}
    {lease : Lease Uuid Time} (hmem : lease ∈ grantedIn ((K.viewOf op).marks K answer k)) :
    ∃ i, lease.id = fresh i := by
  cases hview : K.viewOf op with
  | claim request =>
    rw [hview] at hdoes hmem
    obtain ⟨-, copies, rfl, hids, -⟩ := hdoes
    cases hfound : copies.find? (fun copy => K.key copy = k) with
    | none => simp [marks, hfound, grantedIn] at hmem
    | some copy =>
      cases hclaim : K.claim copy with
      | none => simp [marks, hfound, hclaim, grantedIn] at hmem
      | some claim =>
        have hid : (K.claim copy).map DispatchClaim.claimId ∈
            copies.map (fun copy => (K.claim copy).map DispatchClaim.claimId) :=
          List.mem_map_of_mem (List.mem_of_find?_eq_some hfound)
        rw [hids, hclaim] at hid
        obtain ⟨i, -, hi⟩ := List.mem_map.mp hid
        have hlease : lease = claim.lease := by
          simpa [marks, hfound, hclaim, grantedIn, LeaseMark.lease] using hmem
        exact ⟨i, hlease ▸ (Option.some.inj hi).symm⟩
  | complete r attempt claimId =>
    rw [hview] at hmem
    cases answer with
    | error fault => cases hmem
    | ok completed =>
      cases completed with
      | none => cases hmem
      | some r' =>
        have hmem : lease ∈ grantedIn (if K.key r = k then [.completed claimId] else []) := hmem
        split_ifs at hmem <;> cases hmem
  | _ =>
    rw [hview] at hmem
    cases hmem

end Steps

/-! ### Worlds -/

section Worlds

variable {b : Backend} (K : Outbox ρ α R) [OutboxStore K b]

def Outbox.history (s : World b × OutboxLedger) : Uuid → History Uuid Time ρ :=
  K.historyIn (OutboxStore.find K s.1.store) (OutboxStore.attempts K s.1.store) s.2

/-- Every record is orderly, and no identifier of a record or of a lease is still to be drawn. -/
structure Outbox.Sound (env : Env) (s : World b × OutboxLedger) : Prop where
  orderly : ∀ k, (K.history s k).Orderly maxAttempts (env.clock s.1.tick)
  keyDrawn : ∀ id, s.2.seen (K.keyOf id) → DrawnBefore id s.1.tick
  leaseDrawn : ∀ k, ∀ lease ∈ (K.history s k).granted, DrawnBefore lease.id s.1.tick

def Outbox.Covered (s : World b × OutboxLedger) (op : Effect γ) : Prop :=
  (K.viewOf op).Covered K s.1.tick (OutboxStore.find K s.1.store)
    (OutboxStore.attempts K s.1.store) s.2

variable {K} {env : Env} {s : World b × OutboxLedger}

theorem effect_does (env : Env) (w : World b) (op : Effect γ) :
    (K.viewOf op).Does K (env.clock w.tick) (drawn w.tick) (OutboxStore.find K w.store)
      (OutboxStore.find K (env.after w op).store) (OutboxStore.attempts K w.store)
      (OutboxStore.attempts K (env.after w op).store) (env.answer w op) := by
  cases op with
  | repo op => exact OutboxStore.does op (env.clock w.tick) (drawn w.tick) w.store
  | _ => exact ⟨rfl, rfl⟩

theorem ne_drawn_of_drawnBefore {id : Uuid} {tick : ℕ} (h : DrawnBefore id tick) (i : ℕ) :
    id ≠ drawn tick i := by
  rintro rfl
  have hlt := h _ rfl
  simp at hlt

namespace Outbox.Sound

theorem seen (hs : K.Sound env s) {k : Uuid} {r : ρ}
    (hfind : OutboxStore.find K s.1.store k = some r) : s.2.seen k := by
  by_contra hunseen
  have hnone := ((hs.orderly k).unknown hunseen).1
  have hsome : (K.history s k).entry = some (K.entry r) := congrArg (Option.map K.entry) hfind
  rw [hnone] at hsome
  cases hsome

/-- What a call does to every record's history. -/
theorem history_step (hK : K.Lawful) (hs : K.Sound env s) {op : Effect γ}
    (hcovered : K.Covered s op) (k : Uuid) :
    History.Step K.acknowledges maxAttempts (env.clock s.1.tick) (K.history s k)
      (K.history (K.exec env op s).2 k) := by
  refine RouteShield.history_step hK (effect_does env s.1 op) (fun i k lease hlease => ?_)
    (fun hfind => OutboxStore.key_of_find hfind) (fun k r hfind => hs.seen hfind) hcovered k
  exact ne_drawn_of_drawnBefore (hs.leaseDrawn k lease hlease) i

/-- A covered call leaves every record sound, as long as the clock does not go back. -/
theorem step (hK : K.Lawful) (hs : K.Sound env s) {op : Effect γ} (hcovered : K.Covered s op)
    (hclock : env.clock s.1.tick ≤ env.clock (s.1.tick + 1)) : K.Sound env (K.exec env op s).2 where
  orderly k := ((hs.orderly k).step (by decide) (hs.history_step hK hcovered k)).mono hclock
  keyDrawn id hseen := by
    have hbefore : s.2.seen (K.keyOf id) ∨ (K.viewOf op).stores K (K.keyOf id) := hseen
    rcases hbefore with hbefore | hstores
    · exact (hs.keyDrawn id hbefore).mono (Nat.le_succ _)
    · unfold Outbox.Covered at hcovered
      cases hview : K.viewOf op with
      | save r =>
        rw [hview] at hcovered hstores
        have hkey : K.key r = K.keyOf id := hstores
        rcases hcovered with ⟨id', hid', hdrawn, -⟩ | ⟨sent, hfind, -, hack⟩
        · rw [hK.keyOf_injective (hkey.symm.trans hid')]
          exact hdrawn.mono (Nat.le_succ _)
        · rw [← hK.key_acknowledges sent r hack, hkey] at hfind
          exact (hs.keyDrawn id (hs.seen hfind)).mono (Nat.le_succ _)
      | _ =>
        rw [hview] at hstores
        cases hstores
  leaseDrawn k lease hlease := by
    have hmem : lease ∈ grantedIn (s.2.log k) ++
        grantedIn ((K.viewOf op).marks K (env.answer s.1 op) k) := by
      rw [← grantedIn_append]
      exact hlease
    rcases List.mem_append.mp hmem with hmem | hmem
    · exact (hs.leaseDrawn k lease hmem).mono (Nat.le_succ _)
    · obtain ⟨i, hi⟩ := drawn_of_marks (effect_does env s.1 op) hmem
      rw [hi]
      rintro n hn
      cases hn
      show (Nat.unpair (Nat.pair s.1.tick i)).1 < s.1.tick + 1
      rw [Nat.unpair_pair]
      exact Nat.lt_succ_self _

end Outbox.Sound

end Worlds

end RouteShield
