import Mathlib.Data.List.Nodup
import Mathlib.Data.List.Range
import Mathlib.Logic.Relation
import Mathlib.Order.Basic

/-!
An outbox whose records are attempted under leases. A record waits, and whoever attempts it
first takes a lease on it; a lease that ran out may be followed by another. An attempt is
committed only under the lease that the record carries. The history of one record has the
record, its attempts, and the leases granted and completed so far; it is orderly after any
steps, in whatever order the holders of the leases come back.
-/

namespace RouteShield

variable {κ τ δ : Type*}

/-- The right to attempt a record, until a time. -/
structure Lease (κ τ : Type*) where
  id : κ
  expiresAt : τ

/-- A dropped record was taken out before its attempts were used up. -/
inductive EntryStatus where
  | waiting | sent | failed | acknowledged | dropped
  deriving DecidableEq

/-- A record: how far its delivery has come, and all that it says. -/
structure Entry (κ τ δ : Type*) where
  data : δ
  status : EntryStatus := .waiting
  count : ℕ := 0
  lease : Option (Lease κ τ) := none

structure Try where
  number : ℕ
  success : Bool
  deriving DecidableEq

/-- A record that is attempted waits again while it fails below the limit. -/
def Entry.attempted (limit : ℕ) (success : Bool) (d : δ) (e : Entry κ τ δ) : Entry κ τ δ where
  data := d
  status := if success then .sent else if limit ≤ e.count + 1 then .failed else .waiting
  count := e.count + 1

inductive LeaseMark (κ τ : Type*) where
  | granted (lease : Lease κ τ)
  | completed (id : κ)

def LeaseMark.lease : LeaseMark κ τ → Option (Lease κ τ)
  | .granted lease => some lease
  | .completed _ => none

def LeaseMark.ended : LeaseMark κ τ → Option κ
  | .granted _ => none
  | .completed id => some id

/-- The leases of a log, in the order they were granted. -/
def grantedIn (log : List (LeaseMark κ τ)) : List (Lease κ τ) := log.filterMap LeaseMark.lease

def completedIn (log : List (LeaseMark κ τ)) : List κ := log.filterMap LeaseMark.ended

@[simp] theorem grantedIn_append (log log' : List (LeaseMark κ τ)) :
    grantedIn (log ++ log') = grantedIn log ++ grantedIn log' := List.filterMap_append

@[simp] theorem completedIn_append (log log' : List (LeaseMark κ τ)) :
    completedIn (log ++ log') = completedIn log ++ completedIn log' := List.filterMap_append

@[simp] theorem grantedIn_granted (lease : Lease κ τ) : grantedIn [.granted lease] = [lease] := rfl

@[simp] theorem grantedIn_completed (id : κ) :
    grantedIn [(.completed id : LeaseMark κ τ)] = [] := rfl

@[simp] theorem completedIn_granted (lease : Lease κ τ) : completedIn [.granted lease] = [] := rfl

@[simp] theorem completedIn_completed (id : κ) :
    completedIn [(.completed id : LeaseMark κ τ)] = [id] := rfl

/-- Each lease is completed once at most, and before another is granted. -/
def InTurn (log : List (LeaseMark κ τ)) : Prop :=
  ∀ past id future, log = past ++ .completed id :: future →
    (grantedIn past).getLast?.map Lease.id = some id ∧ id ∉ completedIn past

theorem InTurn.granted {log : List (LeaseMark κ τ)} (h : InTurn log) (lease : Lease κ τ) :
    InTurn (log ++ [.granted lease]) := by
  intro past id future heq
  rcases List.append_eq_append_iff.mp heq with ⟨rest, hpast, hrest⟩ | ⟨rest, hlog, hrest⟩
  · cases rest with
    | nil => cases hrest
    | cons mark rest =>
      obtain ⟨-, hnil⟩ := List.cons.inj hrest
      simp at hnil
  · cases rest with
    | nil => cases hrest
    | cons mark rest =>
      obtain ⟨rfl, -⟩ := List.cons.inj hrest
      exact h past id rest hlog

theorem InTurn.completed {log : List (LeaseMark κ τ)} (h : InTurn log) {id : κ}
    (hlast : (grantedIn log).getLast?.map Lease.id = some id) (hnew : id ∉ completedIn log) :
    InTurn (log ++ [.completed id]) := by
  intro past id' future heq
  rcases List.append_eq_append_iff.mp heq with ⟨rest, hpast, hrest⟩ | ⟨rest, hlog, hrest⟩
  · cases rest with
    | nil =>
      cases hrest
      rw [List.append_nil] at hpast
      subst hpast
      exact ⟨hlast, hnew⟩
    | cons mark rest =>
      obtain ⟨-, hnil⟩ := List.cons.inj hrest
      simp at hnil
  · cases rest with
    | nil =>
      cases hrest
      rw [List.append_nil] at hlog
      subst hlog
      exact ⟨hlast, hnew⟩
    | cons mark rest =>
      obtain ⟨rfl, -⟩ := List.cons.inj hrest
      exact h past id' rest hlog

/-- A record in the course of time; it is known once it was stored. -/
structure History (κ τ δ : Type*) where
  known : Prop
  entry : Option (Entry κ τ δ)
  tries : List Try := []
  log : List (LeaseMark κ τ) := []

namespace History

def granted (h : History κ τ δ) : List (Lease κ τ) := grantedIn h.log

def completed (h : History κ τ δ) : List κ := completedIn h.log

/-- The record is leased. -/
def grant (h : History κ τ δ) (e : Entry κ τ δ) (lease : Lease κ τ) (d : δ) : History κ τ δ :=
  { h with
    entry := some { e with lease := some lease, data := d }
    log := h.log ++ [.granted lease] }

/-- An attempt is committed, and its lease is over. -/
def complete (h : History κ τ δ) (limit : ℕ) (success : Bool) (e : Entry κ τ δ) (id : κ) (d : δ) :
    History κ τ δ :=
  { h with
    entry := some (e.attempted limit success d)
    tries := h.tries ++ [⟨e.count + 1, success⟩]
    log := h.log ++ [.completed id] }

@[simp] theorem granted_grant (h : History κ τ δ) (e : Entry κ τ δ) (lease : Lease κ τ) (d : δ) :
    (h.grant e lease d).granted = h.granted ++ [lease] := grantedIn_append _ _

@[simp] theorem completed_grant (h : History κ τ δ) (e : Entry κ τ δ) (lease : Lease κ τ)
    (d : δ) : (h.grant e lease d).completed = h.completed := by
  simp [completed, grant]

@[simp] theorem granted_complete (h : History κ τ δ) (limit : ℕ) (success : Bool) (e : Entry κ τ δ)
    (id : κ) (d : δ) : (h.complete limit success e id d).granted = h.granted := by
  simp [granted, complete]

@[simp] theorem completed_complete (h : History κ τ δ) (limit : ℕ) (success : Bool)
    (e : Entry κ τ δ) (id : κ) (d : δ) :
    (h.complete limit success e id d).completed = h.completed ++ [id] := completedIn_append _ _

variable [Preorder τ] {ack : δ → δ → Prop} {limit : ℕ} {now : τ} {h h' : History κ τ δ}

/-- What a call of anyone may do to one record; a record that was sent is acknowledged in the
given way. -/
inductive Step (ack : δ → δ → Prop) (limit : ℕ) (now : τ) : History κ τ δ → History κ τ δ → Prop
  | stay (h : History κ τ δ) : Step ack limit now h h
  | arrive {h : History κ τ δ} (d : δ) : ¬h.known →
      Step ack limit now h { h with known := True, entry := some { data := d } }
  | grant {h : History κ τ δ} {e : Entry κ τ δ} {lease : Lease κ τ} (d : δ) : h.entry = some e →
      e.status = .waiting → (∀ l ∈ e.lease, l.expiresAt ≤ now) →
      lease.id ∉ h.granted.map Lease.id →
      Step ack limit now h (h.grant e lease d)
  | complete {h : History κ τ δ} {e : Entry κ τ δ} {lease : Lease κ τ} (success : Bool) (d : δ) :
      h.entry = some e → e.status = .waiting → e.lease = some lease → lease ∈ h.granted →
      Step ack limit now h (h.complete limit success e lease.id d)
  | acknowledge {h : History κ τ δ} {e : Entry κ τ δ} {d : δ} : h.entry = some e →
      e.status = .sent → ack e.data d →
      Step ack limit now h { h with entry := some { e with status := .acknowledged, data := d } }
  | remove (h : History κ τ δ) : Step ack limit now h { h with entry := none, tries := [] }

/-- What holds of a record after any steps. -/
structure Orderly (limit : ℕ) (now : τ) (h : History κ τ δ) : Prop where
  unknown : ¬h.known → h.entry = none ∧ h.granted = []
  absent : h.entry = none → h.tries = []
  numbered : ∀ e, h.entry = some e → h.tries.map Try.number = List.range' 1 e.count
  waiting : ∀ e, h.entry = some e → e.status = .waiting →
    e.count < limit ∧ ∀ t ∈ h.tries, t.success = false
  failed : ∀ e, h.entry = some e → e.status = .failed →
    e.count = limit ∧ e.lease = none ∧ ∀ t ∈ h.tries, t.success = false
  sent : ∀ e, h.entry = some e → e.status = .sent ∨ e.status = .acknowledged →
    e.count ≤ limit ∧ e.lease = none ∧ ∃ t ∈ h.tries, t.success = true
  dropped : ∀ e, h.entry = some e → e.status = .dropped → e.count < limit ∧ e.lease = none
  leased : ∀ e lease, h.entry = some e → e.lease = some lease →
    lease.id ∉ h.completed ∧ (h.granted = [] ∨ h.granted.getLast? = some lease)
  fenced : ∀ e lease, h.entry = some e → h.granted.getLast? = some lease →
    e.lease = some lease ∨ lease.id ∈ h.completed
  spent : ∀ lease ∈ h.granted, lease.id ∈ h.completed ∨ lease.expiresAt ≤ now ∨
    h.granted.getLast? = some lease
  distinct : (h.granted.map Lease.id).Nodup
  granted_of_completed : ∀ id ∈ h.completed, id ∈ h.granted.map Lease.id
  inTurn : InTurn h.log

theorem Orderly.mono {now' : τ} (h' : h.Orderly limit now) (hle : now ≤ now') :
    h.Orderly limit now' where
  unknown := h'.unknown
  absent := h'.absent
  numbered := h'.numbered
  waiting := h'.waiting
  failed := h'.failed
  sent := h'.sent
  dropped := h'.dropped
  leased := h'.leased
  fenced := h'.fenced
  spent lease hlease := (h'.spent lease hlease).imp_right (Or.imp_left fun hexp => hexp.trans hle)
  distinct := h'.distinct
  granted_of_completed := h'.granted_of_completed
  inTurn := h'.inTurn

/-- A record that arrives has no attempts and no leases. -/
theorem Orderly.arrive (hlimit : 0 < limit) (h' : h.Orderly limit now) (hknown : ¬h.known)
    (d : δ) : Orderly limit now { h with known := True, entry := some { data := d } } := by
  obtain ⟨habsent, hgranted⟩ := h'.unknown hknown
  have htries := h'.absent habsent
  constructor
  · exact fun hfalse => absurd trivial hfalse
  · exact fun hnone => by cases hnone
  · rintro e ⟨⟩
    simp [htries]
  · rintro e ⟨⟩ hstatus
    exact ⟨hlimit, by simp [htries]⟩
  · rintro e ⟨⟩ ⟨⟩
  · rintro e ⟨⟩ (hstatus | hstatus) <;> cases hstatus
  · rintro e ⟨⟩ ⟨⟩
  · rintro e lease ⟨⟩ ⟨⟩
  · rintro e lease ⟨⟩ hlast
    have hlast : h.granted.getLast? = some lease := hlast
    rw [hgranted] at hlast
    cases hlast
  · exact h'.spent
  · exact h'.distinct
  · exact h'.granted_of_completed
  · exact h'.inTurn

/-- A lease that follows one that ran out is the only one that counts. -/
theorem Orderly.grant {e : Entry κ τ δ} {lease : Lease κ τ} (h' : h.Orderly limit now)
    (hentry : h.entry = some e) (hwaiting : e.status = .waiting)
    (hout : ∀ l ∈ e.lease, l.expiresAt ≤ now) (hfresh : lease.id ∉ h.granted.map Lease.id)
    (d : δ) : (h.grant e lease d).Orderly limit now := by
  constructor
  · intro hknown
    rw [(h'.unknown hknown).1] at hentry
    cases hentry
  · exact fun hnone => by cases hnone
  · rintro e' ⟨⟩
    exact h'.numbered e hentry
  · rintro e' ⟨⟩ hstatus
    exact h'.waiting e hentry hwaiting
  · rintro e' ⟨⟩ hstatus
    rw [show e.status = .failed from hstatus] at hwaiting
    cases hwaiting
  · rintro e' ⟨⟩ hstatus
    rcases hstatus with hstatus | hstatus <;>
    · rw [show e.status = _ from hstatus] at hwaiting
      cases hwaiting
  · rintro e' ⟨⟩ hstatus
    rw [show e.status = .dropped from hstatus] at hwaiting
    cases hwaiting
  · rintro e' lease' ⟨⟩ ⟨⟩
    rw [completed_grant, granted_grant]
    exact ⟨fun hdone => hfresh (h'.granted_of_completed _ hdone), .inr List.getLast?_concat⟩
  · rintro e' lease' ⟨⟩ hlast
    rw [granted_grant, List.getLast?_concat] at hlast
    exact .inl hlast
  · intro lease' hmem
    rw [granted_grant] at hmem ⊢
    rw [completed_grant]
    rcases List.mem_append.mp hmem with hmem | hmem
    · rcases h'.spent lease' hmem with hdone | hexp | hlast
      · exact .inl hdone
      · exact .inr (.inl hexp)
      · rcases h'.fenced e lease' hentry hlast with hlease | hdone
        · exact .inr (.inl (hout lease' hlease))
        · exact .inl hdone
    · rw [List.mem_singleton.mp hmem]
      exact .inr (.inr List.getLast?_concat)
  · rw [granted_grant, List.map_append, List.nodup_append']
    exact ⟨h'.distinct, List.nodup_singleton _, by simpa using hfresh⟩
  · intro id hdone
    rw [completed_grant] at hdone
    rw [granted_grant, List.map_append]
    exact List.mem_append_left _ (h'.granted_of_completed id hdone)
  · exact h'.inTurn.granted lease

/-- An attempt that is committed is the next one, and its lease is over. -/
theorem Orderly.complete {e : Entry κ τ δ} {lease : Lease κ τ} (h' : h.Orderly limit now)
    (success : Bool) (hentry : h.entry = some e) (hwaiting : e.status = .waiting)
    (hlease : e.lease = some lease) (hgranted : lease ∈ h.granted) (d : δ) :
    (h.complete limit success e lease.id d).Orderly limit now := by
  obtain ⟨hcount, hfailing⟩ := h'.waiting e hentry hwaiting
  constructor
  · intro hknown
    rw [(h'.unknown hknown).1] at hentry
    cases hentry
  · exact fun hnone => by cases hnone
  · rintro e' ⟨⟩
    show (h.tries ++ [Try.mk (e.count + 1) success]).map Try.number = List.range' 1 (e.count + 1)
    rw [List.map_append, h'.numbered e hentry, List.range'_concat, Nat.one_mul, Nat.add_comm 1]
    rfl
  · rintro e' ⟨⟩ hstatus
    unfold Entry.attempted at hstatus ⊢
    dsimp only at hstatus ⊢
    split_ifs at hstatus with hsuccess hlimit
    refine ⟨by omega, fun t ht => ?_⟩
    rcases List.mem_append.mp ht with ht | ht
    · exact hfailing t ht
    · rw [List.mem_singleton.mp ht]
      simpa using hsuccess
  · rintro e' ⟨⟩ hstatus
    unfold Entry.attempted at hstatus ⊢
    dsimp only at hstatus ⊢
    split_ifs at hstatus with hsuccess hlimit
    refine ⟨by omega, rfl, fun t ht => ?_⟩
    rcases List.mem_append.mp ht with ht | ht
    · exact hfailing t ht
    · rw [List.mem_singleton.mp ht]
      simpa using hsuccess
  · rintro e' ⟨⟩ hstatus
    refine ⟨hcount, rfl, ⟨e.count + 1, success⟩, List.mem_append_right _ List.mem_cons_self, ?_⟩
    unfold Entry.attempted at hstatus
    dsimp only at hstatus
    split_ifs at hstatus with hsuccess
    · exact hsuccess
    · rcases hstatus with hstatus | hstatus <;> cases hstatus
    · rcases hstatus with hstatus | hstatus <;> cases hstatus
  · rintro e' ⟨⟩ hstatus
    unfold Entry.attempted at hstatus
    dsimp only at hstatus
    split_ifs at hstatus
  · rintro e' lease' ⟨⟩ ⟨⟩
  · rintro e' lease' ⟨⟩ hlast
    rw [granted_complete] at hlast
    rw [completed_complete]
    rcases h'.fenced e lease' hentry hlast with hsame | hdone
    · rw [hlease] at hsame
      cases hsame
      exact .inr (List.mem_append_right _ List.mem_cons_self)
    · exact .inr (List.mem_append_left _ hdone)
  · intro lease' hmem
    rw [granted_complete] at hmem ⊢
    rw [completed_complete]
    exact (h'.spent lease' hmem).imp_left (List.mem_append_left _)
  · rw [granted_complete]
    exact h'.distinct
  · intro id hdone
    rw [completed_complete] at hdone
    rw [granted_complete]
    rcases List.mem_append.mp hdone with hdone | hdone
    · exact h'.granted_of_completed id hdone
    · rw [List.mem_singleton.mp hdone]
      exact List.mem_map_of_mem hgranted
  · obtain ⟨hopen, hnone | hlast⟩ := h'.leased e lease hentry hlease
    · rw [hnone] at hgranted
      cases hgranted
    · exact h'.inTurn.completed (congrArg (Option.map Lease.id) hlast) hopen

theorem Orderly.acknowledge {e : Entry κ τ δ} (h' : h.Orderly limit now) (hentry : h.entry = some e)
    (hsent : e.status = .sent) (d : δ) :
    Orderly limit now { h with entry := some { e with status := .acknowledged, data := d } } := by
  obtain ⟨hcount, hlease, hsuccess⟩ := h'.sent e hentry (.inl hsent)
  constructor
  · intro hknown
    rw [(h'.unknown hknown).1] at hentry
    cases hentry
  · exact fun hnone => by cases hnone
  · rintro e' ⟨⟩
    exact h'.numbered e hentry
  · rintro e' ⟨⟩ ⟨⟩
  · rintro e' ⟨⟩ ⟨⟩
  · rintro e' ⟨⟩ hstatus
    exact ⟨hcount, hlease, hsuccess⟩
  · rintro e' ⟨⟩ ⟨⟩
  · rintro e' lease ⟨⟩ hsome
    exact h'.leased e lease hentry hsome
  · rintro e' lease ⟨⟩ hlast
    exact h'.fenced e lease hentry hlast
  · exact h'.spent
  · exact h'.distinct
  · exact h'.granted_of_completed
  · exact h'.inTurn

theorem Orderly.remove (h' : h.Orderly limit now) :
    ({ h with entry := none, tries := [] } : History κ τ δ).Orderly limit now := by
  constructor
  · exact fun hknown => ⟨rfl, (h'.unknown hknown).2⟩
  · exact fun _ => rfl
  · rintro e ⟨⟩
  · rintro e ⟨⟩
  · rintro e ⟨⟩
  · rintro e ⟨⟩
  · rintro e ⟨⟩
  · rintro e lease ⟨⟩
  · rintro e lease ⟨⟩
  · exact h'.spent
  · exact h'.distinct
  · exact h'.granted_of_completed
  · exact h'.inTurn

/-- Every step keeps a record orderly. -/
theorem Orderly.step (hlimit : 0 < limit) (h' : h.Orderly limit now) {h₁ : History κ τ δ}
    (hstep : Step ack limit now h h₁) : h₁.Orderly limit now := by
  cases hstep with
  | stay => exact h'
  | arrive d hknown => exact h'.arrive hlimit hknown d
  | grant d hentry hwaiting hout hfresh => exact h'.grant hentry hwaiting hout hfresh d
  | complete success d hentry hwaiting hlease hgranted =>
    exact h'.complete success hentry hwaiting hlease hgranted d
  | acknowledge hentry hsent hack => exact h'.acknowledge hentry hsent _
  | remove => exact h'.remove

/-! ### What an orderly record gives -/

/-- Of two open leases one has run out, or they are the same. -/
theorem Orderly.eq_of_open (h' : h.Orderly limit now) {l l' : Lease κ τ} (hl : l ∈ h.granted)
    (hl' : l' ∈ h.granted) (hopen : l.id ∉ h.completed) (hopen' : l'.id ∉ h.completed)
    (hin : ¬l.expiresAt ≤ now) (hin' : ¬l'.expiresAt ≤ now) : l = l' := by
  have hlast := ((h'.spent l hl).resolve_left hopen).resolve_left hin
  have hlast' := ((h'.spent l' hl').resolve_left hopen').resolve_left hin'
  exact Option.some.inj (hlast.symm.trans hlast')

/-- A record has failed exactly when its attempts are used up and none of them succeeded. -/
theorem Orderly.failed_iff (h' : h.Orderly limit now) {e : Entry κ τ δ} (hentry : h.entry = some e) :
    e.status = .failed ↔ e.count = limit ∧ ∀ t ∈ h.tries, t.success = false := by
  constructor
  · intro hfailed
    obtain ⟨hcount, -, hfailing⟩ := h'.failed e hentry hfailed
    exact ⟨hcount, hfailing⟩
  · rintro ⟨hcount, hfailing⟩
    have hsent : ¬(e.status = .sent ∨ e.status = .acknowledged) := fun hsent => by
      obtain ⟨-, -, t, ht, hsuccess⟩ := h'.sent e hentry hsent
      rw [hfailing t ht] at hsuccess
      cases hsuccess
    cases hstatus : e.status with
    | waiting => exact absurd hcount (h'.waiting e hentry hstatus).1.ne
    | sent => exact absurd (.inl hstatus) hsent
    | failed => rfl
    | acknowledged => exact absurd (.inr hstatus) hsent
    | dropped => exact absurd hcount (h'.dropped e hentry hstatus).1.ne

theorem Orderly.count_le (h' : h.Orderly limit now) {e : Entry κ τ δ} (hentry : h.entry = some e) :
    e.count ≤ limit := by
  cases hstatus : e.status with
  | waiting => exact (h'.waiting e hentry hstatus).1.le
  | sent => exact (h'.sent e hentry (.inl hstatus)).1
  | failed => exact (h'.failed e hentry hstatus).1.le
  | acknowledged => exact (h'.sent e hentry (.inr hstatus)).1
  | dropped => exact (h'.dropped e hentry hstatus).1.le

/-! ### What lasts -/

/-- The history after any steps at any times. -/
def Later (ack : δ → δ → Prop) (limit : ℕ) : History κ τ δ → History κ τ δ → Prop :=
  Relation.ReflTransGen fun h h' => ∃ now, Step ack limit now h h'

/-- A copy that was leased is the record as long as the record carries that lease. -/
structure Fits (copy : Entry κ τ δ) (lease : Lease κ τ) (h : History κ τ δ) : Prop where
  waiting : copy.status = .waiting
  granted : lease ∈ h.granted
  same : ∀ e l, h.entry = some e → e.lease = some l → l.id = lease.id → e = copy

theorem Fits.step {copy : Entry κ τ δ} {lease : Lease κ τ} (hfits : Fits copy lease h)
    (hstep : Step ack limit now h h') : Fits copy lease h' := by
  obtain ⟨hwaiting, hgranted, hsame⟩ := hfits
  cases hstep with
  | stay => exact ⟨hwaiting, hgranted, hsame⟩
  | arrive d hknown => exact ⟨hwaiting, hgranted, by rintro e l ⟨⟩ ⟨⟩⟩
  | @grant e new d hentry _ _ hfresh =>
    refine ⟨hwaiting, ?_, ?_⟩
    · rw [granted_grant]
      exact List.mem_append_left _ hgranted
    · rintro e' l ⟨⟩ ⟨⟩ hid
      rw [hid] at hfresh
      exact absurd (List.mem_map_of_mem hgranted) hfresh
  | complete success d hentry _ _ _ =>
    refine ⟨hwaiting, ?_, by rintro e' l ⟨⟩ ⟨⟩⟩
    rw [granted_complete]
    exact hgranted
  | @acknowledge e d hentry hsent _ =>
    refine ⟨hwaiting, hgranted, ?_⟩
    rintro e' l ⟨⟩ hlease hid
    rw [hsame e l hentry hlease hid, hwaiting] at hsent
    cases hsent
  | remove => exact ⟨hwaiting, hgranted, by rintro e l ⟨⟩⟩

theorem Fits.later {copy : Entry κ τ δ} {lease : Lease κ τ} (hfits : Fits copy lease h)
    (hlater : Later ack limit h h') : Fits copy lease h' := by
  induction hlater with
  | refl => exact hfits
  | tail _ hstep ih =>
    obtain ⟨now, hstep⟩ := hstep
    exact ih.step hstep

/-- A record that waits no more stays as it is, is acknowledged once it was sent, or goes. -/
def Rests (ack : δ → δ → Prop) (e : Entry κ τ δ) (h h' : History κ τ δ) : Prop :=
  h'.log = h.log ∧ h'.known ∧
    (h'.entry = none ∨ h'.tries = h.tries ∧ (h'.entry = some e ∨
      e.status = .sent ∧ ∃ d, ack e.data d ∧
        h'.entry = some { e with status := .acknowledged, data := d }))

theorem Rests.step {e : Entry κ τ δ} {h₀ : History κ τ δ} (hended : e.status ≠ .waiting)
    (hrests : Rests ack e h₀ h) (hstep : Step ack limit now h h') : Rests ack e h₀ h' := by
  obtain ⟨hlog, hknown, hentry⟩ := hrests
  have hnotwaiting : ∀ e', h.entry = some e' → e'.status ≠ .waiting := by
    intro e' he'
    rcases hentry with hnone | ⟨-, hsame | ⟨-, d, -, hack⟩⟩
    · rw [hnone] at he'
      cases he'
    · rw [hsame] at he'
      cases he'
      exact hended
    · rw [hack] at he'
      cases he'
      nofun
  cases hstep with
  | stay => exact ⟨hlog, hknown, hentry⟩
  | arrive d hunknown => exact absurd hknown hunknown
  | grant d he hwaiting _ _ => exact absurd hwaiting (hnotwaiting _ he)
  | complete success d he hwaiting _ _ => exact absurd hwaiting (hnotwaiting _ he)
  | @acknowledge _ d he hsent hd =>
    refine ⟨hlog, hknown, ?_⟩
    rcases hentry with hnone | ⟨htries, hsame | ⟨hstatus, _, _, hack⟩⟩
    · rw [hnone] at he
      cases he
    · rw [hsame] at he
      cases he
      exact .inr ⟨htries, .inr ⟨hsent, d, hd, rfl⟩⟩
    · rw [hack] at he
      cases he
      cases hsent
  | remove => exact ⟨hlog, hknown, .inl rfl⟩

theorem Rests.later {e : Entry κ τ δ} (hended : e.status ≠ .waiting) (hknown : h.known)
    (hentry : h.entry = some e) (hlater : Later ack limit h h') : Rests ack e h h' := by
  induction hlater with
  | refl => exact ⟨rfl, hknown, .inr ⟨rfl, .inl hentry⟩⟩
  | tail _ hstep ih =>
    obtain ⟨now, hstep⟩ := hstep
    exact ih.step hended hstep

/-- A record that was stored and went does not come back. -/
theorem Later.gone (hlater : Later ack limit h h') (hknown : h.known) (hentry : h.entry = none) :
    h'.known ∧ h'.entry = none := by
  induction hlater with
  | refl => exact ⟨hknown, hentry⟩
  | tail _ hstep ih =>
    obtain ⟨now, hstep⟩ := hstep
    obtain ⟨hknown', hnone⟩ := ih
    cases hstep with
    | stay => exact ⟨hknown', hnone⟩
    | arrive d hunknown => exact absurd hknown' hunknown
    | grant d he => rw [hnone] at he; cases he
    | complete success d he => rw [hnone] at he; cases he
    | acknowledge he => rw [hnone] at he; cases he
    | remove => exact ⟨hknown', rfl⟩

end History

end RouteShield
