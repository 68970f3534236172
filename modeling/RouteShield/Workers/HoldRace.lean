import RouteShield.Api.HoldRuns
import RouteShield.Lib.Pool

/-!
The deletion worker beside creations and releases of holds. The worker checks the holds at the
time at which its run began and erases in a later call. An erasure meets no hold as long as no
creation stores an active hold, between a worker's check of a traveler and its erasure, that
covers the traveler, and every hold lands in its own tenant's column.
-/

namespace RouteShield

/-- The hold is on the tenant, on the traveler, or on one of the traveler's trips. -/
def LegalHoldRecord.Covers (trips : Set Trip) (tenantId travelerId : String)
    (hold : LegalHoldRecord) : Prop :=
  hold.tenantId = tenantId ∧
    (hold.scope = .tenant ∨ (hold.scope = .traveler ∧ hold.travelerId = some travelerId) ∨
      (hold.scope = .trip ∧ ∃ trip ∈ trips, trip.tenantId = tenantId ∧
        trip.travelerId = travelerId ∧ hold.tripId = some trip.tripId))

/-- A hold that covers a traveler does so beside more trips. -/
theorem LegalHoldRecord.Covers.mono {trips trips' : Set Trip} {tenantId travelerId : String}
    {hold : LegalHoldRecord} (h : hold.Covers trips tenantId travelerId) (hsub : trips ⊆ trips') :
    hold.Covers trips' tenantId travelerId := by
  obtain ⟨htenant, hscope⟩ := h
  refine ⟨htenant, ?_⟩
  rcases hscope with hall | htraveler | ⟨htrip, trip, hmem, hrest⟩
  · exact .inl hall
  · exact .inr (.inl htraveler)
  · exact .inr (.inr ⟨htrip, trip, hsub hmem, hrest⟩)

/-- A hold that is active is active at every earlier time. -/
theorem LegalHoldRecord.isActive_of_le {hold : LegalHoldRecord} {time now : Time}
    (h : hold.isActive now = true) (hle : time ≤ now) : hold.isActive time = true := by
  simp only [LegalHoldRecord.isActive, decide_eq_true_eq] at h ⊢
  exact ⟨h.1, fun expiresAt hexp => hle.trans_lt (h.2 expiresAt hexp)⟩

/-- A backend whose check finds the active holds that cover a traveler. -/
class HoldChecks (b : Backend) [Framed b] [Registers b] where
  trips : b.State → Set Trip
  trips_congr : ∀ {s s' : b.State}, Framed.only s' .trips = Framed.only s .trips → trips s' = trips s
  trips_erase : ∀ (tenantId travelerId : String) (scope : DeletionRequestScope) (now : Time)
    (fresh : ℕ → Uuid) (s : b.State),
    trips (b.exec (.eraseTravelerData tenantId travelerId scope) now fresh s).2 ⊆ trips s
  check : ∀ {s : b.State}, Registers.holds.Sound s → ∀ (tenantId travelerId : String)
    (timestamp : Option Time) (now : Time) (fresh : ℕ → Uuid), ∃ holds,
    b.exec (.activeLegalHoldsForTraveler tenantId travelerId timestamp) now fresh s =
        (.ok holds, s) ∧
      ∀ id hold, Registers.holds.find s id = some hold → hold.isActive (timestamp.getD now) = true →
        hold.Covers (trips s) tenantId travelerId → hold ∈ holds

/-- What the filter of both repositories keeps. -/
theorem LegalHoldRecord.Covers.kept {tenantId travelerId : String} {hold : LegalHoldRecord}
    {trips : List Trip} {now : Time} (h : hold.Covers {trip | trip ∈ trips} tenantId travelerId)
    (hactive : hold.isActive now = true) :
    hold.isActive now ∧ (hold.scope = .tenant ∨
      (hold.scope = .traveler ∧ hold.travelerId = some travelerId) ∨
      (hold.scope = .trip ∧ ∃ tripId ∈ hold.tripId, tripId ∈ (trips.filter
        (fun trip => trip.tenantId = tenantId ∧ trip.travelerId = travelerId)).map Trip.tripId)) := by
  refine ⟨hactive, ?_⟩
  rcases h.2 with hall | htraveler | ⟨hscope, trip, hmem, htenant, htraveler, htrip⟩
  · exact .inl hall
  · exact .inr (.inl htraveler)
  · refine .inr (.inr ⟨hscope, trip.tripId, htrip, List.mem_map_of_mem ?_⟩)
    exact List.mem_filter.mpr ⟨hmem, by simp [htenant, htraveler]⟩

instance : HoldChecks .memory where
  trips s := {trip | trip ∈ s.trips.rows}
  trips_congr h := by
    have h' := congrArg (fun s : InMemoryRepository Response => {trip | trip ∈ s.trips.rows}) h
    exact h'
  trips_erase tenantId travelerId scope now fresh s := by
    intro trip htrip
    have htrip : trip ∈ (s.eraseTravelerData tenantId travelerId scope).2.trips.rows := htrip
    unfold InMemoryRepository.eraseTravelerData at htrip
    dsimp only at htrip
    split_ifs at htrip
    · exact htrip
    · exact (List.mem_filter.mp htrip).1
  check := by
    intro s _ tenantId travelerId timestamp now fresh
    refine ⟨_, rfl, fun id hold hfind hactive hcovers => ?_⟩
    refine List.mem_filter.mpr ⟨?_, decide_eq_true (hcovers.kept hactive)⟩
    have hstored := ((Table.find?_eq_some _).mp hfind).1
    exact List.mem_mergeSort.mpr (List.mem_filter.mpr ⟨hstored, decide_eq_true hcovers.1⟩)

instance : HoldChecks .postgres where
  trips s := {trip | trip ∈ s.listTrips}
  trips_congr h := by
    have h' := congrArg (fun s : PostgresRepository Response => {trip | trip ∈ s.listTrips}) h
    exact h'
  trips_erase tenantId travelerId scope now fresh s := by
    intro trip htrip
    have htrip : trip ∈ (s.eraseTravelerData tenantId travelerId scope).2.listTrips := htrip
    unfold PostgresRepository.eraseTravelerData at htrip
    dsimp only at htrip
    split_ifs at htrip
    · exact htrip
    · obtain ⟨row, hrow, rfl⟩ := List.mem_map.mp htrip
      have hkept : row ∈ s.trips.rows := (List.mem_filter.mp hrow).1
      show row.payload.stripped ∈ s.trips.rows.map (fun row => row.payload.stripped)
      exact List.mem_map_of_mem hkept
  check := by
    intro s hs tenantId travelerId timestamp now fresh
    refine ⟨_, rfl, fun id hold hfind hactive hcovers => ?_⟩
    refine List.mem_filter.mpr ⟨?_, decide_eq_true (hcovers.kept hactive)⟩
    obtain ⟨row, hrow, rfl⟩ := Option.map_eq_some_iff.mp hfind
    have hstored := ((Table.find?_eq_some _).mp hrow).1
    have hcolumn : row.tenantId = tenantId := (hs row hstored).trans hcovers.1
    refine List.mem_mergeSort.mpr (List.mem_map_of_mem ?_)
    exact List.mem_filter.mpr ⟨hstored, decide_eq_true hcolumn⟩

/-! ### The calls of the parties -/

/-- Who takes part: a run of the worker, a creation or a release. -/
inductive DeletionParty where
  | worker
  | create (caller : Caller) (body : LegalHoldBody)
  | release (caller : Caller) (legalHoldId : Uuid) (reason : String)

def DeletionParty.start (svc : Service) : DeletionParty → Api Unit
  | .worker => Api.handle svc .processPrivacyDeletionRequests
  | .create caller body => Api.handle svc (.createLegalHold caller body)
  | .release caller legalHoldId reason => Api.handle svc (.releaseLegalHold caller legalHoldId reason)

section Calls

variable {α : Type}

/-- The call erases the traveler's data. -/
def Erases (tenantId travelerId : String) : {α : Type} → Effect α → Prop
  | _, .repo (.eraseTravelerData tenantId' travelerId' _) =>
    tenantId' = tenantId ∧ travelerId' = travelerId
  | _, _ => False

def Effect.erased : {α : Type} → Effect α → Option (String × String)
  | _, .repo (.eraseTravelerData tenantId travelerId _) => some (tenantId, travelerId)
  | _, _ => none

theorem erased_eq_iff {tenantId travelerId : String} {op : Effect α} :
    op.erased = some (tenantId, travelerId) ↔ Erases tenantId travelerId op := by
  unfold Effect.erased Erases
  split <;> simp

instance (tenantId travelerId : String) (op : Effect α) :
    Decidable (Erases tenantId travelerId op) := decidable_of_iff _ erased_eq_iff

def Effect.savedHold : {α : Type} → Effect α → Option LegalHoldRecord
  | _, .repo (.saveLegalHold hold) => some hold
  | _, _ => none

def SavesHold (hold : LegalHoldRecord) (op : Effect α) : Prop := op.savedHold = some hold

instance (op : Effect α) : Decidable (∃ hold, SavesHold hold op) :=
  decidable_of_iff (op.savedHold.isSome = true) Option.isSome_iff_exists

end Calls

/-- The time read last, and the traveler for whom the last call found no hold at that time. -/
structure CheckPhase where
  readAt : Option Time := none
  cleared : Option (String × String) := none

def CheckPhase.advance (φ : CheckPhase) : {α : Type} → Effect α → Except Fault α → CheckPhase
  | _, .now, .ok time => ⟨some time, none⟩
  | _, .repo (.activeLegalHoldsForTraveler tenantId travelerId (some timestamp)), .ok [] =>
    { φ with cleared := if φ.readAt = some timestamp then some (tenantId, travelerId) else none }
  | _, _, _ => { φ with cleared := none }

/-- A traveler is erased right after a check at the time read last, and no other call writes
trips. -/
def checkContract : Prog.Contract Effect Fault CheckPhase where
  allowed φ {_} op := match op with
    | .repo (.eraseTravelerData tenantId travelerId _) => φ.cleared = some (tenantId, travelerId)
    | op => .trips ∉ op.writes
  promised _ {_} _ _ := True
  advance φ {_} op r := φ.advance op r
  stop _ := True

namespace Api

open Prog hiding pure

variable {svc : Service}

theorem allowed_of_writes {α : Type} {op : Effect α} (h : .trips ∉ op.writes) (φ : CheckPhase) :
    checkContract.allowed φ op := by
  cases op with
  | repo op =>
    cases op with
    | eraseTravelerData tenantId travelerId scope =>
      exact absurd (by decide : .trips ∈ erasedCollections) h
    | _ => exact h
  | _ => exact h

/-- A handler that leaves the trips. -/
theorem Writes.follows_check {α : Type} {p : Api α} {cs : List Collection} (hp : Writes cs p)
    (htrips : .trips ∉ cs) (φ : CheckPhase) : p.Follows checkContract (fun _ _ => True) φ :=
  hp.only.follows (fun φ _ hop => allowed_of_writes (fun h => htrips (hop _ h)) φ)
    (fun _ => trivial) (fun _ _ => trivial) φ

theorem saveDeletionRequest_follows {timestamp : Time} {φ : CheckPhase} (request : DeletionRequest)
    (hφ : φ.readAt = some timestamp) :
    (repo (.saveDeletionRequest request)).Follows checkContract
      (fun φ' _ => φ'.readAt = some timestamp) φ :=
  follows_perform (by decide : .trips ∉ [Collection.deletionRequests]) (fun _ _ => hφ)
    fun _ _ => trivial

/-- The worker's loop erases after its check, and keeps the time it was given. -/
theorem processDeletionRequest_follows {timestamp : Time} (request : DeletionRequest)
    {φ : CheckPhase} (hφ : φ.readAt = some timestamp) :
    (processDeletionRequest timestamp request).Follows checkContract
      (fun φ' _ => φ'.readAt = some timestamp ∧ True) φ := by
  have hsaved : ∀ (request : DeletionRequest) (counts : DeletionCounts) (φ' : CheckPhase),
      φ'.readAt = some timestamp →
        (repo (.saveDeletionRequest request) >>= fun _ => pure (request, counts)).Follows
          checkContract (fun φ'' _ => φ''.readAt = some timestamp ∧ True) φ' :=
    fun request counts φ' hφ' => follows_bind (saveDeletionRequest_follows request hφ')
      fun _ _ h => ⟨h, trivial⟩
  unfold processDeletionRequest
  refine follows_seq (follows_perform List.not_mem_nil (fun holds _ => ?_) fun _ _ => trivial)
  split
  next hnone =>
    subst hnone
    have hcleared : (φ.advance (.repo (.activeLegalHoldsForTraveler request.tenantId
        request.travelerId (some timestamp))) (.ok [])).cleared =
          some (request.tenantId, request.travelerId) := if_pos hφ
    refine ⟨hcleared, fun r _ => ?_⟩
    cases r with
    | ok deleted => exact hsaved _ deleted _ hφ
    | error fault => exact hsaved _ [] _ hφ
  next hsome =>
    refine hsaved _ [] _ ?_
    cases holds with
    | nil => exact absurd rfl hsome
    | cons hold holds => exact hφ

theorem writes_emitProcessed_only (request : DeletionRequest) (deleted : DeletionCounts) :
    Writes [.events] (emitProcessed request deleted) := by
  unfold emitProcessed
  grind

theorem processDeletions_follows (φ : CheckPhase) :
    processPrivacyDeletionRequestsJob.Follows checkContract (fun _ _ => True) φ := by
  have hemitted : ∀ processed : List (DeletionRequest × DeletionCounts),
      Writes [.events] (processed.forM (fun item => emitProcessed item.1 item.2) >>= fun _ =>
        pure (processed.map (fun item => item.1.status))) :=
    fun processed => writes_bind (writes_forM fun item => writes_emitProcessed_only _ _)
      fun _ => writes_pure _
  unfold processPrivacyDeletionRequestsJob processDueDeletionRequests
  refine follows_bind (P := fun _ _ => True) ?_
    fun φ' processed _ => (hemitted processed).follows_check (by decide) φ'
  refine follows_seq (follows_perform List.not_mem_nil (fun timestamp _ => ?_) fun _ _ => trivial)
  refine follows_seq (follows_perform List.not_mem_nil (fun requests _ => ?_) fun _ _ => trivial)
  refine follows_mono (follows_mapM (I := fun φ => φ.readAt = some timestamp)
    (fun request _ φ hφ => processDeletionRequest_follows request hφ) rfl) fun _ _ _ => trivial

theorem start_follows (svc : Service) (party : DeletionParty) (φ : CheckPhase) :
    (party.start svc).Follows checkContract (fun _ _ => True) φ := by
  cases party with
  | worker =>
    show (discard processPrivacyDeletionRequestsJob).Follows _ _ _
    exact follows_bind (processDeletions_follows φ) fun _ _ _ => trivial
  | create caller body =>
    exact (writes_handle (.createLegalHold caller body)).follows_check
      (by decide : .trips ∉ [Collection.holds, .events, .idempotency]) φ
  | release caller id reason =>
    exact (writes_handle (.releaseLegalHold caller id reason)).follows_check
      (by decide : .trips ∉ [Collection.holds, .events, .idempotency]) φ

end Api

/-! ### The race -/

variable {b : Backend} [Framed b] [Registers b] [HoldChecks b] {env : Env} {svc : Service}
  {w : World b} {tenantId travelerId : String}

/-- A stored hold is active and covers the traveler. -/
def World.Held (env : Env) (w : World b) (tenantId travelerId : String) : Prop :=
  ∃ id hold, Registers.holds.find w.store id = some hold ∧
    hold.isActive (env.clock w.tick) = true ∧
    hold.Covers (HoldChecks.trips w.store) tenantId travelerId

/-- The event disturbs no erasure: the clock does not go back, and a hold that is stored lands in
its own tenant's column and, if it is active, covers no traveler whose erasure comes next. -/
structure Undisturbed (env : Env) (pool : Pool Effect Fault (World b))
    (e : PoolEvent DeletionParty) : Prop where
  clock : env.clock pool.state.tick ≤ env.clock (pool.state.tick + 1)
  column : ∀ hold, pool.Calls (SavesHold hold) e →
    Registers.holds.Sound (env.exec (.repo (.saveLegalHold hold)) pool.state).2.store
  uncovered : ∀ hold, pool.Calls (SavesHold hold) e →
    hold.isActive (env.clock pool.state.tick) = true → ∀ p ∈ pool.threads,
      ∀ tenantId travelerId, p.Next (Erases tenantId travelerId) →
        ¬hold.Covers (HoldChecks.trips pool.state.store) tenantId travelerId

/-- The program follows the check contract, and a traveler that it erases next is not held. -/
def StandsChecked (env : Env) (p : Api Unit) (w : World b) : Prop :=
  ∃ φ : CheckPhase, p.Follows checkContract (fun _ _ => True) φ ∧
    (∀ time ∈ φ.readAt, time ≤ env.clock w.tick) ∧
    ∀ tenantId travelerId, p.Next (Erases tenantId travelerId) → ¬w.Held env tenantId travelerId

/-- Where an erasure comes next, the last call found no hold. -/
theorem cleared_of_next {p : Api Unit} {φ : CheckPhase}
    (hp : p.Follows checkContract (fun _ _ => True) φ) (h : p.Next (Erases tenantId travelerId)) :
    φ.cleared = some (tenantId, travelerId) := by
  cases p with
  | call op next =>
    cases op with
    | repo op =>
      cases op with
      | eraseTravelerData tenantId' travelerId' scope =>
        obtain ⟨rfl, rfl⟩ := h
        exact hp.1
      | _ => exact h.elim
    | _ => exact h.elim
  | _ => exact h.elim

theorem holds_of_savesHold {α : Type} {op : Effect α} (hsaves : ∀ hold, ¬SavesHold hold op) :
    .holds ∉ op.writes := by
  intro hmem
  cases op with
  | repo op =>
    cases op with
    | saveLegalHold hold => exact hsaves hold rfl
    | _ => simp [Effect.writes, RepoOp.writes, erasedCollections, purgedCollections] at hmem
  | _ => simp [Effect.writes] at hmem

/-- A call that saves no hold leaves a traveler held only if the traveler was. -/
theorem World.Held.of_after {α : Type} {op : Effect α} {φ : CheckPhase}
    (h : (env.after w op).Held env tenantId travelerId)
    (hclock : env.clock w.tick ≤ env.clock (w.tick + 1)) (hop : checkContract.allowed φ op)
    (hsaves : ∀ hold, ¬SavesHold hold op) : w.Held env tenantId travelerId := by
  obtain ⟨id, hold, hfind, hactive, hcovers⟩ := h
  have hholds : (env.after w op).only .holds = w.only .holds :=
    env.exec_only op w (holds_of_savesHold hsaves)
  have htrips : HoldChecks.trips (env.after w op).store ⊆ HoldChecks.trips w.store := by
    by_cases hmem : .trips ∈ op.writes
    · cases op with
      | repo op =>
        cases op with
        | eraseTravelerData tenantId' travelerId' scope =>
          exact HoldChecks.trips_erase tenantId' travelerId' scope _ _ w.store
        | _ => exact absurd hmem hop
      | _ => simp [Effect.writes] at hmem
    · exact (HoldChecks.trips_congr (env.exec_only op w hmem)).le
  rw [Register.find_of_only hholds] at hfind
  exact ⟨id, hold, hfind, LegalHoldRecord.isActive_of_le hactive hclock, hcovers.mono htrips⟩

/-- After a hold is saved a traveler is held only if the traveler was, or by that hold. -/
theorem World.Held.of_save {hold : LegalHoldRecord}
    (h : (env.after w (.repo (.saveLegalHold hold))).Held env tenantId travelerId)
    (hclock : env.clock w.tick ≤ env.clock (w.tick + 1)) :
    w.Held env tenantId travelerId ∨ (hold.isActive (env.clock w.tick) = true ∧
      hold.Covers (HoldChecks.trips w.store) tenantId travelerId) := by
  obtain ⟨id, found, hfind, hactive, hcovers⟩ := h
  have htrips : HoldChecks.trips (env.after w (.repo (.saveLegalHold hold))).store =
      HoldChecks.trips w.store :=
    HoldChecks.trips_congr (env.exec_only (.repo (.saveLegalHold hold)) w
      (by decide : .trips ∉ [Collection.holds]))
  have hsaved := Registers.holds.find_save hold (env.clock w.tick) (drawn w.tick) w.store
  have hfind : Function.update (Registers.holds.find w.store) hold.legalHoldId (some hold) id =
      some found := by
    rw [← hsaved]
    exact hfind
  rw [htrips] at hcovers
  have hearlier := LegalHoldRecord.isActive_of_le hactive hclock
  by_cases hid : id = hold.legalHoldId
  · rw [hid, Function.update_self] at hfind
    cases hfind
    exact .inr ⟨hearlier, hcovers⟩
  · rw [Function.update_of_ne hid] at hfind
    exact .inl ⟨id, found, hfind, hearlier, hcovers⟩

/-- The call of one program keeps every program standing. -/
theorem StandsChecked.other {pool : Pool Effect Fault (World b)} {α : Type} {i : ℕ}
    {op : Effect α} {next : Except Fault α → Api Unit} {φ : CheckPhase}
    (hevent : Undisturbed env pool (.step i)) (hi : pool.threads[i]? = some (.call op next))
    (hop : checkContract.allowed φ op) {p : Api Unit} (hp : p ∈ pool.threads)
    (h : StandsChecked env p pool.state) : StandsChecked env p (env.after pool.state op) := by
  obtain ⟨ψ, hfollows, hread, hheld⟩ := h
  refine ⟨ψ, hfollows, fun time ht => (hread time ht).trans hevent.clock, ?_⟩
  intro tenantId travelerId hnext hafter
  by_cases hsaves : ∃ hold, SavesHold hold op
  · obtain ⟨hold, hsave⟩ := hsaves
    cases op with
    | repo op =>
      cases op with
      | saveLegalHold hold' =>
        cases hsave
        rcases hafter.of_save hevent.clock with hbefore | ⟨hactive, hcovers⟩
        · exact hheld _ _ hnext hbefore
        · exact hevent.uncovered hold ⟨_, hi, rfl⟩ hactive p hp _ _ hnext hcovers
      | _ => cases hsave
    | _ => cases hsave
  · exact hheld _ _ hnext (hafter.of_after hevent.clock hop (not_exists.mp hsaves))

omit [Framed b] [Registers b] [HoldChecks b] in
theorem readAt_advance {α : Type} (op : Effect α) {φ : CheckPhase} {time : Time}
    (h : time ∈ (φ.advance op (env.exec op w).1).readAt) :
    time ∈ φ.readAt ∨ time = env.clock w.tick := by
  cases op with
  | now => exact .inr (Option.some.inj h).symm
  | repo op =>
    cases op with
    | activeLegalHoldsForTraveler tenantId travelerId timestamp =>
      generalize (env.exec _ w).1 = r at h
      rcases timestamp with _ | timestamp <;> rcases r with fault | (_ | ⟨hold, holds⟩) <;>
        exact .inl h
    | _ => exact .inl h
  | _ => exact .inl h

omit [Framed b] [Registers b] [HoldChecks b] in
/-- A traveler is cleared by a check that found no hold at the time read last. -/
theorem cleared_advance {α : Type} (op : Effect α) {φ : CheckPhase}
    (h : (φ.advance op (env.exec op w).1).cleared = some (tenantId, travelerId)) :
    ∃ timestamp ∈ φ.readAt,
      env.exec (.repo (.activeLegalHoldsForTraveler tenantId travelerId (some timestamp))) w =
        (.ok [], env.after w op) := by
  cases op with
  | repo op =>
    cases op with
    | activeLegalHoldsForTraveler tenantId' travelerId' timestamp =>
      generalize hr : (env.exec (.repo (.activeLegalHoldsForTraveler tenantId' travelerId'
        timestamp)) w).1 = r at h
      rcases timestamp with _ | timestamp
      · rcases r with fault | (_ | ⟨hold, holds⟩) <;> cases h
      · rcases r with fault | (_ | ⟨hold, holds⟩)
        · cases h
        · have h : (if φ.readAt = some timestamp then some (tenantId', travelerId') else none) =
            some (tenantId, travelerId) := h
          split_ifs at h with hread
          cases h
          exact ⟨timestamp, hread, Prod.ext hr rfl⟩
        · cases h
    | _ => cases h
  | _ => cases h

/-- A call leaves the program that makes it standing. -/
theorem StandsChecked.self {pool : Pool Effect Fault (World b)} {α : Type} {i : ℕ}
    {op : Effect α} {next : Except Fault α → Api Unit} {φ : CheckPhase}
    (hevent : Undisturbed env pool (.step i)) (hs : Registers.holds.Sound pool.state.store)
    (hfollows : (Prog.call op next).Follows checkContract (fun _ _ => True) φ)
    (hread : ∀ time ∈ φ.readAt, time ≤ env.clock pool.state.tick) :
    StandsChecked env (next (env.exec op pool.state).1) (env.after pool.state op) := by
  have hnext := hfollows.2 (env.exec op pool.state).1 trivial
  refine ⟨φ.advance op (env.exec op pool.state).1, hnext, ?_, ?_⟩
  · intro time htime
    rcases readAt_advance op htime with hbefore | rfl
    · exact (hread time hbefore).trans hevent.clock
    · exact hevent.clock
  · intro tenantId travelerId hcomes hafter
    obtain ⟨timestamp, htime, hchecked⟩ := cleared_advance op (cleared_of_next hnext hcomes)
    obtain ⟨holds, hcheck, hcomplete⟩ := HoldChecks.check hs tenantId travelerId (some timestamp)
      (env.clock pool.state.tick) (drawn pool.state.tick)
    have hanswer : Except.ok (ε := Fault) holds = .ok [] :=
      (congrArg Prod.fst hcheck).symm.trans (congrArg Prod.fst hchecked)
    have hstore : (env.after pool.state op).store = pool.state.store :=
      (congrArg (fun answer => answer.2.store) hchecked).symm.trans (congrArg Prod.snd hcheck)
    obtain ⟨id, hold, hfind, hactive, hcovers⟩ := hafter
    rw [hstore] at hfind hcovers
    have hearlier := LegalHoldRecord.isActive_of_le hactive
      ((hread timestamp htime).trans hevent.clock)
    have hmem := hcomplete id hold hfind hearlier hcovers
    rw [Except.ok.inj hanswer] at hmem
    exact List.not_mem_nil hmem

/-- Every program stands, and every hold sits in its own tenant's column. -/
def Checked (env : Env) (pool : Pool Effect Fault (World b)) : Prop :=
  pool.Stands (StandsChecked env) ∧ Registers.holds.Sound pool.state.store

/-- A party comes in with nobody cleared. -/
theorem standsChecked_start (party : DeletionParty) (w : World b) :
    StandsChecked env (party.start svc) w := by
  have hstart := Api.start_follows svc party {}
  refine ⟨{}, hstart, fun time htime => (by cases htime), fun tenantId travelerId hcomes => ?_⟩
  cases cleared_of_next hstart hcomes

omit [HoldChecks b] in
/-- A call that saves no hold leaves every hold in its column. -/
theorem sound_after {α : Type} {op : Effect α} (hs : Registers.holds.Sound w.store)
    (hop : .holds ∉ op.writes) : Registers.holds.Sound (env.after w op).store :=
  (Registers.holds.sound_congr (env.exec_only op w hop)).mpr hs

/-- What one event preserves. -/
theorem Checked.apply {pool : Pool Effect Fault (World b)} (hpool : Checked env pool)
    {e : PoolEvent DeletionParty} (hevent : Undisturbed env pool e) :
    Checked env (pool.apply env.exec (DeletionParty.start svc) e) := by
  obtain ⟨hstands, hs⟩ := hpool
  constructor
  · refine Pool.stands_apply hstands e (fun party => standsChecked_start party pool.state) ?_
    rintro γ i op next rfl hi ⟨φ, hfollows, hread, -⟩
    refine ⟨StandsChecked.self hevent hs hfollows hread, fun p hp hstand => ?_⟩
    exact hstand.other hevent hi hfollows.1 hp
  · cases e with
    | spawn party => exact hs
    | step i =>
      rcases Pool.stepThread_cases env.exec pool i with
        hsame | ⟨γ, op, next, hi, hstep⟩
      · show Registers.holds.Sound (pool.stepThread env.exec i).state.store
        rw [hsame]
        exact hs
      · show Registers.holds.Sound (pool.stepThread env.exec i).state.store
        rw [hstep]
        obtain ⟨φ, hfollows, -⟩ := hstands _ (List.mem_of_getElem? hi)
        by_cases hsaves : ∃ hold, SavesHold hold op
        · obtain ⟨hold, hsave⟩ := hsaves
          cases op with
          | repo op =>
            cases op with
            | saveLegalHold hold' =>
              cases hsave
              exact hevent.column hold ⟨_, hi, rfl⟩
            | _ => cases hsave
          | _ => cases hsave
        · exact sound_after hs (holds_of_savesHold (not_exists.mp hsaves))

/-- As long as no event disturbs an erasure, no traveler is erased while an active hold that is
stored covers the traveler, in any interleaving of the parties. -/
theorem erasure_meets_no_hold (svc : Service) (env : Env) (w : World b)
    (hw : Registers.holds.Sound w.store) (events : List (PoolEvent DeletionParty))
    (h : Meets (Pool.apply env.exec (DeletionParty.start svc)) (Undisturbed env) ⟨w, []⟩ events) :
    Meets (Pool.apply env.exec (DeletionParty.start svc))
      (fun pool e => ∀ tenantId travelerId, pool.Calls (Erases tenantId travelerId) e →
        ¬pool.state.Held env tenantId travelerId) ⟨w, []⟩ events := by
  refine Meets.of_inv (Checked env) (fun pool e hpool hevent => hpool.apply hevent) ?_
    ⟨fun p hp => absurd hp List.not_mem_nil, hw⟩ h
  intro pool e hpool tenantId travelerId hcalls
  cases e with
  | spawn party => exact hcalls.elim
  | step i =>
    obtain ⟨p, hp, hnext⟩ := hcalls
    obtain ⟨φ, -, -, hheld⟩ := hpool.1 p (List.mem_of_getElem? hp)
    exact hheld tenantId travelerId hnext

/-! ### A hold that comes between the check and the erasure -/

/-- A clock that stands still is never set back, and no save disturbs where there is none. -/
theorem Undisturbed.of_unsaved {pool : Pool Effect Fault (World b)} {e : PoolEvent DeletionParty}
    (hclock : env.clock pool.state.tick = env.clock (pool.state.tick + 1))
    (h : ¬pool.Calls (fun op => ∃ hold, SavesHold hold op) e) : Undisturbed env pool e := by
  have hnone : ∀ hold, ¬pool.Calls (SavesHold hold) e := by
    intro hold hsaves
    cases e with
    | spawn party => exact hsaves
    | step i =>
      obtain ⟨p, hp, hnext⟩ := hsaves
      refine h ⟨p, hp, ?_⟩
      cases p with
      | call op next => exact ⟨hold, hnext⟩
      | _ => exact hnext.elim
  exact ⟨hclock.le, fun hold hsaves => absurd hsaves (hnone hold),
    fun hold hsaves => absurd hsaves (hnone hold)⟩

/-- A service at which a traveler's deletion is requested. -/
def World.deletionRequested : World .memory where
  store :=
    { deletionRequests := Table.empty.put
        { deletionRequestId := .v5 "deletion", tenantId := "acme", travelerId := "ada",
          requestedBy := "ada", reason := "leaving", submittedAt := 0 } }

/-- The worker has read the clock, the pending requests and the holds. -/
def checkedEvents : List (PoolEvent DeletionParty) :=
  [.spawn .worker, .step 0, .step 0, .step 0]

/-- A traveler without a hold is erased. -/
theorem erasure_meets_no_hold_sample :
    ¬(runFrom (Pool.apply Env.still.exec (DeletionParty.start .plain))
      ⟨World.deletionRequested, []⟩ checkedEvents).state.Held .still "acme" "ada" := by
  have hquiet : Meets (Pool.apply Env.still.exec (DeletionParty.start .plain)) (Undisturbed .still)
      ⟨World.deletionRequested, []⟩ (checkedEvents ++ [.step 0]) := by
    refine ⟨.of_unsaved rfl ?_, .of_unsaved rfl ?_, .of_unsaved rfl ?_, .of_unsaved rfl ?_,
      .of_unsaved rfl ?_, trivial⟩ <;> decide +kernel
  have hmeets := erasure_meets_no_hold .plain .still World.deletionRequested trivial
    (checkedEvents ++ [.step 0]) hquiet
  rw [meets_append] at hmeets
  exact hmeets.2.1 "acme" "ada" (by decide +kernel)

/-- A hold that is created after the worker's check is stored and active when the worker
erases. -/
theorem held_traveler_erased :
    let pool := runFrom (Pool.apply Env.still.exec (DeletionParty.start .plain))
      ⟨World.deletionRequested, []⟩
      (checkedEvents ++ [.spawn (.create holdAdministrator adaHold), .step 1, .step 1])
    pool.Calls (Erases "acme" "ada") (.step 0 : PoolEvent DeletionParty) ∧
      pool.state.Held .still "acme" "ada" := by
  intro pool
  have hstored : (Registers.holds.find pool.state.store (.v5 "hold")).map
      (fun hold => (hold.tenantId, hold.scope, hold.travelerId, hold.isActive 0)) =
        some ("acme", .traveler, some "ada", true) := by decide +kernel
  obtain ⟨hold, hfind, hfields⟩ := Option.map_eq_some_iff.mp hstored
  obtain ⟨htenant, hscope, htraveler, hactive⟩ := by simpa only [Prod.mk.injEq] using hfields
  exact ⟨by decide +kernel, _, hold, hfind, hactive, htenant, .inr (.inl ⟨hscope, htraveler⟩)⟩

end RouteShield
