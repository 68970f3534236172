import RouteShield.Api.Claims
import RouteShield.Lib.Pool

/-!
Grants beside other calls. A keyed request is known by its key, its scope and its hash. Once
its claim was granted the ledger has its record, and keeps it through every call but a purge;
as long as no claim of the key comes after the record has expired, no claim of the key is
granted again.
-/

namespace RouteShield

structure KeyedRequest where
  key : IdempotencyRecord.Key
  scope : String
  requestHash : String
  deriving DecidableEq

def Claim.request (claim : Claim) : KeyedRequest where
  key := claim.key
  scope := claim.scope
  requestHash := claim.requestHash

namespace IdempotencyLedger

variable {β : Type} {ledger ledger' : IdempotencyLedger β} {r : KeyedRequest} {claim : Claim}
  {now : Time}

/-- The record under the request's key is the request's own. -/
def Holds (ledger : IdempotencyLedger β) (r : KeyedRequest) (record : IdempotencyRecord β) : Prop :=
  ledger r.key = some record ∧ record.scope = r.scope ∧ record.requestHash = r.requestHash

/-- The request was granted before, and its record has expired. -/
def Lapsed (ledger : IdempotencyLedger β) (r : KeyedRequest) (now : Time) : Prop :=
  ∃ record, ledger.Holds r record ∧ record.expiresAt ≤ now

instance (ledger : IdempotencyLedger β) (r : KeyedRequest) (now : Time) :
    Decidable (ledger.Lapsed r now) :=
  decidable_of_iff (∃ record ∈ ledger r.key,
      (record.scope = r.scope ∧ record.requestHash = r.requestHash) ∧ record.expiresAt ≤ now) <| by
    simp only [Lapsed, Holds, Option.mem_def, and_assoc]

/-- A record that has not lapsed is live. -/
theorem Holds.live {record : IdempotencyRecord β} (h : ledger.Holds r record)
    (hlapsed : ¬ledger.Lapsed r now) : ledger.live r.key now = some record := by
  have hlate : ¬record.expiresAt ≤ now := fun hle => hlapsed ⟨record, h, hle⟩
  exact live_eq_some.mpr ⟨h.1, not_le.mp hlate⟩

/-- The live record that a claim meets is its request's, unless there is a conflict. -/
theorem holds_of_live {record : IdempotencyRecord β} (h : ledger.live claim.key now = some record)
    (hanswer : claim.answer record ≠ .conflict) : ledger.Holds claim.request record := by
  refine ⟨(live_eq_some.mp h).1, ?_⟩
  by_contra hother
  refine hanswer (if_pos ?_)
  exact Decidable.not_and_iff_not_or_not.mp hother

end IdempotencyLedger

open IdempotencyLedger

section Steps

variable {ledger ledger' : IdempotencyLedger Response} {r : KeyedRequest} {claim : Claim} {now : Time}
  {answer : Except Fault (IdempotencyDisposition × MutationRecord)}

/-- A granted claim leaves its request's record. -/
theorem ClaimStep.granted {record : MutationRecord}
    (h : ClaimStep ledger claim now (.ok (.execute, record)) ledger') :
    ∃ record', ledger'.Holds claim.request record' := by
  obtain ⟨hanswer, hledger, -⟩ := h
  have hlive : ledger.live claim.key now = none := by
    cases hlive : ledger.live claim.key now with
    | none => rfl
    | some current =>
      simp only [IdempotencyLedger.claimAnswer, hlive, Prod.mk.injEq] at hanswer
      exact absurd hanswer.1.symm (claim.answer_ne_execute current)
  refine ⟨claim.record now, ?_, rfl, rfl⟩
  rw [hledger]
  simp [IdempotencyLedger.claim, hlive, Claim.request]

/-- A claim leaves a record that has not lapsed. -/
theorem ClaimStep.holds (h : ClaimStep ledger claim now answer ledger') {record : MutationRecord}
    (hr : ledger.Holds r record) (hlapsed : claim.key = r.key → ¬ledger.Lapsed r now) :
    ledger'.Holds r record := by
  refine ⟨?_, hr.2⟩
  rw [← hr.1]
  cases answer with
  | ok answer =>
    rw [h.2.1]
    unfold IdempotencyLedger.claim
    by_cases hkey : claim.key = r.key
    · simp [hkey, hr.live (hlapsed hkey)]
    · split_ifs
      · rfl
      · exact Function.update_of_ne (Ne.symm hkey) _ _
  | error fault =>
    rcases h r.key with hsame | ⟨hkey, hlive, -⟩
    · exact hsame
    · rw [hr.live (hlapsed hkey.symm)] at hlive
      cases hlive

/-- A claim of the key of a record that has not lapsed is not granted. -/
theorem ClaimStep.refused (h : ClaimStep ledger claim now answer ledger') {record : MutationRecord}
    (hr : ledger.Holds r record) (hkey : claim.key = r.key) (hlapsed : ¬ledger.Lapsed r now)
    (granted : MutationRecord) : answer ≠ .ok (.execute, granted) := by
  rintro rfl
  have hanswer := h.1
  simp only [IdempotencyLedger.claimAnswer, hkey, hr.live hlapsed, Prod.mk.injEq] at hanswer
  exact claim.answer_ne_execute record hanswer.1.symm

/-- A completion leaves a record, or answers it. -/
theorem CompletionStep.holds {completion : Completion Response} {answer : Except Fault MutationRecord}
    (h : CompletionStep ledger completion now answer ledger') {record : MutationRecord}
    (hr : ledger.Holds r record) : ∃ record', ledger'.Holds r record' := by
  cases answer with
  | error fault => exact ⟨record, (show ledger' = ledger from h) ▸ hr⟩
  | ok answered =>
    obtain ⟨hanswer, hledger⟩ := h
    rw [hledger]
    by_cases hkey : r.key = completion.key
    · have hfound : ledger completion.key = some record := hkey ▸ hr.1
      have happly : completion.apply record now = answered := by
        simp only [IdempotencyLedger.completeAnswer, hfound, Option.map_eq_some_iff,
          Option.filter_eq_some_iff] at hanswer
        obtain ⟨record', ⟨hrecord, -⟩, happly⟩ := hanswer
        rw [Option.some.inj hrecord]
        exact happly
      refine ⟨answered, ?_, ?_⟩
      · simp [IdempotencyLedger.complete, hanswer, hkey]
      · rw [← happly]
        exact hr.2
    · refine ⟨record, ?_, hr.2⟩
      simp [IdempotencyLedger.complete, hanswer, Function.update_of_ne hkey, hr.1]

/-- A claim that is not a grant of the request leaves it without a record. -/
theorem ClaimStep.unheld (h : ClaimStep ledger claim now answer ledger')
    (hr : ∀ record, ¬ledger.Holds r record)
    (hgranted : ∀ record, answer = .ok (.execute, record) → claim.request ≠ r)
    (record : MutationRecord) : ¬ledger'.Holds r record := by
  intro hrecord
  cases answer with
  | error fault =>
    rcases h r.key with hsame | ⟨-, -, hnone⟩
    · exact hr record ⟨hsame ▸ hrecord.1, hrecord.2⟩
    · cases hnone.symm.trans hrecord.1
  | ok answer =>
    obtain ⟨hanswer, rfl, -⟩ := h
    cases hlive : ledger.live claim.key now with
    | some current =>
      have hsame : ledger.claim claim now = ledger := by simp [IdempotencyLedger.claim, hlive]
      exact hr record (hsame ▸ hrecord)
    | none =>
      have hexecute : answer = (.execute, claim.record now) := by
        simp [hanswer, IdempotencyLedger.claimAnswer, hlive]
      have hupdate : ledger.claim claim now =
          Function.update ledger claim.key (some (claim.record now)) := by
        simp [IdempotencyLedger.claim, hlive]
      rw [hupdate] at hrecord
      by_cases hkey : r.key = claim.key
      · obtain ⟨hfound, hscope, hhash⟩ := hrecord
        rw [hkey, Function.update_self, Option.some.injEq] at hfound
        subst hfound
        refine hgranted _ (congrArg Except.ok hexecute) ?_
        cases r
        cases hkey
        cases hscope
        cases hhash
        rfl
      · rw [Holds, Function.update_of_ne hkey] at hrecord
        exact hr record hrecord

/-- A completion leaves a request that has no record without one. -/
theorem CompletionStep.unheld {completion : Completion Response}
    {answer : Except Fault MutationRecord} (h : CompletionStep ledger completion now answer ledger')
    (hr : ∀ record, ¬ledger.Holds r record) (record : MutationRecord) :
    ¬ledger'.Holds r record := by
  intro hrecord
  cases answer with
  | error fault => exact hr record ((show ledger' = ledger from h) ▸ hrecord)
  | ok answered =>
    obtain ⟨hanswer, rfl⟩ := h
    by_cases hkey : r.key = completion.key
    · have hafter : answered = record := by
        have hfound := hrecord.1
        simpa [IdempotencyLedger.complete, hanswer, hkey] using hfound
      simp only [IdempotencyLedger.completeAnswer, Option.map_eq_some_iff,
        Option.filter_eq_some_iff] at hanswer
      obtain ⟨before, ⟨hbefore, -⟩, rfl⟩ := hanswer
      refine hr before ⟨hkey ▸ hbefore, ?_⟩
      rw [← hafter] at hrecord
      exact hrecord.2
    · refine hr record ⟨?_, hrecord.2⟩
      have hfound := hrecord.1
      simpa [IdempotencyLedger.complete, hanswer, Function.update_of_ne hkey] using hfound

end Steps

/-! ### Calls of programs side by side -/

def Effect.claim? : {α : Type} → Effect α → Option Claim
  | _, .repo (.claimIdempotency claim) => some claim
  | _, _ => none

def Effect.purges : {α : Type} → Effect α → Bool
  | _, .repo (.purgeExpired _) => true
  | _, _ => false

theorem purges_eq_false {α : Type} {op : Effect α} (h : .uploads ∉ op.writes) : op.purges = false := by
  cases op with
  | repo op =>
    cases op with
    | purgeExpired cutoffs => exact absurd (by decide : .uploads ∈ purgedCollections) h
    | _ => rfl
  | _ => rfl

/-- The claim of the request was granted. -/
def KeyedRequest.GrantedBy (r : KeyedRequest) : {α : Type} → Effect α → Except Fault α → Prop
  | _, .repo (.claimIdempotency claim), .ok (.execute, _) => claim.request = r
  | _, _, _ => False

/-- The claim that was granted, if the call is one. -/
def granted? : {α : Type} → Effect α → Except Fault α → Option Claim
  | _, .repo (.claimIdempotency claim), .ok (.execute, _) => some claim
  | _, _, _ => none

theorem granted?_iff {r : KeyedRequest} {α : Type} {op : Effect α} {answer : Except Fault α} :
    (granted? op answer).map Claim.request = some r ↔ r.GrantedBy op answer := by
  unfold granted? KeyedRequest.GrantedBy
  split <;> simp

instance (r : KeyedRequest) {α : Type} (op : Effect α) (answer : Except Fault α) :
    Decidable (r.GrantedBy op answer) := decidable_of_iff _ granted?_iff

variable {b : Backend} [Framed b] [ClaimStore b] {env : Env} {w : World b} {r : KeyedRequest}
  {α : Type}

/-- The step of the ledger behind a granted claim. -/
theorem KeyedRequest.GrantedBy.step {op : Effect α} (h : r.GrantedBy op (env.exec op w).1) :
    ∃ claim ∈ op.claim?, claim.request = r ∧ ∃ record, ClaimStep w.ledger claim (env.clock w.tick)
      (.ok (.execute, record)) (env.after w op).ledger := by
  cases op with
  | repo op =>
    cases op with
    | claimIdempotency claim =>
      have hstep := ClaimStore.claim claim (env.clock w.tick) (drawn w.tick) w.store
      rcases hcall : (b.exec (.claimIdempotency claim) (env.clock w.tick) (drawn w.tick)
        w.store).1 with fault | ⟨disposition, record⟩
      · change r.GrantedBy _ (b.exec (.claimIdempotency claim) _ _ w.store).1 at h
        rw [hcall] at h
        exact h.elim
      · change r.GrantedBy _ (b.exec (.claimIdempotency claim) _ _ w.store).1 at h
        rw [hcall] at h hstep
        cases disposition with
        | execute => exact ⟨claim, rfl, h, record, hstep⟩
        | replay | conflict | inProgress => exact h.elim
    | _ => exact h.elim
  | _ => exact h.elim

theorem World.holds_of_grantedBy {op : Effect α} (h : r.GrantedBy op (env.exec op w).1) :
    ∃ record, (env.after w op).ledger.Holds r record := by
  obtain ⟨claim, -, rfl, record, hstep⟩ := h.step
  exact hstep.granted

theorem World.not_grantedBy {record : MutationRecord} (hr : w.ledger.Holds r record) {op : Effect α}
    (hlapsed : ∀ claim ∈ op.claim?, claim.key = r.key →
      ¬w.ledger.Lapsed r (env.clock w.tick)) : ¬r.GrantedBy op (env.exec op w).1 := by
  intro h
  obtain ⟨claim, hclaim, rfl, granted, hstep⟩ := h.step
  exact hstep.refused hr rfl (hlapsed claim hclaim rfl) granted rfl

/-- A call other than a purge, and other than a claim that comes too late, leaves the request a
record. -/
theorem World.holds_after {record : MutationRecord} (hr : w.ledger.Holds r record) {op : Effect α}
    (hpurges : op.purges = false)
    (hlapsed : ∀ claim ∈ op.claim?, claim.key = r.key → ¬w.ledger.Lapsed r (env.clock w.tick)) :
    ∃ record', (env.after w op).ledger.Holds r record' := by
  by_cases hwrites : .idempotency ∈ op.writes
  · cases op with
    | repo op =>
      cases op with
      | claimIdempotency claim =>
        have hstep := ClaimStore.claim claim (env.clock w.tick) (drawn w.tick) w.store
        exact ⟨record, hstep.holds hr (hlapsed claim rfl)⟩
      | completeIdempotency completion =>
        have hstep := ClaimStore.complete completion (env.clock w.tick) (drawn w.tick) w.store
        exact hstep.holds hr
      | purgeExpired cutoffs => cases hpurges
      | _ => simp [Effect.writes, RepoOp.writes, erasedCollections] at hwrites
    | _ => simp [Effect.writes] at hwrites
  · refine ⟨record, ?_⟩
    have hsame : (env.after w op).ledger = w.ledger :=
      ClaimStore.ledger_congr (env.exec_only op w hwrites)
    rw [hsame]
    exact hr

/-- A call other than a purge and a grant of the request leaves it without a record. -/
theorem World.unheld_after (hr : ∀ record, ¬w.ledger.Holds r record) {op : Effect α}
    (hpurges : op.purges = false) (hgranted : ¬r.GrantedBy op (env.exec op w).1)
    (record : MutationRecord) : ¬(env.after w op).ledger.Holds r record := by
  by_cases hwrites : .idempotency ∈ op.writes
  · cases op with
    | repo op =>
      cases op with
      | claimIdempotency claim =>
        have hstep := ClaimStore.claim claim (env.clock w.tick) (drawn w.tick) w.store
        refine hstep.unheld hr (fun record' hanswer hrequest => hgranted ?_) record
        show r.GrantedBy _ (b.exec (.claimIdempotency claim) _ _ w.store).1
        rw [hanswer]
        exact hrequest
      | completeIdempotency completion =>
        have hstep := ClaimStore.complete completion (env.clock w.tick) (drawn w.tick) w.store
        exact hstep.unheld hr record
      | purgeExpired cutoffs => cases hpurges
      | _ => simp [Effect.writes, RepoOp.writes, erasedCollections] at hwrites
    | _ => simp [Effect.writes] at hwrites
  · have hsame : (env.after w op).ledger = w.ledger :=
      ClaimStore.ledger_congr (env.exec_only op w hwrites)
    rw [hsame]
    exact hr record

variable {ι : Type}

/-- A claim of the request's key, if the event makes one, does not find that the request was
granted before and its record has expired. -/
def ClaimsInTime (env : Env) (r : KeyedRequest) (pool : Pool Effect Fault (World b))
    (e : PoolEvent ι) : Prop :=
  ∀ claim, pool.Calls (fun op => op.claim? = some claim) e → claim.key = r.key →
    ¬pool.state.ledger.Lapsed r (env.clock pool.state.tick)

theorem ClaimsInTime.claim {pool : Pool Effect Fault (World b)} {i : ℕ} {op : Effect α}
    {next : Except Fault α → Api Unit} (h : ClaimsInTime env r pool (.step i : PoolEvent ι))
    (hi : pool.threads[i]? = some (.call op next)) (claim : Claim) (hclaim : claim ∈ op.claim?)
    (hkey : claim.key = r.key) : ¬pool.state.ledger.Lapsed r (env.clock pool.state.tick) :=
  h claim ⟨_, hi, hclaim⟩ hkey

end RouteShield
