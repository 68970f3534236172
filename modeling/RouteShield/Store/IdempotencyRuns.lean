import RouteShield.Store.Idempotency

/-!
Runs of claims and completions. Over calls that a record accepts, each store refines
the ledger, so every run gives the same answers in both. A granted claim keeps its key
until its record expires: time does not run backwards, and only an expired record is
replaced.
-/

namespace RouteShield

variable {β : Type}

inductive IdempotencyBackend where
  | memory | postgres
  deriving DecidableEq

inductive IdempotencyCall (β : Type) where
  | claim (claim : Claim)
  | complete (completion : Completion β)

inductive IdempotencyAnswer (β : Type) where
  | claimed (disposition : IdempotencyDisposition) (record : IdempotencyRecord β)
  | completed (record : IdempotencyRecord β)
  | failed (fault : Fault)
  deriving DecidableEq

def IdempotencyCall.key : IdempotencyCall β → IdempotencyRecord.Key
  | .claim c => c.key
  | .complete c => c.key

@[simp] theorem IdempotencyCall.key_claim (c : Claim) :
    (IdempotencyCall.claim c : IdempotencyCall β).key = c.key := rfl

@[simp] theorem IdempotencyCall.key_complete (c : Completion β) :
    (IdempotencyCall.complete c).key = c.key := rfl

/-- The arguments meet the field constraints of a record. -/
def IdempotencyCall.Valid : IdempotencyCall β → Prop
  | .claim c => (c.record 0 : IdempotencyRecord β).Valid
  | .complete c => 100 ≤ c.responseStatusCode ∧ c.responseStatusCode ≤ 599

/-- An answer up to the text of a `KeyError`. -/
def IdempotencyAnswer.forgetText : IdempotencyAnswer β → IdempotencyAnswer β
  | .failed (.key _) => .failed (.key "")
  | answer => answer

namespace IdempotencyBackend

def claimIdempotency : IdempotencyBackend → IdempotencyRecords β → Claim → Time →
    Except Fault (IdempotencyDisposition × IdempotencyRecord β) × IdempotencyRecords β
  | .memory => Memory.claimIdempotency
  | .postgres => Postgres.claimIdempotency

def completeIdempotency : IdempotencyBackend → IdempotencyRecords β → Completion β → Time →
    Except Fault (IdempotencyRecord β) × IdempotencyRecords β
  | .memory => Memory.completeIdempotency
  | .postgres => Postgres.completeIdempotency

def call (backend : IdempotencyBackend) (records : IdempotencyRecords β) (now : Time) :
    IdempotencyCall β → IdempotencyAnswer β × IdempotencyRecords β
  | .claim claim =>
    match backend.claimIdempotency records claim now with
    | (.ok (disposition, record), records') => (.claimed disposition record, records')
    | (.error fault, records') => (.failed fault, records')
  | .complete completion =>
    match backend.completeIdempotency records completion now with
    | (.ok record, records') => (.completed record, records')
    | (.error fault, records') => (.failed fault, records')

/-- The store after a sequence of timed calls. -/
def after (backend : IdempotencyBackend) (records : IdempotencyRecords β) :
    List (Time × IdempotencyCall β) → IdempotencyRecords β
  | [] => records
  | event :: events => backend.after (backend.call records event.1 event.2).2 events

/-- The answers along a sequence of timed calls. -/
def answers (backend : IdempotencyBackend) (records : IdempotencyRecords β) :
    List (Time × IdempotencyCall β) → List (IdempotencyAnswer β)
  | [] => []
  | event :: events =>
    (backend.call records event.1 event.2).1 ::
      backend.answers (backend.call records event.1 event.2).2 events

theorem after_append (backend : IdempotencyBackend) (records : IdempotencyRecords β)
    (events events' : List (Time × IdempotencyCall β)) :
    backend.after records (events ++ events') =
      backend.after (backend.after records events) events' := by
  induction events generalizing records with
  | nil => rfl
  | cons event events ih => exact ih _

end IdempotencyBackend

/-! ### The ledger's calls -/

namespace IdempotencyLedger

def answer (ledger : IdempotencyLedger β) (now : Time) : IdempotencyCall β → IdempotencyAnswer β
  | .claim claim => .claimed (ledger.claimAnswer claim now).1 (ledger.claimAnswer claim now).2
  | .complete completion =>
    match ledger.completeAnswer completion now with
    | some record => .completed record
    | none => .failed (.key "")

def step (ledger : IdempotencyLedger β) (now : Time) : IdempotencyCall β → IdempotencyLedger β
  | .claim claim => ledger.claim claim now
  | .complete completion => ledger.complete completion now

/-- A call touches its own key only. -/
theorem step_of_ne (ledger : IdempotencyLedger β) (now : Time) (call : IdempotencyCall β)
    {key : IdempotencyRecord.Key} (h : key ≠ call.key) : ledger.step now call key = ledger key := by
  cases call with
  | claim c =>
    change key ≠ c.key at h
    simp only [step, claim]
    split_ifs
    · rfl
    · exact Function.update_of_ne h _ _
  | complete c =>
    change key ≠ c.key at h
    simp only [step, complete]
    cases ledger.completeAnswer c now with
    | none => rfl
    | some record => exact Function.update_of_ne h _ _

/-- Before a record expires, its key keeps a record with the same expiry. -/
theorem step_live {ledger : IdempotencyLedger β} {now expiresAt : Time} {key : IdempotencyRecord.Key}
    (hnow : now < expiresAt) (h : ∃ record, ledger key = some record ∧ record.expiresAt = expiresAt)
    (call : IdempotencyCall β) :
    ∃ record, ledger.step now call key = some record ∧ record.expiresAt = expiresAt := by
  by_cases hk : key = call.key
  · subst hk
    obtain ⟨record, hrecord, rfl⟩ := h
    cases call with
    | claim c =>
      change ledger c.key = some record at hrecord
      have hlive : ledger.live c.key now = some record := live_eq_some.mpr ⟨hrecord, hnow⟩
      exact ⟨record, by simpa [step, claim, hlive] using hrecord, rfl⟩
    | complete c =>
      change ledger c.key = some record at hrecord
      simp only [step, complete]
      cases hdone : ledger.completeAnswer c now with
      | none => exact ⟨record, hrecord, rfl⟩
      | some done =>
        simp only [completeAnswer, hrecord, Option.map_eq_some_iff,
          Option.filter_eq_some_iff] at hdone
        obtain ⟨record', ⟨h', -⟩, rfl⟩ := hdone
        cases h'
        exact ⟨_, Function.update_self .., rfl⟩
  · rw [step_of_ne ledger now call hk]
    exact h

end IdempotencyLedger

/-! ### Each store refines the ledger -/

/-- Neither the time nor the kind of response matters to a new record's validity. -/
theorem Claim.valid_record {γ : Type} {claim : Claim} {now now' : Time}
    (h : (claim.record now : IdempotencyRecord β).Valid) :
    (claim.record now' : IdempotencyRecord γ).Valid := ⟨h.1, h.2, h.3, h.4, h.5⟩

theorem Completion.valid_apply {completion : Completion β} {record : IdempotencyRecord β} {now : Time}
    (h : record.Valid) (hstatus : 100 ≤ completion.responseStatusCode ∧
      completion.responseStatusCode ≤ 599) : (completion.apply record now).Valid :=
  ⟨h.1, h.2, h.3, h.4, fun code hcode => by
    cases (show some completion.responseStatusCode = some code from hcode)
    exact hstatus⟩

/-- Every stored record passes validation. -/
def IdempotencyRecords.AllValid (records : IdempotencyRecords β) : Prop :=
  ∀ record ∈ records, record.Valid

theorem allValid_empty : IdempotencyRecords.AllValid (Table.empty : IdempotencyRecords β) :=
  fun record h => absurd h (Table.notMem_empty record)

theorem IdempotencyRecords.allValid_iff (records : IdempotencyRecords β) :
    records.AllValid ↔ ∀ key record, records.find? key = some record → record.Valid :=
  ⟨fun h _ record hr => h record (records.find?_eq_some.mp hr).1,
    fun h record hr => h record.key record (records.find?_key hr)⟩

theorem IdempotencyLedger.step_valid {ledger : IdempotencyLedger β}
    (h : ∀ key record, ledger key = some record → record.Valid) (now : Time)
    {call : IdempotencyCall β} (hcall : call.Valid) (key : IdempotencyRecord.Key)
    (record : IdempotencyRecord β) (hr : ledger.step now call key = some record) : record.Valid := by
  by_cases hk : key = call.key
  · subst hk
    cases call with
    | claim c =>
      simp only [step, claim, IdempotencyCall.key_claim] at hr
      split_ifs at hr
      · exact h _ record hr
      · rw [Function.update_self] at hr
        cases hr
        exact Claim.valid_record (show (c.record 0 : IdempotencyRecord β).Valid from hcall)
    | complete c =>
      simp only [step, complete, IdempotencyCall.key_complete] at hr
      cases hdone : ledger.completeAnswer c now with
      | none => exact h _ record (by simpa [hdone] using hr)
      | some done =>
        simp only [hdone, Function.update_self, Option.some.injEq] at hr
        simp only [completeAnswer, Option.map_eq_some_iff, Option.filter_eq_some_iff] at hdone
        obtain ⟨old, ⟨hold, -⟩, rfl⟩ := hdone
        exact hr ▸ Completion.valid_apply (h _ old hold) hcall
  · rw [step_of_ne ledger now call hk] at hr
    exact h key record hr

/-- Storing a record updates the ledger at its key. -/
theorem find?_put_eq_update (records : IdempotencyRecords β) (record : IdempotencyRecord β) :
    (records.put record).find? = Function.update records.find? record.key (some record) := by
  funext key
  rw [Table.find?_put, Function.update_apply]

theorem find?_erase_put_eq_update (records : IdempotencyRecords β) (record : IdempotencyRecord β) :
    ((records.erase record.key).put record).find? =
      Function.update records.find? record.key (some record) := by
  funext key
  rw [Table.find?_put, Function.update_apply]
  split_ifs with h
  · rfl
  · rw [Table.find?_erase, if_neg h]

theorem Memory.claimIdempotency_valid (records : IdempotencyRecords β) (claim : Claim) (now : Time)
    (h : (claim.record now : IdempotencyRecord β).Valid) :
    (Memory.claimIdempotency records claim now).1 =
      .ok (IdempotencyLedger.claimAnswer records.find? claim now) ∧
    (Memory.claimIdempotency records claim now).2.find? =
      IdempotencyLedger.claim records.find? claim now := by
  unfold Memory.claimIdempotency IdempotencyLedger.claimAnswer IdempotencyLedger.claim
    IdempotencyLedger.live
  cases hlive : (records.find? claim.key).filter (fun record => now < record.expiresAt) with
  | none => simpa [h] using find?_erase_put_eq_update records (claim.record now)
  | some current => simp

theorem Postgres.claimIdempotency_valid (records : IdempotencyRecords β) (claim : Claim) (now : Time)
    (h : (claim.record now : IdempotencyRecord β).Valid) (hall : records.AllValid) :
    (Postgres.claimIdempotency records claim now).1 =
      .ok (IdempotencyLedger.claimAnswer records.find? claim now) ∧
    (Postgres.claimIdempotency records claim now).2.find? =
      IdempotencyLedger.claim records.find? claim now := by
  unfold Postgres.claimIdempotency IdempotencyLedger.claimAnswer IdempotencyLedger.claim
    IdempotencyLedger.live
  rw [if_pos h]
  have hput := find?_put_eq_update records (claim.record now)
  cases hfind : records.find? claim.key with
  | none => simpa using hput
  | some current =>
    have hcurrent : current.Valid := hall current (records.find?_eq_some.mp hfind).1
    by_cases hexpired : current.expiresAt ≤ now
    · have hnot : ¬ now < current.expiresAt := not_lt.mpr hexpired
      simpa [hcurrent, hexpired, hnot, Option.filter] using hput
    · have hlt : now < current.expiresAt := not_le.mp hexpired
      simp [hcurrent, hexpired, hlt, Option.filter]

theorem completeIdempotency_valid (backend : IdempotencyBackend) (records : IdempotencyRecords β)
    (completion : Completion β) (now : Time) (hall : records.AllValid) :
    (match IdempotencyLedger.completeAnswer records.find? completion now with
      | some record => (backend.completeIdempotency records completion now).1 = .ok record
      | none => ∃ text, (backend.completeIdempotency records completion now).1 = .error (.key text)) ∧
    (backend.completeIdempotency records completion now).2.find? =
      IdempotencyLedger.complete records.find? completion now := by
  unfold IdempotencyLedger.complete IdempotencyLedger.completeAnswer
  cases hfind : records.find? completion.key with
  | none =>
    cases backend <;>
      simp [IdempotencyBackend.completeIdempotency, Memory.completeIdempotency,
        Postgres.completeIdempotency, hfind]
  | some record =>
    obtain ⟨hmem, hkey⟩ := records.find?_eq_some.mp hfind
    have hvalid : record.Valid := hall record hmem
    have hput := find?_put_eq_update records (completion.apply record now)
    rw [Completion.key_apply, hkey] at hput
    by_cases hhash : record.requestHash = completion.requestHash
    · cases backend <;>
        simp [IdempotencyBackend.completeIdempotency, Memory.completeIdempotency,
          Postgres.completeIdempotency, hfind, hhash, hvalid, Option.filter, hput]
    · cases backend <;>
        simp [IdempotencyBackend.completeIdempotency, Memory.completeIdempotency,
          Postgres.completeIdempotency, hfind, hhash, hvalid, Option.filter]

/-- One call of either store, seen through its lookups, is the ledger's call. -/
theorem IdempotencyBackend.call_refines (backend : IdempotencyBackend)
    {records : IdempotencyRecords β} (hall : records.AllValid) (now : Time)
    {call : IdempotencyCall β} (hcall : call.Valid) :
    (backend.call records now call).1.forgetText = IdempotencyLedger.answer records.find? now call ∧
    (backend.call records now call).2.find? = IdempotencyLedger.step records.find? now call := by
  cases call with
  | claim c =>
    have hvalid : (c.record now : IdempotencyRecord β).Valid :=
      Claim.valid_record (show (c.record 0 : IdempotencyRecord β).Valid from hcall)
    have hclaim : (backend.claimIdempotency records c now).1 =
          .ok (IdempotencyLedger.claimAnswer records.find? c now) ∧
        (backend.claimIdempotency records c now).2.find? =
          IdempotencyLedger.claim records.find? c now := by
      cases backend with
      | memory => exact Memory.claimIdempotency_valid records c now hvalid
      | postgres => exact Postgres.claimIdempotency_valid records c now hvalid hall
    rcases hcases : backend.claimIdempotency records c now with ⟨answer, records'⟩
    rw [hcases] at hclaim
    obtain ⟨rfl, hfind⟩ := hclaim
    simp only [call, hcases]
    exact ⟨rfl, hfind⟩
  | complete c =>
    have hcomplete := completeIdempotency_valid backend records c now hall
    rcases hcases : backend.completeIdempotency records c now with ⟨answer, records'⟩
    rw [hcases] at hcomplete
    obtain ⟨hanswer, hfind⟩ := hcomplete
    simp only [call, hcases, IdempotencyLedger.answer]
    refine ⟨?_, ?_⟩
    · cases hdone : IdempotencyLedger.completeAnswer records.find? c now with
      | none =>
        rw [hdone] at hanswer
        obtain ⟨text, rfl⟩ := hanswer
        rfl
      | some record =>
        rw [hdone] at hanswer
        cases hanswer
        rfl
    · cases answer <;> exact hfind

theorem IdempotencyBackend.call_allValid (backend : IdempotencyBackend)
    {records : IdempotencyRecords β} (hall : records.AllValid) (now : Time)
    {call : IdempotencyCall β} (hcall : call.Valid) : (backend.call records now call).2.AllValid := by
  rw [IdempotencyRecords.allValid_iff] at hall ⊢
  rw [(backend.call_refines ((IdempotencyRecords.allValid_iff records).mpr hall) now hcall).2]
  exact IdempotencyLedger.step_valid hall now hcall

/-! ### Runs -/

/-- The calls of a run meet the constraints of a record. -/
def ValidCalls (events : List (Time × IdempotencyCall β)) : Prop := ∀ event ∈ events, event.2.Valid

/-- The clock does not run backwards. -/
def ClockOrdered (events : List (Time × IdempotencyCall β)) : Prop :=
  events.Pairwise (fun event later => event.1 ≤ later.1)

theorem IdempotencyBackend.after_allValid (backend : IdempotencyBackend)
    {events : List (Time × IdempotencyCall β)} (hvalid : ValidCalls events)
    {records : IdempotencyRecords β} (hall : records.AllValid) :
    (backend.after records events).AllValid := by
  induction events generalizing records with
  | nil => exact hall
  | cons event events ih =>
    exact ih (fun e he => hvalid e (List.mem_cons_of_mem _ he))
      (backend.call_allValid hall event.1 (hvalid event List.mem_cons_self))

/-- Stores with the same lookups give the same answers along a run. -/
theorem answers_agree {events : List (Time × IdempotencyCall β)} (hvalid : ValidCalls events)
    {records records' : IdempotencyRecords β} (hall : records.AllValid) (hall' : records'.AllValid)
    (hfind : records.find? = records'.find?) (backend backend' : IdempotencyBackend) :
    (backend.answers records events).map IdempotencyAnswer.forgetText =
      (backend'.answers records' events).map IdempotencyAnswer.forgetText := by
  induction events generalizing records records' with
  | nil => rfl
  | cons event events ih =>
    have hcall := hvalid event List.mem_cons_self
    obtain ⟨hanswer, hstep⟩ := backend.call_refines hall event.1 hcall
    obtain ⟨hanswer', hstep'⟩ := backend'.call_refines hall' event.1 hcall
    have hrest := ih (fun e he => hvalid e (List.mem_cons_of_mem _ he))
      (backend.call_allValid hall event.1 hcall) (backend'.call_allValid hall' event.1 hcall)
      (by rw [hstep, hstep', hfind])
    simp only [IdempotencyBackend.answers, List.map_cons, hrest, hanswer, hanswer', hfind]

/-- A record outlives every run that ends before it expires. -/
theorem IdempotencyBackend.after_live (backend : IdempotencyBackend)
    {events : List (Time × IdempotencyCall β)} (hvalid : ValidCalls events) {expiresAt : Time}
    (hbefore : ∀ event ∈ events, event.1 < expiresAt) {records : IdempotencyRecords β}
    (hall : records.AllValid) {key : IdempotencyRecord.Key}
    (h : ∃ record, records.find? key = some record ∧ record.expiresAt = expiresAt) :
    ∃ record, (backend.after records events).find? key = some record ∧
      record.expiresAt = expiresAt := by
  induction events generalizing records with
  | nil => exact h
  | cons event events ih =>
    have hcall := hvalid event List.mem_cons_self
    refine ih (fun e he => hvalid e (List.mem_cons_of_mem _ he))
      (fun e he => hbefore e (List.mem_cons_of_mem _ he)) (backend.call_allValid hall event.1 hcall) ?_
    rw [(backend.call_refines hall event.1 hcall).2]
    exact IdempotencyLedger.step_live (hbefore event List.mem_cons_self) h event.2

/-! ### Claims along a run -/

theorem forgetText_eq_claimed {answer : IdempotencyAnswer β} {d : IdempotencyDisposition}
    {record : IdempotencyRecord β} (h : answer.forgetText = .claimed d record) :
    answer = .claimed d record := by
  unfold IdempotencyAnswer.forgetText at h
  split at h
  · cases h
  · exact h

theorem IdempotencyBackend.claim_answer (backend : IdempotencyBackend)
    {records : IdempotencyRecords β} (hall : records.AllValid) (now : Time) {claim : Claim}
    (hcall : (IdempotencyCall.claim claim : IdempotencyCall β).Valid) :
    (backend.call records now (.claim claim)).1 =
      .claimed (IdempotencyLedger.claimAnswer records.find? claim now).1
        (IdempotencyLedger.claimAnswer records.find? claim now).2 :=
  forgetText_eq_claimed (backend.call_refines hall now hcall).1

/-- The claim's scope or hash differs from the record's. -/
def Claim.Differs (claim : Claim) (record : IdempotencyRecord β) : Prop :=
  record.scope ≠ claim.scope ∨ record.requestHash ≠ claim.requestHash

theorem Claim.answer_spec (claim : Claim) (current : IdempotencyRecord β) :
    (claim.answer current = .conflict ↔ claim.Differs current) ∧
    (claim.answer current = .replay ↔ ¬ claim.Differs current ∧ current.state = .completed) ∧
    (claim.answer current = .inProgress ↔ ¬ claim.Differs current ∧ current.state ≠ .completed) := by
  unfold Claim.answer Claim.Differs
  split_ifs <;> simp_all

variable (backend : IdempotencyBackend)

/-- The store after a run from the empty store. -/
def IdempotencyBackend.stateAfter (events : List (Time × IdempotencyCall β)) :
    IdempotencyRecords β :=
  backend.after Table.empty events

/-- The answer to one more call after a run from the empty store. -/
def IdempotencyBackend.answerAfter (events : List (Time × IdempotencyCall β)) (now : Time)
    (call : IdempotencyCall β) : IdempotencyAnswer β :=
  (backend.call (backend.stateAfter events) now call).1

theorem IdempotencyBackend.stateAfter_allValid {events : List (Time × IdempotencyCall β)}
    (hvalid : ValidCalls events) : (backend.stateAfter events).AllValid :=
  backend.after_allValid hvalid allValid_empty

theorem IdempotencyBackend.stateAfter_append_singleton (events : List (Time × IdempotencyCall β))
    (now : Time) (call : IdempotencyCall β) :
    backend.stateAfter (events ++ [(now, call)]) =
      (backend.call (backend.stateAfter events) now call).2 :=
  backend.after_append _ _ _

/-- While the record of a granted claim has not expired, no claim of its key is granted. -/
theorem IdempotencyBackend.not_granted_twice {before during : List (Time × IdempotencyCall β)}
    {now now' : Time} {claim claim' : Claim}
    (hvalid : ValidCalls (before ++ (now, .claim claim) :: during ++ [(now', .claim claim')]))
    (hclock : ClockOrdered (before ++ (now, .claim claim) :: during ++ [(now', .claim claim')]))
    (hkey : claim.key = claim'.key) {record : IdempotencyRecord β}
    (hgranted : backend.answerAfter before now (.claim claim) = .claimed .execute record)
    (hlive : now' < record.expiresAt) (record' : IdempotencyRecord β) :
    backend.answerAfter (before ++ (now, .claim claim) :: during) now' (.claim claim') ≠
      .claimed .execute record' := by
  simp only [ValidCalls, List.forall_mem_append, List.forall_mem_cons] at hvalid
  obtain ⟨⟨hbefore, hclaim, hduring⟩, hclaim', -⟩ := hvalid
  have hall := backend.stateAfter_allValid hbefore
  -- the grant stored its record, which is then live until it expires
  have hanswer := backend.claim_answer hall now hclaim
  rw [IdempotencyBackend.answerAfter] at hgranted
  rw [hgranted] at hanswer
  have hstored : ∃ r, (backend.stateAfter (before ++ [(now, .claim claim)])).find? claim.key = some r ∧
      r.expiresAt = record.expiresAt := by
    rw [stateAfter_append_singleton, (backend.call_refines hall now hclaim).2]
    simp only [IdempotencyLedger.step, IdempotencyLedger.claim]
    rw [IdempotencyLedger.claimAnswer] at hanswer
    cases hl : IdempotencyLedger.live (backend.stateAfter before).find? claim.key now with
    | some current =>
      rw [hl] at hanswer
      exact absurd (IdempotencyAnswer.claimed.inj hanswer).1.symm (claim.answer_ne_execute current)
    | none =>
      rw [hl] at hanswer
      cases hanswer
      exact ⟨_, Function.update_self .., rfl⟩
  have htimes : ∀ event ∈ during, event.1 < record.expiresAt := by
    intro event he
    have := List.pairwise_append.mp hclock
    exact lt_of_le_of_lt (this.2.2 event (by simp [he]) _ List.mem_cons_self) hlive
  have hall' : (backend.stateAfter (before ++ [(now, .claim claim)])).AllValid :=
    backend.stateAfter_allValid (by
      simp only [ValidCalls, List.forall_mem_append, List.forall_mem_cons]
      exact ⟨hbefore, hclaim, by simp⟩)
  obtain ⟨r, hr, hexpires⟩ := backend.after_live hduring htimes hall' hstored
  have hsplit : before ++ (now, IdempotencyCall.claim claim) :: during =
      (before ++ [(now, .claim claim)]) ++ during := by simp
  have hstate : backend.stateAfter (before ++ (now, .claim claim) :: during) =
      backend.after (backend.stateAfter (before ++ [(now, .claim claim)])) during := by
    rw [hsplit]
    exact backend.after_append _ _ _
  rw [← hstate] at hr
  have hall'' : (backend.stateAfter (before ++ (now, .claim claim) :: during)).AllValid := by
    rw [hstate]
    exact backend.after_allValid hduring hall'
  rw [IdempotencyBackend.answerAfter, backend.claim_answer hall'' now' hclaim',
    IdempotencyLedger.claimAnswer, ← hkey,
    IdempotencyLedger.live_eq_some.mpr ⟨hr, by rwa [hexpires]⟩]
  exact fun h => claim'.answer_ne_execute r (IdempotencyAnswer.claimed.inj h).1

/-- An unexpired record answers every claim of its key by scope, hash and state. -/
theorem IdempotencyBackend.answer_of_live {before : List (Time × IdempotencyCall β)} {now : Time}
    {claim : Claim} (hvalid : ValidCalls (before ++ [(now, .claim claim)]))
    {current : IdempotencyRecord β}
    (hcurrent : (backend.stateAfter before).find? claim.key = some current)
    (hlive : now < current.expiresAt) :
    backend.answerAfter before now (.claim claim) = .claimed (claim.answer current) current := by
  simp only [ValidCalls, List.forall_mem_append, List.forall_mem_cons] at hvalid
  obtain ⟨hbefore, hclaim, -⟩ := hvalid
  rw [IdempotencyBackend.answerAfter, backend.claim_answer (backend.stateAfter_allValid hbefore) now
    hclaim, IdempotencyLedger.claimAnswer,
    IdempotencyLedger.live_eq_some.mpr ⟨hcurrent, hlive⟩]

/-- A call leaves the records of other keys alone. -/
theorem IdempotencyBackend.frame {before : List (Time × IdempotencyCall β)} {now : Time}
    {call : IdempotencyCall β} (hvalid : ValidCalls (before ++ [(now, call)]))
    {key : IdempotencyRecord.Key} (hkey : key ≠ call.key) :
    (backend.stateAfter (before ++ [(now, call)])).find? key =
      (backend.stateAfter before).find? key := by
  simp only [ValidCalls, List.forall_mem_append, List.forall_mem_cons] at hvalid
  obtain ⟨hbefore, hcall, -⟩ := hvalid
  rw [stateAfter_append_singleton,
    (backend.call_refines (backend.stateAfter_allValid hbefore) now hcall).2]
  exact IdempotencyLedger.step_of_ne _ now call hkey

/-- Along every run of calls that a record accepts, under a clock that does not run backwards:
both stores give the same answers; a granted claim excludes others until its record expires; an
unexpired record answers by scope, hash and state; and no call touches another key. -/
theorem idempotency_claims_exclusive (events : List (Time × IdempotencyCall β))
    (hvalid : ValidCalls events) (hclock : ClockOrdered events) :
    (IdempotencyBackend.answers .memory Table.empty events).map IdempotencyAnswer.forgetText =
      (IdempotencyBackend.answers .postgres Table.empty events).map IdempotencyAnswer.forgetText ∧
    ∀ backend : IdempotencyBackend,
      (∀ before now claim during now' claim', before ++ (now, .claim claim) :: during ++
          [(now', .claim claim')] <+: events → claim.key = claim'.key →
        ∀ record, backend.answerAfter before now (.claim claim) = .claimed .execute record →
          now' < record.expiresAt → ∀ record',
          backend.answerAfter (before ++ (now, .claim claim) :: during) now' (.claim claim') ≠
            .claimed .execute record') ∧
      (∀ before now claim current, before ++ [(now, .claim claim)] <+: events →
        (backend.stateAfter before).find? claim.key = some current → now < current.expiresAt →
        ∃ d, backend.answerAfter before now (.claim claim) = .claimed d current ∧
          (d = .conflict ↔ claim.Differs current) ∧
          (d = .replay ↔ ¬ claim.Differs current ∧ current.state = .completed) ∧
          (d = .inProgress ↔ ¬ claim.Differs current ∧ current.state ≠ .completed)) ∧
      (∀ before now call key, before ++ [(now, call)] <+: events → key ≠ call.key →
        (backend.stateAfter (before ++ [(now, call)])).find? key =
          (backend.stateAfter before).find? key) := by
  have hpre : ∀ {part}, part <+: events → ValidCalls part :=
    fun h event he => hvalid event (h.subset he)
  refine ⟨?_, fun backend => ⟨?_, ?_, ?_⟩⟩
  · exact answers_agree hvalid allValid_empty allValid_empty rfl .memory .postgres
  · intro before now claim during now' claim' hp hkey record hgranted hlive record'
    exact backend.not_granted_twice (hpre hp) (hclock.sublist hp.sublist) hkey hgranted hlive record'
  · intro before now claim current hp hcurrent hlive
    exact ⟨_, backend.answer_of_live (hpre hp) hcurrent hlive, claim.answer_spec current⟩
  · intro before now call key hp hkey
    exact backend.frame (hpre hp) hkey

/-! ### A replayed claim, and a claim with a scope that no record accepts -/

def sampleClaim : Claim where
  tenantId := "tenant"
  idempotencyKey := "key"
  scope := "PUT:/v1/travelers/t/preferences"
  requestHash := "0123456789abcdef0123456789abcdef0123456789abcdef0123456789abcdef"
  expiresAt := 100

def scopeOfLength (n : ℕ) : String := String.ofList (List.replicate n 'a')

/-- The sample claim again, under a scope of another length. -/
def rescopedClaim (n : ℕ) : Claim := { sampleClaim with scope := scopeOfLength n }

set_option maxRecDepth 2000 in
theorem valid_sampleClaim_unit : (sampleClaim.record 0 : IdempotencyRecord Unit).Valid := by decide

theorem valid_sampleClaim : (sampleClaim.record 0 : IdempotencyRecord β).Valid :=
  Claim.valid_record valid_sampleClaim_unit

theorem sampleClaim_granted :
    IdempotencyBackend.answerAfter .postgres [] 0 (.claim sampleClaim : IdempotencyCall Unit) =
      .claimed .execute (sampleClaim.record 0) :=
  IdempotencyBackend.postgres.claim_answer allValid_empty 0 valid_sampleClaim

theorem idempotency_claims_exclusive_sample :
    ¬ ∃ record', IdempotencyBackend.answerAfter .postgres [(0, .claim sampleClaim)] 1
      (.claim sampleClaim : IdempotencyCall Unit) = .claimed .execute record' := by
  rintro ⟨record', hanswer⟩
  exact ((idempotency_claims_exclusive
    [(0, (.claim sampleClaim : IdempotencyCall Unit)), (1, .claim sampleClaim)]
    (by
      intro event he
      simp only [List.mem_cons, List.not_mem_nil, or_false] at he
      rcases he with rfl | rfl <;> exact valid_sampleClaim)
    (by simp [ClockOrdered])).2 .postgres).1 [] 0 sampleClaim [] 1 sampleClaim (List.prefix_refl _)
    rfl (sampleClaim.record 0) sampleClaim_granted (by decide) record' hanswer

theorem length_scopeOfLength (n : ℕ) : (scopeOfLength n).length = n := by
  rw [scopeOfLength, String.length_ofList, List.length_replicate]

theorem rescopedClaim_invalid {n : ℕ} (hn : 256 < n) (now : Time) :
    ¬ ((rescopedClaim n).record now : IdempotencyRecord Unit).Valid := by
  intro hvalid
  have hle : (scopeOfLength n).length ≤ 256 := hvalid.scope.2
  rw [length_scopeOfLength] at hle
  omega

/-- A live record answers a claim in memory, whatever the claim's scope. -/
theorem Memory.claimIdempotency_of_live {records : IdempotencyRecords β} {claim : Claim} {now : Time}
    {current : IdempotencyRecord β} (h : records.find? claim.key = some current)
    (hlive : now < current.expiresAt) :
    Memory.claimIdempotency records claim now = (.ok (claim.answer current, current), records) := by
  simp [Memory.claimIdempotency, h, hlive, Option.filter]

theorem rescoped_answers_differ {n : ℕ} (hn : 256 < n) :
    (IdempotencyBackend.answers .memory Table.empty
      [(0, (.claim sampleClaim : IdempotencyCall Unit)), (1, .claim (rescopedClaim n))]).map
        IdempotencyAnswer.forgetText ≠
    (IdempotencyBackend.answers .postgres Table.empty
      [(0, (.claim sampleClaim : IdempotencyCall Unit)), (1, .claim (rescopedClaim n))]).map
        IdempotencyAnswer.forgetText := by
  intro hdiffer
  have hcall : (IdempotencyCall.claim sampleClaim : IdempotencyCall Unit).Valid := valid_sampleClaim
  have hfirst := (IdempotencyBackend.memory.call_refines allValid_empty 0 hcall).2
  have hstored : (IdempotencyBackend.memory.call Table.empty 0
      (.claim sampleClaim : IdempotencyCall Unit)).2.find? (rescopedClaim n).key =
        some (sampleClaim.record 0) := by
    rw [hfirst]
    rfl
  have hlive : (1 : Time) < (sampleClaim.record 0 : IdempotencyRecord Unit).expiresAt := by
    change (1 : ℤ) < 100
    omega
  have hmemory : (IdempotencyBackend.memory.call (IdempotencyBackend.memory.call Table.empty 0
      (.claim sampleClaim : IdempotencyCall Unit)).2 1 (.claim (rescopedClaim n))).1 =
        .claimed ((rescopedClaim n).answer (β := Unit) (sampleClaim.record 0))
          (sampleClaim.record 0) := by
    rw [IdempotencyBackend.call, IdempotencyBackend.claimIdempotency,
      Memory.claimIdempotency_of_live hstored hlive]
  have hpostgres : ∀ records : IdempotencyRecords Unit, (IdempotencyBackend.postgres.call records 1
      (.claim (rescopedClaim n))).1 = .failed (.validation "IdempotencyRecord") := by
    intro records
    rw [IdempotencyBackend.call, IdempotencyBackend.claimIdempotency, Postgres.claimIdempotency,
      if_neg (rescopedClaim_invalid hn 1)]
  simp only [IdempotencyBackend.answers, List.map_cons, List.map_nil, List.cons.injEq, hmemory,
    hpostgres] at hdiffer
  cases hdiffer.2.1

/-- The in-memory store answers a claim that the database refuses to build a record for: here a
second claim of a live key under a scope of 257 characters. -/
theorem backends_differ_on_long_scope :
    ¬ ∀ events : List (Time × IdempotencyCall Unit), ClockOrdered events →
      (IdempotencyBackend.answers .memory Table.empty events).map IdempotencyAnswer.forgetText =
        (IdempotencyBackend.answers .postgres Table.empty events).map
          IdempotencyAnswer.forgetText :=
  fun h => rescoped_answers_differ (n := 257) (by omega)
    (h [(0, .claim sampleClaim), (1, .claim (rescopedClaim 257))] (by simp [ClockOrdered]))

end RouteShield
