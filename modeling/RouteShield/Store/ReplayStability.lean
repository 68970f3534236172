import RouteShield.Lib.Runs
import RouteShield.Store.IdempotencyRuns

/-!
Requests that claim a key, work for as long as they like, and store their response. A
completion names its claim by tenant, key and request hash only, so a request that
outlives its record can complete the record of a later claim. The state keeps, beside
the store, which claim owns each key and what each request responded.
-/

namespace RouteShield

variable {β : Type}

/-- A request arrives with a claim, or the request of a granted claim stores its response. -/
inductive RequestEvent (β : Type) where
  | arrive (claim : Claim)
  | respond (number : ℕ) (status : ℕ) (payload : β)

/-- The store, the granted requests that have not responded, and for each key the number of
the latest claim granted on it, for each number its response. -/
structure ReplayState (β : Type) where
  records : IdempotencyRecords β
  next : ℕ
  executing : List (ℕ × Claim)
  owner : IdempotencyRecord.Key → Option ℕ
  responses : ℕ → Option (ℕ × β)

def ReplayState.initial : ReplayState β := ⟨Table.empty, 0, [], fun _ => none, fun _ => none⟩

/-- `complete_mutation` by the request of a claim. -/
def Claim.completion (claim : Claim) (status : ℕ) (payload : β) : Completion β where
  tenantId := claim.tenantId
  idempotencyKey := claim.idempotencyKey
  requestHash := claim.requestHash
  responseStatusCode := status
  responsePayload := payload

@[simp] theorem Claim.key_completion (claim : Claim) (status : ℕ) (payload : β) :
    (claim.completion status payload).key = claim.key := rfl

@[simp] theorem Claim.requestHash_completion (claim : Claim) (status : ℕ) (payload : β) :
    (claim.completion status payload).requestHash = claim.requestHash := rfl

namespace ReplayState

variable (backend : IdempotencyBackend)

def arrive (state : ReplayState β) (now : Time) (claim : Claim) : ReplayState β :=
  match backend.call state.records now (.claim claim) with
  | (.claimed .execute _, records) =>
    { state with
      records
      next := state.next + 1
      executing := (state.next, claim) :: state.executing
      owner := Function.update state.owner claim.key (some state.next) }
  | (_, records) => { state with records }

def respond (state : ReplayState β) (now : Time) (number status : ℕ) (payload : β) :
    ReplayState β :=
  match state.executing.find? (fun request => request.1 = number) with
  | none => state
  | some (_, claim) =>
    { state with
      records := (backend.call state.records now (.complete (claim.completion status payload))).2
      executing := state.executing.filter (fun request => request.1 ≠ number)
      responses := Function.update state.responses number (some (status, payload)) }

def step (state : ReplayState β) (event : Time × RequestEvent β) : ReplayState β :=
  match event.2 with
  | .arrive claim => state.arrive backend event.1 claim
  | .respond number status payload => state.respond backend event.1 number status payload

/-- Claims meet the constraints of a record and statuses are HTTP statuses. -/
def ValidEvent : RequestEvent β → Prop
  | .arrive claim => (claim.record 0 : IdempotencyRecord β).Valid
  | .respond _ status _ => 100 ≤ status ∧ status ≤ 599

/-- A responding request finds its own record, or a record of another request hash. -/
def OwnRecord (state : ReplayState β) : RequestEvent β → Prop
  | .arrive _ => True
  | .respond number _ _ => ∀ claim, (number, claim) ∈ state.executing →
      state.owner claim.key = some number ∨
      ∀ record, state.records.find? claim.key = some record →
        record.requestHash ≠ claim.requestHash

/-- A completed record holds the response of the request whose claim created it. -/
def OwnResponse (state : ReplayState β) : Prop :=
  ∀ key record, state.records.find? key = some record → record.state = .completed →
    ∃ number status payload, state.owner key = some number ∧
      state.responses number = some (status, payload) ∧
      record.responseStatusCode = some status ∧ record.responsePayload = some payload

/-- What every run keeps: numbers are drawn once, a request responds once, and a completed
record holds its owner's response. -/
structure Inv (state : ReplayState β) : Prop where
  allValid : state.records.AllValid
  validClaims : ∀ request ∈ state.executing, (request.2.record 0 : IdempotencyRecord β).Valid
  executing_lt : ∀ request ∈ state.executing, request.1 < state.next
  numbers_nodup : (state.executing.map Prod.fst).Nodup
  not_responded : ∀ request ∈ state.executing, state.responses request.1 = none
  responded_lt : ∀ number response, state.responses number = some response → number < state.next
  own : state.OwnResponse

theorem inv_initial : (initial : ReplayState β).Inv where
  allValid := fun record h => absurd h (Table.notMem_empty record)
  validClaims := fun _ h => by cases h
  executing_lt := fun _ h => by cases h
  numbers_nodup := List.nodup_nil
  not_responded := fun _ h => by cases h
  responded_lt := fun _ _ h => by cases h
  own := fun _ _ h => by cases h

/-- An arrival is granted on a key without a live record, and changes nothing otherwise. -/
theorem arrive_cases {state : ReplayState β} (hall : state.records.AllValid) (now : Time)
    {claim : Claim} (hclaim : (claim.record 0 : IdempotencyRecord β).Valid) :
    let state' := state.arrive backend now claim
    (IdempotencyLedger.live state.records.find? claim.key now = none ∧
      state'.records.find? =
        Function.update state.records.find? claim.key (some (claim.record now)) ∧
      state'.next = state.next + 1 ∧ state'.executing = (state.next, claim) :: state.executing ∧
      state'.owner = Function.update state.owner claim.key (some state.next) ∧
      state'.responses = state.responses) ∨
    (state'.records.find? = state.records.find? ∧ state'.next = state.next ∧
      state'.executing = state.executing ∧ state'.owner = state.owner ∧
      state'.responses = state.responses) := by
  intro state'
  have hcall : (IdempotencyCall.claim claim : IdempotencyCall β).Valid := hclaim
  have hanswer := backend.claim_answer hall now hcall
  have hfind := (backend.call_refines hall now hcall).2
  rcases hcases : backend.call state.records now (.claim claim) with ⟨answer, records⟩
  rw [hcases] at hanswer hfind
  simp only at hanswer hfind
  simp only [IdempotencyLedger.step, IdempotencyLedger.claim] at hfind
  rw [IdempotencyLedger.claimAnswer] at hanswer
  cases hlive : IdempotencyLedger.live state.records.find? claim.key now with
  | none =>
    rw [hlive] at hanswer hfind
    subst hanswer
    left
    simp only [state', arrive, hcases]
    exact ⟨trivial, hfind, trivial, trivial, trivial, trivial⟩
  | some current =>
    rw [hlive] at hanswer hfind
    right
    have hne := claim.answer_ne_execute current
    simp only [state', arrive, hcases, hanswer]
    cases hd : claim.answer current with
    | execute => exact absurd hd hne
    | replay => exact ⟨hfind, rfl, rfl, rfl, rfl⟩
    | conflict => exact ⟨hfind, rfl, rfl, rfl, rfl⟩
    | inProgress => exact ⟨hfind, rfl, rfl, rfl, rfl⟩

variable {backend}

theorem inv_arrive {state : ReplayState β} (h : state.Inv) (now : Time) {claim : Claim}
    (hclaim : (claim.record 0 : IdempotencyRecord β).Valid) :
    (state.arrive backend now claim).Inv := by
  have hall : (state.arrive backend now claim).records.AllValid := by
    have := backend.call_allValid h.allValid now
      (show (IdempotencyCall.claim claim : IdempotencyCall β).Valid from hclaim)
    unfold arrive
    split <;> simp_all
  rcases arrive_cases backend h.allValid now hclaim with
    ⟨-, hfind, hnext, hexec, howner, hresp⟩ | ⟨hfind, hnext, hexec, howner, hresp⟩
  · refine ⟨hall, ?_, ?_, ?_, ?_, ?_, ?_⟩
    · rw [hexec]
      exact List.forall_mem_cons.mpr ⟨hclaim, h.validClaims⟩
    · rw [hexec, hnext]
      exact List.forall_mem_cons.mpr ⟨Nat.lt_succ_self _,
        fun request hr => Nat.lt_succ_of_lt (h.executing_lt request hr)⟩
    · rw [hexec, List.map_cons, List.nodup_cons]
      refine ⟨fun hmem => ?_, h.numbers_nodup⟩
      obtain ⟨request, hr, heq⟩ := List.mem_map.mp hmem
      have := h.executing_lt request hr
      omega
    · rw [hexec, hresp]
      refine List.forall_mem_cons.mpr ⟨?_, h.not_responded⟩
      cases hs : state.responses state.next with
      | none => rfl
      | some response => exact absurd (h.responded_lt _ _ hs) (lt_irrefl _)
    · intro number response hr
      rw [hresp] at hr
      have := h.responded_lt number response hr
      omega
    · intro key record hrecord hdone
      rw [hfind, Function.update_apply] at hrecord
      split_ifs at hrecord with hk
      · cases hrecord
        cases hdone
      · rw [howner, hresp, Function.update_of_ne hk]
        exact h.own key record hrecord hdone
  · refine ⟨hall, by rw [hexec]; exact h.validClaims, by rw [hexec, hnext]; exact h.executing_lt,
      by rw [hexec]; exact h.numbers_nodup, by rw [hexec, hresp]; exact h.not_responded,
      by rw [hresp, hnext]; exact h.responded_lt, ?_⟩
    unfold OwnResponse
    rw [hfind, howner, hresp]
    exact h.own

/-- A response of a waiting request leaves the responses of completed records in place. -/
theorem OwnResponse.update {state : ReplayState β} (h : state.OwnResponse) {number : ℕ}
    (hnumber : state.responses number = none) (response : ℕ × β) {key : IdempotencyRecord.Key}
    {record : IdempotencyRecord β} (hrecord : state.records.find? key = some record)
    (hdone : record.state = .completed) :
    ∃ n status payload, state.owner key = some n ∧
      Function.update state.responses number (some response) n = some (status, payload) ∧
      record.responseStatusCode = some status ∧ record.responsePayload = some payload := by
  obtain ⟨n, status, payload, howner, hresp, hs, hp⟩ := h key record hrecord hdone
  have hne : n ≠ number := by
    rintro rfl
    rw [hnumber] at hresp
    cases hresp
  exact ⟨n, status, payload, howner, by rw [Function.update_of_ne hne]; exact hresp, hs, hp⟩

theorem inv_respond {state : ReplayState β} (h : state.Inv) (now : Time) {number status : ℕ}
    {payload : β} (hstatus : 100 ≤ status ∧ status ≤ 599)
    (hown : state.OwnRecord (.respond number status payload)) :
    (state.respond backend now number status payload).Inv := by
  unfold respond
  cases hexec : state.executing.find? (fun request => request.1 = number) with
  | none => exact h
  | some request =>
    obtain ⟨m, claim⟩ := request
    have hmem := List.mem_of_find?_eq_some hexec
    have hm : m = number := by simpa using List.find?_some hexec
    subst hm
    have hnone := h.not_responded _ hmem
    have hcall : (IdempotencyCall.complete (claim.completion status payload)).Valid := hstatus
    have hfind := (backend.call_refines h.allValid now hcall).2
    have hsub : ∀ request ∈ state.executing.filter (fun request => request.1 ≠ m),
        request ∈ state.executing ∧ request.1 ≠ m := by
      intro request hr
      simpa using List.mem_filter.mp hr
    refine ⟨backend.call_allValid h.allValid now hcall,
      fun request hr => h.validClaims request (hsub request hr).1,
      fun request hr => h.executing_lt request (hsub request hr).1,
      h.numbers_nodup.sublist (List.filter_sublist.map _), ?_, ?_, ?_⟩
    · intro request hr
      exact (Function.update_of_ne (hsub request hr).2 _ _).trans
        (h.not_responded request (hsub request hr).1)
    · intro n response hr
      simp only [Function.update_apply] at hr
      split_ifs at hr with hn
      · exact hn ▸ h.executing_lt _ hmem
      · exact h.responded_lt n response hr
    · intro key record hrecord hdone
      simp only [hfind, IdempotencyLedger.step, IdempotencyLedger.complete,
        Claim.key_completion] at hrecord
      cases hanswer : IdempotencyLedger.completeAnswer state.records.find?
          (claim.completion status payload) now with
      | none =>
        rw [hanswer] at hrecord
        exact h.own.update hnone (status, payload) hrecord hdone
      | some done =>
        rw [hanswer] at hrecord
        simp only [Function.update_apply] at hrecord
        split_ifs at hrecord with hk
        · -- the completed record: the condition makes the responding request its owner
          cases hrecord
          simp only [IdempotencyLedger.completeAnswer, Option.map_eq_some_iff,
            Option.filter_eq_some_iff, Claim.key_completion, decide_eq_true_eq] at hanswer
          obtain ⟨old, ⟨hold, hhash⟩, rfl⟩ := hanswer
          rcases hown claim hmem with howner | hother
          · exact ⟨m, status, payload, hk ▸ howner, Function.update_self .., rfl, rfl⟩
          · exact absurd hhash (hother old hold)
        · exact h.own.update hnone (status, payload) hrecord hdone

theorem inv_step {state : ReplayState β} (h : state.Inv) {event : Time × RequestEvent β}
    (hevent : ValidEvent event.2) (hown : state.OwnRecord event.2) :
    (state.step backend event).Inv := by
  obtain ⟨now, event⟩ := event
  cases event with
  | arrive claim => exact inv_arrive h now hevent
  | respond number status payload => exact inv_respond h now hevent hown

/-- A completed record stays as it is through every step before it expires. -/
theorem find?_step {state : ReplayState β} (h : state.Inv) {event : Time × RequestEvent β}
    (hevent : ValidEvent event.2) (hown : state.OwnRecord event.2) {key : IdempotencyRecord.Key}
    {record : IdempotencyRecord β} (hrecord : state.records.find? key = some record)
    (hdone : record.state = .completed) (hlive : event.1 < record.expiresAt) :
    (state.step backend event).records.find? key = some record := by
  obtain ⟨now, event⟩ := event
  cases event with
  | arrive claim =>
    rcases arrive_cases backend h.allValid now hevent with
      ⟨hnone, hfind, -⟩ | ⟨hfind, -⟩
    · rw [step, hfind, Function.update_apply]
      split_ifs with hk
      · rw [IdempotencyLedger.live_eq_none] at hnone
        exact absurd hlive (not_lt.mpr (hnone record (hk ▸ hrecord)))
      · exact hrecord
    · rw [step, hfind]
      exact hrecord
  | respond number status payload =>
    simp only [step, respond]
    cases hexec : state.executing.find? (fun request => request.1 = number) with
    | none => exact hrecord
    | some request =>
      obtain ⟨m, claim⟩ := request
      have hmem := List.mem_of_find?_eq_some hexec
      have hm : m = number := by simpa using List.find?_some hexec
      subst hm
      have hcall : (IdempotencyCall.complete (claim.completion status payload)).Valid := hevent
      simp only [(backend.call_refines h.allValid now hcall).2, IdempotencyLedger.step]
      by_cases hk : key = claim.key
      · -- the record already carries a response, so it is not the responding request's own
        subst hk
        rcases hown claim hmem with howner | hother
        · obtain ⟨n, s, p, hn, hresp, -⟩ := h.own _ record hrecord hdone
          rw [howner] at hn
          cases hn
          rw [h.not_responded _ hmem] at hresp
          cases hresp
        · have hnone : IdempotencyLedger.completeAnswer state.records.find?
              (claim.completion status payload) now = none := by
            simp [IdempotencyLedger.completeAnswer, hrecord, Option.filter, hother record hrecord]
          rw [IdempotencyLedger.complete, hnone]
          exact hrecord
      · rw [IdempotencyLedger.complete]
        cases IdempotencyLedger.completeAnswer state.records.find?
            (claim.completion status payload) now with
        | none => exact hrecord
        | some done => exact (Function.update_of_ne hk _ _).trans hrecord

/-! ### Runs -/

/-- The steps of a run have valid arguments and each responding request finds its own record. -/
def Undisturbed (state : ReplayState β) (event : Time × RequestEvent β) : Prop :=
  ValidEvent event.2 ∧ state.OwnRecord event.2

theorem inv_run {events : List (Time × RequestEvent β)} {state : ReplayState β} (h : state.Inv)
    (hrun : Meets (step backend) Undisturbed state events) :
    (runFrom (step backend) state events).Inv :=
  runFrom_inv Inv (fun _ _ hs hcond => inv_step hs hcond.1 hcond.2) h hrun

theorem find?_run {events : List (Time × RequestEvent β)} {state : ReplayState β} (h : state.Inv)
    (hrun : Meets (step backend) Undisturbed state events) {key : IdempotencyRecord.Key}
    {record : IdempotencyRecord β} (hrecord : state.records.find? key = some record)
    (hdone : record.state = .completed) (hlive : ∀ event ∈ events, event.1 < record.expiresAt) :
    (runFrom (step backend) state events).records.find? key = some record := by
  induction events generalizing state with
  | nil => exact hrecord
  | cons event events ih =>
    obtain ⟨⟨hevent, hown⟩, hrest⟩ := hrun
    exact ih (inv_step h hevent hown) hrest
      (find?_step h hevent hown hrecord hdone (hlive event List.mem_cons_self))
      (fun e he => hlive e (List.mem_cons_of_mem _ he))

end ReplayState

/-- Along a run from the empty store: a completed record holds the response of the request whose
claim created it; until it expires its response stays, and every replay returns it. -/
def StableReplays (backend : IdempotencyBackend) (events : List (Time × RequestEvent β)) : Prop :=
  ∀ before during, before ++ during <+: events →
    ∀ key record,
      (runFrom (ReplayState.step backend) .initial before).records.find? key = some record →
      record.state = .completed →
      (∃ number status payload,
        (runFrom (ReplayState.step backend) .initial before).owner key = some number ∧
        (runFrom (ReplayState.step backend) .initial before).responses number =
          some (status, payload) ∧
        record.responseStatusCode = some status ∧ record.responsePayload = some payload) ∧
      ((∀ event ∈ during, event.1 < record.expiresAt) →
        ∃ record', (runFrom (ReplayState.step backend) .initial (before ++ during)).records.find? key =
            some record' ∧
          record'.responseStatusCode = record.responseStatusCode ∧
          record'.responsePayload = record.responsePayload ∧
          ∀ now claim replayed, claim.key = key → (claim.record 0 : IdempotencyRecord β).Valid →
            now < record.expiresAt →
            (backend.call (runFrom (ReplayState.step backend) .initial (before ++ during)).records now
              (.claim claim)).1 = .claimed .replay replayed →
            replayed.responseStatusCode = record.responseStatusCode ∧
            replayed.responsePayload = record.responsePayload)

/-- Replays are stable along every run in which each responding request finds its own record, or
one of another request hash, under its key. -/
theorem replays_stable (backend : IdempotencyBackend) (events : List (Time × RequestEvent β))
    (hrun : Meets (ReplayState.step backend) ReplayState.Undisturbed .initial events) :
    StableReplays backend events := by
  rintro before during ⟨rest, rfl⟩ key record hrecord hdone
  rw [meets_append, meets_append] at hrun
  obtain ⟨⟨hbefore, hduring⟩, -⟩ := hrun
  have hs := ReplayState.inv_run ReplayState.inv_initial hbefore
  refine ⟨hs.own key record hrecord hdone, fun hlive => ?_⟩
  rw [runFrom_append]
  have hfind := ReplayState.find?_run hs hduring hrecord hdone hlive
  have hall := (ReplayState.inv_run hs hduring).allValid
  refine ⟨record, hfind, rfl, rfl, fun now claim replayed hkey hclaim hnow hreplay => ?_⟩
  subst hkey
  rw [backend.claim_answer hall now hclaim, IdempotencyLedger.claimAnswer,
    IdempotencyLedger.live_eq_some.mpr ⟨hfind, hnow⟩] at hreplay
  rw [← (IdempotencyAnswer.claimed.inj hreplay).2]
  exact ⟨rfl, rfl⟩

/-! ### Two executors of one key -/

/-- A request claims, responds, and is sent again. -/
def answeredOnce : List (Time × RequestEvent ℕ) :=
  [(0, .arrive sampleClaim), (1, .respond 0 200 7), (2, .arrive sampleClaim)]

theorem replays_stable_answeredOnce : StableReplays .postgres answeredOnce := by
  refine replays_stable .postgres answeredOnce ⟨⟨valid_sampleClaim, trivial⟩,
    ⟨⟨by decide, by decide⟩, ?_⟩, ⟨valid_sampleClaim, trivial⟩, trivial⟩
  intro claim hclaim
  have hexec : (ReplayState.step .postgres (.initial : ReplayState ℕ)
      (0, .arrive sampleClaim)).executing = [(0, sampleClaim)] := by decide +kernel
  rw [hexec, List.mem_singleton] at hclaim
  cases hclaim
  left
  decide +kernel

/-- The first request claims for ten ticks and works longer; the second claims the expired key and
responds; then the first responds too. -/
def overlap : List (Time × RequestEvent ℕ) :=
  [(0, .arrive { sampleClaim with expiresAt := 10 }),
    (11, .arrive { sampleClaim with expiresAt := 21 }),
    (12, .respond 1 200 2),
    (13, .respond 0 200 1)]

theorem overlap_before : ((runFrom (ReplayState.step .memory) .initial (overlap.take 3)).records.find?
    sampleClaim.key).map (fun record => (record.state, record.responsePayload, record.expiresAt)) =
      some (.completed, some 2, 21) := by decide +kernel

theorem overlap_after : ((runFrom (ReplayState.step .memory) .initial overlap).records.find?
    sampleClaim.key).map (fun record => record.responsePayload) = some (some 1) := by decide +kernel

/-- The late response of the first request replaces the stored response of the second. -/
theorem late_response_rewrites_record :
    ¬ ∀ (backend : IdempotencyBackend) (events : List (Time × RequestEvent ℕ)),
      (∀ event ∈ events, ReplayState.ValidEvent event.2) →
      events.Pairwise (fun event later => event.1 ≤ later.1) → StableReplays backend events := by
  intro h
  have hvalid : ∀ event ∈ overlap, ReplayState.ValidEvent event.2 := by
    have hexpiry : ∀ expiresAt, (({ sampleClaim with expiresAt } : Claim).record 0 :
        IdempotencyRecord ℕ).Valid := fun _ =>
      have h : (sampleClaim.record 0 : IdempotencyRecord ℕ).Valid := valid_sampleClaim
      ⟨h.1, h.2, h.3, h.4, h.5⟩
    intro event he
    simp only [overlap, List.mem_cons, List.not_mem_nil, or_false] at he
    rcases he with rfl | rfl | rfl | rfl
    · exact hexpiry 10
    · exact hexpiry 21
    · exact ⟨by decide, by decide⟩
    · exact ⟨by decide, by decide⟩
  have hstable := h .memory overlap hvalid (by simp [overlap])
  obtain ⟨record, hrecord, hfields⟩ := Option.map_eq_some_iff.mp overlap_before
  simp only [Prod.mk.injEq] at hfields
  obtain ⟨hdone, hpayload, hexpires⟩ := hfields
  obtain ⟨-, hstays⟩ := hstable (overlap.take 3) (overlap.drop 3) (List.prefix_refl _)
    sampleClaim.key record hrecord hdone
  obtain ⟨record', hrecord', -, hsame, -⟩ := hstays (by simp [overlap, hexpires])
  have hafter := overlap_after
  rw [List.take_append_drop] at hrecord'
  rw [hrecord', Option.map_some, hsame, hpayload] at hafter
  cases hafter

end RouteShield
