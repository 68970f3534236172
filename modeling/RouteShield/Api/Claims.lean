import RouteShield.Api.Events

/-!
The claim of a keyed mutation. Both backends keep the idempotency ledger, except that a
claim that is refused by validation may drop the expired record it found. A mutation either
stops at its claim, having written nothing but the ledger, or was granted it: the key had no
live record, and the body runs before the claim is answered.
-/

namespace RouteShield

/-- A claim at a time, its answer, and the ledgers before and after it. -/
def ClaimStep (ledger : IdempotencyLedger Response) (claim : Claim) (now : Time) :
    Except Fault (IdempotencyDisposition × MutationRecord) → IdempotencyLedger Response → Prop
  | .ok answer, ledger' =>
    answer = ledger.claimAnswer claim now ∧ ledger' = ledger.claim claim now ∧
      (answer.1 = .execute → (claim.record now : MutationRecord).Valid)
  | .error _, ledger' =>
    ∀ key, ledger' key = ledger key ∨
      (key = claim.key ∧ ledger.live key now = none ∧ ledger' key = none)

/-- A completion at a time, its answer, and the ledgers before and after it. -/
def CompletionStep (ledger : IdempotencyLedger Response) (completion : Completion Response)
    (now : Time) : Except Fault MutationRecord → IdempotencyLedger Response → Prop
  | .ok record, ledger' => ledger.completeAnswer completion now = some record ∧
    ledger' = ledger.complete completion now
  | .error _, ledger' => ledger' = ledger

/-- A backend that keeps the idempotency ledger. -/
class ClaimStore (b : Backend) [Framed b] where
  ledger : b.State → IdempotencyLedger Response
  ledger_congr : ∀ {s s' : b.State},
    Framed.only s' .idempotency = Framed.only s .idempotency → ledger s' = ledger s
  claim : ∀ (claim : Claim) (now : Time) (fresh : ℕ → Uuid) (s : b.State),
    ClaimStep (ledger s) claim now (b.exec (.claimIdempotency claim) now fresh s).1
      (ledger (b.exec (.claimIdempotency claim) now fresh s).2)
  complete : ∀ (completion : Completion Response) (now : Time) (fresh : ℕ → Uuid) (s : b.State),
    CompletionStep (ledger s) completion now
      (b.exec (.completeIdempotency completion) now fresh s).1
      (ledger (b.exec (.completeIdempotency completion) now fresh s).2)

/-- A row put under its key. -/
theorem IdempotencyRecords.find?_put_eq (records : IdempotencyRecords Response)
    (record : MutationRecord) :
    (records.put record).find? = Function.update records.find? record.key (some record) := by
  funext key
  rw [records.find?_put, Function.update_apply]

theorem memory_claimStep (records : IdempotencyRecords Response) (claim : Claim) (now : Time) :
    ClaimStep records.find? claim now (Memory.claimIdempotency records claim now).1
      (Memory.claimIdempotency records claim now).2.find? := by
  have herase : ∀ key, (records.erase claim.key).find? key = records.find? key ∨
      (key = claim.key ∧ (records.erase claim.key).find? key = none) := fun key => by
    rw [records.find?_erase]
    split_ifs with hk
    · exact .inr ⟨hk, rfl⟩
    · exact .inl rfl
  unfold Memory.claimIdempotency
  cases hlive : IdempotencyLedger.live records.find? claim.key now with
  | some current =>
    have hex : (records.find? claim.key).filter (fun record => now < record.expiresAt) =
      some current := hlive
    simp only [hex]
    refine ⟨by simp [IdempotencyLedger.claimAnswer, hlive], by simp [IdempotencyLedger.claim, hlive],
      fun h => absurd h (claim.answer_ne_execute current)⟩
  | none =>
    have hex : (records.find? claim.key).filter (fun record => now < record.expiresAt) = none :=
      hlive
    simp only [hex, Option.isSome_none, Bool.false_eq_true, if_false]
    split_ifs with hvalid
    · refine ⟨by simp [IdempotencyLedger.claimAnswer, hlive], ?_, fun _ => hvalid⟩
      simp only [IdempotencyLedger.claim, hlive, Option.isSome_none, Bool.false_eq_true, if_false]
      rw [IdempotencyRecords.find?_put_eq]
      funext key
      simp only [Claim.key_record, Function.update_apply]
      split_ifs with hk
      · rfl
      · exact (herase key).resolve_right fun h => hk h.1
    · intro key
      rcases herase key with h | ⟨rfl, h⟩
      · exact .inl h
      · exact .inr ⟨rfl, hlive, h⟩

theorem postgres_claimStep (records : IdempotencyRecords Response) (claim : Claim) (now : Time) :
    ClaimStep records.find? claim now (Postgres.claimIdempotency records claim now).1
      (Postgres.claimIdempotency records claim now).2.find? := by
  unfold Postgres.claimIdempotency
  split_ifs with hvalid
  · have hgranted : IdempotencyLedger.live records.find? claim.key now = none →
        ClaimStep records.find? claim now (.ok (.execute, claim.record now))
          (records.put (claim.record now)).find? := fun hlive => by
      refine ⟨by simp [IdempotencyLedger.claimAnswer, hlive], ?_, fun _ => hvalid⟩
      simp only [IdempotencyLedger.claim, hlive, Option.isSome_none, Bool.false_eq_true, if_false]
      exact IdempotencyRecords.find?_put_eq records _
    cases hfind : records.find? claim.key with
    | none => exact hgranted (by simp [IdempotencyLedger.live, hfind])
    | some current =>
      dsimp only
      split_ifs with hcurrent hexp
      · exact hgranted (by simp [IdempotencyLedger.live, hfind, hexp])
      · have hlive : IdempotencyLedger.live records.find? claim.key now = some current :=
          IdempotencyLedger.live_eq_some.mpr ⟨hfind, not_le.mp hexp⟩
        refine ⟨by simp [IdempotencyLedger.claimAnswer, hlive],
          by simp [IdempotencyLedger.claim, hlive],
          fun h => absurd h (claim.answer_ne_execute current)⟩
      · exact fun _ => .inl rfl
  · exact fun _ => .inl rfl

theorem memory_completionStep (records : IdempotencyRecords Response)
    (completion : Completion Response) (now : Time) :
    CompletionStep records.find? completion now
      (Memory.completeIdempotency records completion now).1
      (Memory.completeIdempotency records completion now).2.find? := by
  unfold Memory.completeIdempotency
  cases hfind : records.find? completion.key with
  | none => rfl
  | some record =>
    dsimp only
    split_ifs with hhash
    · rfl
    · have hanswer : IdempotencyLedger.completeAnswer records.find? completion now =
          some (completion.apply record now) := by
        simp [IdempotencyLedger.completeAnswer, hfind, not_not.mp hhash]
      refine ⟨hanswer, ?_⟩
      simp only [IdempotencyLedger.complete, hanswer]
      rw [IdempotencyRecords.find?_put_eq, Completion.key_apply, (records.find?_eq_some.mp hfind).2]

theorem postgres_completionStep (records : IdempotencyRecords Response)
    (completion : Completion Response) (now : Time) :
    CompletionStep records.find? completion now
      (Postgres.completeIdempotency records completion now).1
      (Postgres.completeIdempotency records completion now).2.find? := by
  unfold Postgres.completeIdempotency
  cases hfind : records.find? completion.key with
  | none => rfl
  | some record =>
    dsimp only
    split_ifs with hvalid hhash
    · rfl
    · have hanswer : IdempotencyLedger.completeAnswer records.find? completion now =
          some (completion.apply record now) := by
        simp [IdempotencyLedger.completeAnswer, hfind, not_not.mp hhash]
      refine ⟨hanswer, ?_⟩
      simp only [IdempotencyLedger.complete, hanswer]
      rw [IdempotencyRecords.find?_put_eq, Completion.key_apply, (records.find?_eq_some.mp hfind).2]
    · rfl

instance : ClaimStore .memory where
  ledger s := s.idempotencyRecords.find?
  ledger_congr h := by
    have h' := congrArg (fun s : InMemoryRepository Response => s.idempotencyRecords.find?) h
    exact h'
  claim claim now fresh s := memory_claimStep s.idempotencyRecords claim now
  complete completion now fresh s := memory_completionStep s.idempotencyRecords completion now

instance : ClaimStore .postgres where
  ledger s := s.idempotencyRecords.find?
  ledger_congr h := by
    have h' := congrArg (fun s : PostgresRepository Response => s.idempotencyRecords.find?) h
    exact h'
  claim claim now fresh s := postgres_claimStep s.idempotencyRecords claim now
  complete completion now fresh s := postgres_completionStep s.idempotencyRecords completion now

/-! ### Runs of a mutation -/

variable {b : Backend} {env : Env} {svc : Service}

/-- The claim that a mutation makes when its handler has come to it at a tick. -/
def Service.claimAt (svc : Service) (env : Env) (tick : ℕ) (tenantId key scope : String)
    (payload : Payload) : Claim where
  tenantId
  idempotencyKey := key
  scope
  requestHash := svc.fingerprint scope payload
  expiresAt := env.clock tick + seconds svc.idempotencyTtlSeconds

/-- A mutation is let through: it needs no key and has none, or its claim makes a record and its
key has no live one. -/
def Service.Grants (svc : Service) (env : Env) (ledger : IdempotencyLedger Response) (tick : ℕ)
    (tenantId : String) (key : Option String) (scope : String) : Prop :=
  match Api.keyed key with
  | none => svc.requireIdempotency = false
  | some key => lengthWithin tenantId 1 128 ∧ lengthWithin key 1 256 ∧ lengthWithin scope 1 256 ∧
    ledger.live (tenantId, key) (env.clock (tick + 1)) = none

def World.ledger [Framed b] [ClaimStore b] (w : World b) : IdempotencyLedger Response :=
  ClaimStore.ledger w.store

namespace Api

open Prog hiding pure

variable {α : Type} {tenantId scope : String} {key : Option String} {payload : Payload}

/-- The run of a claim: a reading of the clock, and the repository's call. -/
theorem claimMutation_run (svc : Service) (env : Env) (tenantId key scope : String)
    (payload : Payload) (w : World b) :
    (claimMutation svc tenantId key scope payload).run env.exec w =
      match env.exec (.repo (.claimIdempotency
        (svc.claimAt env w.tick tenantId key scope payload))) (env.after w .now) with
      | (.ok (.execute, _), w') => (.ok (svc.fingerprint scope payload, none), w')
      | (.ok (.replay, record), w') => (.ok (svc.fingerprint scope payload, some record), w')
      | (.ok (.conflict, _), w') =>
        (.error (.http 409 "Idempotency-Key was already used for a different request"), w')
      | (.ok (.inProgress, _), w') =>
        (.error (.http 409 "A request with this Idempotency-Key is still in progress"), w')
      | (.error fault, w') => (.error fault, w') := by
  unfold claimMutation now repo Service.claimAt
  rw [run_bind, run_perform]
  show ((perform (.repo (.claimIdempotency _)) >>= _).run env.exec _) = _
  rw [run_bind, run_perform]
  generalize hcall : env.exec (.repo (.claimIdempotency _)) _ = answer
  obtain ⟨fault | ⟨disposition, record⟩, w'⟩ := answer
  · rfl
  · cases disposition <;> rfl

/-- A mutation stops at its claim, or was let through and runs its body. -/
theorem mutation_run_cases {status : ℕ} {stored : Stored α} {body : Api α} (env : Env)
    (w : World b) :
    (∃ r w', (claimOptionalMutation svc tenantId key scope payload).run env.exec w = (r, w') ∧
      ((mutation svc tenantId key scope payload status stored body).run env.exec w).2 = w') ∨
    (∃ hash w', (claimOptionalMutation svc tenantId key scope payload).run env.exec w =
        (.ok (hash, none), w') ∧
      (mutation svc tenantId key scope payload status stored body).run env.exec w =
        (body >>= fun a =>
          completeOptionalMutation tenantId key hash status (stored.encode a) >>= fun _ =>
            pure a).run env.exec w') := by
  unfold mutation
  rw [run_bind]
  rcases (claimOptionalMutation svc tenantId key scope payload).run env.exec w with
    ⟨fault | ⟨hash, _ | record⟩, w'⟩
  · exact .inl ⟨_, w', rfl, rfl⟩
  · exact .inr ⟨hash, w', rfl, rfl⟩
  · refine .inl ⟨_, w', rfl, ?_⟩
    obtain ⟨r, hr⟩ := callFree_replay stored record
    show ((stored.replay record).run env.exec w').2 = w'
    rw [hr, run_ofExcept]

variable [Framed b] [ClaimStore b] {w : World b}

/-- A claim that is granted: its key had no live record, and has the claim's now. -/
theorem claimMutation_run_execute {key hash : String} {w' : World b}
    (h : (claimMutation svc tenantId key scope payload).run env.exec w = (.ok (hash, none), w')) :
    let claim := svc.claimAt env w.tick tenantId key scope payload
    hash = claim.requestHash ∧ (claim.record (env.clock (w.tick + 1)) : MutationRecord).Valid ∧
      w.ledger.live claim.key (env.clock (w.tick + 1)) = none ∧
      w'.ledger = w.ledger.claim claim (env.clock (w.tick + 1)) ∧ w'.tick = w.tick + 2 := by
  rw [claimMutation_run] at h
  have hstep := ClaimStore.claim (svc.claimAt env w.tick tenantId key scope payload)
    (env.clock (w.tick + 1)) (drawn (w.tick + 1)) w.store
  rcases hcall : env.exec (.repo (.claimIdempotency
    (svc.claimAt env w.tick tenantId key scope payload))) (env.after w .now) with
    ⟨fault | ⟨disposition, record⟩, w₂⟩
  · rw [hcall] at h
    cases h
  · rw [hcall] at h
    cases disposition <;> cases h
    have hans : (b.exec (.claimIdempotency (svc.claimAt env w.tick tenantId key scope payload))
      (env.clock (w.tick + 1)) (drawn (w.tick + 1)) w.store).1 = .ok (.execute, record) :=
      congrArg Prod.fst hcall
    rw [hans] at hstep
    obtain ⟨hanswer, hledger, hvalid⟩ := hstep
    have hw : env.after (env.after w .now) (.repo (.claimIdempotency
      (svc.claimAt env w.tick tenantId key scope payload))) = w' := congrArg Prod.snd hcall
    refine ⟨rfl, hvalid rfl, ?_, ?_, ?_⟩
    · cases hlive : IdempotencyLedger.live w.ledger
        (svc.claimAt env w.tick tenantId key scope payload).key (env.clock (w.tick + 1)) with
      | none => rfl
      | some current =>
        have hlive' : IdempotencyLedger.live (ClaimStore.ledger w.store)
          (svc.claimAt env w.tick tenantId key scope payload).key (env.clock (w.tick + 1)) =
          some current := hlive
        simp only [IdempotencyLedger.claimAnswer, hlive', Prod.mk.injEq] at hanswer
        exact absurd hanswer.1.symm (Claim.answer_ne_execute _ current)
    · rw [← hw]
      exact hledger
    · rw [← hw]
      rfl

/-- A claim that lets its mutation through. -/
theorem claimOptionalMutation_run_execute {hash : Option String} {w' : World b}
    (h : (claimOptionalMutation svc tenantId key scope payload).run env.exec w =
      (.ok (hash, none), w')) : svc.Grants env w.ledger w.tick tenantId key scope := by
  unfold claimOptionalMutation at h
  unfold Service.Grants
  cases hkey : keyed key with
  | none =>
    simp only [hkey] at h ⊢
    cases hreq : svc.requireIdempotency with
    | false => rfl
    | true =>
      rw [hreq] at h
      cases h
  | some key' =>
    simp only [hkey] at h ⊢
    obtain ⟨⟨hash', replay⟩, w₂, hclaim, hrest⟩ := run_bind_eq_ok.mp h
    cases hrest
    obtain ⟨-, hvalid, hlive, -⟩ := claimMutation_run_execute hclaim
    exact ⟨hvalid.tenantId, hvalid.idempotencyKey, hvalid.scope, hlive⟩

variable [EventLog b] {status : ℕ} {stored : Stored α} {body : Api α}

/-- Beyond the ledger, a mutation leaves the world as it was, or as its body leaves it: then it
was let through, and the body ran in a world that differs in the ledger alone. -/
theorem mutation_run (hw : w.EventsDrawn) :
    (∀ c ≠ .idempotency,
      ((mutation svc tenantId key scope payload status stored body).run env.exec w).2.only c =
        w.only c) ∨
    (svc.Grants env w.ledger w.tick tenantId key scope ∧
      ∃ w₁ : World b, w₁.EventsDrawn ∧ w.tick ≤ w₁.tick ∧
        (∀ c ≠ .idempotency, w₁.only c = w.only c) ∧
        ∀ c ≠ .idempotency,
          ((mutation svc tenantId key scope payload status stored body).run env.exec w).2.only c =
            (body.run env.exec w₁).2.only c) := by
  have hwrites : Writes [.idempotency] (claimOptionalMutation svc tenantId key scope payload) :=
    writes_claimOptionalMutation List.mem_cons_self _ _ _ _
  have hclaimed := hwrites.run env hw
  have hother : ∀ c ≠ Collection.idempotency, c ∉ [Collection.idempotency] :=
    fun c hc => by simpa using hc
  rcases mutation_run_cases env w with ⟨r, w₁, hclaim, hrun⟩ | ⟨hash, w₁, hclaim, hrun⟩
  · rw [hclaim] at hclaimed
    left
    intro c hc
    rw [hrun]
    exact hclaimed.2.2 c (hother c hc)
  · rw [hclaim] at hclaimed
    obtain ⟨hw₁, htick, honly⟩ := hclaimed
    refine .inr ⟨claimOptionalMutation_run_execute hclaim, w₁, hw₁, htick,
      fun c hc => honly c (hother c hc), fun c hc => ?_⟩
    rw [hrun]
    refine only_run_bind (fun a => ?_) (hother c hc) env w₁
    exact writes_bind (writes_completeOptionalMutation List.mem_cons_self _ _ _ _ _)
      fun _ => writes_pure _

/-- What holds of a world whenever it holds up to the ledger: of one where the mutation stopped,
and of one as its body leaves it. -/
theorem mutation_cases {Q : World b → Prop} (hw : w.EventsDrawn)
    (hstop : ∀ w', (∀ c ≠ .idempotency, w'.only c = w.only c) → Q w')
    (hrun : svc.Grants env w.ledger w.tick tenantId key scope → ∀ w₁ w' : World b,
      w₁.EventsDrawn → w.tick ≤ w₁.tick → (∀ c ≠ .idempotency, w₁.only c = w.only c) →
      (∀ c ≠ .idempotency, w'.only c = (body.run env.exec w₁).2.only c) → Q w') :
    Q ((mutation svc tenantId key scope payload status stored body).run env.exec w).2 := by
  rcases mutation_run hw with hsame | ⟨hgrants, w₁, hw₁, htick, honly, hbodyRun⟩
  · exact hstop _ hsame
  · exact hrun hgrants w₁ _ hw₁ htick honly hbodyRun

end Api

end RouteShield
