import RouteShield.Lib.Table
import RouteShield.Domain.Models

/-!
Durable idempotency records, in the two stores that keep them. The in-memory store
drops an expired record and inserts; the database inserts unless the key is taken and
then decides under a row lock. Each call is one transaction at one time. Over arguments
that a record accepts, both are the same ledger: a map from keys to records.
-/

namespace RouteShield

inductive IdempotencyState where
  | inProgress | completed
  deriving DecidableEq

/-- A tenant-scoped durable result; `β` is what a response payload holds. -/
structure IdempotencyRecord (β : Type) where
  tenantId : String
  idempotencyKey : String
  scope : String
  requestHash : String
  state : IdempotencyState := .inProgress
  responseStatusCode : Option ℕ := none
  responsePayload : Option β := none
  createdAt : Time
  expiresAt : Time
  completedAt : Option Time := none
  deriving DecidableEq

inductive IdempotencyDisposition where
  | execute | replay | conflict | inProgress
  deriving DecidableEq

def lengthWithin (s : String) (least most : ℕ) : Prop := least ≤ s.length ∧ s.length ≤ most

instance (s : String) (least most : ℕ) : Decidable (lengthWithin s least most) :=
  inferInstanceAs (Decidable (_ ∧ _))

/-- The pattern `^[a-f0-9]{64}$`. -/
def IsSha256 (s : String) : Prop :=
  s.length = 64 ∧ ∀ c ∈ s.toList, ('a' ≤ c ∧ c ≤ 'f') ∨ ('0' ≤ c ∧ c ≤ '9')

instance (s : String) : Decidable (IsSha256 s) :=
  @instDecidableAnd _ _ _ (List.decidableBAll _ _)

variable {β : Type}

namespace IdempotencyRecord

abbrev Key := String × String

def key (record : IdempotencyRecord β) : Key := (record.tenantId, record.idempotencyKey)

/-- The field constraints that `model_validate` checks. -/
structure Valid (record : IdempotencyRecord β) : Prop where
  tenantId : lengthWithin record.tenantId 1 128
  idempotencyKey : lengthWithin record.idempotencyKey 1 256
  scope : lengthWithin record.scope 1 256
  requestHash : IsSha256 record.requestHash
  responseStatusCode : ∀ code ∈ record.responseStatusCode, 100 ≤ code ∧ code ≤ 599

theorem valid_iff (record : IdempotencyRecord β) : record.Valid ↔
    lengthWithin record.tenantId 1 128 ∧ lengthWithin record.idempotencyKey 1 256 ∧
    lengthWithin record.scope 1 256 ∧ IsSha256 record.requestHash ∧
    ∀ code ∈ record.responseStatusCode, 100 ≤ code ∧ code ≤ 599 :=
  ⟨fun h => ⟨h.1, h.2, h.3, h.4, h.5⟩, fun h => ⟨h.1, h.2.1, h.2.2.1, h.2.2.2.1, h.2.2.2.2⟩⟩

instance (record : IdempotencyRecord β) : Decidable record.Valid :=
  decidable_of_iff _ record.valid_iff.symm

end IdempotencyRecord

abbrev IdempotencyRecords (β : Type) := Table (IdempotencyRecord.key (β := β))

/-- The arguments of `claim_idempotency`. -/
structure Claim where
  tenantId : String
  idempotencyKey : String
  scope : String
  requestHash : String
  expiresAt : Time
  deriving DecidableEq

/-- The arguments of `complete_idempotency`. -/
structure Completion (β : Type) where
  tenantId : String
  idempotencyKey : String
  requestHash : String
  responseStatusCode : ℕ
  responsePayload : β

def Claim.key (claim : Claim) : IdempotencyRecord.Key := (claim.tenantId, claim.idempotencyKey)

def Completion.key (completion : Completion β) : IdempotencyRecord.Key :=
  (completion.tenantId, completion.idempotencyKey)

/-- The record that a granted claim stores. -/
def Claim.record (claim : Claim) (now : Time) : IdempotencyRecord β where
  tenantId := claim.tenantId
  idempotencyKey := claim.idempotencyKey
  scope := claim.scope
  requestHash := claim.requestHash
  createdAt := now
  expiresAt := claim.expiresAt

/-- What a claim learns from an unexpired record. -/
def Claim.answer (claim : Claim) (current : IdempotencyRecord β) : IdempotencyDisposition :=
  if current.scope ≠ claim.scope ∨ current.requestHash ≠ claim.requestHash then .conflict
  else if current.state = .completed then .replay
  else .inProgress

theorem Claim.answer_ne_execute (claim : Claim) (current : IdempotencyRecord β) :
    claim.answer current ≠ .execute := by
  unfold Claim.answer
  split_ifs <;> simp

/-- The record with its response. -/
def Completion.apply (completion : Completion β) (record : IdempotencyRecord β) (now : Time) :
    IdempotencyRecord β :=
  { record with
    state := .completed
    responseStatusCode := some completion.responseStatusCode
    responsePayload := some completion.responsePayload
    completedAt := some now }

@[simp] theorem Claim.key_record (claim : Claim) (now : Time) :
    (claim.record now : IdempotencyRecord β).key = claim.key := rfl

@[simp] theorem Completion.key_apply (completion : Completion β) (record : IdempotencyRecord β)
    (now : Time) : (completion.apply record now).key = record.key := rfl

/-! ### In memory -/

namespace Memory

def claimIdempotency (records : IdempotencyRecords β) (claim : Claim) (now : Time) :
    Except Fault (IdempotencyDisposition × IdempotencyRecord β) × IdempotencyRecords β :=
  -- an expired record is dropped before the new one is built
  let existing := (records.find? claim.key).filter (fun record => now < record.expiresAt)
  let kept := if existing.isSome then records else records.erase claim.key
  match existing with
  | none =>
    if (claim.record now : IdempotencyRecord β).Valid then
      (.ok (.execute, claim.record now), kept.put (claim.record now))
    else (.error (.validation "IdempotencyRecord"), kept)
  | some current => (.ok (claim.answer current, current), kept)

def completeIdempotency (records : IdempotencyRecords β) (completion : Completion β) (now : Time) :
    Except Fault (IdempotencyRecord β) × IdempotencyRecords β :=
  match records.find? completion.key with
  | none => (.error (.key "idempotency claim not found"), records)
  | some record =>
    if record.requestHash ≠ completion.requestHash then
      (.error (.key "idempotency claim not found"), records)
    else (.ok (completion.apply record now), records.put (completion.apply record now))

end Memory

/-! ### In the database -/

namespace Postgres

def claimIdempotency (records : IdempotencyRecords β) (claim : Claim) (now : Time) :
    Except Fault (IdempotencyDisposition × IdempotencyRecord β) × IdempotencyRecords β :=
  if (claim.record now : IdempotencyRecord β).Valid then
    match records.find? claim.key with
    | none => (.ok (.execute, claim.record now), records.put (claim.record now))
    | some current =>
      if current.Valid then
        if current.expiresAt ≤ now then
          (.ok (.execute, claim.record now), records.put (claim.record now))
        else (.ok (claim.answer current, current), records)
      else (.error (.validation "IdempotencyRecord"), records)
  else (.error (.validation "IdempotencyRecord"), records)

def completeIdempotency (records : IdempotencyRecords β) (completion : Completion β) (now : Time) :
    Except Fault (IdempotencyRecord β) × IdempotencyRecords β :=
  match records.find? completion.key with
  | none => (.error (.key "idempotency claim not found"), records)
  | some record =>
    if record.Valid then
      if record.requestHash ≠ completion.requestHash then
        (.error (.key "idempotency claim does not match request"), records)
      else (.ok (completion.apply record now), records.put (completion.apply record now))
    else (.error (.validation "IdempotencyRecord"), records)

end Postgres

/-! ### The ledger both stores keep -/

/-- What an idempotency store is: the record under each key, if any. -/
abbrev IdempotencyLedger (β : Type) := IdempotencyRecord.Key → Option (IdempotencyRecord β)

namespace IdempotencyLedger

/-- The record under a key that has not expired. -/
def live (ledger : IdempotencyLedger β) (key : IdempotencyRecord.Key) (now : Time) :
    Option (IdempotencyRecord β) :=
  (ledger key).filter (fun record => now < record.expiresAt)

/-- A claim is granted when its key has no live record, and answered by the live record otherwise. -/
def claimAnswer (ledger : IdempotencyLedger β) (claim : Claim) (now : Time) :
    IdempotencyDisposition × IdempotencyRecord β :=
  match ledger.live claim.key now with
  | none => (.execute, claim.record now)
  | some current => (claim.answer current, current)

def claim (ledger : IdempotencyLedger β) (claim : Claim) (now : Time) : IdempotencyLedger β :=
  if (ledger.live claim.key now).isSome then ledger
  else Function.update ledger claim.key (some (claim.record now))

/-- A completion lands on the record of its key and hash, expired or not. -/
def completeAnswer (ledger : IdempotencyLedger β) (completion : Completion β) (now : Time) :
    Option (IdempotencyRecord β) :=
  ((ledger completion.key).filter (fun record => record.requestHash = completion.requestHash)).map
    (fun record => completion.apply record now)

def complete (ledger : IdempotencyLedger β) (completion : Completion β) (now : Time) :
    IdempotencyLedger β :=
  match ledger.completeAnswer completion now with
  | some record => Function.update ledger completion.key (some record)
  | none => ledger

theorem live_eq_some {ledger : IdempotencyLedger β} {key : IdempotencyRecord.Key} {now : Time}
    {record : IdempotencyRecord β} :
    ledger.live key now = some record ↔ ledger key = some record ∧ now < record.expiresAt := by
  simp [live, Option.filter_eq_some_iff]

theorem live_eq_none {ledger : IdempotencyLedger β} {key : IdempotencyRecord.Key} {now : Time} :
    ledger.live key now = none ↔ ∀ record, ledger key = some record → record.expiresAt ≤ now := by
  simp [live, Option.filter_eq_none_iff]

end IdempotencyLedger

end RouteShield
