import RouteShield.Api.Grants
import RouteShield.Api.Memory
import RouteShield.Api.Registers
import RouteShield.Lib.Pool

/-!
Changes of one traveler's profile side by side. A settings change and a confirmation both read
the profile, build the next one and overwrite what is stored, without looking at its version.
As long as every profile that is saved comes with the version after the stored one, the stored
profile is what the changes make of the first one in the order of their saves.
-/

namespace RouteShield

/-! ### Changes of a profile -/

/-- What a request does to a profile. -/
inductive ProfileChange where
  | settings (update : TravelerPreferenceUpdate)
  | patch (fields : JsonObject)

/-- The profile that a change makes at a time, if it validates. -/
def ProfileChange.apply (svc : Service) (tenantId travelerId : String) (time : Time)
    (existing : Option TravelerPreferenceProfile) :
    ProfileChange → Option TravelerPreferenceProfile
  | .settings update =>
    let baseline := existing.getD (blankProfile tenantId travelerId update.consentVersion time)
    some { update.apply baseline with version := baseline.version + 1, updatedAt := time }
  | .patch fields =>
    let baseline := existing.getD (blankProfile tenantId travelerId "pending" time)
    patchProfile svc { baseline with version := baseline.version + 1 } fields

/-- The version of a profile that may be absent. -/
def versionOf (profile : Option TravelerPreferenceProfile) : ℕ :=
  (profile.map TravelerPreferenceProfile.version).getD 0

/-- The profile, if there is one, is the traveler's. -/
def OwnedBy (tenantId travelerId : String) (profile : Option TravelerPreferenceProfile) : Prop :=
  ∀ p ∈ profile, p.tenantId = tenantId ∧ p.travelerId = travelerId

/-- Changes one after another. -/
inductive Serial (svc : Service) (tenantId travelerId : String)
    (start : Option TravelerPreferenceProfile) :
    List (ProfileChange × Time) → Option TravelerPreferenceProfile → Prop where
  | nil : Serial svc tenantId travelerId start [] start
  | snoc {history : List (ProfileChange × Time)} {profile : Option TravelerPreferenceProfile}
      {change : ProfileChange} {time : Time} {next : TravelerPreferenceProfile} :
      Serial svc tenantId travelerId start history profile →
      change.apply svc tenantId travelerId time profile = some next →
      Serial svc tenantId travelerId start (history ++ [(change, time)]) (some next)

section Changes

variable {svc : Service} {tenantId travelerId : String} {time : Time}
  {existing : Option TravelerPreferenceProfile} {change : ProfileChange}
  {profile : TravelerPreferenceProfile}

theorem ProfileChange.version_apply
    (h : change.apply svc tenantId travelerId time existing = some profile) :
    profile.version = versionOf existing + 1 := by
  cases change with
  | settings update =>
    cases h
    cases existing <;> rfl
  | patch fields =>
    simp only [ProfileChange.apply] at h
    obtain ⟨-, -, hversion, -⟩ := patchProfile_keeps h
    rw [hversion]
    cases existing <;> rfl

/-- A change keeps the owner. -/
theorem ProfileChange.owned_apply (howned : OwnedBy tenantId travelerId existing)
    (h : change.apply svc tenantId travelerId time existing = some profile) :
    OwnedBy tenantId travelerId (some profile) := by
  rintro p ⟨⟩
  cases change with
  | settings update =>
    cases h
    cases existing with
    | none => exact ⟨rfl, rfl⟩
    | some p => exact howned p rfl
  | patch fields =>
    simp only [ProfileChange.apply] at h
    obtain ⟨htenant, htraveler, -⟩ := patchProfile_keeps h
    rw [htenant, htraveler]
    cases existing with
    | none => exact ⟨rfl, rfl⟩
    | some p => exact howned p rfl

/-- Every change counts one version. -/
theorem Serial.version {start final : Option TravelerPreferenceProfile}
    {history : List (ProfileChange × Time)}
    (h : Serial svc tenantId travelerId start history final) :
    versionOf final = versionOf start + history.length := by
  induction h with
  | nil => rfl
  | snoc _ happly ih =>
    have hnext := ProfileChange.version_apply happly
    rw [List.length_append, List.length_singleton, ← Nat.add_assoc, ← ih]
    exact hnext

end Changes

/-! ### The requests -/

/-- A request that changes a traveler's profile. -/
inductive PreferenceRequest where
  | update (caller : Caller) (changes : TravelerPreferenceUpdate)
  | confirm (caller : Caller) (proposalId : Uuid)

/-- The request, for the traveler of a tenant. -/
def PreferenceRequest.start (svc : Service) (tenantId travelerId : String) :
    PreferenceRequest → Api Unit
  | .update caller changes => Api.handle svc
      (.updatePreferences { caller with tenantId := some tenantId } travelerId changes)
  | .confirm caller proposalId => Api.handle svc
      (.confirmMemoryProposal { caller with tenantId := some tenantId } proposalId travelerId)

/-- A request and what it has done: the proposal and the profile that it has read, whether it has
saved a profile, and whether its last call wrote something other than a claim. -/
structure PreferencePhase where
  request : PreferenceRequest
  proposal : Option MemoryUpdateProposal := none
  existing : Option (Option TravelerPreferenceProfile) := none
  saved : Bool := false
  wrote : Bool := false

/-- The change of the request, once it is known. -/
def PreferencePhase.change (φ : PreferencePhase) : Option ProfileChange :=
  match φ.request with
  | .update _ changes => some (.settings changes)
  | .confirm _ _ => φ.proposal.map (fun proposal => .patch proposal.patch)

/-- The call writes something, and is not a claim. -/
def Effect.lasting {α : Type} (op : Effect α) : Bool := op.writes ≠ [] ∧ op.claim? = none

def PreferencePhase.advance (φ : PreferencePhase) : {α : Type} → Effect α → Except Fault α →
    PreferencePhase
  | _, .repo (.getProfile _ _), .ok existing => { φ with existing := some existing, wrote := false }
  | _, .repo (.getMemoryProposal _ _), .ok proposal => { φ with proposal, wrote := false }
  | _, .repo (.saveProfile _), .ok _ => { φ with saved := true, wrote := true }
  | _, op, _ => { φ with wrote := op.lasting }

/-- A request reads its own proposal and its traveler's profile, saves once what its change makes
of the profile that it has read, and files its proposal with the patch it was read with. It may
not be answered by a replay, and raises after its save only on a call that writes. -/
def preferenceContract (svc : Service) (tenantId travelerId : String) :
    Prog.Contract Effect Fault PreferencePhase where
  allowed φ {_} op := match op with
    | .repo (.getProfile tenantId' travelerId') =>
      tenantId' = tenantId ∧ travelerId' = travelerId ∧ φ.saved = false
    | .repo (.getMemoryProposal tenantId' proposalId) =>
      tenantId' = tenantId ∧ φ.saved = false ∧
        ∃ caller, φ.request = .confirm caller proposalId
    | .repo (.saveProfile profile) => φ.saved = false ∧ ∃ existing ∈ φ.existing,
      ∃ change ∈ φ.change, ∃ time, change.apply svc tenantId travelerId time existing = some profile
    | .repo (.saveMemoryProposal proposal) => ∃ read ∈ φ.proposal,
      proposal.proposalId = read.proposalId ∧ proposal.tenantId = read.tenantId ∧
        proposal.patch = read.patch
    | op => .profiles ∉ op.writes ∧ .proposals ∉ op.writes
  promised _ {_} op answer := match op, answer with
    | .now, .error _ => False
    | .uuid4, .error _ => False
    | .repo (.saveProfile _), .error _ => False
    | .repo (.claimIdempotency _), .ok (.replay, _) => False
    | _, _ => True
  advance φ {_} op answer := φ.advance op answer
  stop φ := φ.saved = true → φ.wrote = true

/-- Nothing is saved yet, and the last call wrote nothing that lasts. -/
structure PreferencePhase.Open (φ : PreferencePhase) : Prop where
  saved : φ.saved = false
  wrote : φ.wrote = false

theorem PreferencePhase.Open.stop {svc : Service} {T V : String} {φ : PreferencePhase}
    (h : φ.Open) : (preferenceContract svc T V).stop φ := fun hsaved => by simp [h.saved] at hsaved

theorem PreferencePhase.Open.quiet {φ : PreferencePhase} (h : φ.Open) :
    { φ with wrote := false } = φ := by
  obtain ⟨request, proposal, existing, saved, wrote⟩ := φ
  have hwrote : wrote = false := h.wrote
  rw [hwrote]

namespace Api

open Prog hiding pure

variable {svc : Service} {T V : String} {φ : PreferencePhase} {α β : Type}

theorem preference_now {Q : PreferencePhase → β → Prop} {f : Time → Api β}
    (hf : ∀ time, (f time).Follows (preferenceContract svc T V) Q { φ with wrote := false }) :
    (now >>= f).Follows (preferenceContract svc T V) Q φ :=
  follows_seq (follows_perform ⟨List.not_mem_nil, List.not_mem_nil⟩ (fun time _ => hf time)
    fun _ h => h.elim)

theorem preference_uuid4 {Q : PreferencePhase → β → Prop} {f : Uuid → Api β}
    (hf : ∀ id, (f id).Follows (preferenceContract svc T V) Q { φ with wrote := false }) :
    (uuid4 >>= f).Follows (preferenceContract svc T V) Q φ :=
  follows_seq (follows_perform ⟨List.not_mem_nil, List.not_mem_nil⟩ (fun id _ => hf id)
    fun _ h => h.elim)

theorem controlEnabled_open (h : φ.Open) (tenantId : String)
    (controlName : RuntimeControlName) :
    (controlEnabled svc tenantId controlName).Follows (preferenceContract svc T V)
      (fun φ' _ => φ' = φ) φ := by
  have hstop : (preferenceContract svc T V).stop { φ with wrote := false } := by
    rw [h.quiet]
    exact h.stop
  refine follows_seq (follows_perform ⟨List.not_mem_nil, List.not_mem_nil⟩ (fun override _ => ?_)
    fun _ _ => hstop)
  cases override with
  | some override => exact follows_pure h.quiet
  | none =>
    refine follows_seq (follows_perform ⟨List.not_mem_nil, List.not_mem_nil⟩ (fun platform _ => ?_)
      fun _ _ => hstop)
    cases platform <;> exact follows_pure h.quiet

theorem claimMutation_open (h : φ.Open) (tenantId key scope : String) (payload : Payload) :
    (claimMutation svc tenantId key scope payload).Follows (preferenceContract svc T V)
      (fun φ' claimed => φ' = φ ∧ claimed.2 = none) φ := by
  have hstop : (preferenceContract svc T V).stop { φ with wrote := false } := by
    rw [h.quiet]
    exact h.stop
  refine preference_now fun claimedAt => ?_
  refine follows_seq (follows_perform ⟨(by decide : .profiles ∉ [Collection.idempotency]),
    (by decide : .proposals ∉ [Collection.idempotency])⟩ (fun answer hanswer => ?_) fun _ _ => hstop)
  obtain ⟨disposition, record⟩ := answer
  cases disposition with
  | execute => exact follows_pure ⟨h.quiet, rfl⟩
  | replay => exact hanswer.elim
  | conflict | inProgress => exact follows_throw hstop

theorem claimOptionalMutation_open (h : φ.Open) (tenantId : String) (key : Option String)
    (scope : String) (payload : Payload) :
    (claimOptionalMutation svc tenantId key scope payload).Follows (preferenceContract svc T V)
      (fun φ' claimed => φ' = φ ∧ claimed.2 = none) φ := by
  unfold claimOptionalMutation
  cases keyed key with
  | none =>
    exact follows_seq (follows_callFree (callFree_require _ _ _)
      (fun _ _ => follows_pure ⟨rfl, rfl⟩) h.stop)
  | some key =>
    exact follows_bind (claimMutation_open h tenantId key scope payload)
      fun _ _ hclaimed => follows_pure hclaimed

/-- The rest of a request after its save. -/
theorem recordMemoryAudit_saved (hsaved : φ.saved = true) (hwrote : φ.wrote = true)
    (tenantId travelerId action : String) (proposalId : Option Uuid) (actorId : Option String)
    (details : JsonObject) :
    (recordMemoryAudit tenantId travelerId action proposalId actorId details).Follows
      (preferenceContract svc T V) (fun φ' _ => φ'.saved = true) φ := by
  refine follows_seq (follows_callFree (callFree_validate _ _) (fun _ _ => ?_) fun _ => hwrote)
  refine preference_uuid4 fun auditId => preference_now fun occurredAt => ?_
  exact follows_perform ⟨(by decide : .profiles ∉ [Collection.memoryAudits]),
    (by decide : .proposals ∉ [Collection.memoryAudits])⟩ (fun _ _ => hsaved) fun _ _ _ => rfl

theorem emitEvent_saved (hsaved : φ.saved = true) (fields : EventFields) :
    (emitEvent fields).Follows (preferenceContract svc T V) (fun φ' _ => φ'.saved = true) φ := by
  refine follows_bind (preference_uuid4 fun eventId => preference_now fun emittedAt => ?_)
    fun _ _ hsaved' => follows_pure hsaved'
  refine follows_seq (follows_perform ⟨(by decide : .profiles ∉ [Collection.events]),
    (by decide : .proposals ∉ [Collection.events])⟩ (fun _ _ => ?_) fun _ _ _ => rfl)
  exact follows_pure hsaved

theorem completeOptionalMutation_saved (hsaved : φ.saved = true) (tenantId : String)
    (key requestHash : Option String) (status : ℕ) (response : Response) :
    (completeOptionalMutation tenantId key requestHash status response).Follows
      (preferenceContract svc T V) (fun φ' _ => φ'.saved = true) φ := by
  unfold completeOptionalMutation
  split
  · refine follows_seq (follows_perform ⟨(by decide : .profiles ∉ [Collection.idempotency]),
      (by decide : .proposals ∉ [Collection.idempotency])⟩ (fun _ _ => ?_) fun _ _ _ => rfl)
    exact follows_pure hsaved
  · exact follows_pure hsaved

/-- A mutation saves when its body does. -/
theorem mutation_saves (h : φ.Open) {tenantId scope : String}
    {key : Option String} {payload : Payload} {status : ℕ} {stored : Stored α} {body : Api α}
    (hbody : body.Follows (preferenceContract svc T V) (fun φ' _ => φ'.saved = true) φ) :
    (mutation svc tenantId key scope payload status stored body).Follows
      (preferenceContract svc T V) (fun φ' _ => φ'.saved = true) φ := by
  refine follows_bind (claimOptionalMutation_open h tenantId key scope payload) ?_
  rintro φ' ⟨requestHash, replay⟩ ⟨rfl, rfl⟩
  refine follows_bind hbody fun φ'' a hsaved => ?_
  exact follows_bind (completeOptionalMutation_saved hsaved _ _ _ _ _)
    fun _ _ hsaved' => follows_pure hsaved'

theorem updatePreferences_saves (caller : Caller) (changes : TravelerPreferenceUpdate) :
    (updatePreferences svc { caller with tenantId := some T } V changes).Follows
      (preferenceContract svc T V) (fun φ' _ => φ'.saved = true)
      { request := .update caller changes } := by
  have hopen : PreferencePhase.Open { request := .update caller changes } := ⟨rfl, rfl⟩
  unfold updatePreferences
  refine follows_seq (follows_callFree (callFree_requireRole _ _) (fun _ _ => ?_) hopen.stop)
  refine follows_seq (follows_callFree (callFree_requireTenant _) (fun tenantId htenant => ?_)
    hopen.stop)
  refine follows_seq (follows_callFree (callFree_requireActorId _) (fun actorId _ => ?_) hopen.stop)
  refine follows_seq (follows_callFree (callFree_require _ _ _) (fun _ _ => ?_) hopen.stop)
  refine follows_bind (controlEnabled_open hopen _ _) ?_
  rintro φ on rfl
  refine follows_seq (follows_callFree (callFree_require _ _ _) (fun _ _ => ?_) hopen.stop)
  obtain rfl : T = tenantId := Option.some.inj (requireTenant_eq_pure htenant).1
  refine mutation_saves hopen ?_
  refine follows_seq (follows_perform ⟨rfl, rfl, rfl⟩ (fun existing _ => ?_)
    fun _ _ h => by cases h)
  refine preference_now fun updatedAt => ?_
  refine follows_seq (follows_perform ⟨rfl, existing, rfl, _, rfl, updatedAt, rfl⟩ (fun _ _ => ?_)
    fun _ h => h.elim)
  refine follows_bind (recordMemoryAudit_saved rfl rfl _ _ _ _ _ _) fun φ' _ hsaved => ?_
  refine preference_uuid4 fun correlationId => ?_
  exact follows_bind (emitEvent_saved hsaved _) fun _ _ hsaved' => follows_pure hsaved'

theorem confirmMemoryProposal_saves (caller : Caller) (proposalId : Uuid) :
    (confirmMemoryProposal svc { caller with tenantId := some T } proposalId V).Follows
      (preferenceContract svc T V) (fun φ' _ => φ'.saved = true)
      { request := .confirm caller proposalId } := by
  have hopen : ∀ proposal existing, PreferencePhase.Open
      { request := .confirm caller proposalId, proposal, existing } := fun _ _ => ⟨rfl, rfl⟩
  unfold confirmMemoryProposal
  refine follows_seq (follows_callFree (callFree_requireRole _ _) (fun _ _ => ?_)
    (hopen none none).stop)
  refine follows_seq (follows_callFree (callFree_requireActorMatchesPayload _ _)
    (fun confirmedActorId hactor => ?_) (hopen none none).stop)
  refine follows_seq (follows_callFree (callFree_requireTenant _) (fun tenantId htenant => ?_)
    (hopen none none).stop)
  refine follows_bind (controlEnabled_open (hopen none none) _ _) ?_
  rintro φ on rfl
  refine follows_seq (follows_callFree (callFree_require _ _ _) (fun _ _ => ?_)
    (hopen none none).stop)
  obtain rfl : T = tenantId := Option.some.inj (requireTenant_eq_pure htenant).1
  refine follows_seq (follows_perform ⟨rfl, rfl, caller, rfl⟩ (fun found? _ => ?_)
    fun _ _ h => by cases h)
  cases found? with
  | none => exact follows_throw fun h => by cases h
  | some proposal =>
    refine follows_seq (follows_pure (a := proposal) ?_)
    refine follows_seq (follows_callFree (callFree_require _ _ _) (fun _ hmatch => ?_)
      (hopen (some proposal) none).stop)
    have hactor : confirmedActorId = V := (requireActorMatchesPayload_eq_pure hactor).1
    have htraveler : confirmedActorId = proposal.travelerId := by
      simpa using require_eq_pure hmatch
    obtain rfl : proposal.travelerId = V := htraveler.symm.trans hactor
    refine mutation_saves (hopen (some proposal) none) ?_
    unfold confirmProposal
    refine follows_seq (follows_callFree (callFree_require _ _ _) (fun _ _ => ?_)
      (hopen (some proposal) none).stop)
    refine follows_seq (follows_perform ⟨rfl, rfl, rfl⟩ (fun existing _ => ?_)
      fun _ _ h => by cases h)
    refine follows_seq (follows_callFree (callFree_require _ _ _) (fun _ _ => ?_)
      (hopen (some proposal) (some existing)).stop)
    refine preference_now fun builtAt => ?_
    cases hprofile : patchProfile svc
        { existing.getD (blankProfile T proposal.travelerId "pending" builtAt) with
          version :=
            (existing.getD (blankProfile T proposal.travelerId "pending" builtAt)).version + 1 }
        proposal.patch with
    | none =>
      simp only [hprofile]
      exact follows_throw fun h => by cases h
    | some profile =>
      simp only [hprofile]
      refine preference_now fun resolvedAt => ?_
      refine follows_seq (follows_perform ⟨rfl, existing, rfl, _, rfl, builtAt, hprofile⟩
        (fun _ _ => ?_) fun _ h => h.elim)
      refine follows_seq (follows_perform ⟨proposal, rfl, rfl, rfl, rfl⟩ (fun _ _ => ?_)
        fun _ _ _ => rfl)
      refine follows_bind (recordMemoryAudit_saved rfl rfl _ _ _ _ _ _) fun φ' _ hsaved => ?_
      refine preference_uuid4 fun tripId => preference_uuid4 fun correlationId => ?_
      exact follows_bind (emitEvent_saved hsaved _) fun _ _ hsaved' => follows_pure hsaved'

end Api

end RouteShield
