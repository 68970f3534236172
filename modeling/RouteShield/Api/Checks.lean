import RouteShield.Api.Access

/-!
What the checks of a handler establish. They make no calls; each either raises or returns,
and what it returned says what held.
-/

namespace RouteShield

namespace Api

open Prog (CallFree callFree_pure callFree_throw callFree_bind)

variable {svc : Service} {α : Type}

theorem callFree_http (status : ℕ) (detail : String) : (http status detail : Api α).CallFree :=
  callFree_throw _

theorem callFree_require (condition : Bool) (status : ℕ) (detail : String) :
    (require condition status detail).CallFree := by
  unfold require
  split
  · exact callFree_pure ()
  · exact callFree_http status detail

theorem require_eq_pure {condition : Bool} {status : ℕ} {detail : String} {u : Unit}
    (h : require condition status detail = pure u) : condition = true := by
  unfold require at h
  split at h
  · assumption
  · cases h

theorem callFree_validate (model : String) (valid : Bool) : (validate model valid).CallFree := by
  unfold validate
  split
  · exact callFree_pure ()
  · exact callFree_throw _

theorem validate_eq_pure {model : String} {valid : Bool} {u : Unit}
    (h : validate model valid = pure u) : valid = true := by
  unfold validate at h
  split at h
  · assumption
  · cases h

theorem callFree_found (result : Option α) (status : ℕ) (detail : String) :
    (found result status detail).CallFree := by
  cases result with
  | none => exact callFree_http status detail
  | some a => exact callFree_pure a

theorem found_eq_pure {result : Option α} {status : ℕ} {detail : String} {a : α}
    (h : found result status detail = pure a) : result = some a := by
  cases result with
  | none => cases h
  | some b => rw [Prog.pure_injective h]

theorem callFree_requireTenant (tenantId : Option String) : (requireTenant tenantId).CallFree := by
  cases tenantId with
  | none => exact callFree_http _ _
  | some tenant =>
    simp only [requireTenant]
    split
    · exact callFree_http _ _
    · exact callFree_pure tenant

theorem requireTenant_eq_pure {tenantId : Option String} {tenant : String}
    (h : requireTenant tenantId = pure tenant) : tenantId = some tenant ∧ tenant ≠ "" := by
  cases tenantId with
  | none => cases h
  | some t =>
    simp only [requireTenant] at h
    split at h
    · cases h
    · next ht =>
      obtain rfl := Prog.pure_injective h
      exact ⟨rfl, ht⟩

theorem callFree_requireRole (role : Option UserRole) (allowed : List UserRole) :
    (requireRole role allowed).CallFree := callFree_require _ _ _

theorem requireRole_eq_pure {role : Option UserRole} {allowed : List UserRole} {u : Unit}
    (h : requireRole role allowed = pure u) : ∃ r ∈ role, r ∈ allowed := by
  simpa using require_eq_pure h

theorem callFree_requireActorId (actorId : Option String) :
    (requireActorId svc actorId).CallFree :=
  callFree_bind (callFree_require _ _ _) fun _ _ => callFree_pure actorId

theorem callFree_requireActorMatchesPayload (actorId : Option String) (payloadActorId : String) :
    (requireActorMatchesPayload svc actorId payloadActorId).CallFree :=
  callFree_bind (callFree_requireActorId actorId) fun _ _ =>
    callFree_bind (callFree_require _ _ _) fun _ _ => callFree_pure payloadActorId

theorem requireActorId_eq_pure {actorId actor : Option String}
    (h : requireActorId svc actorId = pure actor) :
    actor = actorId ∧ (svc.requireOidc = true → truthy actorId = true) := by
  obtain ⟨u, hreq, hpure⟩ := (callFree_require _ _ _).bind_eq_pure h
  have hc := require_eq_pure hreq
  refine ⟨(Prog.pure_injective hpure).symm, fun hoidc => ?_⟩
  simpa [hoidc] using hc

theorem requireActorMatchesPayload_eq_pure {actorId : Option String} {payload actor : String}
    (h : requireActorMatchesPayload svc actorId payload = pure actor) :
    actor = payload ∧ (svc.requireOidc = true → truthy actorId = true) ∧
      (truthy actorId = true → actorId = some payload) := by
  obtain ⟨a, hactor, hrest⟩ := (callFree_requireActorId _).bind_eq_pure h
  obtain ⟨u, hreq, hpure⟩ := (callFree_require _ _ _).bind_eq_pure hrest
  obtain ⟨rfl, hoidc⟩ := requireActorId_eq_pure hactor
  refine ⟨(Prog.pure_injective hpure).symm, hoidc, fun ht => ?_⟩
  simpa [ht] using require_eq_pure hreq

theorem callFree_requireTripAccess (trip : Trip) (caller : Caller) (allowed : List UserRole) :
    (requireTripAccess svc trip caller allowed).CallFree :=
  callFree_bind (callFree_requireRole _ _) fun _ _ =>
    callFree_bind (callFree_requireActorId _) fun _ _ =>
      callFree_bind (callFree_require _ _ _) fun _ _ => callFree_require _ _ _

theorem callFree_replay (stored : Stored α) (record : MutationRecord) :
    (stored.replay record).CallFree := by
  unfold Stored.replay
  split
  · exact callFree_pure _
  · exact callFree_throw _

/-! ### Calls before a body -/

section Only

open Prog (Only only_bind only_pure only_perform)

variable {P : ∀ {γ : Type}, Effect γ → Prop}

/-- Access to an incident's trip is checked on the two records. -/
theorem only_requireIncidentTripAccess {tenantId : String} {incidentId : Uuid} {caller : Caller}
    {allowed : List UserRole} (hincident : P (.repo (.getIncident tenantId incidentId)))
    (htrip : ∀ tripId, P (.repo (.getTrip tenantId tripId))) :
    (requireIncidentTripAccess svc tenantId incidentId caller allowed).Only P := by
  refine only_bind (only_perform hincident) fun _ => ?_
  refine only_bind (callFree_found _ _ _).only fun incident => ?_
  refine only_bind (only_perform (htrip _)) fun _ => ?_
  refine only_bind (callFree_found _ _ _).only fun trip => ?_
  exact only_bind (callFree_requireTripAccess _ _ _).only fun _ => only_pure _

/-- A claim asks the clock, and then the ledger. -/
theorem only_claimOptionalMutation {tenantId scope : String} {key : Option String}
    {payload : Payload} (hnow : P .now) (hclaim : ∀ claim, P (.repo (.claimIdempotency claim))) :
    (claimOptionalMutation svc tenantId key scope payload).Only P := by
  unfold claimOptionalMutation
  split
  · exact only_bind (callFree_require _ _ _).only fun _ => only_pure _
  · refine only_bind (only_bind (only_perform hnow) fun _ =>
      only_bind (only_perform (hclaim _)) fun answer => ?_) fun _ => only_pure _
    obtain ⟨disposition, record⟩ := answer
    cases disposition
    · exact only_pure _
    · exact only_pure _
    · exact (callFree_http _ _).only
    · exact (callFree_http _ _).only

end Only

/-! ### The clock and fresh identifiers -/

variable {b : Backend} (env : Env) (w : World b)

theorem run_now : now.run env.exec w = (.ok (env.clock w.tick), env.after w .now) := rfl

end Api

end RouteShield
