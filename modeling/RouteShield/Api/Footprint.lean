import RouteShield.Api.Checks
import RouteShield.Api.Frame
import RouteShield.Api.Requests

/-!
What each request may write. A handler writes only the collections of its list, and records
events only under identifiers it has just drawn.
-/

namespace RouteShield

/-- The calls of a handler that writes only the listed collections; the phase is the last
identifier drawn. -/
def conduct (cs : List Collection) : Prog.Contract Effect Fault (Option Uuid) where
  allowed drawn {_} op := (∀ c ∈ op.writes, c ∈ cs) ∧
    match op with
    | .repo (.recordEvent event) => drawn = some event.eventId
    | _ => True
  promised _ {_} _ _ := True
  advance drawn {_} op r := drawnAfter drawn op r
  stop _ := True

/-- What an assessment may write. -/
def assessedCollections : List Collection :=
  [.events, .idempotency, .evidence, .assessments, .incidents, .candidates]

/-- What the opening of an incident may write. -/
def openedCollections : List Collection := [.events, .incidents, .candidates]

/-- What an assessment may write once it has its evidence. -/
def scoredCollections : List Collection := .assessments :: openedCollections

namespace Api

open Prog hiding pure

variable {svc : Service} {cs : List Collection} {α β : Type}

/-- The handler keeps to the collections, whatever was drawn before. -/
structure Writes (cs : List Collection) (p : Api α) : Prop where
  follows : ∀ drawn, p.Follows (conduct cs) (fun _ _ => True) drawn

@[grind .] theorem writes_pure (a : α) : Writes cs (pure a : Api α) := ⟨fun _ => trivial⟩

@[grind .] theorem writes_throw (e : Fault) : Writes cs (.throw e : Api α) := ⟨fun _ => trivial⟩

@[grind ←] theorem writes_bind {p : Api α} {f : α → Api β} (hp : Writes cs p)
    (hf : ∀ a, Writes cs (f a)) : Writes cs (p >>= f) :=
  ⟨fun drawn => follows_bind (hp.follows drawn) fun d a _ => (hf a).follows d⟩

@[grind ←] theorem writes_map {p : Api α} {f : α → β} (hp : Writes cs p) : Writes cs (f <$> p) := by
  rw [map_eq_pure_bind]
  exact writes_bind hp fun _ => writes_pure _

theorem writes_discard {p : Api α} (hp : Writes cs p) : Writes cs (discard p) := writes_map hp

theorem CallFree.writes {p : Api α} (hp : p.CallFree) : Writes cs p :=
  ⟨fun _ => follows_callFree hp (fun _ _ => trivial) trivial⟩

theorem writes_perform {op : Effect α} (h : ∀ drawn, (conduct cs).allowed drawn op) :
    Writes cs (perform op) :=
  ⟨fun drawn => follows_perform (h drawn) (fun _ _ => trivial) fun _ _ => trivial⟩

theorem writes_attempt {op : Effect α} (h : ∀ drawn, (conduct cs).allowed drawn op) :
    Writes cs (attempt op) :=
  ⟨fun drawn => ⟨h drawn, fun _ _ => trivial⟩⟩

@[grind .] theorem writes_ofExcept (r : Except Fault α) :
    Writes cs (.ofExcept r) := CallFree.writes ⟨r, rfl⟩

@[grind ←] theorem writes_forM {xs : List β} {f : β → Api PUnit} (h : ∀ x, Writes cs (f x)) :
    Writes cs (xs.forM f) := ⟨fun _ =>
  follows_mono (follows_forM (I := fun _ => True) (fun x _ d _ => (h x).follows d) trivial)
    fun _ _ _ => trivial⟩

@[grind ←] theorem writes_mapM {xs : List β} {f : β → Api α} (h : ∀ x, Writes cs (f x)) :
    Writes cs (xs.mapM f) := ⟨fun _ =>
  follows_mono (follows_mapM (I := fun _ => True) (S := fun _ => True)
    (fun x _ d _ => follows_mono ((h x).follows d) fun _ _ _ => ⟨trivial, trivial⟩) trivial)
    fun _ _ _ => trivial⟩

theorem Writes.mono {cs' : List Collection} {p : Api α} (hp : Writes cs p)
    (h : ∀ c ∈ cs, c ∈ cs') : Writes cs' p := by
  refine ⟨fun drawn => ?_⟩
  have hp' := hp.follows drawn
  clear hp
  induction p generalizing drawn with
  | pure a => trivial
  | throw e => trivial
  | call op next ih =>
    exact ⟨⟨fun c hc => h c (hp'.1.1 c hc), hp'.1.2⟩, fun r hr => ih r _ (hp'.2 r hr)⟩

/-- The calls of a handler write only the collections of its list. -/
theorem Writes.only {p : Api α} (hp : Writes cs p) : p.Only (fun op => ∀ c ∈ op.writes, c ∈ cs) :=
  (hp.follows none).only (fun _ _ hop => hop.1) fun _ _ _ => trivial

/-! ### Checks -/

@[grind .] theorem writes_require (condition : Bool) (status : ℕ) (detail : String) :
    Writes cs (require condition status detail) := CallFree.writes (callFree_require _ _ _)

@[grind .] theorem writes_validate (model : String) (valid : Bool) :
    Writes cs (validate model valid) :=
  CallFree.writes (callFree_validate _ _)

@[grind .] theorem writes_http (status : ℕ) (detail : String) :
    Writes cs (http status detail : Api α) := CallFree.writes (callFree_http _ _)

@[grind .] theorem writes_found (result : Option α) (status : ℕ) (detail : String) :
    Writes cs (found result status detail) := CallFree.writes (callFree_found _ _ _)

@[grind .] theorem writes_requireTenant (tenantId : Option String) :
    Writes cs (requireTenant tenantId) := CallFree.writes (callFree_requireTenant _)

@[grind .] theorem writes_requireRole (role : Option UserRole) (allowed : List UserRole) :
    Writes cs (requireRole role allowed) := CallFree.writes (callFree_requireRole _ _)

@[grind .] theorem writes_requireActorId (actorId : Option String) :
    Writes cs (requireActorId svc actorId) := CallFree.writes (callFree_requireActorId _)

@[grind .] theorem writes_requireActorMatchesPayload (actorId : Option String) (payload : String) :
    Writes cs (requireActorMatchesPayload svc actorId payload) :=
  CallFree.writes (callFree_requireActorMatchesPayload _ _)

@[grind .] theorem writes_requireTripAccess (trip : Trip) (caller : Caller)
    (allowed : List UserRole) :
    Writes cs (requireTripAccess svc trip caller allowed) :=
  CallFree.writes (callFree_requireTripAccess _ _ _)

/-! ### The parts that handlers share -/

/-- A call that leaves the events records none. -/
theorem conduct_repo {op : RepoOp α} (h : ∀ c ∈ op.writes, c ∈ cs ∧ c ≠ .events)
    (drawn : Option Uuid) : (conduct cs).allowed drawn (.repo op) := by
  refine ⟨fun c hc => (h c hc).1, ?_⟩
  cases op with
  | recordEvent event => exact absurd rfl (h .events List.mem_cons_self).2
  | _ => trivial

@[grind ←] theorem writes_repo {op : RepoOp α} (h : ∀ c ∈ op.writes, c ∈ cs ∧ c ≠ .events) :
    Writes cs (repo op) := writes_perform (conduct_repo h)

@[grind .] theorem writes_now : Writes cs now := writes_perform fun _ => ⟨nofun, trivial⟩

@[grind .] theorem writes_uuid4 : Writes cs uuid4 := writes_perform fun _ => ⟨nofun, trivial⟩

@[grind .] theorem writes_recordEvent (h : .events ∈ cs) (fields : EventFields) (key : String) :
    Writes cs (recordEvent fields key) := by
  refine ⟨fun drawn => ?_⟩
  refine follows_seq (follows_perform ⟨nofun, trivial⟩ (fun eventId _ => ?_) fun _ _ => trivial)
  refine follows_seq (follows_perform ⟨nofun, trivial⟩ (fun emittedAt _ => ?_) fun _ _ => trivial)
  refine follows_seq (follows_perform ⟨?_, rfl⟩ (fun _ _ => trivial) fun _ _ => trivial)
  exact List.forall_mem_singleton.mpr h

@[grind .] theorem writes_emitEvent (h : .events ∈ cs) (fields : EventFields) :
    Writes cs (emitEvent fields) :=
  writes_bind (writes_recordEvent h _ _) fun _ => writes_pure _

@[grind .] theorem writes_recordMemoryAudit (h : .memoryAudits ∈ cs)
    (tenantId travelerId action : String) (proposalId : Option Uuid) (actorId : Option String)
    (details : JsonObject) :
    Writes cs (recordMemoryAudit tenantId travelerId action proposalId actorId details) :=
  writes_bind (writes_validate _ _) fun _ =>
    writes_bind writes_uuid4 fun _ => writes_bind writes_now fun _ =>
      writes_repo (List.forall_mem_singleton.mpr ⟨h, nofun⟩)

@[grind .] theorem writes_controlEnabled (tenantId : String) (controlName : RuntimeControlName) :
    Writes cs (controlEnabled svc tenantId controlName) := by
  refine writes_bind (writes_repo nofun) fun override => ?_
  cases override with
  | some _ => exact writes_pure _
  | none =>
    refine writes_bind (writes_repo nofun) fun platform => ?_
    cases platform <;> exact writes_pure _

@[grind .] theorem writes_requireIncidentTripAccess (tenantId : String) (incidentId : Uuid)
    (caller : Caller) (allowed : List UserRole) :
    Writes cs (requireIncidentTripAccess svc tenantId incidentId caller allowed) :=
  writes_bind (writes_repo nofun) fun _ =>
    writes_bind (writes_found _ _ _) fun _ =>
      writes_bind (writes_repo nofun) fun _ =>
        writes_bind (writes_found _ _ _) fun _ =>
          writes_bind (writes_requireTripAccess _ _ _) fun _ => writes_pure _

@[grind .] theorem writes_claimMutation (h : .idempotency ∈ cs) (tenantId key scope : String)
    (payload : Payload) :
    Writes cs (claimMutation svc tenantId key scope payload) := by
  refine writes_bind writes_now fun _ => writes_bind
    (writes_repo (List.forall_mem_singleton.mpr ⟨h, nofun⟩)) fun answer => ?_
  obtain ⟨disposition, record⟩ := answer
  cases disposition <;> first | exact writes_pure _ | exact writes_throw _

@[grind .] theorem writes_completeMutation (h : .idempotency ∈ cs)
    (tenantId key requestHash : String) (status : ℕ) (response : Response) :
    Writes cs (completeMutation tenantId key requestHash status response) :=
  writes_bind (writes_repo (List.forall_mem_singleton.mpr ⟨h, nofun⟩)) fun _ => writes_pure _

@[grind .] theorem writes_claimOptionalMutation (h : .idempotency ∈ cs) (tenantId : String)
    (key : Option String) (scope : String) (payload : Payload) :
    Writes cs (claimOptionalMutation svc tenantId key scope payload) := by
  unfold claimOptionalMutation
  split
  · exact writes_bind (writes_require _ _ _) fun _ => writes_pure _
  · exact writes_bind (writes_claimMutation h _ _ _ _) fun _ => writes_pure _

@[grind .] theorem writes_completeOptionalMutation (h : .idempotency ∈ cs) (tenantId : String)
    (key requestHash : Option String) (status : ℕ) (response : Response) :
    Writes cs (completeOptionalMutation tenantId key requestHash status response) := by
  unfold completeOptionalMutation
  split
  · exact writes_completeMutation h _ _ _ _ _
  · exact writes_pure _

theorem writes_mutation (h : .idempotency ∈ cs) {tenantId : String} {key : Option String}
    {scope : String} {payload : Payload} {status : ℕ} {stored : Stored α} {body : Api α}
    (hbody : Writes cs body) :
    Writes cs (mutation svc tenantId key scope payload status stored body) := by
  refine writes_bind (writes_claimOptionalMutation h _ _ _ _) fun answer => ?_
  obtain ⟨requestHash, replay⟩ := answer
  cases replay with
  | some record => exact CallFree.writes (callFree_replay stored record)
  | none =>
    exact writes_bind hbody fun a =>
      writes_bind (writes_completeOptionalMutation h _ _ _ _ _) fun _ => writes_pure _

@[grind .] theorem writes_collectEvidence (trip : Trip) (scenario : Option DemoScenario)
    (id : Uuid) :
    Writes cs (perform (.collectEvidence trip scenario id)) :=
  writes_perform fun _ => ⟨nofun, trivial⟩

@[grind .] theorem writes_invokeGraph (input : GraphInput) :
    Writes cs (perform (.invokeGraph input)) := writes_perform fun _ => ⟨nofun, trivial⟩

@[grind .] theorem writes_putUpload (tenantId : String) (uploadId : Uuid) (content : String) :
    Writes cs (attempt (.putUpload tenantId uploadId content)) :=
  writes_attempt fun _ => ⟨nofun, trivial⟩

@[grind .] theorem writes_attempt_sendNotification (notification : NotificationRecord) :
    Writes cs (attempt (.sendNotification notification)) :=
  writes_attempt fun _ => ⟨nofun, trivial⟩

@[grind .] theorem writes_attempt_sendAction (action : ActionDispatchRecord) :
    Writes cs (attempt (.sendAction action)) := writes_attempt fun _ => ⟨nofun, trivial⟩

@[grind .] theorem writes_orDrawn (id : Option Uuid) : Writes cs (orDrawn id) := by
  cases id <;> unfold orDrawn <;> grind

@[grind .] theorem writes_orNow (time : Option Time) : Writes cs (orNow time) := by
  cases time <;> unfold orNow <;> grind

@[grind .] theorem writes_callFree_replay (stored : Stored α) (record : MutationRecord) :
    Writes cs (stored.replay record) := CallFree.writes (callFree_replay stored record)

/-! ### What calls leave -/

section Traces

variable {μ : Type} {trace : ∀ {γ : Type}, Effect γ → List μ} {c : Collection} {b : Backend}
  {env : Env} {w : World b} {m : μ}

/-- Only the calls that write the collection leave anything. -/
def LeftBy (c : Collection) (trace : ∀ {γ : Type}, Effect γ → List μ) : Prop :=
  ∀ {γ : Type} (op : Effect γ), c ∉ op.writes → trace op = []

theorem Writes.traces_eq_nil (hleft : LeftBy c trace) {p : Api α} (hp : Writes cs p)
    (hc : c ∉ cs) (w : World b) : p.traces env.exec trace w = [] :=
  hp.only.traces_eq_nil (fun op hop => hleft op fun hwrites => hc (hop c hwrites)) w

/-- A part that leaves nothing leaves it to what comes after it. -/
theorem Writes.mem_traces_bind (hleft : LeftBy c trace) {p : Api α} (hp : Writes cs p)
    (hc : c ∉ cs) {f : α → Api β} :
    m ∈ (p >>= f).traces env.exec trace w ↔
      ∃ a w', p.run env.exec w = (.ok a, w') ∧ m ∈ (f a).traces env.exec trace w' := by
  refine Prog.mem_traces_bind.trans (or_iff_right ?_)
  rw [hp.traces_eq_nil hleft hc]
  exact List.not_mem_nil

/-- A mutation leaves what its body leaves, after its key was claimed. -/
theorem mem_traces_mutation (hleft : LeftBy c trace) (hc : c ∉ [Collection.idempotency])
    {tenantId scope : String} {key : Option String} {payload : Payload} {status : ℕ}
    {stored : Stored α} {body : Api α}
    (h : m ∈ (mutation svc tenantId key scope payload status stored body).traces env.exec trace w) :
    ∃ requestHash w', (claimOptionalMutation svc tenantId key scope payload).run env.exec w =
      (.ok (requestHash, none), w') ∧ m ∈ body.traces env.exec trace w' := by
  have hclaimed : Writes [.idempotency] (claimOptionalMutation svc tenantId key scope payload) :=
    writes_claimOptionalMutation List.mem_cons_self _ _ _ _
  unfold mutation at h
  obtain ⟨⟨requestHash, replay⟩, w₁, hrun, h⟩ := (hclaimed.mem_traces_bind hleft hc).mp h
  cases replay with
  | some record =>
    have hreplayed : Writes [] (stored.replay record) := writes_callFree_replay stored record
    rw [hreplayed.traces_eq_nil hleft List.not_mem_nil] at h
    cases h
  | none =>
    rcases Prog.mem_traces_bind.mp h with h | ⟨a, w₂, -, h⟩
    · exact ⟨requestHash, w₁, hrun, h⟩
    · have hcompleted : Writes [.idempotency]
          (completeOptionalMutation tenantId key requestHash status (stored.encode a)) :=
        writes_completeOptionalMutation List.mem_cons_self _ _ _ _ _
      obtain ⟨_, w₃, -, h⟩ := (hcompleted.mem_traces_bind hleft hc).mp h
      cases h

end Traces

end Api

end RouteShield
