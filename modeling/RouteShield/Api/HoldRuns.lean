import RouteShield.Api.Claims
import RouteShield.Api.Registers
import RouteShield.Lib.Runs

/-!
Legal holds over runs of requests. Two requests write holds: a creation stores the record that
its caller sends, under the identifier that its caller chose, and a release stores the hold it
read as released. As long as no creation is let through that names a stored hold, a hold
keeps its subject and its expiry, and only a release by its tenant ends it.
-/

namespace RouteShield

/-- The hold that a world has under an identifier. -/
def World.hold {b : Backend} [Framed b] [Registers b] (w : World b) :
    Uuid → Option LegalHoldRecord := Registers.holds.find w.store

/-- The identifier that a creation stores its hold under, when it starts at a tick. -/
def LegalHoldBody.idAt (body : LegalHoldBody) (tick : ℕ) : Uuid :=
  body.legalHoldId.getD (drawn tick 0)

/-- The tick at which its body is parsed. -/
def LegalHoldBody.parsedAt (body : LegalHoldBody) (tick : ℕ) : ℕ :=
  tick + (if body.legalHoldId = none then 1 else 0) + (if body.createdAt = none then 1 else 0)

/-- The caller may create the hold. -/
structure LegalHoldBody.Admitted (svc : Service) (caller : Caller) (body : LegalHoldBody) :
    Prop where
  role : caller.actorRole = some .tenantAdmin
  tenant : caller.tenantId = some body.tenantId
  named : body.tenantId ≠ ""
  identified : svc.requireOidc = true → truthy caller.actorId = true
  matched : truthy caller.actorId = true → caller.actorId = some body.createdBy

section Handlers

variable {b : Backend} {env : Env} {svc : Service} {w : World b}

open Api

theorem parseLegalHold_run (env : Env) (body : LegalHoldBody) (w : World b) :
    ∃ payload w', (parseLegalHold body).run env.exec w = (.ok payload, w') ∧
      w'.store = w.store ∧ w'.tick = body.parsedAt w.tick ∧
      payload.legalHoldId = body.idAt w.tick ∧ payload.tenantId = body.tenantId ∧
      payload.createdBy = body.createdBy := by
  obtain ⟨id, tenantId, scope, reason, createdBy, travelerId, tripId, expiresAt, releasedAt,
    releasedBy, releaseReason, createdAt, valid⟩ := body
  cases id <;> cases createdAt <;> exact ⟨_, _, rfl, rfl, rfl, rfl, rfl, rfl⟩

variable [Framed b] [EventLog b] [ClaimStore b] [Registers b]

/-- A creation leaves the holds, or was let through and stores the hold it was sent. -/
def LegalHoldBody.Outcome (svc : Service) (env : Env) (caller : Caller) (body : LegalHoldBody)
    (w w' : World b) : Prop :=
  w'.only .holds = w.only .holds ∨
    (body.Admitted svc caller ∧
      svc.Grants env w.ledger (body.parsedAt w.tick) body.tenantId caller.idempotencyKey
        "POST:/v1/privacy/legal-holds" ∧
      ∃ payload : LegalHoldRecord, payload.legalHoldId = body.idAt w.tick ∧
        payload.tenantId = body.tenantId ∧ Registers.holds.Saves env w w' payload)

omit [ClaimStore b] in
theorem saveLegalHold_drawn (env : Env) (hold : LegalHoldRecord) (hw : w.EventsDrawn) :
    (env.after w (.repo (.saveLegalHold hold))).EventsDrawn :=
  Registers.holds.drawn_save env hold (List.forall_mem_singleton.mpr ⟨List.mem_cons_self, nofun⟩) hw

omit [ClaimStore b] [EventLog b] in
/-- The body of a creation stores its hold. -/
theorem saveHold_run (tenantId : String) (payload : LegalHoldRecord) (w : World b) :
    ((saveHold tenantId payload).run env.exec w).2.only .holds =
      (env.after w (.repo (.saveLegalHold payload))).only .holds := by
  unfold saveHold
  rw [Prog.run_bind_ok (Registers.holds.run_save payload w)]
  refine only_run_of_writes [.events] ?_ (by decide) _
  grind

theorem createLegalHold_run (svc : Service) (env : Env) (caller : Caller) (body : LegalHoldBody)
    (hw : w.EventsDrawn) :
    body.Outcome svc env caller w ((createLegalHold svc caller body).run env.exec w).2 := by
  obtain ⟨payload, w₁, hparse, hstore, htick, hid, htenant, hcreated⟩ :=
    parseLegalHold_run env body w
  have hw₁ : w₁.EventsDrawn := by
    have hwrites : Writes [] (parseLegalHold body) := writes_parseLegalHold
    have hrun := hwrites.run env hw
    rw [hparse] at hrun
    exact hrun.1
  have honly : w₁.only .holds = w.only .holds := congrArg (Framed.only · _) hstore
  have hledger : w₁.ledger = w.ledger := congrArg ClaimStore.ledger hstore
  have hstop : body.Outcome svc env caller w w₁ := .inl honly
  unfold createLegalHold
  rw [Prog.run_bind_ok hparse]
  refine (callFree_requireRole _ _).run_bind hstop fun _ hrole => ?_
  refine (callFree_requireTenant _).run_bind hstop fun tenantId htenantId => ?_
  refine (callFree_requireActorMatchesPayload _ _).run_bind hstop fun _ hactor => ?_
  refine (callFree_require _ _ _).run_bind hstop fun _ hmatch => ?_
  have hmatch : payload.tenantId = tenantId := by simpa using require_eq_pure hmatch
  subst hmatch
  obtain ⟨htenantId, hnamed⟩ := requireTenant_eq_pure htenantId
  obtain ⟨-, hoidc, hactor⟩ := requireActorMatchesPayload_eq_pure hactor
  obtain ⟨r, hr, hallowed⟩ := requireRole_eq_pure hrole
  obtain rfl := List.mem_singleton.mp hallowed
  rcases mutation_run hw₁ with hsame | ⟨hgrants, w₂, -, -, honly₂, hrun⟩
  · exact .inl ((hsame .holds (by decide)).trans honly)
  · rw [hledger, htick, htenant] at hgrants
    have hadmitted : body.Admitted svc caller :=
      ⟨hr, htenant ▸ htenantId, htenant ▸ hnamed, hoidc, hcreated ▸ hactor⟩
    refine .inr ⟨hadmitted, hgrants, payload, hid, htenant, w₂, ?_, ?_⟩
    · exact (honly₂ .holds (by decide)).trans honly
    · exact (hrun .holds (by decide)).trans (saveHold_run _ payload w₂)

/-- The event of a hold's release by an actor. -/
def LegalHoldRecord.ReleaseEvent (hold : LegalHoldRecord) (actorId : Option String)
    (event : EventRecord) : Prop :=
  event.eventType = "privacy.legal_hold_released" ∧ event.tenantId = hold.tenantId ∧
    event.tripId = hold.tripId ∧ event.actorId = actorId ∧
    event.details =
      [("legal_hold_id", .str hold.legalHoldId.str), ("scope", .str hold.scope.value)]

/-- From one world to another a hold was stored as released, and this was recorded. -/
def World.Releases (env : Env) (w w' : World b) (hold : LegalHoldRecord) (actorId : Option String)
    (reason : String) : Prop :=
  hold.releasedAt = none ∧ ∃ (releasedAt : Time) (hactor : truthy actorId = true),
    Registers.holds.Saves env w w' (hold.release releasedAt actorId hactor reason) ∧
      ∃ event ∈ w'.events, hold.ReleaseEvent actorId event

theorem redacted_hold_details (id scope : String) :
    redactFields (redactFields [("legal_hold_id", .str id), ("scope", .str scope)]) =
      [("legal_hold_id", .str id), ("scope", .str scope)] := by
  have hid : sensitiveKey "legal_hold_id" = false := by decide +kernel
  have hscope : sensitiveKey "scope" = false := by decide +kernel
  simp [redactFields, redact, hid, hscope]

omit [ClaimStore b] in
theorem releaseHold_run {actorId : Option String} {hold : LegalHoldRecord}
    {reason : String} (hactor : truthy actorId = true) (hw : w.EventsDrawn) :
    let w' := ((releaseHold hold.tenantId hold actorId hactor reason).run env.exec w).2
    w' = w ∨ w.Releases env w' hold actorId reason := by
  intro w'
  refine (callFree_require _ _ _).run_bind (Q := fun w' => w' = w ∨
    w.Releases env w' hold actorId reason) (.inl rfl) fun _ hreq => ?_
  have hnone : hold.releasedAt = none := by simpa using require_eq_pure hreq
  have hclock : now.run env.exec w = (.ok (env.clock w.tick), env.after w .now) := rfl
  rw [Prog.run_bind_ok hclock]
  have hdrawn : (env.after w .now).EventsDrawn := hw.of_same rfl (Nat.le_succ _)
  generalize hreleased : hold.release (env.clock w.tick) actorId hactor reason = released
  have hstored := saveLegalHold_drawn env released hdrawn
  rw [Prog.run_bind_ok (Registers.holds.run_save released _), ← bind_assoc]
  obtain ⟨event, w', hemit, honly, hmem, htype, htenant, htrip, hevent, hdetails⟩ :=
    announce_run env (fun correlationId =>
      { eventType := "privacy.legal_hold_released"
        tenantId := hold.tenantId
        tripId := released.tripId
        correlationId
        actorId
        details := [("legal_hold_id", .str released.legalHoldId.str),
          ("scope", .str released.scope.value)] }) hstored
  rw [Prog.run_bind_ok hemit]
  refine .inr ⟨hnone, env.clock w.tick, hactor, ⟨env.after w .now, rfl, ?_⟩, event, hmem, ?_⟩
  · rw [hreleased]
    exact honly .holds (by decide)
  · subst hreleased
    exact ⟨htype, htenant, htrip, hevent, hdetails.trans (redacted_hold_details _ _)⟩

omit [ClaimStore b] in
/-- The ledger has no part in a release. -/
theorem World.Releases.congr {actorId : Option String} {hold : LegalHoldRecord} {reason : String}
    {w₁ w₂ w' : World b} (h : w₁.Releases env w₂ hold actorId reason)
    (hstart : w₁.only .holds = w.only .holds)
    (hend : ∀ c ≠ .idempotency, w'.only c = w₂.only c) :
    w.Releases env w' hold actorId reason := by
  obtain ⟨hnone, releasedAt, hactor, hsaves, event, hmem, hevent⟩ := h
  have hevents : w'.events = w₂.events := World.events_congr (hend .events (by decide))
  refine ⟨hnone, releasedAt, hactor, hsaves.congr hstart (hend .holds (by decide)), event, ?_,
    hevent⟩
  rw [hevents]
  exact hmem

/-- A release leaves the holds, or releases the hold of that identifier for an administrator of
its tenant. -/
def ReleaseOutcome (env : Env) (caller : Caller) (id : Uuid) (reason : String)
    (w w' : World b) : Prop :=
  w'.only .holds = w.only .holds ∨
    ∃ hold, w.hold id = some hold ∧ caller.actorRole = some .tenantAdmin ∧
      caller.tenantId = some hold.tenantId ∧ w.Releases env w' hold caller.actorId reason

theorem releaseLegalHold_run (svc : Service) (env : Env) (caller : Caller) (id : Uuid)
    (reason : String) (hw : w.EventsDrawn) (hs : Registers.holds.Sound w.store) :
    ReleaseOutcome env caller id reason w
      ((releaseLegalHold svc caller id reason).run env.exec w).2 := by
  unfold releaseLegalHold
  refine (callFree_requireRole _ _).run_bind (.inl rfl) fun _ hrole => ?_
  refine (callFree_requireTenant _).run_bind (.inl rfl) fun tenantId htenant => ?_
  refine (callFree_requireActorId _).run_bind (.inl rfl) fun actorId hactorId => ?_
  obtain ⟨rfl, -⟩ := requireActorId_eq_pure hactorId
  obtain ⟨r, hr, hallowed⟩ := requireRole_eq_pure hrole
  obtain rfl := List.mem_singleton.mp hallowed
  obtain ⟨hcaller, -⟩ := requireTenant_eq_pure htenant
  have hget := Registers.holds.run_get env hs tenantId id
  have hread : ∀ c, (env.after w (.repo (.getLegalHold tenantId id))).only c = w.only c :=
    fun c => env.exec_only (.repo (.getLegalHold tenantId id)) w List.not_mem_nil
  have hdrawn : (env.after w (.repo (.getLegalHold tenantId id))).EventsDrawn :=
    hw.of_same (World.events_congr (hread .events)) (Nat.le_succ _)
  by_cases hactor : truthy caller.actorId = true
  · rw [dif_pos hactor, Prog.run_bind_ok hget]
    refine (callFree_found _ _ _).run_bind (.inl (hread _)) fun hold hfound => ?_
    obtain ⟨hhold, hmatch⟩ := Option.filter_eq_some_iff.mp (found_eq_pure hfound)
    obtain rfl : hold.tenantId = tenantId := by simpa using hmatch
    rcases mutation_run hdrawn with hsame | ⟨-, w₁, hw₁, -, honly, hrun⟩
    · exact .inl ((hsame .holds (by decide)).trans (hread _))
    · have hstart : w₁.only .holds = w.only .holds := (honly .holds (by decide)).trans (hread _)
      rcases releaseHold_run hactor hw₁ with hleft | hreleases
      · left
        rw [hrun .holds (by decide), hleft]
        exact hstart
      · exact .inr ⟨hold, hhold, hr, hcaller, hreleases.congr hstart hrun⟩
  · rw [dif_neg hactor]
    exact .inl rfl

end Handlers

/-! ### Runs -/

section Runs

variable {b : Backend} [Framed b] [EventLog b] [ClaimStore b] [Registers b] {env : Env}
  {svc : Service} {w w' : World b} {hold : LegalHoldRecord}

/-- The service lets a creation through that names a stored hold. -/
def Request.ReusesHold (svc : Service) (env : Env) (w : World b) : Request → Prop
  | .createLegalHold caller body => body.Admitted svc caller ∧
    svc.Grants env w.ledger (body.parsedAt w.tick) body.tenantId caller.idempotencyKey
      "POST:/v1/privacy/legal-holds" ∧
    (w.hold (body.idAt w.tick)).isSome
  | _ => False

/-- An administrator of its tenant releases the hold, and the release is recorded. -/
def Request.ReleasesHold (svc : Service) (env : Env) (w : World b) (hold hold' : LegalHoldRecord) :
    Request → Prop
  | .releaseLegalHold caller id reason => id = hold.legalHoldId ∧
    caller.actorRole = some .tenantAdmin ∧ caller.tenantId = some hold.tenantId ∧
    hold.releasedAt = none ∧
    (∃ (releasedAt : Time) (hactor : truthy caller.actorId = true),
      hold' = hold.release releasedAt caller.actorId hactor reason) ∧
    ∃ event ∈ (w.serve svc env (.releaseLegalHold caller id reason)).events,
      hold.ReleaseEvent caller.actorId event
  | _ => False

/-- What runs rely on: events are drawn, and every hold sits in its own tenant's column. -/
def World.HoldsSound (w : World b) : Prop := w.EventsDrawn ∧ Registers.holds.Sound w.store

/-- The holds after a request: as before, with a new one, or with one released. -/
theorem World.serve_holds (hw : w.HoldsSound) {req : Request} (hreq : ¬req.ReusesHold svc env w) :
    (w.serve svc env req).only .holds = w.only .holds ∨
      (∃ hold, w.hold hold.legalHoldId = none ∧
        Registers.holds.Saves env w (w.serve svc env req) hold) ∨
      ∃ hold hold', w.hold hold.legalHoldId = some hold ∧
        req.ReleasesHold svc env w hold hold' ∧
          Registers.holds.Saves env w (w.serve svc env req) hold' := by
  have hframe := (World.serve_run svc env hw.1 req).2.2 .holds
  cases req with
  | createLegalHold caller body =>
    have hserve : w.serve svc env (.createLegalHold caller body) =
      ((Api.createLegalHold svc caller body).run env.exec w).2 := Prog.run_discard _ _
    rw [hserve]
    rcases createLegalHold_run svc env caller body hw.1 with
      hsame | ⟨hadmitted, hgrants, payload, hid, -, hstores⟩
    · exact .inl hsame
    · refine .inr (.inl ⟨payload, ?_, hstores⟩)
      by_contra hsome
      rw [hid] at hsome
      exact hreq ⟨hadmitted, hgrants, Option.isSome_iff_ne_none.mpr hsome⟩
  | releaseLegalHold caller id reason =>
    have hserve : w.serve svc env (.releaseLegalHold caller id reason) =
      ((Api.releaseLegalHold svc caller id reason).run env.exec w).2 := Prog.run_discard _ _
    simp only [Request.ReleasesHold, hserve]
    rcases releaseLegalHold_run svc env caller id reason hw.1 hw.2 with
      hsame | ⟨hold, hhold, hrole, htenant, hnone, releasedAt, hactor, hstores, hevent⟩
    · exact .inl hsame
    · have hid : hold.legalHoldId = id := Registers.holds.id_of_find hhold
      refine .inr (.inr ⟨hold, hold.release releasedAt caller.actorId hactor reason, ?_, ?_,
        hstores⟩)
      · rw [hid]
        exact hhold
      · exact ⟨hid.symm, hrole, htenant, hnone, ⟨releasedAt, hactor, rfl⟩, hevent⟩
  | _ => exact .inl (hframe (by simp [Request.writes, assessedCollections, purgedCollections,
      erasedCollections]))

theorem World.serve_holdsSound (hw : w.HoldsSound) {req : Request}
    (hreq : ¬req.ReusesHold svc env w) : (w.serve svc env req).HoldsSound := by
  refine ⟨(World.serve_run svc env hw.1 req).1, ?_⟩
  rcases World.serve_holds hw hreq with
    hsame | ⟨hold, hnew, hstores⟩ | ⟨hold, hold', hhold, hreleases, hstores⟩
  · exact (Registers.holds.sound_congr hsame).mpr hw.2
  · exact hstores.sound hw.2 fun h' hh' => absurd (hnew.symm.trans hh') nofun
  · cases req with
    | releaseLegalHold caller id reason =>
      obtain ⟨-, -, -, -, ⟨releasedAt, hactor, rfl⟩, -⟩ := hreleases
      refine hstores.sound hw.2 fun h' hh' => ?_
      cases hhold.symm.trans hh'
      rfl
    | _ => exact hreleases.elim

/-- A request keeps a stored hold, or releases it. -/
theorem World.serve_hold (hw : w.HoldsSound) {req : Request} (hreq : ¬req.ReusesHold svc env w)
    {id : Uuid} (hstored : w.hold id = some hold) :
    ∃ hold', (w.serve svc env req).hold id = some hold' ∧
      (hold' = hold ∨ req.ReleasesHold svc env w hold hold') := by
  rcases World.serve_holds hw hreq with
    hsame | ⟨new, hnew, hstores⟩ | ⟨old, released, hold₀, hreleases, hstores⟩
  · refine ⟨hold, ?_, .inl rfl⟩
    rw [World.hold, Register.find_of_only hsame]
    exact hstored
  · have hne : id ≠ new.legalHoldId := by
      rintro rfl
      rw [hnew] at hstored
      cases hstored
    refine ⟨hold, ?_, .inl rfl⟩
    rw [World.hold, hstores.find_eq, Function.update_of_ne hne]
    exact hstored
  · have hsubject : released.legalHoldId = old.legalHoldId := by
      cases req with
      | releaseLegalHold caller id reason =>
        obtain ⟨-, -, -, -, ⟨releasedAt, hactor, rfl⟩, -⟩ := hreleases
        rfl
      | _ => exact hreleases.elim
    by_cases hid : id = old.legalHoldId
    · subst hid
      rw [hold₀] at hstored
      cases hstored
      refine ⟨released, ?_, .inr hreleases⟩
      rw [World.hold, hstores.find_eq, hsubject, Function.update_self]
    · refine ⟨hold, ?_, .inl rfl⟩
      rw [World.hold, hstores.find_eq, hsubject, Function.update_of_ne hid]
      exact hstored

/-- One of the requests releases the hold. -/
def ReleasedIn (svc : Service) (env : Env) (w : World b) (hold hold' : LegalHoldRecord)
    (reqs : List Request) : Prop :=
  ∃ before req after, reqs = before ++ req :: after ∧
    req.ReleasesHold svc env (runFrom (World.serve svc env) w before) hold hold'

omit [ClaimStore b] [Registers b] in
/-- A released hold is not released again. -/
theorem ReleasedIn.releasedAt {hold' : LegalHoldRecord} {reqs : List Request}
    (h : ReleasedIn svc env w hold hold' reqs) :
    hold.releasedAt = none ∧ hold'.releasedAt ≠ none := by
  obtain ⟨before, req, after, -, hreleases⟩ := h
  cases req with
  | releaseLegalHold caller id reason =>
    obtain ⟨-, -, -, hnone, ⟨releasedAt, hactor, rfl⟩, -⟩ := hreleases
    exact ⟨hnone, nofun⟩
  | _ => exact hreleases.elim

/-- A run keeps a stored hold, or releases it once. -/
theorem hold_runFrom (reqs : List Request) (hw : w.HoldsSound)
    (h : Meets (World.serve svc env) (fun w req => ¬req.ReusesHold svc env w) w reqs) {id : Uuid}
    (hstored : w.hold id = some hold) :
    ∃ hold', (runFrom (World.serve svc env) w reqs).hold id = some hold' ∧
      (hold' = hold ∨ ReleasedIn svc env w hold hold' reqs) := by
  induction reqs generalizing w hold with
  | nil => exact ⟨hold, hstored, .inl rfl⟩
  | cons req reqs ih =>
    obtain ⟨hreq, hrest⟩ := h
    obtain ⟨hold₁, hstored₁, hstep⟩ := World.serve_hold hw hreq hstored
    obtain ⟨hold', hstored', hrun⟩ := ih (World.serve_holdsSound hw hreq) hrest hstored₁
    refine ⟨hold', hstored', ?_⟩
    rcases hstep with rfl | hreleases
    · rcases hrun with rfl | ⟨before, last, after, rfl, hlater⟩
      · exact .inl rfl
      · exact .inr ⟨req :: before, last, after, rfl, hlater⟩
    · have hfirst : ReleasedIn svc env w hold hold₁ (req :: reqs) := ⟨[], req, reqs, rfl, hreleases⟩
      rcases hrun with rfl | hlater
      · exact .inr hfirst
      · exact absurd hlater.releasedAt.1 hfirst.releasedAt.2

/-- In every run in which no creation is let through that names a stored hold, a stored hold keeps
its subject and its expiry. It stays active until then, unless an administrator of its tenant
releases it, which is recorded; released, it is never active again. -/
theorem legal_hold_life_cycle (svc : Service) (env : Env) (w : World b) (hw : w.HoldsSound)
    (past future : List Request)
    (h : Meets (World.serve svc env) (fun w req => ¬req.ReusesHold svc env w) w (past ++ future))
    (id : Uuid) (hold : LegalHoldRecord)
    (hstored : (runFrom (World.serve svc env) w past).hold id = some hold) :
    ∃ hold', (runFrom (World.serve svc env) w (past ++ future)).hold id = some hold' ∧
      hold'.tenantId = hold.tenantId ∧ hold'.scope = hold.scope ∧
      hold'.travelerId = hold.travelerId ∧ hold'.tripId = hold.tripId ∧
      hold'.expiresAt = hold.expiresAt ∧
      (∀ now, hold.isActive now = true → hold'.isActive now = true ∨
        ReleasedIn svc env (runFrom (World.serve svc env) w past) hold hold' future) ∧
      (hold.releasedAt ≠ none → ∀ now, hold'.isActive now = false) := by
  obtain ⟨hpast, hfuture⟩ := (meets_append _ _ _).mp h
  have hreached : (runFrom (World.serve svc env) w past).HoldsSound :=
    runFrom_inv World.HoldsSound (fun _ _ hs hreq => World.serve_holdsSound hs hreq) hw hpast
  obtain ⟨hold', hstored', hrun⟩ := hold_runFrom future hreached hfuture hstored
  rw [runFrom_append]
  refine ⟨hold', hstored', ?_⟩
  rcases hrun with rfl | hreleased
  · refine ⟨rfl, rfl, rfl, rfl, rfl, fun now hactive => .inl hactive, fun hreleased now => ?_⟩
    simp [LegalHoldRecord.isActive, hreleased]
  · have hnone := hreleased.releasedAt.1
    obtain ⟨before, req, after, hreqs, hreleases⟩ := hreleased
    cases req with
    | releaseLegalHold caller id' reason =>
      have hcopy := hreleases
      obtain ⟨-, -, -, -, ⟨releasedAt, hactor, rfl⟩, -⟩ := hcopy
      refine ⟨rfl, rfl, rfl, rfl, rfl, fun now _ => .inr ⟨before, _, after, hreqs, hreleases⟩,
        fun hreleased => absurd hnone hreleased⟩
    | _ => exact hreleases.elim

end Runs

/-! ### A hold that a second creation takes away -/

def holdAdministrator : Caller where
  tenantId := some "acme"
  actorRole := some .tenantAdmin
  actorId := some "grace"

/-- A hold on a traveler, under an identifier of the client's. -/
def adaHold : LegalHoldBody where
  legalHoldId := some (.v5 "hold")
  tenantId := "acme"
  scope := .traveler
  reason := "litigation"
  createdBy := "grace"
  travelerId := some "ada"

/-- Another traveler's hold under the same identifier, created as released. -/
def bobHold : LegalHoldBody where
  legalHoldId := some (.v5 "hold")
  tenantId := "acme"
  scope := .traveler
  reason := "litigation"
  createdBy := "grace"
  travelerId := some "bob"
  releasedAt := some 0
  releasedBy := some "grace"

/-- A hold is created, and stands until its release. -/
theorem legal_hold_life_cycle_sample :
    ∃ hold', (runFrom (World.serve .plain .still) .fresh
        [.createLegalHold holdAdministrator adaHold,
          .releaseLegalHold holdAdministrator (.v5 "hold") "settled"]).hold (.v5 "hold") =
            some hold' ∧
      hold'.travelerId = some "ada" := by
  have hempty : World.fresh.HoldsSound := ⟨World.fresh_drawn, trivial⟩
  have hcreated : ((runFrom (World.serve .plain .still) .fresh
      [.createLegalHold holdAdministrator adaHold]).hold (.v5 "hold")).map
        LegalHoldRecord.travelerId = some (some "ada") := by decide +kernel
  obtain ⟨hold, hstored, htraveler⟩ := Option.map_eq_some_iff.mp hcreated
  obtain ⟨hold', hstored', -, -, hkept, -⟩ := legal_hold_life_cycle .plain .still _ hempty
    [.createLegalHold holdAdministrator adaHold]
    [.releaseLegalHold holdAdministrator (.v5 "hold") "settled"]
    ⟨fun hreuse => absurd hreuse.2.2 (by decide +kernel), id, trivial⟩ (.v5 "hold") hold hstored
  exact ⟨hold', hstored', hkept.trans htraveler⟩

/-- A creation takes away the active hold of another traveler. -/
theorem legal_hold_overwritten :
    ((runFrom (World.serve .plain .still) .fresh
      [.createLegalHold holdAdministrator adaHold]).hold (.v5 "hold")).map
        (fun hold => (hold.travelerId, hold.isActive 0)) = some (some "ada", true) ∧
    ((runFrom (World.serve .plain .still) .fresh
      [.createLegalHold holdAdministrator adaHold,
        .createLegalHold holdAdministrator bobHold]).hold (.v5 "hold")).map
        (fun hold => (hold.travelerId, hold.isActive 0)) = some (some "bob", false) := by
  decide +kernel

end RouteShield
