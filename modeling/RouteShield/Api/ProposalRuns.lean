import RouteShield.Api.Claims
import RouteShield.Api.Controls
import RouteShield.Api.Registers
import RouteShield.Lib.Runs

/-!
Memory proposals over runs of requests. A creation stores the proposal that its caller sends,
under the identifier that its caller chose; a confirmation applies the patch it read and stores
the proposal as confirmed. As long as no creation is let through that names a stored proposal,
each proposal is applied at most once, with the patch it was first recorded with.
-/

namespace RouteShield

/-- The identifier that a creation stores its proposal under, when it starts at a tick. -/
def MemoryProposalBody.idAt (body : MemoryProposalBody) (tick : ℕ) : Uuid :=
  body.proposalId.getD (drawn tick 0)

/-- The tick at which its body is parsed. -/
def MemoryProposalBody.parsedAt (body : MemoryProposalBody) (tick : ℕ) : ℕ :=
  tick + (if body.proposalId = none then 1 else 0) + (if body.createdAt = none then 1 else 0)

/-- The caller may create the proposal. -/
structure MemoryProposalBody.Admitted (svc : Service) (env : Env) (v : DecisionView) (tick : ℕ)
    (caller : Caller) (body : MemoryProposalBody) : Prop where
  role : ∃ r ∈ caller.actorRole, r ∈ [UserRole.travelManager, .tenantAdmin]
  identified : svc.requireOidc = true → truthy caller.actorId = true
  matched : truthy caller.actorId = true → caller.actorId = some body.actorId
  tenant : caller.tenantId = some body.tenantId
  named : body.tenantId ≠ ""
  control : svc.controlAt env v body.tenantId .memoryWritesEnabled tick = true

section Handlers

variable {b : Backend} {env : Env} {svc : Service} {w : World b}

open Api

theorem parseMemoryProposal_run (env : Env) (body : MemoryProposalBody) (w : World b) :
    ∃ payload w', (parseMemoryProposal body).run env.exec w = (.ok payload, w') ∧
      w'.store = w.store ∧ w'.tick = body.parsedAt w.tick ∧
      payload.proposalId = body.idAt w.tick ∧ payload.tenantId = body.tenantId ∧
      payload.actorId = body.actorId := by
  obtain ⟨id, tenantId, travelerId, memoryType, recordId, beforeValue, patch, sourceMessageId,
    confidence, consentRequired, status, actorId, createdAt, resolvedAt⟩ := body
  cases id <;> cases createdAt <;> exact ⟨_, _, rfl, rfl, rfl, rfl, rfl, rfl⟩

variable [DecisionStore b] [Framed b] [EventLog b] [ClaimStore b] [Registers b] [ProfileStore b]

def World.proposal (w : World b) : Uuid → Option MemoryUpdateProposal :=
  Registers.proposals.find w.store

def World.profile (w : World b) : String × String → Option TravelerPreferenceProfile :=
  ProfileStore.profile w.store

omit [DecisionStore b] [EventLog b] [ClaimStore b] [Registers b] in
theorem World.profile_congr {w' : World b} (h : w'.only .profiles = w.only .profiles) :
    w'.profile = w.profile := ProfileStore.profile_congr h

/-- A creation leaves the proposals, or was let through and stores the one it was sent. -/
def MemoryProposalBody.Outcome (svc : Service) (env : Env) (caller : Caller)
    (body : MemoryProposalBody) (w w' : World b) : Prop :=
  w'.only .proposals = w.only .proposals ∨
    (body.Admitted svc env w.decisions (body.parsedAt w.tick) caller ∧
      svc.Grants env w.ledger (w.decisions.controlReadAt env body.tenantId .memoryWritesEnabled
        (body.parsedAt w.tick)) body.tenantId caller.idempotencyKey "POST:/v1/memory/proposals" ∧
      ∃ payload : MemoryUpdateProposal, payload.proposalId = body.idAt w.tick ∧
        Registers.proposals.Saves env w w' payload)

omit [ProfileStore b] in
theorem createMemoryProposal_run (svc : Service) (env : Env) (caller : Caller)
    (body : MemoryProposalBody) (hw : w.EventsDrawn) :
    body.Outcome svc env caller w ((createMemoryProposal svc caller body).run env.exec w).2 := by
  obtain ⟨payload, w₁, hparse, hstore, htick, hid, htenant, hactorId⟩ :=
    parseMemoryProposal_run env body w
  have hlater : w.tick ≤ w₁.tick := by
    rw [htick]
    unfold MemoryProposalBody.parsedAt
    omega
  have hw₁ : w₁.EventsDrawn := hw.of_same (congrArg EventLog.events hstore) hlater
  have honly : ∀ c, w₁.only c = w.only c := fun c => congrArg (Framed.only · c) hstore
  have hledger : w₁.ledger = w.ledger := congrArg ClaimStore.ledger hstore
  have hview : w₁.decisions = w.decisions := congrArg DecisionStore.view hstore
  have hstop : body.Outcome svc env caller w w₁ := .inl (honly _)
  unfold createMemoryProposal
  rw [Prog.run_bind_ok hparse]
  refine (callFree_requireRole _ _).run_bind hstop fun _ hrole => ?_
  refine (callFree_requireActorMatchesPayload _ _).run_bind hstop fun _ hactor => ?_
  refine (callFree_requireTenant _).run_bind hstop fun tenantId htenantId => ?_
  obtain ⟨w₂, hcontrol, hread⟩ := controlEnabled_run svc env tenantId .memoryWritesEnabled w₁
  have hreading : Writes [] (controlEnabled svc tenantId .memoryWritesEnabled) :=
    writes_controlEnabled _ _
  have hafter := hreading.run env hw₁
  rw [hcontrol] at hafter
  obtain ⟨hw₂, -, honly₂⟩ := hafter
  have hsame : ∀ c, w₂.only c = w.only c :=
    fun c => (honly₂ c List.not_mem_nil).trans (honly c)
  have hstop₂ : body.Outcome svc env caller w w₂ := .inl (hsame _)
  rw [Prog.run_bind_ok hcontrol]
  refine (callFree_require _ _ _).run_bind hstop₂ fun _ hon => ?_
  refine (callFree_require _ _ _).run_bind hstop₂ fun _ hmatch => ?_
  obtain ⟨htenantId, hnamed⟩ := requireTenant_eq_pure htenantId
  obtain rfl : payload.tenantId = tenantId := by simpa using require_eq_pure hmatch
  obtain ⟨-, hoidc, hactor⟩ := requireActorMatchesPayload_eq_pure hactor
  refine mutation_cases hw₂ ?_ ?_
  · intro w' hstopped
    exact .inl ((hstopped .proposals (by decide)).trans (hsame _))
  · intro hgrants w₃ w' _ _ honly₃ hbody
    have hcontrolOn := require_eq_pure hon
    have hledger₂ : w₂.ledger = w.ledger := ClaimStore.ledger_congr (hsame .idempotency)
    rw [hview, htick, htenant] at hcontrolOn
    rw [hledger₂, hread, hview, htick, htenant] at hgrants
    refine .inr ⟨⟨requireRole_eq_pure hrole, hoidc, hactorId ▸ hactor, htenant ▸ htenantId,
      htenant ▸ hnamed, hcontrolOn⟩, hgrants, payload, hid, w₃, ?_, ?_⟩
    · exact (honly₃ .proposals (by decide)).trans (hsame _)
    · rw [hbody .proposals (by decide), Prog.run_bind_ok (Registers.proposals.run_save payload w₃)]
      refine only_run_of_writes [.memoryAudits] ?_ (by decide) _
      grind

/-- From one world to another a patch was applied to the profile of a tenant's traveler. -/
def World.AppliesPatch (svc : Service) (w w' : World b) (tenantId travelerId : String)
    (patch : JsonObject) : Prop :=
  ∃ (builtAt : Time) (profile : TravelerPreferenceProfile),
    let baseline := (w.profile (tenantId, travelerId)).getD
      (blankProfile tenantId travelerId "pending" builtAt)
    patchProfile svc { baseline with version := baseline.version + 1 } patch = some profile ∧
      w'.profile = Function.update w.profile (tenantId, travelerId) (some profile)

/-- The proposal as its confirmation stores it. -/
def MemoryUpdateProposal.confirmedAt (proposal : MemoryUpdateProposal) (resolvedAt : Time) :
    MemoryUpdateProposal :=
  { proposal with status := .confirmed, resolvedAt := some resolvedAt }

/-- From one world to another a pending proposal was applied and stored as confirmed. -/
def World.Confirms (svc : Service) (env : Env) (w w' : World b) (proposal : MemoryUpdateProposal) :
    Prop :=
  proposal.status = .pendingConfirmation ∧
    w.AppliesPatch svc w' proposal.tenantId proposal.travelerId proposal.patch ∧
    ∃ resolvedAt, Registers.proposals.Saves env w w' (proposal.confirmedAt resolvedAt)

/-- Neither the profiles nor the proposals changed. -/
def World.SameMemory (w w' : World b) : Prop :=
  w'.only .profiles = w.only .profiles ∧ w'.only .proposals = w.only .proposals

/-- A confirmation keeps the owner of the profile that it patches. -/
theorem confirmed_owner {existing : Option TravelerPreferenceProfile} {tenantId travelerId : String}
    {builtAt : Time} {patch : JsonObject} {profile : TravelerPreferenceProfile}
    (howner : ∀ p, existing = some p → (p.tenantId, p.travelerId) = (tenantId, travelerId))
    (h : patchProfile svc
      { existing.getD (blankProfile tenantId travelerId "pending" builtAt) with
        version := (existing.getD (blankProfile tenantId travelerId "pending" builtAt)).version + 1 }
      patch = some profile) :
    (profile.tenantId, profile.travelerId) = (tenantId, travelerId) := by
  obtain ⟨htenant, htraveler, -, -⟩ := patchProfile_keeps h
  rw [htenant, htraveler]
  cases existing with
  | none => rfl
  | some p => exact howner p rfl

/-- What the body of a confirmation comes to. -/
def World.MayConfirm (svc : Service) (env : Env) (w : World b) (proposal : MemoryUpdateProposal)
    (w' : World b) : Prop := w.SameMemory w' ∨ w.Confirms svc env w' proposal

omit [DecisionStore b] [ClaimStore b] [EventLog b] in
theorem confirmProposal_run {actorId : String} {proposal : MemoryUpdateProposal} (w : World b) :
    w.MayConfirm svc env proposal
      ((confirmProposal svc proposal.tenantId actorId proposal).run env.exec w).2 := by
  unfold confirmProposal
  have hsame : ∀ w₁ : World b, w₁.store = w.store → w.SameMemory w₁ :=
    fun w₁ hstore => ⟨congrArg (Framed.only · _) hstore, congrArg (Framed.only · _) hstore⟩
  refine (callFree_require _ _ _).run_bind (.inl (hsame w rfl)) fun _ hreq => ?_
  have hpending : proposal.status = .pendingConfirmation := by simpa using require_eq_pure hreq
  have hget := ProfileStore.run_getProfile proposal.tenantId proposal.travelerId env w
  have hstore : (env.after w (.repo (.getProfile proposal.tenantId proposal.travelerId))).store =
      w.store := congrArg Prod.snd (ProfileStore.getProfile _ _ _ _ w.store)
  rw [Prog.run_bind_ok hget]
  refine (callFree_require _ _ _).run_bind (.inl (hsame _ hstore)) fun _ _ => ?_
  rw [Prog.run_bind_ok (run_now env _)]
  dsimp only
  split
  next profile hprofile =>
    rw [pure_bind, Prog.run_bind_ok (run_now env _),
      Prog.run_bind_ok (ProfileStore.run_saveProfile _ env _),
      Prog.run_bind_ok (Registers.proposals.run_save _ _)]
    generalize env.clock (env.after (env.after w
      (.repo (.getProfile proposal.tenantId proposal.travelerId))) .now).tick = resolvedAt
    rw [show ({ proposal with status := .confirmed, resolvedAt := some resolvedAt } :
      MemoryUpdateProposal) = proposal.confirmedAt resolvedAt from rfl]
    generalize hw₃ : env.after (env.after (env.after w
      (.repo (.getProfile proposal.tenantId proposal.travelerId))) .now) .now = w₃
    have hstore₃ : w₃.store = w.store := by
      rw [← hw₃]
      exact hstore
    have hkey := confirmed_owner (fun existing => ProfileStore.key_of_profile) hprofile
    refine .inr ⟨hpending, ⟨_, profile, hprofile, ?_⟩, resolvedAt,
      env.after w₃ (.repo (.saveProfile profile)), ?_, ?_⟩
    · have hsaved : (env.after w₃ (.repo (.saveProfile profile))).profile =
          Function.update w₃.profile (profile.tenantId, profile.travelerId) (some profile) :=
        (ProfileStore.saveProfile profile _ _ w₃.store).2
      have hbefore : w₃.profile = w.profile := congrArg ProfileStore.profile hstore₃
      rw [hkey, hbefore] at hsaved
      rw [← hsaved]
      refine World.profile_congr (Eq.trans ?_ (env.exec_only (.repo (.saveMemoryProposal
        (proposal.confirmedAt resolvedAt))) _ (by simp [Effect.writes, RepoOp.writes])))
      refine only_run_of_writes [.memoryAudits, .events] ?_ (by decide) _
      grind
    · exact (env.exec_only (.repo (.saveProfile profile)) w₃
        (by simp [Effect.writes, RepoOp.writes])).trans (congrArg (Framed.only · _) hstore₃)
    · refine only_run_of_writes [.memoryAudits, .events] ?_ (by decide) _
      grind
  · exact .inl (hsame _ hstore)

omit [DecisionStore b] [EventLog b] [ClaimStore b] in
/-- Only the profiles and the proposals have a part in a confirmation. -/
theorem World.Confirms.congr {w₁ w₂ w' : World b} {proposal : MemoryUpdateProposal}
    (h : w₁.Confirms svc env w₂ proposal) (hstart : w.SameMemory w₁) (hend : w₂.SameMemory w') :
    w.Confirms svc env w' proposal := by
  obtain ⟨hpending, ⟨builtAt, profile, hpatch, hprofile⟩, resolvedAt, hsaves⟩ := h
  have hbefore : w₁.profile = w.profile := World.profile_congr hstart.1
  rw [hbefore] at hpatch hprofile
  refine ⟨hpending, ⟨builtAt, profile, hpatch, ?_⟩, resolvedAt, hsaves.congr hstart.2 hend.2⟩
  rw [World.profile_congr hend.1]
  exact hprofile

/-- A confirmation leaves the memory, or applies the proposal of that identifier. -/
def ConfirmOutcome (svc : Service) (env : Env) (id : Uuid) (w w' : World b) : Prop :=
  w.SameMemory w' ∨ ∃ proposal, w.proposal id = some proposal ∧ w.Confirms svc env w' proposal

theorem confirmMemoryProposal_run (svc : Service) (env : Env) (caller : Caller) (id : Uuid)
    (actorId : String) (hw : w.EventsDrawn) (hs : Registers.proposals.Sound w.store) :
    ConfirmOutcome svc env id w
      ((confirmMemoryProposal svc caller id actorId).run env.exec w).2 := by
  unfold confirmMemoryProposal
  refine (callFree_requireRole _ _).run_bind (.inl ⟨rfl, rfl⟩) fun _ _ => ?_
  refine (callFree_requireActorMatchesPayload _ _).run_bind (.inl ⟨rfl, rfl⟩) fun _ _ => ?_
  refine (callFree_requireTenant _).run_bind (.inl ⟨rfl, rfl⟩) fun tenantId _ => ?_
  obtain ⟨w₁, hcontrol, -⟩ := controlEnabled_run svc env tenantId .memoryWritesEnabled w
  have hreading : Writes [] (controlEnabled svc tenantId .memoryWritesEnabled) :=
    writes_controlEnabled _ _
  obtain ⟨hw₁, -, honly₁⟩ := hreading.run env hw
  rw [hcontrol] at hw₁ honly₁
  rw [Prog.run_bind_ok hcontrol]
  have hsame₁ : w.SameMemory w₁ := ⟨honly₁ _ List.not_mem_nil, honly₁ _ List.not_mem_nil⟩
  refine (callFree_require _ _ _).run_bind (.inl hsame₁) fun _ _ => ?_
  have hs₁ : Registers.proposals.Sound w₁.store := (Registers.proposals.sound_congr hsame₁.2).mpr hs
  rw [Prog.run_bind_ok (Registers.proposals.run_get env hs₁ tenantId id)]
  have honly₂ : ∀ c, (env.after w₁ (.repo (.getMemoryProposal tenantId id))).only c = w₁.only c :=
    fun c => env.exec_only (.repo (.getMemoryProposal tenantId id)) w₁ List.not_mem_nil
  have hw₂ : (env.after w₁ (.repo (.getMemoryProposal tenantId id))).EventsDrawn :=
    hw₁.of_same (World.events_congr (honly₂ .events)) (Nat.le_succ _)
  generalize env.after w₁ (.repo (.getMemoryProposal tenantId id)) = w₂ at honly₂ hw₂ ⊢
  have hsame₂ : w.SameMemory w₂ :=
    ⟨(honly₂ _).trans hsame₁.1, (honly₂ _).trans hsame₁.2⟩
  refine (callFree_found _ _ _).run_bind (.inl hsame₂) fun proposal hfound => ?_
  refine (callFree_require _ _ _).run_bind (.inl hsame₂) fun _ _ => ?_
  obtain ⟨hfind, hmatch⟩ := Option.filter_eq_some_iff.mp (found_eq_pure hfound)
  obtain rfl : proposal.tenantId = tenantId := by simpa using hmatch
  refine mutation_cases hw₂ ?_ ?_
  · intro w' hstopped
    exact .inl ⟨(hstopped _ (by decide)).trans hsame₂.1, (hstopped _ (by decide)).trans hsame₂.2⟩
  · intro _ w₃ w' _ _ honly₃ hbody
    have hsame₃ : w.SameMemory w₃ :=
      ⟨(honly₃ _ (by decide)).trans hsame₂.1, (honly₃ _ (by decide)).trans hsame₂.2⟩
    rcases confirmProposal_run w₃ with hleft | hconfirms
    · exact .inl ⟨(hbody _ (by decide)).trans (hleft.1.trans hsame₃.1),
        (hbody _ (by decide)).trans (hleft.2.trans hsame₃.2)⟩
    · refine .inr ⟨proposal, ?_, hconfirms.congr hsame₃ ⟨hbody _ (by decide), hbody _ (by decide)⟩⟩
      rw [World.proposal, ← Register.find_of_only hsame₁.2]
      exact hfind

end Handlers

/-! ### Runs -/

section Runs

variable {b : Backend} [DecisionStore b] [Framed b] [EventLog b] [ClaimStore b] [Registers b]
  [ProfileStore b] {env : Env} {svc : Service} {w w' : World b} {proposal : MemoryUpdateProposal}

/-- A creation, a confirmation, or a request that leaves the proposals. -/
def Request.KeepsProposals : Request → Prop
  | .createMemoryProposal _ _ => True
  | .confirmMemoryProposal _ _ _ => True
  | req => .proposals ∉ req.writes

/-- The service lets a creation through that names a stored proposal. -/
def Request.ReusesProposal (svc : Service) (env : Env) (w : World b) : Request → Prop
  | .createMemoryProposal caller body =>
    body.Admitted svc env w.decisions (body.parsedAt w.tick) caller ∧
      svc.Grants env w.ledger (w.decisions.controlReadAt env body.tenantId .memoryWritesEnabled
        (body.parsedAt w.tick)) body.tenantId caller.idempotencyKey "POST:/v1/memory/proposals" ∧
      (w.proposal (body.idAt w.tick)).isSome
  | _ => False

/-- A confirmation of the proposal that changes the profiles. -/
def Request.Applies (svc : Service) (env : Env) (w : World b) (id : Uuid) : Request → Prop
  | .confirmMemoryProposal caller id' actorId => id' = id ∧
    (w.serve svc env (.confirmMemoryProposal caller id' actorId)).only .profiles ≠ w.only .profiles
  | _ => False

/-- What runs rely on: events are drawn, and every proposal sits in its own tenant's column. -/
def World.ProposalsSound (w : World b) : Prop :=
  w.EventsDrawn ∧ Registers.proposals.Sound w.store

/-- The proposals after a request: as before, with a new one, or with one confirmed. -/
theorem World.serve_proposals (hw : w.ProposalsSound) {req : Request} (hkeeps : req.KeepsProposals)
    (hreq : ¬req.ReusesProposal svc env w) :
    (w.serve svc env req).only .proposals = w.only .proposals ∨
      (∃ p, w.proposal p.proposalId = none ∧
        Registers.proposals.Saves env w (w.serve svc env req) p) ∨
      ∃ p, w.proposal p.proposalId = some p ∧ w.Confirms svc env (w.serve svc env req) p := by
  have hframe := (World.serve_run svc env hw.1 req).2.2 .proposals
  cases req with
  | createMemoryProposal caller body =>
    have hserve : w.serve svc env (.createMemoryProposal caller body) =
      ((Api.createMemoryProposal svc caller body).run env.exec w).2 := Prog.run_discard _ _
    rw [hserve]
    rcases createMemoryProposal_run svc env caller body hw.1 with
      hsame | ⟨hadmitted, hgrants, payload, hid, hsaves⟩
    · exact .inl hsame
    · refine .inr (.inl ⟨payload, ?_, hsaves⟩)
      by_contra hsome
      rw [hid] at hsome
      exact hreq ⟨hadmitted, hgrants, Option.isSome_iff_ne_none.mpr hsome⟩
  | confirmMemoryProposal caller id actorId =>
    have hserve : w.serve svc env (.confirmMemoryProposal caller id actorId) =
      ((Api.confirmMemoryProposal svc caller id actorId).run env.exec w).2 := Prog.run_discard _ _
    rw [hserve]
    rcases confirmMemoryProposal_run svc env caller id actorId hw.1 hw.2 with
      hsame | ⟨p, hp, hconfirms⟩
    · exact .inl hsame.2
    · obtain rfl : p.proposalId = id := Registers.proposals.id_of_find hp
      exact .inr (.inr ⟨p, hp, hconfirms⟩)
  | _ => exact .inl (hframe hkeeps)

/-- A request that applies a proposal finds it pending and leaves it confirmed. -/
theorem Request.Applies.confirms (hw : w.ProposalsSound) {req : Request} {id : Uuid}
    (h : req.Applies svc env w id) :
    ∃ p, w.proposal id = some p ∧ w.Confirms svc env (w.serve svc env req) p := by
  cases req with
  | confirmMemoryProposal caller id' actorId =>
    obtain ⟨rfl, hchanged⟩ := h
    have hserve : w.serve svc env (.confirmMemoryProposal caller id' actorId) =
      ((Api.confirmMemoryProposal svc caller id' actorId).run env.exec w).2 := Prog.run_discard _ _
    rw [hserve] at hchanged ⊢
    rcases confirmMemoryProposal_run svc env caller id' actorId hw.1 hw.2 with
      hsame | hconfirms
    · exact absurd hsame.1 hchanged
    · exact hconfirms
  | _ => exact h.elim

theorem World.serve_proposalsSound (hw : w.ProposalsSound) {req : Request}
    (hkeeps : req.KeepsProposals) (hreq : ¬req.ReusesProposal svc env w) :
    (w.serve svc env req).ProposalsSound := by
  refine ⟨(World.serve_run svc env hw.1 req).1, ?_⟩
  rcases World.serve_proposals hw hkeeps hreq with
    hsame | ⟨p, hnew, hsaves⟩ | ⟨p, hp, -, -, resolvedAt, hsaves⟩
  · exact (Registers.proposals.sound_congr hsame).mpr hw.2
  · exact hsaves.sound hw.2 fun p' hp' => absurd (hnew.symm.trans hp') nofun
  · refine hsaves.sound hw.2 fun p' hp' => ?_
    cases hp.symm.trans hp'
    rfl

/-- The proposal is as it was, or was pending and is confirmed. -/
def MemoryUpdateProposal.Kept (proposal proposal' : MemoryUpdateProposal) : Prop :=
  proposal' = proposal ∨ (proposal.status = .pendingConfirmation ∧
    ∃ resolvedAt, proposal' = proposal.confirmedAt resolvedAt)

theorem MemoryUpdateProposal.Kept.trans {p q r : MemoryUpdateProposal} (hpq : p.Kept q)
    (hqr : q.Kept r) : p.Kept r := by
  rcases hpq with rfl | ⟨hpending, resolvedAt, rfl⟩
  · exact hqr
  · rcases hqr with rfl | ⟨hagain, -⟩
    · exact .inr ⟨hpending, resolvedAt, rfl⟩
    · cases hagain

/-- A resolved proposal stays as it is. -/
theorem MemoryUpdateProposal.Kept.eq_of_resolved {p q : MemoryUpdateProposal} (h : p.Kept q)
    (hresolved : p.status ≠ .pendingConfirmation) : q = p :=
  h.resolve_right fun hpending => hresolved hpending.1

theorem MemoryUpdateProposal.Kept.same {p q : MemoryUpdateProposal} (h : p.Kept q) :
    q.tenantId = p.tenantId ∧ q.travelerId = p.travelerId ∧ q.patch = p.patch := by
  rcases h with rfl | ⟨-, resolvedAt, rfl⟩ <;> exact ⟨rfl, rfl, rfl⟩

/-- A request keeps a stored proposal. -/
theorem World.serve_proposal (hw : w.ProposalsSound) {req : Request} (hkeeps : req.KeepsProposals)
    (hreq : ¬req.ReusesProposal svc env w) {id : Uuid} (hstored : w.proposal id = some proposal) :
    ∃ proposal', (w.serve svc env req).proposal id = some proposal' ∧ proposal.Kept proposal' := by
  rcases World.serve_proposals hw hkeeps hreq with
    hsame | ⟨p, hnew, hsaves⟩ | ⟨p, hp, hpending, -, resolvedAt, hsaves⟩
  · refine ⟨proposal, ?_, .inl rfl⟩
    rw [World.proposal, Register.find_of_only hsame]
    exact hstored
  · have hne : id ≠ p.proposalId := by
      rintro rfl
      rw [hnew] at hstored
      cases hstored
    refine ⟨proposal, ?_, .inl rfl⟩
    rw [World.proposal, hsaves.find_eq, Function.update_of_ne hne]
    exact hstored
  · by_cases hid : id = p.proposalId
    · subst hid
      rw [hp] at hstored
      cases hstored
      refine ⟨proposal.confirmedAt resolvedAt, ?_, .inr ⟨hpending, resolvedAt, rfl⟩⟩
      rw [World.proposal, hsaves.find_eq]
      exact Function.update_self _ _ _
    · refine ⟨proposal, ?_, .inl rfl⟩
      rw [World.proposal, hsaves.find_eq, Function.update_of_ne (by exact hid)]
      exact hstored

/-- What a run of the claim's requests has to meet. -/
def Request.RecordsOnce (svc : Service) (env : Env) (w : World b) (req : Request) : Prop :=
  req.KeepsProposals ∧ ¬req.ReusesProposal svc env w

theorem proposalsSound_runFrom {reqs : List Request} (hw : w.ProposalsSound)
    (h : Meets (World.serve svc env) (Request.RecordsOnce svc env) w reqs) :
    (runFrom (World.serve svc env) w reqs).ProposalsSound :=
  runFrom_inv World.ProposalsSound
    (fun _ _ hs hreq => World.serve_proposalsSound hs hreq.1 hreq.2) hw h

/-- A run keeps a stored proposal. -/
theorem proposal_runFrom (reqs : List Request) (hw : w.ProposalsSound)
    (h : Meets (World.serve svc env) (Request.RecordsOnce svc env) w reqs) {id : Uuid}
    (hstored : w.proposal id = some proposal) :
    ∃ proposal', (runFrom (World.serve svc env) w reqs).proposal id = some proposal' ∧
      proposal.Kept proposal' := by
  induction reqs generalizing w proposal with
  | nil => exact ⟨proposal, hstored, .inl rfl⟩
  | cons req reqs ih =>
    obtain ⟨hreq, hrest⟩ := h
    obtain ⟨p, hp, hstep⟩ := World.serve_proposal hw hreq.1 hreq.2 hstored
    obtain ⟨p', hp', hrun⟩ := ih (World.serve_proposalsSound hw hreq.1 hreq.2) hrest hp
    exact ⟨p', hp', hstep.trans hrun⟩

/-- One of the requests is the first to record a proposal under the identifier. -/
def FirstRecorded (svc : Service) (env : Env) (w : World b) (id : Uuid)
    (proposal : MemoryUpdateProposal) (reqs : List Request) : Prop :=
  ∃ before req after, reqs = before ++ req :: after ∧
    (runFrom (World.serve svc env) w before).proposal id = none ∧
    (runFrom (World.serve svc env) w (before ++ [req])).proposal id = some proposal

/-- What is stored under an identifier that was free was recorded first by one of the requests,
and was kept from then on. -/
theorem firstRecorded_runFrom (reqs : List Request) (hw : w.ProposalsSound)
    (h : Meets (World.serve svc env) (Request.RecordsOnce svc env) w reqs) {id : Uuid}
    (hfree : w.proposal id = none)
    (hstored : (runFrom (World.serve svc env) w reqs).proposal id = some proposal) :
    ∃ first, FirstRecorded svc env w id first reqs ∧ first.Kept proposal := by
  induction reqs generalizing w with
  | nil =>
    rw [runFrom_nil, hfree] at hstored
    cases hstored
  | cons req reqs ih =>
    obtain ⟨hreq, hrest⟩ := h
    have hw' := World.serve_proposalsSound hw hreq.1 hreq.2
    cases hnext : (w.serve svc env req).proposal id with
    | none =>
      obtain ⟨first, ⟨before, last, after, rfl, hnone, hsome⟩, hkept⟩ := ih hw' hrest hnext hstored
      exact ⟨first, ⟨req :: before, last, after, rfl, hnone, hsome⟩, hkept⟩
    | some first =>
      obtain ⟨p, hp, hkept⟩ := proposal_runFrom reqs hw' hrest hnext
      cases hstored.symm.trans hp
      exact ⟨first, ⟨[], req, reqs, rfl, hfree, hnext⟩, hkept⟩

omit [DecisionStore b] [EventLog b] [ClaimStore b] [Registers b] in
/-- A patch raises the version of the profile that it is applied to. -/
theorem World.AppliesPatch.changed {tenantId travelerId : String} {patch : JsonObject}
    (h : w.AppliesPatch svc w' tenantId travelerId patch) :
    w'.only .profiles ≠ w.only .profiles := by
  intro hsame
  obtain ⟨builtAt, profile, hpatch, hprofile⟩ := h
  have hversion := (patchProfile_keeps hpatch).2.2.1
  have hkept : w.profile (tenantId, travelerId) = some profile := by
    rw [← World.profile_congr hsame, hprofile, Function.update_self]
  rw [hkept] at hversion
  exact Nat.succ_ne_self _ hversion.symm

/-- A confirmation changes the profiles exactly when it applies its pending proposal. -/
theorem Request.applies_iff (hw : w.ProposalsSound) (caller : Caller) (id : Uuid)
    (actorId : String) :
    (Request.confirmMemoryProposal caller id actorId).Applies svc env w id ↔
      ∃ p, w.proposal id = some p ∧
        w.Confirms svc env (w.serve svc env (.confirmMemoryProposal caller id actorId)) p := by
  constructor
  · exact fun h => h.confirms hw
  · rintro ⟨p, -, -, hpatch, -⟩
    exact ⟨rfl, hpatch.changed⟩

/-- From no proposals, in every run in which no creation is let through that names a stored
proposal: a confirmation that applies a proposal applies the patch that was first recorded under
its identifier, no later one applies it again, and a resolved proposal stays as it is. -/
theorem proposals_applied_once (svc : Service) (env : Env) (w : World b) (hw : w.ProposalsSound)
    (hempty : ∀ id, w.proposal id = none) (reqs : List Request)
    (hkeeps : ∀ req ∈ reqs, req.KeepsProposals)
    (h : Meets (World.serve svc env) (fun w req => ¬req.ReusesProposal svc env w) w reqs) :
    (∀ before req after id, reqs = before ++ req :: after →
      req.Applies svc env (runFrom (World.serve svc env) w before) id →
        (∃ first, FirstRecorded svc env w id first before ∧
          (runFrom (World.serve svc env) w before).AppliesPatch svc
            (runFrom (World.serve svc env) w (before ++ [req])) first.tenantId first.travelerId
              first.patch) ∧
        ∀ middle req' rest, after = middle ++ req' :: rest →
          ¬req'.Applies svc env (runFrom (World.serve svc env) w (before ++ req :: middle)) id) ∧
    ∀ past future id p, reqs = past ++ future →
      (runFrom (World.serve svc env) w past).proposal id = some p →
        p.status ≠ .pendingConfirmation →
          (runFrom (World.serve svc env) w reqs).proposal id = some p := by
  have hmeets : Meets (World.serve svc env) (Request.RecordsOnce svc env) w reqs :=
    h.and_forall hkeeps
  constructor
  · rintro before req after id rfl happlies
    obtain ⟨hbefore, hreq, hafter⟩ := (meets_append _ _ _).mp hmeets
    have hreached := proposalsSound_runFrom hw hbefore
    obtain ⟨p, hp, hpending, hpatch, resolvedAt, hsaves⟩ := happlies.confirms hreached
    have hnext : runFrom (World.serve svc env) w (before ++ [req]) =
        (runFrom (World.serve svc env) w before).serve svc env req := runFrom_append _ _ _
    constructor
    · obtain ⟨first, hfirst, hkept⟩ := firstRecorded_runFrom before hw hbefore (hempty id) hp
      obtain ⟨htenant, htraveler, hsame⟩ := hkept.same
      refine ⟨first, hfirst, ?_⟩
      rw [hnext, ← htenant, ← htraveler, ← hsame]
      exact hpatch
    · rintro middle req' rest rfl hagain
      have hid : p.proposalId = id := Registers.proposals.id_of_find hp
      have hresolved : ((runFrom (World.serve svc env) w before).serve svc env req).proposal id =
          some (p.confirmedAt resolvedAt) := by
        rw [World.proposal, hsaves.find_eq, ← hid]
        exact Function.update_self _ _ _
      have hsound := World.serve_proposalsSound hreached hreq.1 hreq.2
      obtain ⟨hmiddle, -, -⟩ := (meets_append _ _ _).mp hafter
      obtain ⟨q, hq, hkept⟩ := proposal_runFrom middle hsound hmiddle hresolved
      rw [runFrom_append, runFrom_cons] at hagain
      obtain ⟨q', hq', hpending', -⟩ := hagain.confirms (proposalsSound_runFrom hsound hmiddle)
      cases hq.symm.trans hq'
      rw [hkept.eq_of_resolved nofun] at hpending'
      cases hpending'
  · rintro past future id p rfl hp hresolved
    obtain ⟨hpast, hfuture⟩ := (meets_append _ _ _).mp hmeets
    obtain ⟨q, hq, hkept⟩ := proposal_runFrom future (proposalsSound_runFrom hw hpast) hfuture hp
    rw [runFrom_append, hq, hkept.eq_of_resolved hresolved]

end Runs

/-! ### A proposal that is applied twice -/

def proposingManager : Caller where
  tenantId := some "acme"
  actorRole := some .travelManager
  actorId := some "grace"

def adaTraveler : Caller where
  tenantId := some "acme"
  actorRole := some .traveler
  actorId := some "ada"

/-- A proposal for a traveler's language, under an identifier of the client's. -/
def languageProposal (language : String) : MemoryProposalBody where
  proposalId := some (.v5 "proposal")
  tenantId := "acme"
  travelerId := "ada"
  recordId := "record"
  patch := [("language", .str language)]
  sourceMessageId := "message"
  confidence := 1
  actorId := "grace"

/-- A proposal is created and confirmed. -/
def confirmedOnce : List Request :=
  [.createMemoryProposal proposingManager (languageProposal "nb"),
    .confirmMemoryProposal adaTraveler (.v5 "proposal") "ada"]

/-- The confirmed proposal is the one that was created. -/
theorem proposals_applied_once_sample :
    ∃ first, FirstRecorded .switchedOn .still .fresh (.v5 "proposal")
      first [.createMemoryProposal proposingManager (languageProposal "nb")] := by
  have hchanged : (runFrom (World.serve .switchedOn .still) .fresh
      confirmedOnce).only .profiles ≠
      (runFrom (World.serve .switchedOn .still) .fresh
        (confirmedOnce.take 1)).only .profiles := fun hsame =>
    absurd (congrFun (World.profile_congr hsame) ("acme", "ada")) (by decide +kernel)
  obtain ⟨⟨first, hfirst, -⟩, -⟩ := (proposals_applied_once .switchedOn .still
    .fresh ⟨World.fresh_drawn, trivial⟩ (fun _ => rfl) confirmedOnce
    (by simp [confirmedOnce, Request.KeepsProposals])
    ⟨fun hreuse => absurd hreuse.2.2 (by decide +kernel), id, trivial⟩).1
    [.createMemoryProposal proposingManager (languageProposal "nb")]
    (.confirmMemoryProposal adaTraveler (.v5 "proposal") "ada") [] (.v5 "proposal") rfl
    ⟨rfl, hchanged⟩
  exact ⟨first, hfirst⟩

/-- Created again, the confirmed proposal waits again, and its second patch is applied too. -/
theorem proposal_applied_twice :
    let again := confirmedOnce ++ [.createMemoryProposal proposingManager (languageProposal "sv")]
    let twice := again ++ [.confirmMemoryProposal adaTraveler (.v5 "proposal") "ada"]
    let after := runFrom (World.serve .switchedOn .still) .fresh
    ((after confirmedOnce).proposal (.v5 "proposal")).map (fun p => p.status) = some .confirmed ∧
      ((after confirmedOnce).profile ("acme", "ada")).map (fun p => (p.version, p.language)) =
        some (1, "nb") ∧
      ((after again).proposal (.v5 "proposal")).map (fun p => p.status) =
        some .pendingConfirmation ∧
      ((after twice).profile ("acme", "ada")).map (fun p => (p.version, p.language)) =
        some (2, "sv") := by
  decide +kernel

end RouteShield
