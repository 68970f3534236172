import RouteShield.Api.PreferenceRuns
import RouteShield.Api.ProposalRuns

/-!
Requests that change one traveler's profile, in any interleaving. A request reads the profile
in one call and overwrites it in another; where another request has saved in between, its change
is lost. As long as no save comes with another version than the one after the stored one, the
profile is what the requests that succeeded make of it one after another.
-/

namespace RouteShield

def Effect.savedProfile? : {α : Type} → Effect α → Option TravelerPreferenceProfile
  | _, .repo (.saveProfile profile) => some profile
  | _, _ => none

/-- A claim is answered by a stored response. -/
def ReplayedBy : {α : Type} → Effect α → Except Fault α → Prop
  | _, .repo (.claimIdempotency _), .ok (.replay, _) => True
  | _, _, _ => False

def replayed : {α : Type} → Effect α → Except Fault α → Bool
  | _, .repo (.claimIdempotency _), .ok (.replay, _) => true
  | _, _, _ => false

theorem replayed_iff {α : Type} {op : Effect α} {answer : Except Fault α} :
    replayed op answer = true ↔ ReplayedBy op answer := by
  unfold replayed ReplayedBy
  split <;> simp

instance {α : Type} (op : Effect α) (answer : Except Fault α) : Decidable (ReplayedBy op answer) :=
  decidable_of_iff _ replayed_iff

/-- The change that a request stands for: its own fields, or the patch of its proposal. -/
def PreferenceRequest.Makes (proposals : Uuid → Option MemoryUpdateProposal) :
    PreferenceRequest → ProfileChange → Prop
  | .update _ changes, change => change = .settings changes
  | .confirm _ proposalId, change =>
    ∃ proposal ∈ proposals proposalId, change = .patch proposal.patch

/-- The patch and the tenant of a proposal, which no request changes. -/
def MemoryUpdateProposal.SameTerms (p q : MemoryUpdateProposal) : Prop :=
  p.patch = q.patch ∧ p.tenantId = q.tenantId

variable {b : Backend} [Framed b] [Registers b] [ProfileStore b] {env : Env} {svc : Service}
  {T V : String} {w : World b}

/-- What the requests so far have made of the profile that they found, and of the proposals. -/
structure Serving (svc : Service) (T V : String) (w₀ : World b) (requests : List PreferenceRequest)
    (phases : List PreferencePhase) (history : List (ℕ × ProfileChange × Time)) (w : World b) :
    Prop where
  requests : phases.map PreferencePhase.request = requests
  sound : Registers.proposals.Sound w.store
  proposals : ∀ id p, w.proposal id = some p → ∃ p₀ ∈ w₀.proposal id, p.SameTerms p₀
  read : ∀ φ ∈ phases, ∀ p ∈ φ.proposal, (∃ caller, φ.request = .confirm caller p.proposalId) ∧
    ∃ p₀ ∈ w₀.proposal p.proposalId, p.SameTerms p₀
  /-- A profile that was read is the stored one, or of an earlier version. -/
  known : ∀ φ ∈ phases, φ.saved = false → ∀ existing ∈ φ.existing, OwnedBy T V existing ∧
    versionOf existing ≤ versionOf (w.profile (T, V)) ∧
      (versionOf existing = versionOf (w.profile (T, V)) → existing = w.profile (T, V))
  serial : Serial svc T V (w₀.profile (T, V)) (history.map Prod.snd) (w.profile (T, V))
  distinct : (history.map Prod.fst).Nodup
  saved : ∀ i, i ∈ history.map Prod.fst ↔ ∃ φ, phases[i]? = some φ ∧ φ.saved = true
  change : ∀ entry ∈ history, ∃ φ, phases[entry.1]? = some φ ∧ φ.change = some entry.2.1

/-- The event hinders no request: a profile that is saved has the version after the stored one's,
no request is answered by a stored response, and none raises on a call that writes. -/
structure Unhindered (env : Env) (T V : String) (pool : Pool Effect Fault (World b))
    (e : PoolEvent PreferenceRequest) : Prop where
  version : ∀ profile ∈ pool.next? Effect.savedProfile? e,
    profile.version = versionOf (pool.state.profile (T, V)) + 1
  unanswered : ¬pool.Answered env.exec ReplayedBy e
  unraised : ¬pool.Raises env.exec (fun op => op.lasting = true) e

omit [Registers b] in
theorem unhindered_iff (pool : Pool Effect Fault (World b)) (e : PoolEvent PreferenceRequest) :
    Unhindered env T V pool e ↔ (∀ profile ∈ pool.next? Effect.savedProfile? e,
      profile.version = versionOf (pool.state.profile (T, V)) + 1) ∧
        ¬pool.Answered env.exec ReplayedBy e ∧
        ¬pool.Raises env.exec (fun op => op.lasting = true) e :=
  ⟨fun h => ⟨h.version, h.unanswered, h.unraised⟩, fun h => ⟨h.1, h.2.1, h.2.2⟩⟩

instance (pool : Pool Effect Fault (World b)) (e : PoolEvent PreferenceRequest) :
    Decidable (Unhindered env T V pool e) := decidable_of_iff _ (unhindered_iff pool e).symm

omit [Registers b] in
theorem World.profile_owned (w : World b) (T V : String) : OwnedBy T V (w.profile (T, V)) := by
  intro p hp
  have hkey : (p.tenantId, p.travelerId) = (T, V) := ProfileStore.key_of_profile hp
  exact Prod.mk.inj hkey

variable {w₀ w' : World b} {requests : List PreferenceRequest} {phases : List PreferencePhase}
  {history : List (ℕ × ProfileChange × Time)} {i : ℕ} {φ φ' : PreferencePhase}

/-- A call that saves no profile, of a request that goes on as it was. -/
theorem Serving.keep (h : Serving svc T V w₀ requests phases history w) (hi : phases[i]? = some φ)
    (hprofile : w'.profile (T, V) = w.profile (T, V)) (hsound : Registers.proposals.Sound w'.store)
    (hproposals : ∀ id p, w'.proposal id = some p → ∃ p₀ ∈ w₀.proposal id, p.SameTerms p₀)
    (hrequest : φ'.request = φ.request) (hsaved : φ'.saved = φ.saved)
    (hchange : φ.saved = true → φ'.change = φ.change)
    (hread : ∀ p ∈ φ'.proposal, (∃ caller, φ'.request = .confirm caller p.proposalId) ∧
      ∃ p₀ ∈ w₀.proposal p.proposalId, p.SameTerms p₀)
    (hknown : φ'.saved = false → ∀ existing ∈ φ'.existing, OwnedBy T V existing ∧
      versionOf existing ≤ versionOf (w.profile (T, V)) ∧
        (versionOf existing = versionOf (w.profile (T, V)) → existing = w.profile (T, V))) :
    Serving svc T V w₀ requests (phases.set i φ') history w' := by
  have hlt : i < phases.length := (List.getElem?_eq_some_iff.mp hi).1
  have hlookup : ∀ (j : ℕ) (P : PreferencePhase → Prop), (P φ' ↔ P φ) →
      ((∃ ψ, (phases.set i φ')[j]? = some ψ ∧ P ψ) ↔ ∃ ψ, phases[j]? = some ψ ∧ P ψ) := by
    intro j P hP
    by_cases hij : i = j
    · subst hij
      simp [List.getElem?_set_self hlt, hi, hP]
    · rw [List.getElem?_set_ne hij]
  constructor
  · have hset : (phases.set i φ').map PreferencePhase.request =
        (phases.map PreferencePhase.request).set i φ.request := by
      rw [List.map_set, hrequest]
    have hsame : (phases.map PreferencePhase.request)[i]? = some φ.request := by simp [hi]
    obtain ⟨hlt', heq⟩ := List.getElem?_eq_some_iff.mp hsame
    rw [hset, ← h.requests]
    exact heq ▸ List.set_getElem_self hlt'
  · exact hsound
  · exact hproposals
  · intro ψ hψ
    rcases List.mem_or_eq_of_mem_set hψ with hψ | rfl
    · exact h.read ψ hψ
    · exact hread
  · intro ψ hψ
    rw [hprofile]
    rcases List.mem_or_eq_of_mem_set hψ with hψ | rfl
    · exact h.known ψ hψ
    · exact hknown
  · rw [hprofile]
    exact h.serial
  · exact h.distinct
  · intro j
    rw [h.saved j]
    exact (hlookup j (fun ψ => ψ.saved = true) (by rw [hsaved])).symm
  · intro entry hentry
    obtain ⟨ψ, hψ, hψchange⟩ := h.change entry hentry
    by_cases hij : i = entry.1
    · subst hij
      obtain rfl : φ = ψ := Option.some.inj (hi.symm.trans hψ)
      have hin : φ.saved = true := by
        obtain ⟨ψ', hψ', hsaved'⟩ := (h.saved _).mp (List.mem_map_of_mem hentry)
        rw [Option.some.inj (hi.symm.trans hψ')]
        exact hsaved'
      exact ⟨φ', List.getElem?_set_self hlt, (hchange hin).trans hψchange⟩
    · exact ⟨ψ, (List.getElem?_set_ne hij).trans hψ, hψchange⟩

/-- A save of what a request makes of the profile that is stored. -/
theorem Serving.save (h : Serving svc T V w₀ requests phases history w) (hi : phases[i]? = some φ)
    (hsaved : φ.saved = false) {existing : Option TravelerPreferenceProfile}
    {change : ProfileChange} {time : Time} {profile : TravelerPreferenceProfile}
    (hexisting : existing ∈ φ.existing) (hchange : φ.change = some change)
    (happly : change.apply svc T V time existing = some profile)
    (hversion : profile.version = versionOf (w.profile (T, V)) + 1) :
    Serving svc T V w₀ requests (phases.set i { φ with saved := true, wrote := true })
      (history ++ [(i, change, time)]) (env.after w (.repo (.saveProfile profile))) := by
  obtain ⟨howned, -, heq⟩ := h.known φ (List.mem_of_getElem? hi) hsaved existing hexisting
  have hstored : existing = w.profile (T, V) := by
    apply heq
    have hnext := ProfileChange.version_apply happly
    omega
  have hkey := ProfileChange.owned_apply howned happly profile rfl
  have hprofile : (env.after w (.repo (.saveProfile profile))).profile (T, V) = some profile := by
    have hsave := (ProfileStore.saveProfile profile (env.clock w.tick) (drawn w.tick) w.store).2
    refine (congrFun hsave (T, V)).trans ?_
    rw [hkey.1, hkey.2, Function.update_self]
  have honly : (env.after w (.repo (.saveProfile profile))).only .proposals = w.only .proposals :=
    env.exec_only (.repo (.saveProfile profile)) w (by decide : .proposals ∉ [Collection.profiles])
  have hproposal : (env.after w (.repo (.saveProfile profile))).proposal = w.proposal :=
    Register.find_of_only honly
  have hlt : i < phases.length := (List.getElem?_eq_some_iff.mp hi).1
  have hnew : i ∉ history.map Prod.fst := by
    intro hmem
    obtain ⟨ψ, hψ, hin⟩ := (h.saved i).mp hmem
    obtain rfl : φ = ψ := Option.some.inj (hi.symm.trans hψ)
    rw [hsaved] at hin
    cases hin
  constructor
  · have hsame : (phases.map PreferencePhase.request)[i]? = some φ.request := by simp [hi]
    obtain ⟨hlt', hget⟩ := List.getElem?_eq_some_iff.mp hsame
    rw [List.map_set, ← h.requests]
    exact hget ▸ List.set_getElem_self hlt'
  · exact (Registers.proposals.sound_congr honly).mpr h.sound
  · rw [hproposal]
    exact h.proposals
  · intro ψ hψ
    rcases List.mem_or_eq_of_mem_set hψ with hψ | rfl
    · exact h.read ψ hψ
    · exact h.read φ (List.mem_of_getElem? hi)
  · intro ψ hψ hψsaved read hread
    rcases List.mem_or_eq_of_mem_set hψ with hψ | rfl
    · obtain ⟨howned', hle, -⟩ := h.known ψ hψ hψsaved read hread
      have hlater : versionOf (some profile) = versionOf (w.profile (T, V)) + 1 := hversion
      rw [hprofile, hlater]
      exact ⟨howned', by omega, fun hsame => by omega⟩
    · cases hψsaved
  · rw [List.map_append, hprofile]
    exact .snoc h.serial (hstored ▸ happly)
  · rw [List.map_append, List.nodup_append]
    refine ⟨h.distinct, List.nodup_singleton i, ?_⟩
    rintro j hj _ hk rfl
    obtain rfl : j = i := List.mem_singleton.mp hk
    exact hnew hj
  · intro j
    rw [List.map_append, List.mem_append, List.map_singleton, List.mem_singleton, h.saved j]
    by_cases hij : i = j
    · subst hij
      simp [List.getElem?_set_self hlt]
    · simp [List.getElem?_set_ne hij, Ne.symm hij]
  · intro entry hentry
    rcases List.mem_append.mp hentry with hentry | hentry
    · have hij : i ≠ entry.1 := fun hij => hnew (hij ▸ List.mem_map_of_mem hentry)
      rw [List.getElem?_set_ne hij]
      exact h.change entry hentry
    · rw [List.mem_singleton.mp hentry]
      exact ⟨_, List.getElem?_set_self hlt, hchange⟩

/-- A call that leaves the profiles and the proposals. -/
theorem Serving.beside (h : Serving svc T V w₀ requests phases history w) (hi : phases[i]? = some φ)
    {α : Type} {op : Effect α} (hprofiles : .profiles ∉ op.writes)
    (hproposals : .proposals ∉ op.writes) (hrequest : φ'.request = φ.request)
    (hsaved : φ'.saved = φ.saved) (hchange : φ.saved = true → φ'.change = φ.change)
    (hread : ∀ p ∈ φ'.proposal, (∃ caller, φ'.request = .confirm caller p.proposalId) ∧
      ∃ p₀ ∈ w₀.proposal p.proposalId, p.SameTerms p₀)
    (hknown : φ'.saved = false → ∀ existing ∈ φ'.existing, OwnedBy T V existing ∧
      versionOf existing ≤ versionOf (w.profile (T, V)) ∧
        (versionOf existing = versionOf (w.profile (T, V)) → existing = w.profile (T, V))) :
    Serving svc T V w₀ requests (phases.set i φ') history (env.after w op) := by
  have hprofile : (env.after w op).profile = w.profile :=
    World.profile_congr (env.exec_only op w hprofiles)
  have honly : (env.after w op).only .proposals = w.only .proposals :=
    env.exec_only op w hproposals
  have hproposal : (env.after w op).proposal = w.proposal := Register.find_of_only honly
  refine h.keep hi (congrFun hprofile _) ((Registers.proposals.sound_congr honly).mpr h.sound) ?_
    hrequest hsaved hchange hread hknown
  rw [hproposal]
  exact h.proposals

/-- A call from whose answer a request learns nothing. -/
theorem Serving.unlearned (h : Serving svc T V w₀ requests phases history w)
    (hi : phases[i]? = some φ) {α : Type} {op : Effect α}
    (hop : .profiles ∉ op.writes ∧ .proposals ∉ op.writes) (wrote : Bool) :
    Serving svc T V w₀ requests (phases.set i { φ with wrote }) history (env.after w op) := by
  have hmem := List.mem_of_getElem? hi
  exact h.beside hi hop.1 hop.2 rfl rfl (fun _ => rfl) (h.read φ hmem) (h.known φ hmem)

/-- A save of a proposal on the terms it was read with. -/
theorem Serving.file (h : Serving svc T V w₀ requests phases history w) (hi : phases[i]? = some φ)
    {p q : MemoryUpdateProposal} (hq : q ∈ φ.proposal) (hid : p.proposalId = q.proposalId)
    (hterms : p.SameTerms q) (wrote : Bool) :
    Serving svc T V w₀ requests (phases.set i { φ with wrote }) history
      (env.after w (.repo (.saveMemoryProposal p))) := by
  have hmem := List.mem_of_getElem? hi
  obtain ⟨-, q₀, hq₀, hterms₀⟩ := h.read φ hmem q hq
  have hp₀ : p.SameTerms q₀ := ⟨hterms.1.trans hterms₀.1, hterms.2.trans hterms₀.2⟩
  have hfind : (env.after w (.repo (.saveMemoryProposal p))).proposal =
      Function.update w.proposal p.proposalId (some p) :=
    Registers.proposals.find_save p (env.clock w.tick) (drawn w.tick) w.store
  have hprofile : (env.after w (.repo (.saveMemoryProposal p))).profile = w.profile :=
    World.profile_congr (env.exec_only (.repo (.saveMemoryProposal p)) w
      (by decide : .profiles ∉ [Collection.proposals]))
  refine h.keep hi (congrFun hprofile _) (Registers.proposals.sound_save _ _ h.sound ?_) ?_ rfl rfl
    (fun _ => rfl) (h.read φ hmem) (h.known φ hmem)
  · intro p' hp'
    obtain ⟨p₀, hp₀', hterms'⟩ := h.proposals _ p' hp'
    rw [hid] at hp₀'
    obtain rfl : q₀ = p₀ := Option.mem_unique hq₀ hp₀'
    exact hterms'.2.trans hp₀.2.symm
  · intro id p' hp'
    rw [hfind] at hp'
    by_cases hsame : id = p.proposalId
    · subst hsame
      rw [Function.update_self] at hp'
      cases hp'
      exact ⟨q₀, hid ▸ hq₀, hp₀⟩
    · rw [Function.update_of_ne hsame] at hp'
      exact h.proposals id p' hp'

/-- An allowed call that meets the condition on its step. -/
theorem Serving.call (h : Serving svc T V w₀ requests phases history w) (hi : phases[i]? = some φ)
    {α : Type} {op : Effect α} (hop : (preferenceContract svc T V).allowed φ op)
    (hversion : ∀ profile ∈ op.savedProfile?,
      profile.version = versionOf (w.profile (T, V)) + 1) :
    ∃ history', Serving svc T V w₀ requests
      (phases.set i (φ.advance op (env.exec op w).1)) history' (env.after w op) := by
  have hmem := List.mem_of_getElem? hi
  cases op with
  | repo op =>
    cases op with
    | getProfile tenantId travelerId =>
      obtain ⟨rfl, rfl, hsaved⟩ := hop
      have hanswer : (env.exec (.repo (.getProfile tenantId travelerId)) w).1 =
          .ok (w.profile (tenantId, travelerId)) :=
        congrArg Prod.fst (ProfileStore.getProfile tenantId travelerId _ _ w.store)
      rw [hanswer]
      refine ⟨history, h.beside hi List.not_mem_nil List.not_mem_nil rfl rfl (fun _ => rfl)
        (h.read φ hmem) ?_⟩
      rintro - existing ⟨⟩
      exact ⟨w.profile_owned tenantId travelerId, le_rfl, fun _ => rfl⟩
    | getMemoryProposal tenantId proposalId =>
      obtain ⟨rfl, hsaved, caller, hrequest⟩ := hop
      have hanswer : (env.exec (.repo (.getMemoryProposal tenantId proposalId)) w).1 =
          .ok ((w.proposal proposalId).filter (fun p => p.tenantId = tenantId)) :=
        congrArg Prod.fst (Registers.proposals.get_eq h.sound tenantId proposalId _ _)
      rw [hanswer]
      refine ⟨history, h.beside hi List.not_mem_nil List.not_mem_nil rfl rfl ?_ ?_
        (h.known φ hmem)⟩
      · intro hin
        rw [hsaved] at hin
        cases hin
      · intro p hp
        have hfound : w.proposal proposalId = some p := (Option.filter_eq_some_iff.mp hp).1
        obtain rfl : p.proposalId = proposalId := Registers.proposals.id_of_find hfound
        exact ⟨⟨caller, hrequest⟩, h.proposals _ p hfound⟩
    | saveProfile profile =>
      obtain ⟨hsaved, existing, hexisting, change, hchange, time, happly⟩ := hop
      have hanswer : (env.exec (.repo (.saveProfile profile)) w).1 = .ok () :=
        (ProfileStore.saveProfile profile _ _ w.store).1
      rw [hanswer]
      exact ⟨_, h.save hi hsaved hexisting hchange happly (hversion profile rfl)⟩
    | saveMemoryProposal p =>
      obtain ⟨q, hq, hid, htenant, hpatch⟩ := hop
      exact ⟨history, h.file hi hq hid ⟨hpatch, htenant⟩ _⟩
    | _ => exact ⟨history, h.unlearned hi hop _⟩
  | _ => exact ⟨history, h.unlearned hi hop _⟩

/-! ### Runs -/

theorem PreferencePhase.lasting_of_wrote {α : Type} {op : Effect α} {answer : Except Fault α}
    (h : (φ.advance op answer).wrote = true) : op.lasting = true := by
  cases op with
  | repo op =>
    cases op with
    | getProfile tenantId travelerId => cases answer <;> cases h
    | getMemoryProposal tenantId proposalId => cases answer <;> cases h
    | saveProfile profile => rfl
    | _ => exact h
  | _ => cases h

/-- The requests of a pool keep to their contract, and one that has raised has saved nothing. -/
structure Preferring (svc : Service) (T V : String) (w₀ : World b)
    (requests : List PreferenceRequest) (phases : List PreferencePhase)
    (history : List (ℕ × ProfileChange × Time)) (pool : Pool Effect Fault (World b)) : Prop where
  threads : List.Forall₂ (fun φ p => p.Follows (preferenceContract svc T V)
    (fun φ' _ => φ'.saved = true) φ ∧ ∀ e, p = .throw e → φ.saved = false) phases pool.threads
  serving : Serving svc T V w₀ requests phases history pool.state

theorem PreferenceRequest.start_follows (request : PreferenceRequest) :
    (request.start svc T V).Follows (preferenceContract svc T V) (fun φ' _ => φ'.saved = true)
      { request } := by
  cases request with
  | update caller changes =>
    exact Prog.follows_bind (Api.updatePreferences_saves caller changes) fun _ _ hsaved => hsaved
  | confirm caller proposalId =>
    exact Prog.follows_bind (Api.confirmMemoryProposal_saves caller proposalId)
      fun _ _ hsaved => hsaved

/-- An arriving request has saved nothing. -/
theorem Serving.arrive (h : Serving svc T V w₀ requests phases history w)
    (request : PreferenceRequest) :
    Serving svc T V w₀ (requests ++ [request]) (phases ++ [{ request := request }]) history w := by
  constructor
  · rw [List.map_append, h.requests]
    rfl
  · exact h.sound
  · exact h.proposals
  · intro ψ hψ
    rcases List.mem_append.mp hψ with hψ | hψ
    · exact h.read ψ hψ
    · rw [List.mem_singleton.mp hψ]
      exact fun p hp => by cases hp
  · intro ψ hψ
    rcases List.mem_append.mp hψ with hψ | hψ
    · exact h.known ψ hψ
    · rw [List.mem_singleton.mp hψ]
      exact fun _ p hp => by cases hp
  · exact h.serial
  · exact h.distinct
  · intro j
    rw [h.saved j]
    by_cases hj : j < phases.length
    · rw [List.getElem?_append_left hj]
    · rw [List.getElem?_eq_none (not_lt.mp hj), List.getElem?_append_right (not_lt.mp hj),
        List.getElem?_singleton]
      by_cases hlast : j - phases.length = 0 <;> simp [hlast]
  · intro entry hentry
    obtain ⟨ψ, hψ, hchange⟩ := h.change entry hentry
    have hlt : entry.1 < phases.length := (List.getElem?_eq_some_iff.mp hψ).1
    exact ⟨ψ, (List.getElem?_append_left hlt).trans hψ, hchange⟩

omit [Registers b] in
/-- The answers that a request relies on. -/
theorem Unhindered.promised {pool : Pool Effect Fault (World b)} {i : ℕ} {α : Type}
    {op : Effect α} {next : Except Fault α → Api Unit}
    (he : Unhindered env T V pool (.step i : PoolEvent PreferenceRequest))
    (hi : pool.threads[i]? = some (.call op next)) (φ : PreferencePhase) :
    (preferenceContract svc T V).promised φ op (env.exec op pool.state).1 := by
  cases op with
  | repo op =>
    cases op with
    | saveProfile profile =>
      have hanswer : (env.exec (.repo (.saveProfile profile)) pool.state).1 = .ok () :=
        (ProfileStore.saveProfile profile _ _ pool.state.store).1
      rw [hanswer]
      trivial
    | claimIdempotency claim =>
      have hunanswered : ¬ReplayedBy (.repo (.claimIdempotency claim))
          (env.exec (.repo (.claimIdempotency claim)) pool.state).1 :=
        fun hreplayed => he.unanswered ⟨_, hi, hreplayed⟩
      generalize (env.exec (.repo (.claimIdempotency claim)) pool.state).1 = answer at hunanswered ⊢
      cases answer with
      | error e => trivial
      | ok answer =>
        obtain ⟨disposition, record⟩ := answer
        cases disposition with
        | replay => exact hunanswered trivial
        | _ => trivial
    | _ => trivial
  | _ => trivial

/-- What one event preserves. -/
theorem Preferring.apply {pool : Pool Effect Fault (World b)}
    (h : Preferring svc T V w₀ requests phases history pool) {e : PoolEvent PreferenceRequest}
    (he : Unhindered env T V pool e) :
    ∃ phases' history', Preferring svc T V w₀ (requests ++ e.arrival) phases' history'
      (pool.apply env.exec (PreferenceRequest.start svc T V) e) := by
  cases e with
  | spawn request =>
    refine ⟨_, history, ⟨List.rel_append h.threads (.cons ⟨request.start_follows, ?_⟩ .nil),
      h.serving.arrive request⟩⟩
    exact fun _ _ => rfl
  | step i =>
    rw [PoolEvent.arrival, List.append_nil]
    show ∃ phases' history', Preferring svc T V w₀ requests phases' history'
      (pool.stepThread env.exec i)
    rcases Pool.stepThread_cases env.exec pool i with hsame | ⟨γ, op, next, hi, hstep⟩
    · rw [hsame]
      exact ⟨phases, history, h⟩
    · obtain ⟨φ, hφ, ⟨hprog, -⟩, hset⟩ := Pool.forall₂_set h.threads hi
      have hversion : ∀ profile ∈ op.savedProfile?,
          profile.version = versionOf (pool.state.profile (T, V)) + 1 := by
        intro profile hprofile
        refine he.version profile ?_
        simp only [Pool.next?, hi]
        exact hprofile
      obtain ⟨history', hserving⟩ := h.serving.call hφ hprog.1 hversion
      have hnext := hprog.2 _ (he.promised hi φ)
      rw [hstep]
      refine ⟨_, history', ⟨hset _ _ ⟨hnext, ?_⟩, hserving⟩⟩
      intro e hthrow
      rw [hthrow] at hnext
      by_contra hsaved
      have hwrote := hnext (Bool.eq_true_of_not_eq_false hsaved)
      exact he.unraised ⟨_, hi, PreferencePhase.lasting_of_wrote hwrote, e, hthrow⟩

theorem Preferring.run {pool : Pool Effect Fault (World b)}
    (h : Preferring svc T V w₀ requests phases history pool)
    {events : List (PoolEvent PreferenceRequest)}
    (hevents : Meets (Pool.apply env.exec (PreferenceRequest.start svc T V)) (Unhindered env T V)
      pool events) :
    ∃ phases' history', Preferring svc T V w₀ (requests ++ events.flatMap PoolEvent.arrival)
      phases' history' (runFrom (Pool.apply env.exec (PreferenceRequest.start svc T V)) pool
        events) := by
  induction events generalizing pool requests phases history with
  | nil =>
    rw [List.flatMap_nil, List.append_nil]
    exact ⟨phases, history, h⟩
  | cons e events ih =>
    obtain ⟨phases', history', h'⟩ := h.apply hevents.1
    rw [List.flatMap_cons, ← List.append_assoc]
    exact ih h' hevents.2

/-- The profile is what the changes of the requests that succeeded make of the first one, in the
order of the history. -/
structure SerializedBy (svc : Service) (T V : String) (w₀ : World b)
    (requests : List PreferenceRequest) (pool : Pool Effect Fault (World b))
    (history : List (ℕ × ProfileChange × Time)) : Prop where
  distinct : (history.map Prod.fst).Nodup
  succeeded : ∀ i : ℕ, i ∈ history.map Prod.fst ↔ ∃ p ∈ pool.threads[i]?, p.returned?.isSome
  makes : ∀ entry ∈ history, ∃ r, requests[entry.1]? = some r ∧ r.Makes w₀.proposal entry.2.1
  serial : Serial svc T V (w₀.profile (T, V)) (history.map Prod.snd) (pool.state.profile (T, V))

theorem SerializedBy.version {pool : Pool Effect Fault (World b)}
    (h : SerializedBy svc T V w₀ requests pool history) :
    versionOf (pool.state.profile (T, V)) = versionOf (w₀.profile (T, V)) +
      pool.threads.countP (fun p => p.returned?.isSome) := by
  have hperm : (history.map Prod.fst).Perm
      (pool.threads.findIdxs (fun p => p.returned?.isSome)) := by
    refine (List.perm_ext_iff_of_nodup h.distinct List.nodup_findIdxs).mpr fun i => ?_
    rw [h.succeeded i, List.mem_findIdxs_iff_exists_getElem_pos]
    constructor
    · rintro ⟨p, hp, hreturned⟩
      obtain ⟨hlt, rfl⟩ := List.getElem?_eq_some_iff.mp hp
      exact ⟨hlt, hreturned⟩
    · rintro ⟨hlt, hreturned⟩
      exact ⟨_, List.getElem?_eq_getElem hlt, hreturned⟩
  have hlength := hperm.length_eq
  rw [List.length_map, List.length_findIdxs] at hlength
  rw [h.serial.version, List.length_map, hlength]

/-- The change of a request is made from its own fields, or from the proposal that was there. -/
theorem Serving.makes_of_change (h : Serving svc T V w₀ requests phases history w) (hφ : φ ∈ phases)
    {change : ProfileChange} (hchange : φ.change = some change) :
    φ.request.Makes w₀.proposal change := by
  obtain ⟨request, proposal, existing, saved, wrote⟩ := φ
  cases request with
  | update caller changes => exact (Option.some.inj hchange).symm
  | confirm caller proposalId =>
    obtain ⟨p, hp, rfl⟩ := Option.map_eq_some_iff.mp hchange
    obtain ⟨⟨caller', hrequest⟩, p₀, hp₀, hterms⟩ := h.read _ hφ p hp
    cases hrequest
    exact ⟨p₀, hp₀, congrArg ProfileChange.patch hterms.1⟩

/-- A request that has returned has saved, and one that has raised has not. -/
theorem Preferring.serialized {pool : Pool Effect Fault (World b)}
    (h : Preferring svc T V w₀ requests phases history pool)
    (hfinished : ∀ p ∈ pool.threads, p.Finished) :
    SerializedBy svc T V w₀ requests pool history := by
  constructor
  · exact h.serving.distinct
  · intro i
    rw [h.serving.saved i]
    constructor
    · rintro ⟨φ, hφ, hsaved⟩
      have hlt : i < pool.threads.length :=
        h.threads.length_eq ▸ (List.getElem?_eq_some_iff.mp hφ).1
      have hp := List.getElem?_eq_getElem hlt
      refine ⟨_, hp, ?_⟩
      obtain ⟨ψ, hψ, ⟨-, hthrow⟩, -⟩ := Pool.forall₂_set h.threads hp
      obtain rfl : φ = ψ := Option.some.inj (hφ.symm.trans hψ)
      have hdone := hfinished _ (List.getElem_mem hlt)
      generalize pool.threads[i] = p at hthrow hdone ⊢
      cases p with
      | pure a => rfl
      | throw e =>
        have hunsaved := hthrow e rfl
        rw [hsaved] at hunsaved
        cases hunsaved
      | call op next => exact hdone.elim
    · rintro ⟨p, hp, hreturned⟩
      obtain ⟨φ, hφ, ⟨hprog, -⟩, -⟩ := Pool.forall₂_set h.threads hp
      cases p with
      | pure a => exact ⟨φ, hφ, hprog⟩
      | throw e => cases hreturned
      | call op next => cases hreturned
  · intro entry hentry
    obtain ⟨φ, hφ, hchange⟩ := h.serving.change entry hentry
    refine ⟨φ.request, ?_, h.serving.makes_of_change (List.mem_of_getElem? hφ) hchange⟩
    rw [← h.serving.requests, List.getElem?_map, hφ, Option.map_some]
  · exact h.serving.serial

/-- The profile's version counts the requests that succeeded, and the profile is what their
changes make of the first one in some order. -/
def NoLostUpdate (svc : Service) (T V : String) (w₀ : World b)
    (requests : List PreferenceRequest) (pool : Pool Effect Fault (World b)) : Prop :=
  versionOf (pool.state.profile (T, V)) = versionOf (w₀.profile (T, V)) +
      pool.threads.countP (fun p => p.returned?.isSome) ∧
    ∃ history, SerializedBy svc T V w₀ requests pool history

/-- In every run of requests for one traveler that are hindered at no step, no update is lost. -/
theorem no_lost_update (svc : Service) (env : Env) (T V : String) (w : World b)
    (hsound : Registers.proposals.Sound w.store) (events : List (PoolEvent PreferenceRequest))
    (hevents : Meets (Pool.apply env.exec (PreferenceRequest.start svc T V)) (Unhindered env T V)
      ⟨w, []⟩ events)
    (hfinished : ∀ p ∈ (runFrom (Pool.apply env.exec (PreferenceRequest.start svc T V)) ⟨w, []⟩
      events).threads, p.Finished) :
    NoLostUpdate svc T V w (events.flatMap PoolEvent.arrival)
      (runFrom (Pool.apply env.exec (PreferenceRequest.start svc T V)) ⟨w, []⟩ events) := by
  have hserving : Serving svc T V w [] [] [] w := by
    refine ⟨rfl, hsound, fun id p hp => ⟨p, hp, rfl, rfl⟩, ?_, ?_, .nil, List.nodup_nil, ?_, ?_⟩
    all_goals simp
  have hstart : Preferring svc T V w [] [] [] (⟨w, []⟩ : Pool Effect Fault (World b)) :=
    ⟨.nil, hserving⟩
  obtain ⟨phases, history, hrun⟩ := hstart.run hevents
  have hserialized := hrun.serialized hfinished
  exact ⟨hserialized.version, history, hserialized⟩

/-! ### Two settings changes -/

/-- A change of the traveler's language. -/
def languageUpdate (language : String) : PreferenceRequest :=
  .update adaTraveler { language := some language, consentVersion := "v1" }

/-- Two settings changes arrive; the schedule runs them to their ends. -/
def twoUpdates (schedule : List ℕ) : List (PoolEvent PreferenceRequest) :=
  [.spawn (languageUpdate "nb"), .spawn (languageUpdate "sv")] ++ schedule.map .step

/-- One change after the other. -/
theorem no_lost_update_in_turn :
    NoLostUpdate .switchedOn "acme" "ada" World.fresh [languageUpdate "nb", languageUpdate "sv"]
      (runFrom (Pool.apply Env.still.exec (PreferenceRequest.start .switchedOn "acme" "ada"))
        ⟨World.fresh, []⟩ (twoUpdates (List.replicate 14 0 ++ List.replicate 14 1))) :=
  no_lost_update .switchedOn .still "acme" "ada" .fresh trivial
    (twoUpdates (List.replicate 14 0 ++ List.replicate 14 1)) (by decide +kernel)
    (by decide +kernel)

/-- Both changes read before either saves: both succeed, and the second save overwrites the
first. -/
theorem update_lost :
    ¬∀ (svc : Service) (env : Env) (T V : String) (w : World .memory)
      (events : List (PoolEvent PreferenceRequest)), Registers.proposals.Sound w.store →
      (∀ p ∈ (runFrom (Pool.apply env.exec (PreferenceRequest.start svc T V)) ⟨w, []⟩
        events).threads, p.Finished) →
      NoLostUpdate svc T V w (events.flatMap PoolEvent.arrival)
        (runFrom (Pool.apply env.exec (PreferenceRequest.start svc T V)) ⟨w, []⟩ events) := by
  intro h
  obtain ⟨hversion, -⟩ := h .switchedOn .still "acme" "ada" .fresh
    (twoUpdates (List.replicate 14 [0, 1]).flatten) trivial (by decide +kernel)
  exact absurd hversion (by decide +kernel)

end RouteShield
