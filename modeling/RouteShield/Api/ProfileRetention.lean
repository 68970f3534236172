import RouteShield.Api.LostUpdates
import RouteShield.Api.Outcomes

/-!
How long a profile stays after its traveler's consent. A purge takes profiles by the time of their
last update. A settings change writes the time at which it is made; a confirmation that finds a
profile writes that profile's time again, so a purge may take what was confirmed just before.
-/

namespace RouteShield

/-! ### Retention -/

namespace TravelerPreferenceProfile

/-- No purge with a cutoff at or before a time takes the profile. -/
structure RetainedFrom (profile : TravelerPreferenceProfile) (t : Time) : Prop where
  memory : ∀ (repo : InMemoryRepository Response) (now : Time) (cutoffs : Cutoffs),
    cutoffs.before ≤ t → profile ∈ repo.profiles →
      profile ∈ (repo.purgeExpired now cutoffs).2.profiles
  database : ∀ (repo : PostgresRepository Response) (now : Time) (cutoffs : Cutoffs),
    cutoffs.before ≤ t → profile ∈ repo.preferences →
      profile ∈ (repo.purgeExpired now cutoffs).2.preferences

variable {profile : TravelerPreferenceProfile} {t : Time}

/-- A profile that is not older than the cutoff has not expired, whatever is on hold. -/
theorem not_expired_of_le {active : List LegalHoldRecord} {tenantId travelerId : String}
    {stamp before : Time} (h : before ≤ stamp) :
    (!expiredForTraveler active tenantId travelerId stamp before) = true := by
  rw [Bool.not_eq_true', ← Bool.not_eq_true, expiredForTraveler_iff]
  exact fun hexpired => absurd hexpired.1 (not_lt.mpr h)

/-- A profile is retained from a time when it was not updated before it. -/
theorem retainedFrom_iff : profile.RetainedFrom t ↔ t ≤ profile.updatedAt := by
  constructor
  · intro h
    -- without holds, the cutoff at that time keeps no older profile
    have hkept := h.memory { profiles := Table.empty.put profile } 0 { before := t } le_rfl
      (Table.mem_put_self _ _)
    have hfresh := ((Table.mem_filter _ _ _).mp hkept).2
    by_contra holder
    have hexpired : expiredForTraveler [] profile.tenantId profile.travelerId profile.updatedAt t =
        true := by
      rw [expiredForTraveler_iff]
      exact ⟨not_le.mp holder, fun _ hold => absurd hold List.not_mem_nil⟩
    rw [Bool.not_eq_true'] at hfresh
    exact Bool.false_ne_true (hfresh.symm.trans hexpired)
  · intro h
    constructor
    · intro repo now cutoffs hcutoff hmem
      exact (Table.mem_filter _ _ _).mpr ⟨hmem, not_expired_of_le (hcutoff.trans h)⟩
    · intro repo now cutoffs hcutoff hmem
      exact (Table.mem_filter _ _ _).mpr ⟨hmem, not_expired_of_le (hcutoff.trans h)⟩

end TravelerPreferenceProfile

/-! ### The profiles that are saved -/

variable {b : Backend} {env : Env} {svc : Service} {w w' : World b}
  {profile : TravelerPreferenceProfile}

/-- The profiles that a program saves, in the order of its calls. -/
def savedProfiles (env : Env) {α : Type} (p : Api α) (w : World b) :
    List TravelerPreferenceProfile :=
  p.traces env.exec (fun op => op.savedProfile?.toList) w

/-- The ticks of a program only go up. -/
theorem World.tick_le_run (env : Env) {α : Type} (p : Api α) (w : World b) :
    w.tick ≤ (p.run env.exec w).2.tick := by
  induction p generalizing w with
  | pure a => exact le_rfl
  | throw e => exact le_rfl
  | call op next ih => exact (Nat.le_succ w.tick).trans (ih _ (env.exec op w).2)

namespace Api

open Prog hiding pure

variable {α β : Type}

theorem savedProfiles_leftBy : LeftBy .profiles (fun op => op.savedProfile?.toList) := by
  intro γ op hop
  unfold Effect.savedProfile?
  dsimp only
  split
  · exact absurd List.mem_cons_self hop
  · rfl

/-- A part that ends with the save of a profile saves that one. -/
theorem mem_savedProfiles_save (cs : List Collection) {p : TravelerPreferenceProfile}
    {f : Unit → Api α} (hrest : ∀ u, Writes cs (f u)) (hc : .profiles ∉ cs)
    (h : profile ∈ savedProfiles env (repo (.saveProfile p) >>= f) w) : profile = p := by
  rcases mem_traces_bind.mp h with h | ⟨u, w₁, -, h⟩
  · rw [repo, traces_perform] at h
    exact List.mem_singleton.mp h
  · rw [(hrest u).traces_eq_nil savedProfiles_leftBy hc] at h
    cases h

variable [Framed b] [ProfileStore b]

/-- A part that writes no profile leaves the saving to what comes after it, which starts later and
finds the profiles as they were. -/
theorem Writes.mem_savedProfiles_bind {cs : List Collection} {p : Api α} (hp : Writes cs p)
    (hc : .profiles ∉ cs) {f : α → Api β} (h : profile ∈ savedProfiles env (p >>= f) w) :
    ∃ a w', p.run env.exec w = (.ok a, w') ∧ w.tick ≤ w'.tick ∧ w'.profile = w.profile ∧
      profile ∈ savedProfiles env (f a) w' := by
  obtain ⟨a, w', hrun, h⟩ := (hp.mem_traces_bind savedProfiles_leftBy hc).mp h
  have htick := World.tick_le_run env p w
  rw [hrun] at htick
  exact ⟨a, w', hrun, htick, World.profile_congr (hp.only_of_run hc hrun), h⟩

theorem mem_savedProfiles_mutation {tenantId scope : String} {key : Option String}
    {payload : Payload} {status : ℕ} {stored : Stored α} {body : Api α}
    (h : profile ∈
      savedProfiles env (mutation svc tenantId key scope payload status stored body) w) :
    ∃ w' : World b, w.tick ≤ w'.tick ∧ w'.profile = w.profile ∧
      profile ∈ savedProfiles env body w' := by
  obtain ⟨_, w', hrun, h⟩ := mem_traces_mutation savedProfiles_leftBy (by decide) h
  have hclaimed : Writes [.idempotency] (claimOptionalMutation svc tenantId key scope payload) :=
    writes_claimOptionalMutation List.mem_cons_self _ _ _ _
  have htick := World.tick_le_run env (claimOptionalMutation svc tenantId key scope payload) w
  rw [hrun] at htick
  exact ⟨w', htick, World.profile_congr (hclaimed.only_of_run (by decide) hrun), h⟩

theorem writes_getProfile (tenantId travelerId : String) :
    Writes [] (repo (.getProfile tenantId travelerId)) :=
  writes_repo fun _ h => absurd h List.not_mem_nil

/-! ### A settings change -/

/-- A settings change saves a profile with a reading of its own. -/
theorem mem_savedProfiles_updatePreferences {caller : Caller} {travelerId : String}
    {update : TravelerPreferenceUpdate}
    (h : profile ∈ savedProfiles env (updatePreferences svc caller travelerId update) w) :
    ∃ k, w.tick ≤ k ∧ profile.updatedAt = env.clock k := by
  unfold updatePreferences at h
  obtain ⟨_, w₁, -, h₁, -, h⟩ :=
    Writes.mem_savedProfiles_bind (writes_requireRole _ _) List.not_mem_nil h
  obtain ⟨tenantId, w₂, -, h₂, -, h⟩ :=
    Writes.mem_savedProfiles_bind (writes_requireTenant _) List.not_mem_nil h
  obtain ⟨actorId, w₃, -, h₃, -, h⟩ :=
    Writes.mem_savedProfiles_bind (writes_requireActorId _) List.not_mem_nil h
  obtain ⟨_, w₄, -, h₄, -, h⟩ :=
    Writes.mem_savedProfiles_bind (writes_require _ _ _) List.not_mem_nil h
  obtain ⟨enabled, w₅, -, h₅, -, h⟩ :=
    Writes.mem_savedProfiles_bind (writes_controlEnabled _ _) List.not_mem_nil h
  obtain ⟨_, w₆, -, h₆, -, h⟩ :=
    Writes.mem_savedProfiles_bind (writes_require _ _ _) List.not_mem_nil h
  obtain ⟨w₇, h₇, -, h⟩ := mem_savedProfiles_mutation h
  obtain ⟨existing, w₈, -, h₈, -, h⟩ :=
    (writes_getProfile _ _).mem_savedProfiles_bind List.not_mem_nil h
  obtain ⟨updatedAt, w₉, hnow, -, -, h⟩ :=
    Writes.mem_savedProfiles_bind writes_now List.not_mem_nil h
  cases hnow
  refine ⟨w₈.tick, by omega, ?_⟩
  have hsaved := mem_savedProfiles_save [.memoryAudits, .events] ?_ (by decide) h
  · exact congrArg TravelerPreferenceProfile.updatedAt hsaved
  · grind

/-! ### A confirmation -/

/-- The time that a confirmation writes: that of the profile it finds, or a reading of its own. -/
theorem mem_savedProfiles_confirmProposal {tenantId actorId : String}
    {proposal : MemoryUpdateProposal}
    (h : profile ∈ savedProfiles env (confirmProposal svc tenantId actorId proposal) w) :
    ∃ k, w.tick ≤ k ∧ profile.updatedAt =
      ((w.profile (tenantId, proposal.travelerId)).map
        TravelerPreferenceProfile.updatedAt).getD (env.clock k) := by
  unfold confirmProposal at h
  obtain ⟨_, w₁, -, h₁, hsame₁, h⟩ :=
    Writes.mem_savedProfiles_bind (writes_require _ _ _) List.not_mem_nil h
  obtain ⟨existing, w₂, hget, h₂, -, h⟩ :=
    (writes_getProfile _ _).mem_savedProfiles_bind List.not_mem_nil h
  obtain ⟨_, w₃, -, h₃, -, h⟩ :=
    Writes.mem_savedProfiles_bind (writes_require _ _ _) List.not_mem_nil h
  obtain ⟨builtAt, w₄, hnow, -, -, h⟩ :=
    Writes.mem_savedProfiles_bind writes_now List.not_mem_nil h
  cases hnow
  have hexisting : existing = w.profile (tenantId, proposal.travelerId) := by
    rw [ProfileStore.run_getProfile] at hget
    cases hget
    exact congrFun hsame₁ _
  refine ⟨w₃.tick, by omega, ?_⟩
  rw [← hexisting]
  dsimp only at h
  split at h
  next patched hpatch =>
    obtain ⟨resolvedAt, w₅, -, -, -, h⟩ :=
      Writes.mem_savedProfiles_bind writes_now List.not_mem_nil h
    have hsaved := mem_savedProfiles_save [.proposals, .memoryAudits, .events] ?_ (by decide) h
    · rw [hsaved, (patchProfile_keeps hpatch).2.2.2]
      cases existing <;> rfl
    · exact fun _ => writes_bind
        (writes_repo (List.forall_mem_singleton.mpr ⟨List.mem_cons_self, nofun⟩)) fun _ =>
          writes_bind (writes_recordMemoryAudit (by decide) _ _ _ _ _ _) fun _ =>
            writes_bind writes_uuid4 fun _ => writes_bind writes_uuid4 fun _ =>
              writes_bind (writes_emitEvent (by decide) _) fun _ => writes_pure _
  · cases h

theorem mem_savedProfiles_confirmMemoryProposal {caller : Caller} {proposalId : Uuid}
    {actorId : String}
    (h : profile ∈ savedProfiles env (confirmMemoryProposal svc caller proposalId actorId) w) :
    ∃ tenantId, caller.tenantId = some tenantId ∧ ∃ k, w.tick ≤ k ∧ profile.updatedAt =
      ((w.profile (tenantId, actorId)).map TravelerPreferenceProfile.updatedAt).getD
        (env.clock k) := by
  unfold confirmMemoryProposal at h
  obtain ⟨_, w₁, -, h₁, hsame₁, h⟩ :=
    Writes.mem_savedProfiles_bind (writes_requireRole _ _) List.not_mem_nil h
  obtain ⟨confirmedActorId, w₂, hactor, h₂, hsame₂, h⟩ :=
    Writes.mem_savedProfiles_bind (writes_requireActorMatchesPayload _ _) List.not_mem_nil h
  obtain ⟨tenantId, w₃, htenant, h₃, hsame₃, h⟩ :=
    Writes.mem_savedProfiles_bind (writes_requireTenant _) List.not_mem_nil h
  obtain ⟨enabled, w₄, -, h₄, hsame₄, h⟩ :=
    Writes.mem_savedProfiles_bind (writes_controlEnabled _ _) List.not_mem_nil h
  obtain ⟨_, w₅, -, h₅, hsame₅, h⟩ :=
    Writes.mem_savedProfiles_bind (writes_require _ _ _) List.not_mem_nil h
  have hread : Writes [] (repo (.getMemoryProposal tenantId proposalId)) :=
    writes_repo fun _ h => absurd h List.not_mem_nil
  obtain ⟨answer, w₆, -, h₆, hsame₆, h⟩ := hread.mem_savedProfiles_bind List.not_mem_nil h
  obtain ⟨proposal, w₇, -, h₇, hsame₇, h⟩ :=
    Writes.mem_savedProfiles_bind (writes_found _ _ _) List.not_mem_nil h
  obtain ⟨_, w₈, hconsent, h₈, hsame₈, h⟩ :=
    Writes.mem_savedProfiles_bind (writes_require _ _ _) List.not_mem_nil h
  obtain ⟨w₉, h₉, hsame₉, h⟩ := mem_savedProfiles_mutation h
  obtain ⟨k, hk, htime⟩ := mem_savedProfiles_confirmProposal h
  obtain ⟨hactor, -⟩ := (callFree_requireActorMatchesPayload _ _).run_eq_ok hactor
  obtain ⟨htenant, -⟩ := (callFree_requireTenant _).run_eq_ok htenant
  obtain ⟨hconsent, -⟩ := (callFree_require _ _ _).run_eq_ok hconsent
  obtain ⟨rfl, -, -⟩ := requireActorMatchesPayload_eq_pure hactor
  obtain rfl : confirmedActorId = proposal.travelerId := by simpa using require_eq_pure hconsent
  have hsame : w₉.profile = w.profile := by
    rw [hsame₉, hsame₈, hsame₇, hsame₆, hsame₅, hsame₄, hsame₃, hsame₂, hsame₁]
  rw [hsame] at htime
  exact ⟨tenantId, (requireTenant_eq_pure htenant).1, k, by omega, htime⟩

omit [Framed b] [ProfileStore b] in
theorem savedProfiles_discard {p : Api α} (h : profile ∈ savedProfiles env (discard p) w) :
    profile ∈ savedProfiles env p w := by
  change profile ∈ savedProfiles env (p >>= fun _ => pure ()) w at h
  rcases mem_traces_bind.mp h with h | ⟨_, _, -, h⟩
  · exact h
  · cases h

end Api

/-! ### Both -/

/-- The requests by which a traveler's consent reaches the profile. -/
def Request.Consents : Request → Prop
  | .updatePreferences _ _ _ => True
  | .confirmMemoryProposal _ _ _ => True
  | _ => False

/-- A confirmation finds no profile of its traveler, or one that was not updated before a time. -/
def Request.FindsRecent [Framed b] [ProfileStore b] (w : World b) (t : Time) : Request → Prop
  | .confirmMemoryProposal caller _ actorId => ∀ tenantId ∈ caller.tenantId,
    ∀ existing ∈ w.profile (tenantId, actorId), t ≤ existing.updatedAt
  | _ => True

/-- A profile that is saved from a time on is retained from that time, except by a confirmation that
finds an older one. -/
theorem consented_profile_retained_iff [Framed b] [ProfileStore b] (svc : Service) (env : Env)
    (w : World b) (t : Time) (hclock : ∀ k, w.tick ≤ k → t ≤ env.clock k) (req : Request)
    (hreq : req.Consents) (profile : TravelerPreferenceProfile)
    (hsaved : profile ∈ savedProfiles env (Api.handle svc req) w) :
    (t ≤ profile.updatedAt ∧ profile.RetainedFrom t) ↔ req.FindsRecent w t := by
  rw [TravelerPreferenceProfile.retainedFrom_iff, and_self]
  cases req with
  | updatePreferences caller travelerId update =>
    obtain ⟨k, hk, htime⟩ :=
      Api.mem_savedProfiles_updatePreferences (Api.savedProfiles_discard hsaved)
    exact iff_of_true (htime ▸ hclock k hk) trivial
  | confirmMemoryProposal caller proposalId actorId =>
    obtain ⟨tenantId, htenant, k, hk, htime⟩ :=
      Api.mem_savedProfiles_confirmMemoryProposal (Api.savedProfiles_discard hsaved)
    rw [htime]
    constructor
    · intro h tenantId' htenant' existing hexisting
      obtain rfl : tenantId = tenantId' := Option.some.inj (htenant.symm.trans htenant')
      rw [show w.profile (tenantId, actorId) = some existing from hexisting] at h
      exact h
    · intro h
      cases hexisting : w.profile (tenantId, actorId) with
      | none => exact hclock k hk
      | some existing => exact h tenantId htenant existing hexisting
  | _ => exact hreq.elim

/-- The first settings change of a traveler. -/
def firstSettings : Request :=
  .updatePreferences adaTraveler "ada" { language := some "en", consentVersion := "1" }

theorem consented_profile_retained_iff_sample :
    ∃ profile ∈ savedProfiles .ticking (Api.handle .switchedOn firstSettings) World.fresh,
      profile.RetainedFrom 0 := by
  obtain ⟨profile, hsaved⟩ := List.exists_mem_of_ne_nil
    (savedProfiles .ticking (Api.handle .switchedOn firstSettings) World.fresh) (by decide +kernel)
  have hretained := consented_profile_retained_iff .switchedOn .ticking World.fresh 0
    (fun k _ => Int.natCast_nonneg k) firstSettings trivial profile hsaved
  exact ⟨profile, hsaved, (hretained.mpr trivial).2⟩

/-- The settings, and a proposal that waits for the traveler. -/
def waitingProposal : List Request :=
  [firstSettings, .createMemoryProposal proposingManager (languageProposal "nb")]

/-- Confirmed from a time on, the profile has the time of the older settings, and a purge with its
cutoff at that time takes it. -/
theorem confirmed_profile_purged :
    let w := runFrom (World.serve .switchedOn .ticking) .fresh waitingProposal
    let confirmation := Request.confirmMemoryProposal adaTraveler (.v5 "proposal") "ada"
    let confirmed := w.serve .switchedOn .ticking confirmation
    let t := Env.ticking.clock w.tick
    (∀ k, w.tick ≤ k → t ≤ Env.ticking.clock k) ∧
      (savedProfiles .ticking (Api.handle .switchedOn confirmation) w).map
          (fun p => (p.language, p.version, decide (t ≤ p.updatedAt))) = [("nb", 2, false)] ∧
      (confirmed.profile ("acme", "ada")).map (fun p => p.language) = some "nb" ∧
      (confirmed.store.purgeExpired t { before := t }).2.profiles.rows = [] := by
  refine ⟨fun k hk => Int.ofNat_le.mpr hk, ?_⟩
  decide +kernel

end RouteShield
