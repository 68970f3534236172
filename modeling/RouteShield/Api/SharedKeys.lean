import RouteShield.Api.Events
import RouteShield.Api.RetryAfter
import RouteShield.Domain.Itinerary
import RouteShield.Lib.Separated

/-!
The keys that tenants share. A playbook's identifier and a caller's rate limit are keyed by texts
that begin with the tenant and go on after a colon, and a tenant may have a colon in its name: its
keys are another tenant's where its name is the other's, a colon and the beginning of what the
other's key goes on with. The first playbook saved under an identifier is then what both tenants
get, and the calls of both count against one limit.
-/

namespace RouteShield

variable {β : Type}

/-! ### The keys -/

/-- The classes `[a-z0-9]` and `[a-z0-9_-]`. -/
def isNameStart (c : Char) : Bool := c.isLower || c.isDigit

def isNameChar (c : Char) : Bool := isNameStart c || c = '_' || c = '-'

/-- What `TenantPlaybookCreate` accepts. -/
structure TenantPlaybookCreate.Valid (payload : TenantPlaybookCreate) : Prop where
  name : payload.name.toList.head?.any isNameStart = true ∧ MatchesClass isNameChar 1 128 payload.name
  version : 1 ≤ payload.version.length ∧ payload.version.length ≤ 64
  guidance : 1 ≤ payload.guidance.length ∧ payload.guidance.length ≤ 5000

instance (payload : TenantPlaybookCreate) : Decidable payload.Valid :=
  decidable_of_iff ((payload.name.toList.head?.any isNameStart = true ∧
      MatchesClass isNameChar 1 128 payload.name) ∧
      (1 ≤ payload.version.length ∧ payload.version.length ≤ 64) ∧
      1 ≤ payload.guidance.length ∧ payload.guidance.length ≤ 5000)
    ⟨fun h => ⟨h.1, h.2.1, h.2.2⟩, fun h => ⟨h.name, h.version, h.guidance⟩⟩

/-- What a playbook's identifier is hashed from. -/
def playbookIdentity (tenantId : String) (payload : TenantPlaybookCreate) : String :=
  "routeshield:playbook:" ++ tenantId ++ ":" ++ payload.name ++ ":" ++ payload.version

def rateLimitKey (tenant : String) (actor : Option String) (client path : String) : String :=
  tenant ++ ":" ++ textOr actor client ++ ":" ++ path

/-- What is saved when a tenant publishes a version. -/
def TenantPlaybookCreate.published (payload : TenantPlaybookCreate) (tenantId approvedBy : String)
    (approvedAt : Time) : TenantPlaybook :=
  { payload with playbookId := playbookId tenantId payload, tenantId, approvedBy, approvedAt }

/-! ### Keys apart -/

/-- The second tenant's name is the first one's and, after a colon, the beginning of the rest of the
first one's key; the end of that rest is the rest of the second one's. -/
def Continues (tenant rest tenant' rest' : String) : Prop :=
  ∃ x, tenant' = tenant ++ ":" ++ x ∧ rest = x ++ ":" ++ rest'

/-- The second tenant's name goes on with the first one's playbook name, and perhaps with a part of
its version; the end of the version is the second one's playbook name and version. -/
def PlaybookContinues (tenant : String) (payload : TenantPlaybookCreate) (tenant' : String)
    (payload' : TenantPlaybookCreate) : Prop :=
  (tenant' = tenant ++ ":" ++ payload.name ∧
      payload.version = payload'.name ++ ":" ++ payload'.version) ∨
    ∃ y, tenant' = tenant ++ ":" ++ payload.name ++ ":" ++ y ∧
      payload.version = y ++ ":" ++ payload'.name ++ ":" ++ payload'.version

variable {tenant tenant' rest rest' : String}

theorem colon_eq_iff_continues (hne : tenant ≠ tenant') :
    tenant ++ ":" ++ rest = tenant' ++ ":" ++ rest' ↔
      Continues tenant rest tenant' rest' ∨ Continues tenant' rest' tenant rest := by
  rw [Separated.colon_eq_iff, or_iff_right fun h => hne h.1]
  rfl

variable {payload payload' : TenantPlaybookCreate}

theorem TenantPlaybookCreate.Valid.notMem_name (h : payload.Valid) : ':' ∉ payload.name.toList := by
  intro hmem
  have hchar := List.all_eq_true.mp h.name.2.1 ':' hmem
  revert hchar
  decide

theorem continues_iff_playbookContinues (h : payload.Valid) :
    Continues tenant (payload.name ++ ":" ++ payload.version) tenant'
        (payload'.name ++ ":" ++ payload'.version) ↔
      PlaybookContinues tenant payload tenant' payload' := by
  unfold Continues PlaybookContinues
  simp only [Separated.colon_eq_iff_of_notMem h.notMem_name]
  constructor
  · rintro ⟨x, rfl, ⟨rfl, hversion⟩ | ⟨y, rfl, hversion⟩⟩
    · exact .inl ⟨rfl, hversion⟩
    · exact .inr ⟨y, by simp only [String.append_assoc],
        by simpa only [String.append_assoc] using hversion⟩
  · rintro (⟨rfl, hversion⟩ | ⟨y, rfl, hversion⟩)
    · exact ⟨_, rfl, .inl ⟨rfl, hversion⟩⟩
    · exact ⟨payload.name ++ ":" ++ y, by simp only [String.append_assoc],
        .inr ⟨y, rfl, by simpa only [String.append_assoc] using hversion⟩⟩

theorem playbookIdentity_ne_iff (hne : tenant ≠ tenant') (h : payload.Valid) (h' : payload'.Valid) :
    playbookIdentity tenant payload ≠ playbookIdentity tenant' payload' ↔
      ¬(PlaybookContinues tenant payload tenant' payload' ∨
        PlaybookContinues tenant' payload' tenant payload) := by
  rw [← continues_iff_playbookContinues h, ← continues_iff_playbookContinues h',
    ← colon_eq_iff_continues hne]
  refine not_congr ?_
  unfold playbookIdentity
  simp only [String.append_assoc, String.append_right_inj]

theorem rateLimitKey_ne_iff (hne : tenant ≠ tenant') (actor actor' : Option String)
    (client client' path path' : String) :
    rateLimitKey tenant actor client path ≠ rateLimitKey tenant' actor' client' path' ↔
      ¬(Continues tenant (textOr actor client ++ ":" ++ path) tenant'
          (textOr actor' client' ++ ":" ++ path') ∨
        Continues tenant' (textOr actor' client' ++ ":" ++ path') tenant
          (textOr actor client ++ ":" ++ path)) := by
  rw [← colon_eq_iff_continues hne]
  refine not_congr ?_
  unfold rateLimitKey
  simp only [String.append_assoc]

/-! ### Playbooks saved apart -/

/-- In both repositories a save of the second playbook answers as it does without the first. -/
def SavedApart (β : Type) (one two : TenantPlaybook) : Prop :=
  (∀ repo : InMemoryRepository β,
    ((repo.savePlaybook one).2.savePlaybook two).1 = (repo.savePlaybook two).1) ∧
  ∀ repo : PostgresRepository β,
    ((repo.savePlaybook one).2.savePlaybook two).1 = (repo.savePlaybook two).1

theorem InMemoryRepository.savePlaybook_fst (repo : InMemoryRepository β)
    (playbook : TenantPlaybook) :
    (repo.savePlaybook playbook).1 =
      (repo.tenantPlaybooks.find? playbook.playbookId).getD playbook := by
  unfold savePlaybook
  cases repo.tenantPlaybooks.find? playbook.playbookId <;> rfl

theorem InMemoryRepository.find?_savePlaybook (repo : InMemoryRepository β)
    (playbook : TenantPlaybook) (playbookId : Uuid) :
    (repo.savePlaybook playbook).2.tenantPlaybooks.find? playbookId =
      if playbookId = playbook.playbookId then some (repo.savePlaybook playbook).1
      else repo.tenantPlaybooks.find? playbookId := by
  unfold savePlaybook
  cases hfind : repo.tenantPlaybooks.find? playbook.playbookId with
  | some existing =>
    split_ifs with h
    · exact h ▸ hfind
    · rfl
  | none => exact Table.find?_put _ _ _

theorem PostgresRepository.savePlaybook_fst (repo : PostgresRepository β)
    (playbook : TenantPlaybook) :
    (repo.savePlaybook playbook).1 =
      (repo.tenantPlaybooks.find? playbook.playbookId).getD playbook := by
  unfold savePlaybook
  cases repo.tenantPlaybooks.find? playbook.playbookId <;> rfl

theorem PostgresRepository.find?_savePlaybook (repo : PostgresRepository β)
    (playbook : TenantPlaybook) (playbookId : Uuid) :
    (repo.savePlaybook playbook).2.tenantPlaybooks.find? playbookId =
      if playbookId = playbook.playbookId then some (repo.savePlaybook playbook).1
      else repo.tenantPlaybooks.find? playbookId := by
  unfold savePlaybook
  cases hfind : repo.tenantPlaybooks.find? playbook.playbookId with
  | some existing =>
    split_ifs with h
    · exact h ▸ hfind
    · rfl
  | none => exact Table.find?_put _ _ _

/-- Different playbooks are saved apart exactly under different identifiers. -/
theorem savedApart_iff {one two : TenantPlaybook} (hne : one ≠ two) :
    SavedApart β one two ↔ one.playbookId ≠ two.playbookId := by
  constructor
  · intro hapart hid
    have hempty := hapart.1 {}
    rw [InMemoryRepository.savePlaybook_fst, InMemoryRepository.find?_savePlaybook, if_pos hid.symm,
      InMemoryRepository.savePlaybook_fst, InMemoryRepository.savePlaybook_fst] at hempty
    exact hne hempty
  · intro hid
    refine ⟨fun repo => ?_, fun repo => ?_⟩
    · rw [repo.savePlaybook_fst, InMemoryRepository.savePlaybook_fst,
        InMemoryRepository.find?_savePlaybook, if_neg hid.symm]
    · rw [repo.savePlaybook_fst, PostgresRepository.savePlaybook_fst,
        PostgresRepository.find?_savePlaybook, if_neg hid.symm]

/-! ### Limits apart -/

/-- Calls on one key change no answer on another. -/
def LimitedApart (key other : String) : Prop :=
  ∀ (lim : FixedWindowRateLimiter) (calls : List (String × Time)) (now : Time),
    (∀ call ∈ calls, call.1 = key) →
      ((lim.after calls).check other now).1 = (lim.check other now).1

open FixedWindowRateLimiter in
theorem limitedApart_iff {key other : String} : LimitedApart key other ↔ key ≠ other := by
  constructor
  · rintro hapart rfl
    have hsame := congrArg RateLimitResult.allowed
      (hapart (perMinute 1 le_rfl) [(key, 0)] 0 (by simp))
    have hfresh : ((perMinute 1 le_rfl).check key 0).1.allowed = true := rfl
    have hfull : (((perMinute 1 le_rfl).after [(key, 0)]).check key 0).1.allowed = false := by
      rw [refused_iff, (after_limit _ _).1]
      simp [after, active, check, perMinute, seconds]
    rw [hfresh, hfull] at hsame
    exact Bool.false_ne_true hsame
  · intro hne lim calls now hcalls
    obtain ⟨hlimit, hwindow⟩ := lim.after_limit calls
    exact check_congr hlimit hwindow
      (after_requests_of_ne lim fun call hcall => (hcalls call hcall).trans_ne hne) now

/-! ### Two tenants -/

/-- The playbooks of two tenants have different identities and are saved apart exactly where
neither's name goes on with a playbook of the other, and their calls have different keys and are
limited apart exactly where neither's name goes on with a call of the other. -/
theorem tenant_keys_apart_iff (hne : tenant ≠ tenant') (h : payload.Valid) (h' : payload'.Valid)
    (approvedBy approvedBy' : String) (approvedAt approvedAt' : Time)
    (actor actor' : Option String) (client client' path path' : String) :
    ((playbookIdentity tenant payload ≠ playbookIdentity tenant' payload' ∧
        SavedApart β (payload.published tenant approvedBy approvedAt)
          (payload'.published tenant' approvedBy' approvedAt')) ↔
      ¬(PlaybookContinues tenant payload tenant' payload' ∨
        PlaybookContinues tenant' payload' tenant payload)) ∧
    ((rateLimitKey tenant actor client path ≠ rateLimitKey tenant' actor' client' path' ∧
        LimitedApart (rateLimitKey tenant actor client path)
          (rateLimitKey tenant' actor' client' path')) ↔
      ¬(Continues tenant (textOr actor client ++ ":" ++ path) tenant'
          (textOr actor' client' ++ ":" ++ path') ∨
        Continues tenant' (textOr actor' client' ++ ":" ++ path') tenant
          (textOr actor client ++ ":" ++ path))) := by
  have hplaybook : payload.published tenant approvedBy approvedAt ≠
      payload'.published tenant' approvedBy' approvedAt' :=
    fun hsame => hne (congrArg TenantPlaybook.tenantId hsame)
  have hid : (payload.published tenant approvedBy approvedAt).playbookId ≠
      (payload'.published tenant' approvedBy' approvedAt').playbookId ↔
        playbookIdentity tenant payload ≠ playbookIdentity tenant' payload' :=
    not_congr (Uuid.v5.injEq _ _).to_iff
  rw [savedApart_iff hplaybook, hid, and_self, limitedApart_iff, and_self]
  exact ⟨playbookIdentity_ne_iff hne h h', rateLimitKey_ne_iff hne actor actor' client client' _ _⟩

/-- A version with a colon, and what a tenant named after its playbook publishes. -/
def colonVersion : TenantPlaybookCreate := ⟨"rebook", "eu:1", "Rebook within the union."⟩

def euRebook (guidance : String) : TenantPlaybookCreate := ⟨"eu", "1", guidance⟩

/-- The keys of two such tenants are apart exactly where these names do not continue. -/
theorem tenant_keys_apart_iff_sample :
    ((playbookIdentity "acme" colonVersion ≠
          playbookIdentity "beta" (euRebook "Call the desk.") ∧
        SavedApart Response (colonVersion.published "acme" "ann" 0)
          ((euRebook "Call the desk.").published "beta" "bob" 0)) ↔
      ¬(PlaybookContinues "acme" colonVersion "beta" (euRebook "Call the desk.") ∨
        PlaybookContinues "beta" (euRebook "Call the desk.") "acme" colonVersion)) :=
  (tenant_keys_apart_iff (by decide) (by decide) (by decide) "ann" "bob" 0 0 (some "ann") none
    "10.0.0.1" "10.0.0.2" "/v1/trips" "/v1/trips").1

def adminOf (tenantId : String) : Caller where
  tenantId := some tenantId
  actorRole := some .tenantAdmin
  actorId := some "admin"

/-- Tenant `acme` has published a playbook. Tenant `acme:rebook` gets it back for one of its own
with the same guidance, and is refused one with another guidance; a call of one counts against the
limit of the other. -/
theorem continued_tenant_shares_keys :
    colonVersion.Valid ∧ (euRebook "Rebook within the union.").Valid ∧
      playbookIdentity "acme" colonVersion =
        playbookIdentity "acme:rebook" (euRebook "Rebook within the union.") ∧
      (let w := World.fresh.serve Service.plain Env.still
          (.publishTenantPlaybook (adminOf "acme") colonVersion)
        let publish := fun guidance => ((Api.publishTenantPlaybook Service.plain
          (adminOf "acme:rebook") (euRebook guidance)).run Env.still.exec w).1
        (publish "Rebook within the union.").map TenantPlaybook.tenantId = .ok "acme" ∧
          (publish "Call the desk.").map TenantPlaybook.tenantId =
            .error (.http 409 Api.immutablePlaybook)) ∧
      rateLimitKey "acme" (some "rebook:ann") "10.0.0.1" "/v1/trips" =
        rateLimitKey "acme:rebook" (some "ann") "10.0.0.1" "/v1/trips" := by
  refine ⟨by decide, by decide, by decide, ⟨?_, ?_⟩, by decide⟩
  · decide +kernel
  · decide +kernel

end RouteShield
