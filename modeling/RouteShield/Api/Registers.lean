import RouteShield.Api.Events

/-!
Documents under identifiers that clients may choose. A save files a document under its
identifier, whatever is there; a reading finds it for its tenant alone. Legal holds and memory
proposals are kept so by both repositories.
-/

namespace RouteShield

variable {α : Type}

/-- A collection of documents, each under its identifier and read by its tenant. -/
structure Register (b : Backend) [Framed b] (c : Collection) (id : α → Uuid)
    (tenantOf : α → String) (get : String → Uuid → RepoOp (Option α)) (save : α → RepoOp Unit) where
  find : b.State → Uuid → Option α
  /-- Every document sits in its own tenant's column. -/
  Sound : b.State → Prop
  find_congr : ∀ {s s' : b.State}, Framed.only s' c = Framed.only s c → find s' = find s
  sound_congr : ∀ {s s' : b.State}, Framed.only s' c = Framed.only s c → (Sound s' ↔ Sound s)
  id_of_find : ∀ {s : b.State} {k : Uuid} {a : α}, find s k = some a → id a = k
  get_eq : ∀ {s : b.State}, Sound s → ∀ (tenantId : String) (k : Uuid) (now : Time)
    (fresh : ℕ → Uuid), b.exec (get tenantId k) now fresh s =
      (.ok ((find s k).filter (fun a => tenantOf a = tenantId)), s)
  save_ok : ∀ (a : α) (now : Time) (fresh : ℕ → Uuid) (s : b.State),
    (b.exec (save a) now fresh s).1 = .ok ()
  find_save : ∀ (a : α) (now : Time) (fresh : ℕ → Uuid) (s : b.State),
    find (b.exec (save a) now fresh s).2 = Function.update (find s) (id a) (some a)
  sound_save : ∀ {a : α} (now : Time) (fresh : ℕ → Uuid) {s : b.State}, Sound s →
    (∀ a', find s (id a) = some a' → tenantOf a' = tenantOf a) →
      Sound (b.exec (save a) now fresh s).2

section Repositories

variable {c : Collection} {id : α → Uuid} {tenantOf : α → String}
  {get : String → Uuid → RepoOp (Option α)} {save : α → RepoOp Unit}

/-- A table of documents in memory. -/
def Register.memory (rows : InMemoryRepository Response → Table id)
    (hrows : ∀ s s' : InMemoryRepository Response, s'.only c = s.only c → rows s' = rows s)
    (hget : ∀ tenantId k now fresh s, Backend.memory.exec (get tenantId k) now fresh s =
      (.ok (((rows s).find? k).filter (fun a => tenantOf a = tenantId)), s))
    (hsave : ∀ a now fresh s, (Backend.memory.exec (save a) now fresh s).1 = .ok () ∧
      rows (Backend.memory.exec (save a) now fresh s).2 = (rows s).put a) :
    Register .memory c id tenantOf get save where
  find s := (rows s).find?
  Sound _ := True
  find_congr h := by rw [hrows _ _ h]
  sound_congr _ := Iff.rfl
  id_of_find h := ((Table.find?_eq_some _).mp h).2
  get_eq _ tenantId k now fresh := hget tenantId k now fresh _
  save_ok a now fresh s := (hsave a now fresh s).1
  find_save a now fresh s := by
    rw [(hsave a now fresh s).2]
    funext k
    rw [Function.update_apply]
    exact (rows s).find?_put a k
  sound_save _ _ _ _ _ := trivial

/-- A table of documents with tenant columns. -/
def Register.postgres
    (rows : PostgresRepository Response → Table (fun row : TenantRow α => id row.payload))
    (hrows : ∀ s s' : PostgresRepository Response, s'.only c = s.only c → rows s' = rows s)
    (hget : ∀ tenantId k now fresh s, Backend.postgres.exec (get tenantId k) now fresh s =
      (.ok ((rows s).payload? tenantId k), s))
    (hsave : ∀ a now fresh s, (Backend.postgres.exec (save a) now fresh s).1 = .ok () ∧
      rows (Backend.postgres.exec (save a) now fresh s).2 =
        (rows s).upsertPayload (tenantOf a) a) :
    Register .postgres c id tenantOf get save where
  find s k := ((rows s).find? k).map TenantRow.payload
  Sound s := (rows s).Owned tenantOf
  find_congr h := by rw [hrows _ _ h]
  sound_congr h := by rw [hrows _ _ h]
  id_of_find h := by
    obtain ⟨row, hrow, rfl⟩ := Option.map_eq_some_iff.mp h
    exact ((Table.find?_eq_some _).mp hrow).2
  get_eq hs tenantId k now fresh := by rw [hget, hs.payload?_eq]
  save_ok a now fresh s := (hsave a now fresh s).1
  find_save a now fresh s := by
    rw [(hsave a now fresh s).2]
    funext k
    rw [Function.update_apply]
    exact (rows s).payload_upsertPayload _ a k
  sound_save now fresh s hs hsame := by
    rw [(hsave _ now fresh s).2]
    exact hs.upsertPayload hsame

end Repositories

/-- A backend's registers. -/
class Registers (b : Backend) [Framed b] where
  holds : Register b .holds LegalHoldRecord.legalHoldId LegalHoldRecord.tenantId .getLegalHold
    .saveLegalHold
  proposals : Register b .proposals MemoryUpdateProposal.proposalId MemoryUpdateProposal.tenantId
    .getMemoryProposal .saveMemoryProposal

instance : Registers .memory where
  holds := .memory (fun s => s.legalHolds)
    (fun _ _ h => by
      have h' := congrArg (fun s : InMemoryRepository Response => s.legalHolds) h
      exact h')
    (fun _ _ _ _ _ => rfl) (fun _ _ _ _ => ⟨rfl, rfl⟩)
  proposals := .memory (fun s => s.memoryProposals)
    (fun _ _ h => by
      have h' := congrArg (fun s : InMemoryRepository Response => s.memoryProposals) h
      exact h')
    (fun _ _ _ _ _ => rfl) (fun _ _ _ _ => ⟨rfl, rfl⟩)

instance : Registers .postgres where
  holds := .postgres (fun s => s.legalHolds)
    (fun _ _ h => by
      have h' := congrArg (fun s : PostgresRepository Response => s.legalHolds) h
      exact h')
    (fun _ _ _ _ _ => rfl) (fun _ _ _ _ => ⟨rfl, rfl⟩)
  proposals := .postgres (fun s => s.memoryProposals)
    (fun _ _ h => by
      have h' := congrArg (fun s : PostgresRepository Response => s.memoryProposals) h
      exact h')
    (fun _ _ _ _ _ => rfl) (fun _ _ _ _ => ⟨rfl, rfl⟩)

/-- A backend with the profile of each tenant's traveler. -/
class ProfileStore (b : Backend) [Framed b] where
  profile : b.State → String × String → Option TravelerPreferenceProfile
  profile_congr : ∀ {s s' : b.State},
    Framed.only s' .profiles = Framed.only s .profiles → profile s' = profile s
  key_of_profile : ∀ {s : b.State} {key : String × String} {p : TravelerPreferenceProfile},
    profile s key = some p → (p.tenantId, p.travelerId) = key
  getProfile : ∀ (tenantId travelerId : String) (now : Time) (fresh : ℕ → Uuid) (s : b.State),
    b.exec (.getProfile tenantId travelerId) now fresh s = (.ok (profile s (tenantId, travelerId)), s)
  saveProfile : ∀ (p : TravelerPreferenceProfile) (now : Time) (fresh : ℕ → Uuid) (s : b.State),
    (b.exec (.saveProfile p) now fresh s).1 = .ok () ∧
      profile (b.exec (.saveProfile p) now fresh s).2 =
        Function.update (profile s) (p.tenantId, p.travelerId) (some p)

instance : ProfileStore .memory where
  profile s := s.profiles.find?
  profile_congr h := by
    have h' := congrArg (fun s : InMemoryRepository Response => s.profiles.find?) h
    exact h'
  key_of_profile h := ((Table.find?_eq_some _).mp h).2
  getProfile _ _ _ _ _ := rfl
  saveProfile p _ _ s := by
    refine ⟨rfl, ?_⟩
    funext key
    rw [Function.update_apply]
    exact s.profiles.find?_put p key

instance : ProfileStore .postgres where
  profile s := s.preferences.find?
  profile_congr h := by
    have h' := congrArg (fun s : PostgresRepository Response => s.preferences.find?) h
    exact h'
  key_of_profile h := ((Table.find?_eq_some _).mp h).2
  getProfile _ _ _ _ _ := rfl
  saveProfile p _ _ s := by
    refine ⟨rfl, ?_⟩
    funext key
    rw [Function.update_apply]
    exact s.preferences.find?_put p key

theorem ProfileStore.run_getProfile {b : Backend} [Framed b] [ProfileStore b]
    (tenantId travelerId : String) (env : Env) (w : World b) :
    (Api.repo (.getProfile tenantId travelerId)).run env.exec w =
      (.ok (ProfileStore.profile w.store (tenantId, travelerId)),
        env.after w (.repo (.getProfile tenantId travelerId))) := by
  rw [Api.repo, Prog.run_perform]
  exact congrArg (fun answer => (answer.1, env.after w (.repo (.getProfile tenantId travelerId))))
    (ProfileStore.getProfile tenantId travelerId _ _ w.store)

theorem ProfileStore.run_saveProfile {b : Backend} [Framed b] [ProfileStore b]
    (p : TravelerPreferenceProfile) (env : Env) (w : World b) :
    (Api.repo (.saveProfile p)).run env.exec w = (.ok (), env.after w (.repo (.saveProfile p))) := by
  rw [Api.repo, Prog.run_perform]
  exact Prod.ext (ProfileStore.saveProfile p _ _ w.store).1 rfl

/-! ### Registers along runs -/

namespace Register

variable {b : Backend} [Framed b] {c : Collection} {id : α → Uuid} {tenantOf : α → String}
  {get : String → Uuid → RepoOp (Option α)} {save : α → RepoOp Unit}
  (reg : Register b c id tenantOf get save) {env : Env} {w w' : World b} {a : α}

/-- From one world to another the register changed by the saving of one document. -/
def Saves (_reg : Register b c id tenantOf get save) (env : Env) (w w' : World b) (a : α) : Prop :=
  ∃ w₁ : World b, w₁.only c = w.only c ∧ w'.only c = (env.after w₁ (.repo (save a))).only c

variable {reg}

theorem find_of_only (h : w'.only c = w.only c) : reg.find w'.store = reg.find w.store :=
  reg.find_congr h

theorem Saves.find_eq (h : reg.Saves env w w' a) :
    reg.find w'.store = Function.update (reg.find w.store) (id a) (some a) := by
  obtain ⟨w₁, hbefore, hafter⟩ := h
  rw [find_of_only hafter, ← find_of_only hbefore]
  exact reg.find_save a _ _ w₁.store

theorem Saves.sound (h : reg.Saves env w w' a) (hs : reg.Sound w.store)
    (hsame : ∀ a', reg.find w.store (id a) = some a' → tenantOf a' = tenantOf a) :
    reg.Sound w'.store := by
  obtain ⟨w₁, hbefore, hafter⟩ := h
  refine (reg.sound_congr hafter).mpr (reg.sound_save _ _ ((reg.sound_congr hbefore).mpr hs) ?_)
  intro a' ha'
  exact hsame a' ((congrFun (find_of_only hbefore) _).symm.trans ha')

theorem Saves.congr {w₁ w₂ : World b} (h : reg.Saves env w₁ w₂ a) (hstart : w₁.only c = w.only c)
    (hend : w'.only c = w₂.only c) : reg.Saves env w w' a := by
  obtain ⟨w₃, hbefore, hafter⟩ := h
  exact ⟨w₃, hbefore.trans hstart, hend.trans hafter⟩

variable (reg)

include reg in
theorem run_save (a : α) (w : World b) :
    (Api.repo (save a)).run env.exec w = (.ok (), env.after w (.repo (save a))) := by
  rw [Api.repo, Prog.run_perform]
  exact Prod.ext (reg.save_ok a _ _ w.store) rfl

theorem run_get (env : Env) (hs : reg.Sound w.store) (tenantId : String) (k : Uuid) :
    (Api.repo (get tenantId k)).run env.exec w =
      (.ok ((reg.find w.store k).filter (fun a => tenantOf a = tenantId)),
        env.after w (.repo (get tenantId k))) := by
  rw [Api.repo, Prog.run_perform]
  exact congrArg (fun answer => (answer.1, env.after w (.repo (get tenantId k))))
    (reg.get_eq hs tenantId k _ _)

include reg in
theorem drawn_save [EventLog b] (env : Env) (a : α)
    (hwrites : ∀ c' ∈ (save a).writes, c' ∈ [c] ∧ c' ≠ .events)
    (hw : w.EventsDrawn) : (env.after w (.repo (save a))).EventsDrawn := by
  have hrun := ((Api.writes_repo hwrites).run env hw).1
  rw [reg.run_save] at hrun
  exact hrun

end Register

end RouteShield
