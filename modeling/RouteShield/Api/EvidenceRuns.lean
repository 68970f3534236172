import RouteShield.Api.Events
import RouteShield.Api.HandlerFootprints
import RouteShield.Lib.Pool
import RouteShield.Tools.LiveEvidence

/-!
Assessments on live evidence, in any interleaving. The collector lives in the process beside the
store. What an assessment collects it stores once; as long as no fetch finds its answer in the
cache, no identifier is stored twice. A cached envelope comes with the identifier that it was
stored with before. A collection is one step: how two of them could interleave at the provider's
requests, where both share the cache and the breaker, is left out.
-/

namespace RouteShield

/-! ### Evidence in the stores -/

/-- A backend with the evidence of all trips. An integrity error is the refusal of a key. -/
class EvidenceStore (b : Backend) [Framed b] where
  held : b.State → List EvidenceEnvelope
  held_congr : ∀ {s s' : b.State},
    Framed.only s' .evidence = Framed.only s .evidence → held s' = held s
  saveEvidence : ∀ (tenantId : String) (tripId : Uuid) (evidence : List EvidenceEnvelope)
    (now : Time) (fresh : ℕ → Uuid) (s : b.State),
    ((held s ++ evidence).map EvidenceEnvelope.evidenceId).Nodup →
      (∀ table, (b.exec (.saveEvidence tenantId tripId evidence) now fresh s).1 ≠
        .error (.integrity table)) ∧
      (held (b.exec (.saveEvidence tenantId tripId evidence) now fresh s).2).Subperm
        (held s ++ evidence)

instance : EvidenceStore .memory where
  held s := s.evidence.rows.flatMap Bucket.items
  held_congr h := by
    have h' := congrArg (fun s : InMemoryRepository Response => s.evidence.rows.flatMap
      Bucket.items) h
    exact h'
  saveEvidence tenantId tripId evidence now fresh s _ := by
    simp only [Backend.memory, InMemoryRepository.saveEvidence]
    split_ifs
    · exact ⟨fun _ h => (by cases h), (List.sublist_append_left _ _).subperm⟩
    · refine ⟨fun _ h => (by cases h), ?_⟩
      have hperm := (s.evidence.rows_put_perm ⟨tripId, evidence⟩).flatMap_right Bucket.items
      refine hperm.subperm.trans ?_
      rw [List.flatMap_append, List.flatMap_singleton]
      exact ((List.filter_sublist.flatMap _).append (List.Sublist.refl _)).subperm

instance : EvidenceStore .postgres where
  held s := s.evidenceItems.rows.map EvidenceRow.payload
  held_congr h := by
    have h' := congrArg (fun s : PostgresRepository Response => s.evidenceItems.rows.map
      EvidenceRow.payload) h
    exact h'
  saveEvidence tenantId tripId evidence now fresh s hnodup := by
    have hothers : (((s.evidenceItems.filter (fun row => ¬(row.tenantId = tenantId ∧
        row.tripId = tripId))).rows.map EvidenceRow.payload) ++ evidence).Sublist
        (s.evidenceItems.rows.map EvidenceRow.payload ++ evidence) :=
      (List.filter_sublist.map _).append (List.Sublist.refl _)
    have hrow : (evidence.map (fun item => EvidenceRow.mk tenantId tripId item)).map
        EvidenceRow.payload = evidence := by
      rw [List.map_map]
      exact List.map_id _
    have hnew := hnodup.sublist (hothers.map EvidenceEnvelope.evidenceId)
    rw [← hrow, ← List.map_append, List.map_map] at hnew
    obtain ⟨rows, hrows, hall⟩ := Table.insertAll_of_nodup _ hnew
    have hsave : s.saveEvidence tenantId tripId evidence =
        .ok { s with evidenceItems := rows } := by
      unfold PostgresRepository.saveEvidence
      simp only [hrows]
    simp only [Backend.postgres, hsave, committed]
    refine ⟨fun _ h => (by cases h), ?_⟩
    rw [hall, List.map_append, hrow]
    exact hothers.subperm

/-! ### The collector beside the store -/

/-- What the outside answers, and what a collection at each tick is given. -/
structure LiveEnv where
  env : Env
  readings : ℕ → LiveReadings

structure LiveWorld (b : Backend) extends World b where
  collector : LiveEvidenceCollector := {}

/-- The fixtures draw an identifier for each of their envelopes. -/
def redrawn (fresh : ℕ → Uuid) (evidence : List EvidenceEnvelope) : List EvidenceEnvelope :=
  evidence.mapIdx fun i item => { item with evidenceId := fresh i }

namespace LiveEnv

variable {b : Backend} (live : LiveEnv) (w : LiveWorld b)

def collected (trip : Trip) (correlationId : Uuid) :
    Except Fault (List EvidenceEnvelope) × LiveEvidenceCollector :=
  w.collector.collect (live.readings w.tick) (drawn w.tick) trip correlationId.str

/-- Without a scenario the evidence is live. -/
def answer : {α : Type} → Effect α → Except Fault α
  | _, .collectEvidence trip none correlationId => (live.collected w trip correlationId).1
  | _, .collectEvidence trip (some scenario) _ =>
    match live.env.collectEvidence w.tick trip (some scenario) with
    | .ok evidence => .ok (redrawn (drawn w.tick) evidence)
    | .error fault => .error fault
  | _, op => live.env.answer w.toWorld op

def collectorAfter : {α : Type} → Effect α → LiveEvidenceCollector
  | _, .collectEvidence trip none correlationId => (live.collected w trip correlationId).2
  | _, _ => w.collector

def exec {α : Type} (op : Effect α) (w : LiveWorld b) : Except Fault α × LiveWorld b :=
  (live.answer w op,
    { toWorld := live.env.after w.toWorld op, collector := live.collectorAfter w op })

end LiveEnv

/-- A request for the assessment of a trip. -/
structure AssessRequest where
  caller : Caller
  tripId : Uuid
  scenario : Option DemoScenario := none

def AssessRequest.start (svc : Service) (request : AssessRequest) : Api Unit :=
  Api.handle svc (.assessTrip request.caller request.tripId request.scenario)

/-! ### What an assessment stores -/

/-- An assessment stores the evidence that it has collected last, and no other; the phase is
what it has collected and not yet stored. -/
def evidenceContract : Prog.Contract Effect Fault (List EvidenceEnvelope) where
  allowed φ {_} op := match op with
    | .repo (.saveEvidence _ _ evidence) => evidence = φ
    | op => .evidence ∉ op.writes
  promised _ {_} _ _ := True
  advance φ {_} op answer := match op, answer with
    | .collectEvidence _ _ _, .ok evidence => evidence
    | .repo (.saveEvidence _ _ _), _ => []
    | _, _ => φ
  stop _ := True

namespace Api

open Prog hiding pure

variable {svc : Service} {cs : List Collection} {α : Type}

/-- A part that leaves the evidence. -/
theorem Writes.leavesEvidence {p : Api α} (hp : Writes cs p) (hcs : .evidence ∉ cs)
    (φ : List EvidenceEnvelope) : p.Follows evidenceContract (fun _ _ => True) φ := by
  refine hp.only.follows (fun φ op hop => ?_) (fun _ => trivial) (fun _ _ => trivial) φ
  have hevidence : .evidence ∉ op.writes := fun hmem => hcs (hop _ hmem)
  cases op with
  | repo op =>
    cases op with
    | saveEvidence tenantId tripId evidence =>
      exact absurd (List.mem_singleton.mpr rfl) hevidence
    | _ => exact hevidence
  | _ => exact hevidence

theorem assessmentEvidence_stores {tenantId : String} {trip : Trip}
    {scenario : Option DemoScenario} {correlationId : Uuid} (φ : List EvidenceEnvelope) :
    (assessmentEvidence tenantId trip scenario correlationId).Follows evidenceContract
      (fun _ _ => True) φ := by
  unfold assessmentEvidence
  refine follows_seq (follows_perform List.not_mem_nil (fun stored _ => ?_) fun _ _ => trivial)
  split_ifs
  · refine follows_seq (follows_perform List.not_mem_nil (fun evidence _ => ?_) fun _ _ => trivial)
    exact follows_seq (follows_perform rfl (fun _ _ => follows_pure trivial) fun _ _ => trivial)
  · exact follows_pure trivial

theorem runAssessment_stores {tenantId : String} {trip : Trip} {scenario : Option DemoScenario}
    (φ : List EvidenceEnvelope) :
    (runAssessment svc tenantId trip scenario).Follows evidenceContract (fun _ _ => True) φ := by
  have hopen : ∀ {assessment evidence health disposition correlationId},
      Writes scoredCollections (openIncident svc tenantId trip assessment evidence health
        disposition correlationId) := writes_openIncident.mono (by decide)
  have hassessments : .assessments ∈ scoredCollections := by decide
  have hevents : .events ∈ scoredCollections := by decide
  unfold runAssessment emitObserved
  refine follows_bind ((writes_uuid4 : Writes [] uuid4).leavesEvidence List.not_mem_nil φ)
    fun φ _ _ => ?_
  refine follows_bind (assessmentEvidence_stores φ) fun φ evidence _ => ?_
  refine Writes.leavesEvidence (?_ : Writes scoredCollections _) (by decide) φ
  repeat' first | with_reducible apply writes_bind | intro _
  all_goals grind [RepoOp.writes]

theorem assessTrip_stores {caller : Caller} {tripId : Uuid} {scenario : Option DemoScenario}
    (φ : List EvidenceEnvelope) :
    (assessTrip svc caller tripId scenario).Follows evidenceContract (fun _ _ => True) φ := by
  have hnone : .evidence ∉ ([] : List Collection) := List.not_mem_nil
  have hkeys : .evidence ∉ [Collection.idempotency] := by decide
  unfold assessTrip
  refine follows_bind ((writes_requireTenant _).leavesEvidence hnone φ) fun φ tenantId _ => ?_
  have hread : Writes [] (repo (.getTrip tenantId tripId)) := writes_repo nofun
  refine follows_bind (hread.leavesEvidence hnone φ) fun φ found? _ => ?_
  refine follows_bind ((writes_found _ _ _).leavesEvidence hnone φ) fun φ trip _ => ?_
  refine follows_bind ((writes_requireTripAccess _ _ _).leavesEvidence hnone φ) fun φ _ _ => ?_
  refine follows_bind ((writes_claimOptionalMutation (by decide) _ _ _ _).leavesEvidence hkeys φ) ?_
  rintro φ ⟨requestHash, replay⟩ -
  cases replay with
  | some record => exact (writes_callFree_replay _ record).leavesEvidence hnone φ
  | none =>
    refine follows_bind (runAssessment_stores φ) fun φ result _ => ?_
    refine follows_bind ((writes_completeOptionalMutation (by decide) _ _ _ _ _).leavesEvidence
      hkeys φ) fun φ _ _ => ?_
    exact follows_pure trivial

end Api

/-! ### Runs -/

section Runs

variable {b : Backend} [Framed b] [EvidenceStore b] {svc : Service} {live : LiveEnv}

/-- The identifiers of all the evidence that is stored or about to be are distinct, and were
drawn before. -/
structure Apart (φs : List (List EvidenceEnvelope)) (w : World b) : Prop where
  nodup : ((EvidenceStore.held w.store ++ φs.flatten).map EvidenceEnvelope.evidenceId).Nodup
  drawn : ∀ item ∈ EvidenceStore.held w.store ++ φs.flatten, DrawnBefore item.evidenceId w.tick

variable {φs φs' : List (List EvidenceEnvelope)} {w w' : World b} {i : ℕ}
  {evidence : List EvidenceEnvelope}

theorem drawn_injective (tick : ℕ) : Function.Injective (RouteShield.drawn tick) := by
  intro k k' h
  exact (Nat.pair_eq_pair.mp (Uuid.v4.inj h)).2

/-- Evidence that goes, or comes with identifiers drawn at this tick. -/
theorem Apart.later (h : Apart φs w) (new : List EvidenceEnvelope) (ks : List ℕ)
    (hks : ks.Nodup) (hnew : new.map EvidenceEnvelope.evidenceId = ks.map (RouteShield.drawn w.tick))
    (hsub : (EvidenceStore.held w'.store ++ φs'.flatten).Subperm
      (EvidenceStore.held w.store ++ φs.flatten ++ new)) (htick : w'.tick = w.tick + 1) :
    Apart φs' w' := by
  constructor
  · have hall : ((EvidenceStore.held w.store ++ φs.flatten ++ new).map
        EvidenceEnvelope.evidenceId).Nodup := by
      rw [List.map_append, List.nodup_append, hnew]
      refine ⟨h.nodup, hks.map (drawn_injective w.tick), ?_⟩
      rintro _ hold _ hdrawn rfl
      obtain ⟨item, hitem, hid⟩ := List.mem_map.mp hold
      obtain ⟨k, -, hk⟩ := List.mem_map.mp hdrawn
      have hbefore := h.drawn item hitem (Nat.pair w.tick k) (hid.trans hk.symm)
      rw [Nat.unpair_pair] at hbefore
      exact absurd hbefore (lt_irrefl _)
    obtain ⟨kept, hperm, hkept⟩ := hsub
    exact (hperm.map _).nodup_iff.mp (hall.sublist (hkept.map _))
  · intro item hitem
    rw [htick]
    rcases List.mem_append.mp (hsub.subset hitem) with hold | hitem
    · exact (h.drawn item hold).mono (Nat.le_succ _)
    · have hid := List.mem_map_of_mem hitem (f := EvidenceEnvelope.evidenceId)
      rw [hnew] at hid
      obtain ⟨k, -, hk⟩ := List.mem_map.mp hid
      rw [← hk]
      exact drawnBefore_drawn w.tick

/-- One list of many, and the rest. -/
theorem flatten_set_perm {α : Type} {xss : List (List α)} {xs : List α} {i : ℕ}
    (h : xss[i]? = some xs) (ys : List α) :
    ∃ rest, xss.flatten.Perm (xs ++ rest) ∧ (xss.set i ys).flatten.Perm (ys ++ rest) := by
  induction xss generalizing i with
  | nil => cases h
  | cons zs xss ih =>
    cases i with
    | zero =>
      cases h
      exact ⟨xss.flatten, .refl _, .refl _⟩
    | succ i =>
      obtain ⟨rest, hbefore, hafter⟩ := ih h
      refine ⟨zs ++ rest, ?_, ?_⟩
      · exact (hbefore.append_left zs).trans (List.perm_append_comm_assoc _ _ _)
      · exact (hafter.append_left zs).trans (List.perm_append_comm_assoc _ _ _)

/-- A collection whose identifiers are all drawn. -/
theorem Apart.collect (h : Apart φs w) {φ : List EvidenceEnvelope} (hi : φs[i]? = some φ)
    {n : ℕ} (hids : evidence.map EvidenceEnvelope.evidenceId =
      (List.range n).map (RouteShield.drawn w.tick))
    (hheld : EvidenceStore.held w'.store = EvidenceStore.held w.store)
    (htick : w'.tick = w.tick + 1) : Apart (φs.set i evidence) w' := by
  obtain ⟨rest, hbefore, hafter⟩ := flatten_set_perm hi evidence
  refine h.later evidence (List.range n) List.nodup_range hids ?_ htick
  rw [hheld, List.append_assoc]
  refine ((hafter.trans List.perm_append_comm).append_left _).subperm.trans ?_
  refine (List.subperm_append_left _).mpr ((List.subperm_append_right _).mpr ?_)
  exact (List.sublist_append_right φ rest).subperm.trans hbefore.symm.subperm

/-- The storing of what was collected last: no key is refused. -/
theorem Apart.save (h : Apart φs w) (hi : φs[i]? = some evidence) (env : Env) (tenantId : String)
    (tripId : Uuid) :
    (∀ table, (env.exec (.repo (.saveEvidence tenantId tripId evidence)) w).1 ≠
        .error (.integrity table)) ∧
      Apart (φs.set i []) (env.after w (.repo (.saveEvidence tenantId tripId evidence))) := by
  obtain ⟨rest, hbefore, hafter⟩ := flatten_set_perm hi []
  have hall : (EvidenceStore.held w.store ++ φs.flatten).Perm
      (EvidenceStore.held w.store ++ evidence ++ rest) := by
    rw [List.append_assoc]
    exact hbefore.append_left _
  have hnodup : ((EvidenceStore.held w.store ++ evidence).map
      EvidenceEnvelope.evidenceId).Nodup := by
    have hnodup' := (hall.map EvidenceEnvelope.evidenceId).nodup_iff.mp h.nodup
    exact hnodup'.sublist ((List.sublist_append_left _ rest).map _)
  obtain ⟨haccepted, hheld⟩ := EvidenceStore.saveEvidence tenantId tripId evidence
    (env.clock w.tick) (RouteShield.drawn w.tick) w.store hnodup
  refine ⟨haccepted, h.later [] [] List.nodup_nil rfl ?_ rfl⟩
  rw [List.append_nil]
  refine (hafter.append_left _).subperm.trans ?_
  exact ((List.subperm_append_right rest).mpr hheld).trans hall.symm.subperm

theorem Apart.congr (h : Apart φs w) (hsame : φs'.flatten = φs.flatten) : Apart φs' w :=
  ⟨hsame ▸ h.nodup, hsame ▸ h.drawn⟩

/-- A call that leaves the evidence. -/
theorem Apart.leave (h : Apart φs w) (hheld : EvidenceStore.held w'.store =
    EvidenceStore.held w.store) (htick : w'.tick = w.tick + 1) : Apart φs w' := by
  refine h.later [] [] List.nodup_nil rfl ?_ htick
  rw [List.append_nil, hheld]

/-- A save of evidence is refused for a key that is taken. -/
def Duplicates : {α : Type} → Effect α → Except Fault α → Prop
  | _, .repo (.saveEvidence _ _ _), .error (.integrity _) => True
  | _, _, _ => False

def duplicated : {α : Type} → Effect α → Except Fault α → Bool
  | _, .repo (.saveEvidence _ _ _), .error (.integrity _) => true
  | _, _, _ => false

theorem duplicated_iff {α : Type} {op : Effect α} {answer : Except Fault α} :
    duplicated op answer = true ↔ Duplicates op answer := by
  unfold duplicated Duplicates
  split <;> simp

instance {α : Type} (op : Effect α) (answer : Except Fault α) : Decidable (Duplicates op answer) :=
  decidable_of_iff _ duplicated_iff

theorem not_duplicates_of_ne {α : Type} {op : Effect α} {answer : Except Fault α}
    (h : ∀ table, answer ≠ .error (.integrity table)) : ¬Duplicates op answer := by
  unfold Duplicates
  split
  · exact absurd rfl (h _)
  · exact id

def Effect.collects? : {α : Type} → Effect α → Option Trip
  | _, .collectEvidence trip none _ => some trip
  | _, _ => none

/-- A collection that the event makes finds nothing in the cache. -/
def Uncached (live : LiveEnv) (pool : Pool Effect Fault (LiveWorld b))
    (e : PoolEvent AssessRequest) : Prop :=
  ∀ trip ∈ pool.next? Effect.collects? e,
    pool.state.collector.Uncached (live.readings pool.state.tick) trip

instance (live : LiveEnv) (pool : Pool Effect Fault (LiveWorld b)) (e : PoolEvent AssessRequest) :
    Decidable (Uncached live pool e) :=
  inferInstanceAs (Decidable (∀ trip ∈ pool.next? Effect.collects? e, _))

omit [Framed b] [EvidenceStore b] in
theorem ids_redrawn (fresh : ℕ → Uuid) (evidence : List EvidenceEnvelope) :
    (redrawn fresh evidence).map EvidenceEnvelope.evidenceId =
      (List.range evidence.length).map fresh := by
  rw [redrawn, List.mapIdx_eq_zipIdx_map, List.map_map, ← map_zipIdx_snd]
  rfl

/-- What an allowed call of one assessment makes of the evidence. -/
theorem Apart.call {w : LiveWorld b} (h : Apart φs w.toWorld) {α : Type} {op : Effect α}
    {φ : List EvidenceEnvelope} (hi : φs[i]? = some φ) (hop : evidenceContract.allowed φ op)
    (huncached : ∀ trip ∈ op.collects?, w.collector.Uncached (live.readings w.tick) trip) :
    Apart (φs.set i (evidenceContract.advance φ op (live.exec op w).1))
        (live.exec op w).2.toWorld ∧
      ¬Duplicates op (live.exec op w).1 := by
  have hsame : φs.set i φ = φs := by
    obtain ⟨hlt, rfl⟩ := List.getElem?_eq_some_iff.mp hi
    exact List.set_getElem_self hlt
  have hleave : .evidence ∉ op.writes → Apart (φs.set i φ) (live.exec op w).2.toWorld := by
    intro hwrites
    rw [hsame]
    exact h.leave (EvidenceStore.held_congr (live.env.exec_only op w.toWorld hwrites)) rfl
  cases op with
  | collectEvidence trip scenario correlationId =>
    refine ⟨?_, id⟩
    have hheld : EvidenceStore.held (live.exec (.collectEvidence trip scenario correlationId)
        w).2.store = EvidenceStore.held w.store := rfl
    cases scenario with
    | none =>
      cases hcollect : (live.collected w trip correlationId).1 with
      | error fault =>
        have hanswer : (live.exec (.collectEvidence trip none correlationId) w).1 =
            .error fault := hcollect
        rw [hanswer]
        exact hleave List.not_mem_nil
      | ok evidence =>
        have hanswer : (live.exec (.collectEvidence trip none correlationId) w).1 =
            .ok evidence := hcollect
        rw [hanswer]
        exact h.collect hi (LiveEvidenceCollector.ids_of_collect (huncached trip rfl) hcollect)
          hheld rfl
    | some scenario =>
      cases hcollect : live.env.collectEvidence w.tick trip (some scenario) with
      | error fault =>
        have hanswer : (live.exec (.collectEvidence trip (some scenario) correlationId) w).1 =
            .error fault := by
          simp only [LiveEnv.exec, LiveEnv.answer, hcollect]
        rw [hanswer]
        exact hleave List.not_mem_nil
      | ok evidence =>
        have hanswer : (live.exec (.collectEvidence trip (some scenario) correlationId) w).1 =
            .ok (redrawn (RouteShield.drawn w.tick) evidence) := by
          simp only [LiveEnv.exec, LiveEnv.answer, hcollect]
        rw [hanswer]
        exact h.collect hi (ids_redrawn _ evidence) hheld rfl
  | repo op =>
    cases op with
    | saveEvidence tenantId tripId evidence =>
      obtain rfl : evidence = φ := hop
      obtain ⟨haccepted, hsaved⟩ := h.save hi live.env tenantId tripId
      exact ⟨hsaved, not_duplicates_of_ne haccepted⟩
    | _ => exact ⟨hleave hop, id⟩
  | _ => exact ⟨hleave hop, id⟩

/-- The assessments of a pool, and the evidence that is stored or about to be. -/
def Assessing (pool : Pool Effect Fault (LiveWorld b)) : Prop :=
  pool.Joint evidenceContract (fun _ _ => True) (fun φs w => Apart φs w.toWorld)

/-- What one event preserves. -/
theorem Assessing.apply {pool : Pool Effect Fault (LiveWorld b)} (h : Assessing pool)
    {e : PoolEvent AssessRequest} (huncached : Uncached live pool e) :
    Assessing (pool.apply live.exec (AssessRequest.start svc) e) := by
  refine Pool.joint_apply h e (fun r φs _ hapart => ⟨[], ?_, ?_⟩) ?_
  · exact Prog.follows_bind (Api.assessTrip_stores []) fun _ _ _ => trivial
  · refine hapart.congr ?_
    rw [List.flatten_append, List.flatten_singleton, List.append_nil]
  · rintro α op next i φs φ rfl hi hapart hφ hop
    refine ⟨trivial, (hapart.call hφ hop fun trip htrip => huncached trip ?_).1⟩
    simp only [Pool.next?, hi]
    exact htrip

/-- No event of the pool is refused for a key. -/
theorem Assessing.not_duplicates {pool : Pool Effect Fault (LiveWorld b)} (h : Assessing pool)
    (e : PoolEvent AssessRequest) : ¬pool.Answered live.exec Duplicates e := by
  obtain ⟨φs, hfollows, hapart⟩ := h
  cases e with
  | spawn request => exact id
  | step i =>
    rintro ⟨p, hp, hanswered⟩
    cases p with
    | call op next =>
      obtain ⟨φ, hφ, hprog, -⟩ := Pool.forall₂_set hfollows hp
      cases op with
      | repo op =>
        cases op with
        | saveEvidence tenantId tripId evidence =>
          obtain rfl : evidence = φ := hprog.1
          exact not_duplicates_of_ne (hapart.save hφ live.env tenantId tripId).1 hanswered
        | _ => exact hanswered
      | _ => exact hanswered
    | _ => exact hanswered

theorem Assessing.ids_nodup {pool : Pool Effect Fault (LiveWorld b)} (h : Assessing pool) :
    ((EvidenceStore.held pool.state.store).map EvidenceEnvelope.evidenceId).Nodup := by
  obtain ⟨φs, -, hapart⟩ := h
  exact hapart.nodup.sublist ((List.sublist_append_left _ _).map _)

/-- In every run of assessments in which no collection finds anything in the cache, the evidence
of all trips keeps distinct identifiers, and no save of evidence is refused for a key. -/
theorem evidence_ids_distinct (svc : Service) (live : LiveEnv) (w : LiveWorld b)
    (hw : Apart [] w.toWorld) (events : List (PoolEvent AssessRequest))
    (hevents : Meets (Pool.apply live.exec (AssessRequest.start svc)) (Uncached live) ⟨w, []⟩
      events) :
    Meets (Pool.apply live.exec (AssessRequest.start svc))
        (fun pool e => ¬pool.Answered live.exec Duplicates e) ⟨w, []⟩ events ∧
      ((EvidenceStore.held (runFrom (Pool.apply live.exec (AssessRequest.start svc)) ⟨w, []⟩
        events).state.store).map EvidenceEnvelope.evidenceId).Nodup := by
  have hstart : Assessing (⟨w, []⟩ : Pool Effect Fault (LiveWorld b)) := ⟨[], .nil, hw⟩
  have hstep : ∀ (pool : Pool Effect Fault (LiveWorld b)) (e : PoolEvent AssessRequest),
      Assessing pool → Uncached live pool e →
        Assessing (pool.apply live.exec (AssessRequest.start svc) e) :=
    fun pool e h huncached => h.apply huncached
  refine ⟨hevents.of_inv Assessing hstep (fun pool e h => h.not_duplicates e) hstart, ?_⟩
  exact (runFrom_inv Assessing hstep hstart hevents).ids_nodup

end Runs

/-! ### Two trips -/

def flightTrip (name flightNumber : String) : Trip where
  tripId := .v5 name
  tenantId := "acme"
  travelerId := "ada"
  groundOrigin := "office"
  destinationCountry := "US"
  createdAt := 0
  segments :=
    [{ segmentId := "s1"
       carrierCode := "RS"
       flightNumber
       departureAirport := "AMS"
       arrivalAirport := "JFK"
       scheduledDepartureAt := minutes 600
       scheduledArrivalAt := minutes 1000 }]

/-- Two trips of one tenant; the flight of the second is given. -/
def twoTrips (flightNumber : String) : LiveWorld .postgres where
  store :=
    { trips := ⟨[⟨"acme", flightTrip "first" "1"⟩, ⟨"acme", flightTrip "second" flightNumber⟩], by
        simp [flightTrip]⟩ }

/-- Every provider is switched on and answers at once with the same score. -/
def LiveEnv.answering : LiveEnv where
  env := .still
  readings _ :=
    { enabled := fun _ => true
      environ := fun _ => some "https://provider"
      replies := fun _ _ => .json (.obj [("risk_score", .num (.int 5))])
      cacheReadAt := fun _ => 0
      startedAt := fun _ => 0
      finishedAt := fun _ => 0
      builtAt := fun _ => 0
      calculatedAt := 0
      arrivals := List.range liveProviders.length
      arrivals_perm := .refl _ }

def assessNamed (name : String) : AssessRequest where
  caller := { tenantId := some "acme", actorRole := some .tenantAdmin }
  tripId := .v5 name

/-- Both trips are assessed, up to the save of their evidence. -/
def bothAssessed : List (PoolEvent AssessRequest) :=
  [.spawn (assessNamed "first"), .spawn (assessNamed "second")] ++ List.replicate 5 (.step 0) ++
    List.replicate 5 (.step 1)

theorem twoTrips_apart (flightNumber : String) : Apart [] (twoTrips flightNumber).toWorld :=
  ⟨List.nodup_nil, fun _ h => absurd h List.not_mem_nil⟩

/-- Two flights. -/
theorem evidence_ids_distinct_twoFlights :
    ((EvidenceStore.held (runFrom (Pool.apply LiveEnv.answering.exec
      (AssessRequest.start .switchedOn)) ⟨twoTrips "2", []⟩ bothAssessed).state.store).map
        EvidenceEnvelope.evidenceId).Nodup :=
  (evidence_ids_distinct .switchedOn .answering (twoTrips "2") (twoTrips_apart "2") bothAssessed
    (by decide +kernel)).2

/-- One flight: the second trip gets the cached envelopes of the first, and their save is
refused. -/
theorem cached_evidence_refused :
    ¬∀ (svc : Service) (live : LiveEnv) (w : LiveWorld .postgres)
      (events : List (PoolEvent AssessRequest)), Apart [] w.toWorld →
      Meets (Pool.apply live.exec (AssessRequest.start svc))
          (fun pool e => ¬pool.Answered live.exec Duplicates e) ⟨w, []⟩ events ∧
        ((EvidenceStore.held (runFrom (Pool.apply live.exec (AssessRequest.start svc)) ⟨w, []⟩
          events).state.store).map EvidenceEnvelope.evidenceId).Nodup := by
  intro h
  obtain ⟨haccepted, -⟩ := h .switchedOn .answering (twoTrips "1") bothAssessed
    (twoTrips_apart "1")
  exact absurd haccepted (by decide +kernel)

end RouteShield
