import RouteShield.Api.Constraints
import RouteShield.Api.Events
import RouteShield.Domain.Lifecycle
import RouteShield.Lib.Runs

/-!
Outcomes of recovery candidates over runs of requests. A request reads the candidate set and the log
of its outcomes, checks the outcome against the view of the two, and appends it to the log. When
requests follow one another, each at a later time, every candidate goes through its life cycle.
-/

namespace RouteShield

/-! ### What the repositories keep -/

/-- A backend that keeps candidate sets and the outcomes on their candidates, each for a tenant. -/
class CandidateStore (b : Backend) [Framed b] where
  candidateSet : b.State → String → Uuid → Option RecoveryCandidateSet
  outcomes : b.State → String → Uuid → List RecoveryCandidateOutcome
  congr : ∀ {s s' : b.State}, Framed.only s' .candidates = Framed.only s .candidates →
    candidateSet s' = candidateSet s ∧ outcomes s' = outcomes s
  id_of_candidateSet : ∀ {s : b.State} {tenantId : String} {k : Uuid} {c : RecoveryCandidateSet},
    candidateSet s tenantId k = some c → c.candidateSetId = k
  get_eq : ∀ (tenantId : String) (incidentId k : Uuid) (now : Time) (fresh : ℕ → Uuid)
    (s : b.State), b.exec (.getCandidateSet tenantId incidentId k) now fresh s =
      (.ok ((candidateSet s tenantId k).filter (fun c => c.incidentId = incidentId)), s)
  list_eq : ∀ (tenantId : String) (k : Uuid) (now : Time) (fresh : ℕ → Uuid) (s : b.State),
    b.exec (.listCandidateOutcomes tenantId k) now fresh s = (.ok (outcomes s tenantId k), s)
  sorted : ∀ (s : b.State) (tenantId : String) (k : Uuid),
    (outcomes s tenantId k).Pairwise (fun a b => a.occurredAt ≤ b.occurredAt)
  sets_record : ∀ (tenantId : String) (outcome : RecoveryCandidateOutcome) (now : Time)
    (fresh : ℕ → Uuid) (s : b.State),
    candidateSet (b.exec (.recordCandidateOutcome tenantId outcome) now fresh s).2 = candidateSet s
  /-- An outcome under a new identifier goes into its own log, or nowhere. -/
  outcomes_record : ∀ (tenantId : String) (outcome : RecoveryCandidateOutcome) (now : Time)
    (fresh : ℕ → Uuid) (s : b.State) (tenantId' : String) (k : Uuid),
    (∀ o ∈ outcomes s tenantId' k, o.outcomeId ≠ outcome.outcomeId) →
    let s' := (b.exec (.recordCandidateOutcome tenantId outcome) now fresh s).2
    outcomes s' tenantId' k = outcomes s tenantId' k ∨
      (tenantId' = tenantId ∧ k = outcome.candidateSetId ∧
        (outcomes s' tenantId' k).Perm (outcome :: outcomes s tenantId' k))

/-- The outcomes of a selection of rows, in the order of their times. -/
def outcomesOf {α : Type} {key : α → Uuid} (rows : Table key)
    (outcome : α → RecoveryCandidateOutcome) (p : α → Bool) : List RecoveryCandidateOutcome :=
  sortedBy (fun o => o.occurredAt) (fun o => o.outcomeId) ((rows.rows.filter p).map outcome)

section Rows

variable {α : Type} {outcome : α → RecoveryCandidateOutcome}
  {rows : Table (fun a => (outcome a).outcomeId)} {p : α → Bool}

theorem outcomesOf_sorted :
    (outcomesOf rows outcome p).Pairwise (fun a b => a.occurredAt ≤ b.occurredAt) := by
  refine (pairwise_sortedBy _ _ _).imp fun h => ?_
  rcases h with h | h
  · exact h.le
  · exact h.1.le

theorem mem_outcomesOf {o : RecoveryCandidateOutcome} :
    o ∈ outcomesOf rows outcome p ↔ ∃ a ∈ rows, p a = true ∧ outcome a = o := by
  rw [outcomesOf, (sortedBy_perm _ _ _).mem_iff]
  simp [Table.mem_def, and_assoc]

/-- A row under a new key is the one outcome that is added, if it is selected. -/
theorem outcomesOf_put {a : α}
    (h : ∀ o ∈ outcomesOf rows outcome p, o.outcomeId ≠ (outcome a).outcomeId) :
    if p a then (outcomesOf (rows.put a) outcome p).Perm (outcome a :: outcomesOf rows outcome p)
    else outcomesOf (rows.put a) outcome p = outcomesOf rows outcome p := by
  have hrows := (rows.filter_rows_put (a := a) (p := p) fun b hb hp =>
    h _ (mem_outcomesOf.mpr ⟨b, hb, hp, rfl⟩)).map outcome
  split_ifs at hrows ⊢ with hp
  · refine ((sortedBy_perm _ _ _).trans hrows).trans ?_
    rw [List.map_cons]
    exact (sortedBy_perm _ _ _).symm.cons _
  · refine sortedBy_congr hrows fun o ho o' ho' hid => ?_
    obtain ⟨b, hb, rfl⟩ := List.mem_map.mp ho
    obtain ⟨b', hb', rfl⟩ := List.mem_map.mp ho'
    exact congrArg outcome ((rows.put a).key_inj (List.mem_filter.mp hb).1
      (List.mem_filter.mp hb').1 hid)

end Rows

instance : CandidateStore .memory where
  candidateSet s tenantId k :=
    ((s.candidateSets.find? k).filter (fun saved => saved.1 = tenantId)).map Prod.snd
  outcomes s tenantId k := s.listCandidateOutcomes tenantId k
  congr h := by
    have hsets := congrArg InMemoryRepository.candidateSets h
    have houtcomes := congrArg InMemoryRepository.candidateOutcomes h
    refine ⟨?_, ?_⟩
    · funext tenantId k
      exact congrArg (fun sets : Table (fun s : String × RecoveryCandidateSet =>
        s.2.candidateSetId) => ((sets.find? k).filter _).map Prod.snd) hsets
    · funext tenantId k
      exact congrArg (fun rows : Table (fun o : String × RecoveryCandidateOutcome =>
        o.2.outcomeId) => outcomesOf rows Prod.snd _) houtcomes
  id_of_candidateSet h := by
    obtain ⟨saved, hsaved, rfl⟩ := Option.map_eq_some_iff.mp h
    exact ((Table.find?_eq_some _).mp (Option.filter_eq_some_iff.mp hsaved).1).2
  get_eq tenantId incidentId k now fresh s := by
    show (Except.ok (s.getCandidateSet tenantId incidentId k), s) = _
    unfold InMemoryRepository.getCandidateSet
    cases s.candidateSets.find? k with
    | none => rfl
    | some saved =>
      by_cases htenant : saved.1 = tenantId <;>
        by_cases hincident : saved.2.incidentId = incidentId <;>
        simp [Option.filter_some, htenant, hincident]
  list_eq _ _ _ _ _ := rfl
  sorted s tenantId k := outcomesOf_sorted
  sets_record _ _ _ _ _ := rfl
  outcomes_record tenantId outcome now fresh s tenantId' k h := by
    have hput := outcomesOf_put (a := (tenantId, outcome)) h
    split_ifs at hput with hp
    · have hown := of_decide_eq_true hp
      exact .inr ⟨hown.1.symm, hown.2.symm, hput⟩
    · exact .inl hput

instance : CandidateStore .postgres where
  candidateSet s tenantId k := s.candidateSets.payload? tenantId k
  outcomes s tenantId k := s.listCandidateOutcomes tenantId k
  congr h := by
    have hsets := congrArg PostgresRepository.candidateSets h
    have houtcomes := congrArg PostgresRepository.candidateOutcomes h
    refine ⟨?_, ?_⟩
    · funext tenantId k
      exact congrArg (fun rows : Table (fun row : TenantRow RecoveryCandidateSet =>
        row.payload.candidateSetId) => rows.payload? tenantId k) hsets
    · funext tenantId k
      exact congrArg (fun rows : Table (fun row : TenantRow RecoveryCandidateOutcome =>
        row.payload.outcomeId) => outcomesOf rows TenantRow.payload _) houtcomes
  id_of_candidateSet h := (Table.payload?_eq_some _ h).2
  get_eq _ _ _ _ _ _ := rfl
  list_eq _ _ _ _ _ := rfl
  sorted s tenantId k := outcomesOf_sorted
  sets_record tenantId outcome now fresh s := by
    show (committed s (s.recordCandidateOutcome tenantId outcome)).2.candidateSets.payload? = _
    unfold PostgresRepository.recordCandidateOutcome
    cases s.candidateOutcomes.inserted ⟨tenantId, outcome⟩ "recovery_candidate_outcomes" <;> rfl
  outcomes_record tenantId outcome now fresh s tenantId' k h := by
    intro s'
    have hs' : s' = (committed s (s.recordCandidateOutcome tenantId outcome)).2 := rfl
    unfold PostgresRepository.recordCandidateOutcome Table.inserted at hs'
    cases hinsert : s.candidateOutcomes.insert ⟨tenantId, outcome⟩ with
    | none =>
      rw [hinsert] at hs'
      rw [hs']
      exact .inl rfl
    | some rows =>
      rw [hinsert] at hs'
      obtain ⟨-, rfl⟩ := Table.insert_eq_some.mp hinsert
      have hput := outcomesOf_put (a := (⟨tenantId, outcome⟩ : TenantRow RecoveryCandidateOutcome)) h
      rw [hs']
      split_ifs at hput with hp
      · have hown := of_decide_eq_true hp
        exact .inr ⟨hown.1.symm, hown.2.symm, hput⟩
      · exact .inl hput

/-! ### One request -/

/-- Where a request for an outcome stands: what it has read, and what it has drawn. -/
inductive OutcomePhase where
  | start
  | fetched (tenantId : String) (candidateSet : RecoveryCandidateSet)
  | read (tenantId : String) (candidateSet : RecoveryCandidateSet)
      (reading : List RecoveryCandidateOutcome)
  | drawn (tenantId : String) (candidateSet : RecoveryCandidateSet)
      (reading : List RecoveryCandidateOutcome) (outcomeId : Uuid)
  | recorded

namespace OutcomePhase

def advance : OutcomePhase → {α : Type} → Effect α → Except Fault α → OutcomePhase
  | .start, _, .repo (.getCandidateSet tenantId _ _), .ok (some candidateSet) =>
    .fetched tenantId candidateSet
  | .fetched tenantId candidateSet, _, .repo (.listCandidateOutcomes _ _), .ok reading =>
    .read tenantId candidateSet reading
  | .read tenantId candidateSet reading, _, .uuid4, .ok outcomeId =>
    .drawn tenantId candidateSet reading outcomeId
  | .drawn _ _ _ _, _, .repo (.recordCandidateOutcome _ _), _ => .recorded
  | φ, _, _, _ => φ

/-- The log that is read is that of the set, and what is recorded was permitted on it. -/
def allowed (φ : OutcomePhase) : {α : Type} → Effect α → Prop
  | _, .repo (.listCandidateOutcomes tenantId k) => ∀ tenantId' candidateSet,
    φ = .fetched tenantId' candidateSet → tenantId = tenantId' ∧ k = candidateSet.candidateSetId
  | _, .repo (.recordCandidateOutcome tenantId outcome) => ∃ candidateSet reading,
    φ = .drawn tenantId candidateSet reading outcome.outcomeId ∧
      outcome.candidateSetId = candidateSet.candidateSetId ∧
      Permitted candidateSet reading outcome
  | _, op => .candidates ∉ op.writes

def promised : {α : Type} → Effect α → Except Fault α → Prop
  | _, .repo (.getCandidateSet _ _ k), .ok (some candidateSet) => candidateSet.candidateSetId = k
  | _, _, _ => True

def contract : Prog.Contract Effect Fault OutcomePhase where
  allowed := allowed
  promised _ := promised
  advance := advance
  stop _ := True

/-- The call is allowed in the phase and leaves it. -/
def Steady (φ : OutcomePhase) {α : Type} (op : Effect α) : Prop :=
  allowed φ op ∧ ∀ r, advance φ op r = φ

theorem steady_recorded {α : Type} {op : Effect α} (h : .candidates ∉ op.writes) :
    Steady .recorded op := by
  refine ⟨?_, fun r => ?_⟩
  · unfold allowed
    split
    · exact nofun
    · exact absurd List.mem_cons_self h
    · exact h
  · rfl

end OutcomePhase

namespace Api

open Prog OutcomePhase

variable {svc : Service} {α β : Type} {φ : OutcomePhase}

/-- Steady calls keep the phase. -/
theorem Steady.follows {p : Api α} (hp : p.Only (Steady φ)) :
    p.Follows contract (fun φ' _ => φ' = φ) φ :=
  hp.keeps (c := contract) (fun _ hop => hop.1) (fun _ r hop => hop.2 r) trivial

theorem Steady.follows_seq {Q : OutcomePhase → β → Prop} {p : Api α} {f : α → Api β}
    (hp : p.Only (Steady φ)) (hf : ∀ a, (f a).Follows contract Q φ) :
    (p >>= f).Follows contract Q φ :=
  follows_bind (Steady.follows hp) fun _ a hsame => hsame ▸ hf a

/-- What a check establishes, the rest of its sequence may use. -/
theorem CallFree.follows_seq {Q : OutcomePhase → β → Prop} {p : Api α} {f : α → Api β}
    (hp : p.CallFree) (hf : ∀ a, p = pure a → (f a).Follows contract Q φ) :
    (p >>= f).Follows contract Q φ :=
  Prog.follows_seq (follows_callFree hp hf trivial)

theorem outcomeAllowed_callFree (view : RecoveryCandidateSet) (candidate : EvaluatedCandidate)
    (role : Option UserRole) (update : RecoveryCandidateOutcomeUpdate) :
    (outcomeAllowed view candidate role update).CallFree :=
  callFree_bind (callFree_require _ _ _) fun _ _ =>
    callFree_bind (callFree_require _ _ _) fun _ _ =>
      callFree_bind (callFree_require _ _ _) fun _ _ =>
        callFree_bind (callFree_require _ _ _) fun _ _ => callFree_require _ _ _

/-- The checks let an outcome through only where the view permits it. -/
theorem outcomeAllowed_eq_pure {view : RecoveryCandidateSet} {candidate : EvaluatedCandidate}
    {role : Option UserRole} {update : RecoveryCandidateOutcomeUpdate} {u : Unit}
    (h : outcomeAllowed view candidate role update = pure u) :
    transitionAllowed candidate.lifecycleState update.state = true ∧
      (update.state = .selected → truthy view.selectedCandidateId = true →
        view.selectedCandidateId = some candidate.candidateId) := by
  obtain ⟨_, -, h⟩ := (callFree_require _ _ _).bind_eq_pure h
  obtain ⟨_, -, h⟩ := (callFree_require _ _ _).bind_eq_pure h
  obtain ⟨_, hselection, h⟩ := (callFree_require _ _ _).bind_eq_pure h
  obtain ⟨_, -, h⟩ := (callFree_require _ _ _).bind_eq_pure h
  refine ⟨require_eq_pure h, fun hselected htruthy => ?_⟩
  simpa [hselected, htruthy] using require_eq_pure hselection

/-- Once the outcome is recorded, nothing else is written to the sets. -/
theorem steady_of_writes (cs : List Collection) {p : Api α} (hp : Writes cs p)
    (hc : .candidates ∉ cs) : p.Only (Steady .recorded) :=
  only_mono hp.only fun _ hop => steady_recorded fun hwrites => hc (hop _ hwrites)

/-- A request records what was permitted on the log that it read. -/
theorem recordCandidateOutcome_follows {caller : Caller} {incidentId candidateSetId : Uuid}
    {candidateId : String} {update : RecoveryCandidateOutcomeUpdate} :
    (recordCandidateOutcome svc caller incidentId candidateSetId candidateId update).Follows
      contract (fun _ _ => True) .start := by
  refine Steady.follows_seq (callFree_requireRole _ _).only fun _ => ?_
  refine Steady.follows_seq (callFree_requireTenant _).only fun tenantId => ?_
  refine Steady.follows_seq (only_requireIncidentTripAccess ⟨List.not_mem_nil, fun _ => rfl⟩
    fun _ => ⟨List.not_mem_nil, fun _ => rfl⟩) fun owned => ?_
  obtain ⟨incident, trip⟩ := owned
  refine Prog.follows_seq (follows_perform List.not_mem_nil (fun found? hset => ?_)
    fun _ _ => trivial)
  cases found? with
  | none => trivial
  | some candidateSet =>
    have hid : candidateSet.candidateSetId = candidateSetId := hset
    show (repo (.listCandidateOutcomes tenantId candidateSetId) >>= _).Follows contract _
      (.fetched tenantId candidateSet)
    refine Prog.follows_seq (follows_perform ?_ (fun reading _ => ?_) fun _ _ => trivial)
    · rintro _ _ ⟨⟩
      exact ⟨rfl, hid.symm⟩
    · show Follows contract _ (.read tenantId candidateSet reading) _
      refine CallFree.follows_seq (callFree_found _ _ _) fun candidate hcandidate => ?_
      refine CallFree.follows_seq (outcomeAllowed_callFree _ _ _ _) fun _ hallowed => ?_
      have hfind := found_eq_pure hcandidate
      have hname : candidate.candidateId = candidateId := by simpa using List.find?_some hfind
      obtain ⟨htransition, hselection⟩ := outcomeAllowed_eq_pure hallowed
      refine Steady.follows_seq (only_claimOptionalMutation ⟨List.not_mem_nil, fun _ => rfl⟩
        fun _ => ⟨by simp [allowed, Effect.writes, RepoOp.writes], fun _ => rfl⟩) fun claimed => ?_
      obtain ⟨requestHash, replay⟩ := claimed
      cases replay with
      | some record => exact follows_callFree (callFree_replay _ _) (fun _ _ => trivial) trivial
      | none =>
        refine Prog.follows_seq ?_
        refine Steady.follows_seq (callFree_requireActorId _).only fun actorId => ?_
        refine Steady.follows_seq (callFree_validate _ _).only fun _ => ?_
        refine Prog.follows_seq (follows_perform List.not_mem_nil (fun outcomeId _ => ?_)
          fun _ _ => trivial)
        refine Steady.follows_seq (only_perform ⟨List.not_mem_nil, fun _ => rfl⟩)
          fun occurredAt => ?_
        have hpermitted : Permitted candidateSet reading
            { update with
              outcomeId, candidateSetId, incidentId, candidateId, actorId, occurredAt } :=
          ⟨⟨candidate, hfind, htransition⟩, fun hselected htruthy =>
            hname ▸ hselection hselected htruthy⟩
        refine Prog.follows_seq (follows_perform ⟨candidateSet, reading, rfl, hid.symm, hpermitted⟩
          (fun _ _ => ?_) fun _ _ => trivial)
        refine Steady.follows_seq (steady_of_writes [] writes_outcomeFeedback (by decide))
          fun feedback => ?_
        have hfeedback : Writes [.feedback] (feedback.forM fun f => repo (.saveManagerFeedback f)) :=
          writes_forM fun f => writes_repo (by simp [RepoOp.writes])
        refine Steady.follows_seq (steady_of_writes _ hfeedback (by decide)) fun _ => ?_
        refine Steady.follows_seq (steady_of_writes [.events] (by grind) (by decide)) fun _ => ?_
        refine follows_pure (Steady.follows_seq (steady_of_writes [.idempotency] (by grind)
          (by decide)) fun _ => trivial)

end Api

/-! ### Requests one after another -/

section Store

variable {b : Backend} [Framed b] [CandidateStore b] {env : Env} {w w₀ : World b}
  {tenantId : String} {k : Uuid}

def World.candidateSet (w : World b) : String → Uuid → Option RecoveryCandidateSet :=
  CandidateStore.candidateSet w.store

def World.outcomes (w : World b) : String → Uuid → List RecoveryCandidateOutcome :=
  CandidateStore.outcomes w.store

/-- The outcomes of a log were drawn in earlier calls. -/
def World.OutcomesDrawn (w : World b) (tenantId : String) (k : Uuid) : Prop :=
  ∀ o ∈ w.outcomes tenantId k, DrawnBefore o.outcomeId w.tick

theorem not_drawnBefore_drawn {tick tick' : ℕ} (h : tick ≤ tick') :
    ¬ DrawnBefore (drawn tick' 0) tick := by
  intro hbefore
  have hlt := hbefore _ rfl
  rw [Nat.unpair_pair] at hlt
  exact absurd hlt (not_lt.mpr h)

theorem World.candidates_exec (env : Env) (w : World b) {α : Type} (op : Effect α)
    (h : .candidates ∉ op.writes) :
    (env.exec op w).2.candidateSet = w.candidateSet ∧ (env.exec op w).2.outcomes = w.outcomes :=
  CandidateStore.congr (env.exec_only op w h)

/-- From one world to another a log gained nothing, or an outcome that was permitted on it. -/
def World.LogStep (w w' : World b) (tenantId : String) (k : Uuid) : Prop :=
  w'.outcomes tenantId k = w.outcomes tenantId k ∨
    ∃ candidateSet outcome, w.candidateSet tenantId k = some candidateSet ∧
      Permitted candidateSet (w.outcomes tenantId k) outcome ∧ outcome ∉ w.outcomes tenantId k ∧
      (w'.outcomes tenantId k).Perm (outcome :: w.outcomes tenantId k) ∧
      DrawnBefore outcome.outcomeId w'.tick

/-- What a phase says when no other request came between. -/
def OutcomePhase.Alone (w₀ : World b) (tenantId : String) (k : Uuid) (w : World b) :
    OutcomePhase → Prop
  | .start => w.outcomes = w₀.outcomes
  | .fetched t c => w.outcomes = w₀.outcomes ∧ w₀.candidateSet t c.candidateSetId = some c
  | .read t c reading => w.outcomes = w₀.outcomes ∧ w₀.candidateSet t c.candidateSetId = some c ∧
    reading = w₀.outcomes t c.candidateSetId
  | .drawn t c reading id => w.outcomes = w₀.outcomes ∧
    w₀.candidateSet t c.candidateSetId = some c ∧ reading = w₀.outcomes t c.candidateSetId ∧
    DrawnBefore id w.tick ∧ ¬ DrawnBefore id w₀.tick
  | .recorded => w₀.LogStep w tenantId k

/-- A call that writes no candidate leaves what a phase says of a world. -/
theorem OutcomePhase.Alone.mono {φ : OutcomePhase} {w' : World b}
    (h : φ.Alone w₀ tenantId k w) (houtcomes : w'.outcomes = w.outcomes) (htick : w.tick ≤ w'.tick) :
    φ.Alone w₀ tenantId k w' := by
  cases φ with
  | start => exact houtcomes.trans h
  | fetched => exact ⟨houtcomes.trans h.1, h.2⟩
  | read => exact ⟨houtcomes.trans h.1, h.2⟩
  | drawn => exact ⟨houtcomes.trans h.1, h.2.1, h.2.2.1, h.2.2.2.1.mono htick, h.2.2.2.2⟩
  | recorded =>
    rcases h with hsame | ⟨c, o, hc, hpermitted, hnew, hperm, hdrawn⟩
    · exact .inl ((congrFun (congrFun houtcomes _) _).trans hsame)
    · refine .inr ⟨c, o, hc, hpermitted, hnew, ?_, hdrawn.mono htick⟩
      rw [houtcomes]
      exact hperm

/-- Since a world, one request alone has run up to a phase. -/
def OutcomePhase.Sole (w₀ : World b) (tenantId : String) (k : Uuid) (φ : OutcomePhase)
    (w : World b) : Prop :=
  w.candidateSet = w₀.candidateSet ∧ w₀.tick ≤ w.tick ∧ φ.Alone w₀ tenantId k w

/-- Each call keeps what its phase says. -/
theorem OutcomePhase.sole_exec (hdrawn : w₀.OutcomesDrawn tenantId k) {α : Type} (φ : OutcomePhase)
    (op : Effect α) (w : World b) (hw : φ.Sole w₀ tenantId k w) (hop : φ.allowed op) :
    OutcomePhase.promised op (env.exec op w).1 ∧
      (φ.advance op (env.exec op w).1).Sole w₀ tenantId k (env.exec op w).2 := by
  obtain ⟨hsets, htick, halone⟩ := hw
  have hlater : w.tick ≤ (env.exec op w).2.tick := Nat.le_succ _
  have hquiet : .candidates ∉ op.writes → OutcomePhase.promised op (env.exec op w).1 →
      φ.advance op (env.exec op w).1 = φ → OutcomePhase.promised op (env.exec op w).1 ∧
        (φ.advance op (env.exec op w).1).Sole w₀ tenantId k (env.exec op w).2 := by
    intro hwrites hpromised hsame
    obtain ⟨hsets', houtcomes'⟩ := World.candidates_exec env w op hwrites
    rw [hsame]
    exact ⟨hpromised, hsets'.trans hsets, htick.trans hlater, halone.mono houtcomes' hlater⟩
  cases op with
  | uuid4 =>
    cases φ with
    | read t c reading =>
      refine ⟨trivial, hsets, htick.trans hlater, halone.1, halone.2.1, halone.2.2, ?_, ?_⟩
      · exact drawnBefore_drawn w.tick
      · exact not_drawnBefore_drawn htick
    | _ => exact hquiet nofun trivial rfl
  | repo op =>
    cases op with
    | getCandidateSet t incidentId j =>
      have hanswer : (env.exec (.repo (.getCandidateSet t incidentId j)) w).1 =
          .ok ((w.candidateSet t j).filter (fun c => c.incidentId = incidentId)) :=
        congrArg Prod.fst (CandidateStore.get_eq t incidentId j _ _ w.store)
      have hfiltered : ∀ c, (w.candidateSet t j).filter (fun c => c.incidentId = incidentId) =
          some c → w.candidateSet t j = some c ∧ c.candidateSetId = j := fun c hc =>
        have hstored := (Option.filter_eq_some_iff.mp hc).1
        ⟨hstored, CandidateStore.id_of_candidateSet hstored⟩
      rw [hanswer] at hquiet ⊢
      cases hfound : (w.candidateSet t j).filter (fun c => c.incidentId = incidentId) with
      | none =>
        rw [hfound] at hquiet
        exact hquiet nofun trivial (by cases φ <;> rfl)
      | some c =>
        rw [hfound] at hquiet
        obtain ⟨hstored, hid⟩ := hfiltered c hfound
        cases φ with
        | start =>
          obtain ⟨hsets', houtcomes'⟩ := World.candidates_exec env w
            (.repo (.getCandidateSet t incidentId j)) nofun
          refine ⟨hid, hsets'.trans hsets, htick.trans hlater, houtcomes'.trans halone, ?_⟩
          rw [← hsets, hid]
          exact hstored
        | _ => exact hquiet nofun hid rfl
    | listCandidateOutcomes t j =>
      have hanswer : (env.exec (.repo (.listCandidateOutcomes t j)) w).1 = .ok (w.outcomes t j) :=
        congrArg Prod.fst (CandidateStore.list_eq t j _ _ w.store)
      rw [hanswer] at hquiet ⊢
      cases φ with
      | fetched t' c =>
        obtain ⟨hsets', houtcomes'⟩ := World.candidates_exec env w
          (.repo (.listCandidateOutcomes t j)) nofun
        obtain ⟨rfl, rfl⟩ := hop t' c rfl
        exact ⟨trivial, hsets'.trans hsets, htick.trans hlater, houtcomes'.trans halone.1, halone.2,
          congrFun (congrFun halone.1 _) _⟩
      | _ => exact hquiet nofun trivial rfl
    | recordCandidateOutcome t outcome =>
      obtain ⟨c, reading, rfl, hid, hpermitted⟩ := hop
      obtain ⟨hsame, hstored, rfl, hbefore, hnew⟩ := halone
      refine ⟨trivial, (CandidateStore.sets_record t outcome (env.clock w.tick)
        (RouteShield.drawn w.tick) w.store).trans hsets, htick.trans hlater, ?_⟩
      have hfresh : ∀ o ∈ CandidateStore.outcomes w.store tenantId k,
          o.outcomeId ≠ outcome.outcomeId := by
        intro o ho heq
        have hlog : w.outcomes tenantId k = w₀.outcomes tenantId k := congrFun (congrFun hsame _) _
        exact hnew (heq ▸ hdrawn o (hlog ▸ ho))
      rcases CandidateStore.outcomes_record t outcome (env.clock w.tick)
        (RouteShield.drawn w.tick) w.store tenantId k hfresh with hlog | ⟨rfl, rfl, hperm⟩
      · exact .inl (hlog.trans (congrFun (congrFun hsame _) _))
      · rw [hid] at hperm ⊢
        have hlog : CandidateStore.outcomes w.store tenantId c.candidateSetId =
            w₀.outcomes tenantId c.candidateSetId := congrFun (congrFun hsame _) _
        rw [hlog] at hperm
        refine .inr ⟨c, outcome, hstored, hpermitted, fun hmem => ?_, hperm, hbefore.mono hlater⟩
        rw [← hlog, ← hid] at hmem
        exact hfresh outcome hmem rfl
    | _ => exact hquiet hop trivial (by cases φ <;> rfl)
  | _ => exact hquiet nofun trivial (by cases φ <;> rfl)

/-- A request for an outcome, as its client sends it. -/
structure OutcomeRequest where
  caller : Caller
  incidentId : Uuid
  candidateSetId : Uuid
  candidateId : String
  update : RecoveryCandidateOutcomeUpdate

def OutcomeRequest.request (r : OutcomeRequest) : Request :=
  .recordCandidateOutcome r.caller r.incidentId r.candidateSetId r.candidateId r.update

/-- The world after a request for an outcome is served. -/
def World.serveOutcome (svc : Service) (env : Env) (w : World b) (r : OutcomeRequest) : World b :=
  w.serve svc env r.request

/-- A request leaves every candidate set, and adds at most what was permitted to a log. -/
theorem World.serveOutcome_run (svc : Service) (env : Env) (r : OutcomeRequest)
    (hdrawn : w.OutcomesDrawn tenantId k) :
    (w.serveOutcome svc env r).candidateSet = w.candidateSet ∧
      w.tick ≤ (w.serveOutcome svc env r).tick ∧
      w.LogStep (w.serveOutcome svc env r) tenantId k := by
  have hstart : OutcomePhase.start.Sole w tenantId k w := ⟨rfl, le_rfl, rfl⟩
  obtain ⟨φ, ⟨hsets, htick, halone⟩, -⟩ := Api.recordCandidateOutcome_follows.run
    (OutcomePhase.sole_exec hdrawn) hstart
  have hstate : w.serveOutcome svc env r = ((Api.recordCandidateOutcome svc r.caller r.incidentId
      r.candidateSetId r.candidateId r.update).run env.exec w).2 := Prog.run_discard _ _
  rw [hstate]
  refine ⟨hsets, htick, ?_⟩
  have hsame : ∀ {w' : World b}, w'.outcomes = w.outcomes → w.LogStep w' tenantId k :=
    fun h => .inl (congrFun (congrFun h _) _)
  cases φ with
  | start => exact hsame halone
  | recorded => exact halone
  | _ => exact hsame halone.1

/-- What a request adds to a log is later than what is there. -/
def World.Later (svc : Service) (env : Env) (tenantId : String) (k : Uuid) (w : World b)
    (r : OutcomeRequest) : Prop :=
  ∀ o ∈ (w.serveOutcome svc env r).outcomes tenantId k, o ∉ w.outcomes tenantId k →
    ∀ o' ∈ w.outcomes tenantId k, o'.occurredAt < o.occurredAt

instance (svc : Service) (env : Env) (tenantId : String) (k : Uuid) (w : World b)
    (r : OutcomeRequest) : Decidable (w.Later svc env tenantId k r) :=
  inferInstanceAs (Decidable (∀ o ∈ (w.serveOutcome svc env r).outcomes tenantId k,
    o ∉ w.outcomes tenantId k → ∀ o' ∈ w.outcomes tenantId k, o'.occurredAt < o.occurredAt))

/-- A candidate set and its log, between two requests. -/
structure World.Living (w : World b) (tenantId : String) (k : Uuid)
    (candidateSet : RecoveryCandidateSet) : Prop where
  stored : w.candidateSet tenantId k = some candidateSet
  log : OutcomeLog candidateSet (w.outcomes tenantId k)
  drawn : w.OutcomesDrawn tenantId k

variable {svc : Service} {candidateSet : RecoveryCandidateSet}

/-- A request that is served keeps the log a log, and only adds to its end. -/
theorem World.Living.serve (hnamed : Named candidateSet) (h : w.Living tenantId k candidateSet)
    {r : OutcomeRequest} (hlater : w.Later svc env tenantId k r) :
    (w.serveOutcome svc env r).Living tenantId k candidateSet ∧
      w.outcomes tenantId k <+: (w.serveOutcome svc env r).outcomes tenantId k := by
  obtain ⟨hsets, htick, hstep⟩ := World.serveOutcome_run svc env r h.drawn
  have hstored : (w.serveOutcome svc env r).candidateSet tenantId k = some candidateSet := by
    rw [hsets]
    exact h.stored
  rcases hstep with hsame | ⟨c, outcome, hc, hpermitted, hnew, hperm, hbefore⟩
  · refine ⟨⟨hstored, hsame ▸ h.log, fun o ho => ?_⟩, hsame ▸ List.prefix_rfl⟩
    rw [hsame] at ho
    exact (h.drawn o ho).mono htick
  · cases Option.some.inj (h.stored.symm.trans hc)
    have hmem : outcome ∈ (w.serveOutcome svc env r).outcomes tenantId k :=
      hperm.mem_iff.mpr List.mem_cons_self
    have htimes := hlater outcome hmem hnew
    have happended : (w.serveOutcome svc env r).outcomes tenantId k =
        w.outcomes tenantId k ++ [outcome] :=
      eq_append_of_later h.log.increasing (CandidateStore.sorted _ _ _) hperm htimes
    refine ⟨⟨hstored, ?_, fun o ho => ?_⟩, happended ▸ List.prefix_append _ _⟩
    · rw [happended]
      have hlog : OutcomeLog candidateSet (w.outcomes tenantId k ++ [] ++ [outcome]) :=
        OutcomeLog.append hnamed (by simpa using h.log) hpermitted (by simp) (by simpa using htimes)
      simpa using hlog
    · rcases List.mem_cons.mp (hperm.mem_iff.mp ho) with rfl | hold
      · exact hbefore
      · exact (h.drawn o hold).mono htick

theorem World.Living.runFrom (hnamed : Named candidateSet) {requests : List OutcomeRequest}
    (h : w.Living tenantId k candidateSet)
    (hlater : Meets (World.serveOutcome svc env) (World.Later svc env tenantId k) w requests) :
    (RouteShield.runFrom (World.serveOutcome svc env) w requests).Living tenantId k candidateSet ∧
      w.outcomes tenantId k <+:
        (RouteShield.runFrom (World.serveOutcome svc env) w requests).outcomes tenantId k := by
  induction requests generalizing w with
  | nil => exact ⟨h, List.prefix_rfl⟩
  | cons r requests ih =>
    obtain ⟨hserved, hprefix⟩ := h.serve hnamed hlater.1
    obtain ⟨hrun, hprefix'⟩ := ih hserved hlater.2
    exact ⟨hrun, hprefix.trans hprefix'⟩

end Store

/-! ### Candidate sets as they are created -/

/-- A candidate set as a manager's request or a graph saves it. -/
inductive Created (candidateSet : RecoveryCandidateSet) : Prop where
  | manager {policy : CorporateTravelPolicy} {candidates : List RecoveryCandidate}
      {evaluated : List EvaluatedCandidate} (hnonempty : ∀ c ∈ candidates, c.candidateId ≠ "")
      (hdistinct : (candidates.map (fun c => c.candidateId)).Nodup)
      (hevaluated : (candidates.mapM fun c => evaluatePolicyEligibleCandidate c policy) =
        .ok evaluated)
      (hcandidates : candidateSet.candidates = Api.positioned evaluated)
  | graph {minimum : Option ℤ} {evaluated : List EvaluatedCandidate}
      (hevaluated : Graph.evaluateAlternatives fixtureAlternatives {} minimum = .ok evaluated)
      (hcandidates : candidateSet.candidates = Graph.displayed evaluated)

/-- A candidate that is not eligible has no way on. -/
def Untouched (c : EvaluatedCandidate) : Prop :=
  (c.eligible = true ∧ c.lifecycleState = .eligible) ∨
    (c.eligible = false ∧ ∀ next, transitionAllowed c.lifecycleState next = false)

theorem evaluateCandidate_untouched {candidate : RecoveryCandidate} {minimum : ℕ}
    {evaluated : EvaluatedCandidate} (h : evaluateCandidate candidate minimum = .ok evaluated) :
    Untouched evaluated := by
  obtain ⟨-, heligible, hlifecycle⟩ := evaluateCandidate_eq_ok h
  by_cases hreasons : exclusionReasons candidate minimum = []
  · have hboth : candidate.available = true ∧ candidate.policyCompliant = true := by
      constructor <;> by_contra hnot <;> simp [exclusionReasons, hnot] at hreasons
    rw [decide_eq_true hreasons] at heligible
    refine .inl ⟨heligible, ?_⟩
    rw [hlifecycle, hboth.1, hboth.2, heligible]
    rfl
  · rw [decide_eq_false hreasons] at heligible
    refine .inr ⟨heligible, fun next => ?_⟩
    rw [hlifecycle, heligible, Bool.not_false, if_pos rfl]
    split_ifs <;> rfl

theorem untouched_evaluated {candidate : RecoveryCandidate} {policy : CorporateTravelPolicy}
    {evaluated : EvaluatedCandidate}
    (h : evaluatePolicyEligibleCandidate candidate policy = .ok evaluated) :
    Untouched evaluated := by
  unfold evaluatePolicyEligibleCandidate evaluatePolicyEligibleCandidateWith at h
  obtain ⟨alone, halone, h⟩ := except_bind_eq_ok.mp h
  dsimp only at h
  split at h
  · cases h
    have huntouched : Untouched alone := evaluateCandidate_untouched halone
    exact huntouched
  · cases h
    exact .inr ⟨rfl, fun next => rfl⟩

theorem Untouched.tightened {c : EvaluatedCandidate} (h : Untouched c) (minimum : Option ℤ) :
    Untouched (applyTravelerMinimumConnection c minimum) := by
  unfold applyTravelerMinimumConnection
  cases minimum with
  | none => exact h
  | some m =>
    dsimp only
    split
    · exact h
    · exact .inr ⟨rfl, fun next => rfl⟩

section Created

variable {candidateSet : RecoveryCandidateSet} {candidates : List RecoveryCandidate}
  {evaluated : List EvaluatedCandidate}

theorem candidateIds_displayed (evaluated : List EvaluatedCandidate) :
    (Graph.displayed evaluated).map (fun c => c.candidateId) =
      evaluated.map (fun c => c.candidateId) := by
  simp [Graph.displayed, Function.comp_def]

theorem untouched_displayed (h : ∀ c ∈ evaluated, Untouched c) :
    ∀ c ∈ Graph.displayed evaluated, Untouched c := by
  intro _ hdisplayed
  obtain ⟨c, hc, rfl⟩ := List.mem_map.mp hdisplayed
  exact h c hc

/-- Candidates keep their names when they are evaluated. -/
theorem candidateIds_evaluated {policy : CorporateTravelPolicy}
    (h : (candidates.mapM fun c => evaluatePolicyEligibleCandidate c policy) = .ok evaluated) :
    evaluated.map (fun c => c.candidateId) = candidates.map (fun c => c.candidateId) := by
  have hall := mapM_eq_ok.mp h
  clear h
  induction hall with
  | nil => rfl
  | cons hc _ ih => rw [List.map_cons, List.map_cons, ih, (evaluatePolicyEligibleCandidate_eq_ok hc).1]

theorem untouched_evaluatedAll {policy : CorporateTravelPolicy}
    (h : (candidates.mapM fun c => evaluatePolicyEligibleCandidate c policy) = .ok evaluated) :
    ∀ c ∈ evaluated, Untouched c := by
  refine (forall_mem_iff_of_forall₂ (P := fun _ => True) (mapM_eq_ok.mp h) fun c e he => ?_).mpr
    fun _ _ => trivial
  exact iff_of_true (untouched_evaluated he) trivial

/-- The candidates that were evaluated for a graph, before its minimum was applied. -/
theorem evaluateAlternatives_eq_ok {policy : CorporateTravelPolicy} {minimum : Option ℤ}
    (h : Graph.evaluateAlternatives candidates policy minimum = .ok evaluated) :
    ∃ alone, (candidates.mapM fun c => evaluatePolicyEligibleCandidate c policy) = .ok alone ∧
      evaluated = alone.map fun c => applyTravelerMinimumConnection c minimum := by
  rw [Graph.evaluateAlternatives_eq] at h
  cases halone : candidates.mapM fun c => evaluatePolicyEligibleCandidate c policy with
  | error fault =>
    rw [halone] at h
    cases h
  | ok alone =>
    rw [halone] at h
    exact ⟨alone, rfl, (Except.ok.inj h).symm⟩

theorem candidateId_tightened (c : EvaluatedCandidate) (minimum : Option ℤ) :
    (applyTravelerMinimumConnection c minimum).candidateId = c.candidateId := by
  unfold applyTravelerMinimumConnection
  cases minimum with
  | none => rfl
  | some m =>
    dsimp only
    split <;> rfl

theorem Created.named (h : Created candidateSet) : Named candidateSet := by
  have hnamed : ∀ {ids : List String}, candidateSet.candidates.map (fun c => c.candidateId) = ids →
      (∀ id ∈ ids, id ≠ "") → ids.Nodup → Named candidateSet := by
    rintro ids hids hnonempty hdistinct
    refine ⟨fun c hc => hnonempty _ (hids ▸ List.mem_map_of_mem hc), ?_⟩
    rw [hids]
    exact hdistinct
  cases h with
  | @manager policy candidates evaluated hnonempty hdistinct hevaluated hcandidates =>
    refine hnamed ?_ (List.forall_mem_map.mpr hnonempty) hdistinct
    rw [hcandidates]
    exact (candidateIds_displayed evaluated).trans (candidateIds_evaluated hevaluated)
  | @graph minimum evaluated hevaluated hcandidates =>
    obtain ⟨alone, halone, rfl⟩ := evaluateAlternatives_eq_ok hevaluated
    have hids : candidateSet.candidates.map (fun c => c.candidateId) =
        fixtureAlternatives.map (fun c => c.candidateId) := by
      rw [hcandidates, candidateIds_displayed, List.map_map, ← candidateIds_evaluated halone]
      exact List.map_congr_left fun c _ => candidateId_tightened c minimum
    exact hnamed hids (by decide) (by decide)

theorem Created.untouched (h : Created candidateSet) : ∀ c ∈ candidateSet.candidates, Untouched c := by
  cases h with
  | manager hnonempty hdistinct hevaluated hcandidates =>
    rw [hcandidates]
    exact untouched_displayed (untouched_evaluatedAll hevaluated)
  | graph hevaluated hcandidates =>
    obtain ⟨alone, halone, rfl⟩ := evaluateAlternatives_eq_ok hevaluated
    rw [hcandidates]
    refine untouched_displayed (List.forall_mem_map.mpr fun c hc => ?_)
    exact (untouched_evaluatedAll halone c hc).tightened _

/-- Sets are created by managers' requests, whose candidates have names of their own. -/
theorem createCandidateSet_created {b : Backend} (svc : Service) (env : Env) (w : World b)
    (caller : Caller) (incidentId : Uuid) (hnonempty : ∀ c ∈ candidates, c.candidateId ≠ "")
    (hdistinct : (candidates.map (fun c => c.candidateId)).Nodup) :
    ∀ candidateSet ∈ ((Api.createCandidateSet svc caller incidentId candidates).run
      (env.recorded env.invokeGraph) (w, {})).2.2.sets, Created candidateSet := by
  intro candidateSet hsaved
  obtain ⟨evaluated, hevaluated, hcandidates⟩ :=
    saves_run Api.createCandidateSet_saves env w candidateSet hsaved
  exact .manager hnonempty hdistinct hevaluated hcandidates

/-- Sets are created with the incidents that a graph investigates. -/
theorem escalationOf_created {b : Backend} (svc : Service) (env : Env)
    (hosts : GraphInput → GraphHost) (caller : Caller) (tripId : Uuid)
    (scenario : Option DemoScenario) (w : World b) :
    let log := escalationOf svc env hosts caller tripId scenario w
    log.incidents ≠ [] → ∀ candidateSet ∈ log.sets, Created candidateSet := by
  intro log hsome candidateSet hcandidateSet
  obtain ⟨incident, hincident⟩ := List.exists_mem_of_ne_nil _ hsome
  have hexplained := escalationOf_settled svc env hosts caller tripId scenario w incident hincident
  rcases hexplained.2 with ⟨-, hnone, -⟩ | ⟨input, evaluated, hinvestigated⟩
  · rw [hnone] at hcandidateSet
    cases hcandidateSet
  · obtain ⟨minimum, hevaluated⟩ := hinvestigated.evaluates
    obtain ⟨stored, hsets, hcandidates⟩ := hinvestigated.sets
    rw [hsets, List.mem_singleton] at hcandidateSet
    exact .graph hevaluated (hcandidateSet ▸ hcandidates)

end Created

/-! ### Life cycles -/

/-- What the outcomes of a candidate set come to, in the order of their times. -/
structure LifeCycle (candidateSet : RecoveryCandidateSet) (outcomes : List RecoveryCandidateOutcome) :
    Prop where
  increasing : outcomes.Pairwise (fun a b => a.occurredAt < b.occurredAt)
  known : ∀ o ∈ outcomes, ∃ c ∈ candidateSet.candidates, c.candidateId = o.candidateId
  paths : ∀ c ∈ candidateSet.candidates,
    LifecyclePath .eligible (statesOf outcomes c.candidateId)
  ineligible : ∀ c ∈ candidateSet.candidates, c.eligible = false →
    statesOf outcomes c.candidateId = []
  final : ∀ o ∈ outcomes, o.state = .rejected ∨ o.state = .completed →
    (statesOf outcomes o.candidateId).getLast? = some o.state
  selection : ∀ o ∈ outcomes, o.state = .selected ∨ o.state = .completed →
    (projectCandidateSetOutcomes candidateSet outcomes).selectedCandidateId = some o.candidateId
  projected : (projectCandidateSetOutcomes candidateSet outcomes).candidates =
    candidateSet.candidates.map (fun c =>
      { c with lifecycleState := lifecycleAfter c.lifecycleState (statesOf outcomes c.candidateId) })

theorem OutcomeLog.lifeCycle {candidateSet : RecoveryCandidateSet}
    {outcomes : List RecoveryCandidateOutcome} (h : OutcomeLog candidateSet outcomes)
    (huntouched : ∀ c ∈ candidateSet.candidates, Untouched c) : LifeCycle candidateSet outcomes := by
  have hnone : ∀ c ∈ candidateSet.candidates, c.eligible = false →
      statesOf outcomes c.candidateId = [] := by
    intro c hc hineligible
    rcases huntouched c hc with ⟨heligible, -⟩ | ⟨-, hnext⟩
    · cases heligible.symm.trans hineligible
    · exact (h.paths c hc).eq_nil hnext
  have hpaths : ∀ c ∈ candidateSet.candidates,
      LifecyclePath .eligible (statesOf outcomes c.candidateId) := by
    intro c hc
    rcases huntouched c hc with ⟨-, hlifecycle⟩ | ⟨hineligible, -⟩
    · exact hlifecycle ▸ h.paths c hc
    · rw [hnone c hc hineligible]
      trivial
  have hstates : ∀ o ∈ outcomes, o.state ∈ statesOf outcomes o.candidateId := fun o ho =>
    mem_statesOf.mpr ⟨o, ho, rfl, rfl⟩
  refine ⟨h.increasing, h.known, hpaths, hnone, ?_, ?_, project_candidates h.increasing⟩
  · intro o ho hfinal
    obtain ⟨c, hc, hid⟩ := h.known o ho
    refine (hid ▸ hpaths c hc).final (hstates o ho) fun next => ?_
    rcases hfinal with hstate | hstate <;> rw [hstate] <;> rfl
  · rintro o ho (hselected | hcompleted)
    · exact selectedCandidateId_eq h.exclusive ho hselected
    · -- what was completed was selected before
      obtain ⟨c, hc, hid⟩ := h.known o ho
      have hbefore := (hid ▸ hpaths c hc).selected_of_completed nofun
        (hcompleted ▸ hstates o ho)
      obtain ⟨o', ho', hid', hselected⟩ := mem_statesOf.mp hbefore
      rw [← hid']
      exact selectedCandidateId_eq h.exclusive ho' hselected

/-- The service under a clock that goes on. -/
def Env.ticking : Env := { Env.still with clock := fun tick => tick }

def offeringIncident : Incident where
  incidentId := .v4 2
  tenantId := "tenant"
  tripId := connectionTrip.tripId
  assessmentId := .v4 4
  severity := .high
  correlationId := .v4 5
  createdAt := 0
  updatedAt := 0

/-- One option for the trip, as a manager's request has it evaluated. -/
def offeredSet : RecoveryCandidateSet where
  candidateSetId := .v4 3
  incidentId := offeringIncident.incidentId
  candidates := Api.positioned (((fixtureAlternatives.take 1).mapM fun c =>
    evaluatePolicyEligibleCandidate c {}).toOption.getD [])
  createdAt := 0

theorem offeredSet_created : Created offeredSet := by
  have hok : ((fixtureAlternatives.take 1).mapM fun c =>
      evaluatePolicyEligibleCandidate c {}).isOk = true := by decide +kernel
  cases hevaluated : (fixtureAlternatives.take 1).mapM fun c =>
      evaluatePolicyEligibleCandidate c {} with
  | error fault =>
    rw [hevaluated] at hok
    cases hok
  | ok evaluated =>
    refine .manager (by decide) (by decide) hevaluated ?_
    show Api.positioned (((fixtureAlternatives.take 1).mapM fun c =>
      evaluatePolicyEligibleCandidate c {}).toOption.getD []) = _
    rw [hevaluated]
    rfl

def offeringWorld : World .memory where
  store := ((({} : InMemoryRepository Response).createTrip connectionTrip).saveIncident
    offeringIncident).saveCandidateSet "tenant" offeredSet

/-- A request that offers the option. -/
def offering (idempotencyKey : Option String) (actorId : String) : OutcomeRequest where
  caller := { filedTripManager with actorId := some actorId, idempotencyKey }
  incidentId := offeringIncident.incidentId
  candidateSetId := offeredSet.candidateSetId
  candidateId := "fixture-alt-1"
  update := { state := .offered }

end RouteShield
