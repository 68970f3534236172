import RouteShield.Workers.WindowStages

/-!
A trip's windows over the invocations of the monitoring job. An invocation that comes to a trip
while one of its windows is open claims the window, and a claim is refused only for a window that
was granted before. An invocation that was granted a window goes on until its assessment is stored
and answered for. So exactly one assessment is made for a window when the invocations come to the
trip at times that span its start, no claim of it comes after its record has expired, and the key
of the assessment is free. An invocation that meets a claim in progress ends there: it never comes
to the trips that are left.
-/

namespace RouteShield

/-- The refusal of a claim whose key another program has claimed and not answered. -/
def stillInProgress : Fault := .http 409 "A request with this Idempotency-Key is still in progress"

/-- An invocation of the job. -/
def invocation (svc : Service) (_ : Unit) : Api Unit := Api.handle svc .processDueAssessments

/-- The invocation has returned, or was refused for a claim in progress. -/
def Settled : Api Unit → Prop
  | .pure _ => True
  | .throw fault => fault = stillInProgress
  | .call _ _ => False

instance : (p : Api Unit) → Decidable (Settled p)
  | .pure _ => .isTrue trivial
  | .throw fault => inferInstanceAs (Decidable (fault = stillInProgress))
  | .call _ _ => .isFalse id

/-- The invocation has come to the trip, whose automation is on: it reads the clock next, for the
windows that the trip has reached. -/
def AtTurn (svc : Service) (trip : Trip) (p : Api Unit) : Prop :=
  ∃ rest : List DueOutcome → Api Unit, p = (Api.dueWindows trip >>= fun windows =>
    windows.mapM (Api.assessWindow svc trip)) >>= rest

/-- The program is about to claim the request. Where the claim is refused for another request, or
cannot be made, it ends. -/
inductive Pending (r : KeyedRequest) : Api Unit → Prop
  | now {next : Except Fault Time → Api Unit} (h : ∀ time, Pending r (next (.ok time))) :
    Pending r (.call .now next)
  | claim {claim : Claim} {next : Except Fault (IdempotencyDisposition × MutationRecord) → Api Unit}
    (hrequest : claim.request = r)
    (hconflict : ∀ record, ∃ fault ≠ stillInProgress, next (.ok (.conflict, record)) = .throw fault)
    (hfault : ∀ fault, next (.error fault) = .throw fault) :
    Pending r (.call (.repo (.claimIdempotency claim)) next)
  | ended {fault : Fault} (h : fault ≠ stillInProgress) : Pending r (.throw fault)

theorem Pending.not_settled {r : KeyedRequest} {p : Api Unit} (h : Pending r p) : ¬Settled p := by
  cases h with
  | now h => exact id
  | claim hrequest hconflict hfault => exact id
  | ended h => exact h

namespace Api

open Prog hiding pure

variable {svc : Service} {trip : Trip} {window : String} {p : Api Unit}

theorem pending_assessWindow {rest : DueOutcome → Api Unit} :
    Pending (windowRequest svc trip window) (assessWindow svc trip window >>= rest) := by
  refine .now fun time => .claim rfl (fun record => ⟨_, ?_, rfl⟩) fun fault => rfl
  decide

/-- An invocation that comes to a trip while a window is open goes on to claim the window. -/
theorem pending_of_atTurn {segment : FlightSegment} {time : Time} (h : AtTurn svc trip p)
    (hsegment : trip.segments.head? = some segment)
    (hwindow : window ∈ dueMonitoringWindows segment.scheduledDepartureAt time) :
    ∃ next, p = .call .now next ∧ Pending (windowRequest svc trip window) (next (.ok time)) := by
  obtain ⟨rest, rfl⟩ := h
  have hone : dueMonitoringWindows segment.scheduledDepartureAt time = [window] := by
    rcases dueMonitoringWindows_cases segment.scheduledDepartureAt time with hnone | ⟨other, hone⟩
    · simp [hnone] at hwindow
    · rw [hone, List.mem_singleton] at hwindow
      rw [hone, hwindow]
  have hdue : dueWindows trip = now >>= fun timestamp =>
      pure (dueMonitoringWindows segment.scheduledDepartureAt timestamp) := by
    unfold dueWindows
    rw [hsegment]
  rw [hdue]
  refine ⟨_, rfl, ?_⟩
  show Pending _ ((pure (dueMonitoringWindows segment.scheduledDepartureAt time) >>= fun windows =>
    windows.mapM (assessWindow svc trip)) >>= rest)
  rw [hone, pure_bind, List.mapM_cons, bind_assoc]
  exact pending_assessWindow

end Api

/-- A backend whose claims raise errors of the store only, never an HTTP answer. -/
class ClaimFaults (b : Backend) : Prop where
  claim : ∀ (claim : Claim) (now : Time) (fresh : ℕ → Uuid) (s : b.State) (fault : Fault),
    (b.exec (.claimIdempotency claim) now fresh s).1 = .error fault →
      fault = .validation "IdempotencyRecord"

theorem memory_claim_error {records : IdempotencyRecords Response} {claim : Claim} {now : Time}
    {fault : Fault} (h : (Memory.claimIdempotency records claim now).1 = .error fault) :
    fault = .validation "IdempotencyRecord" := by
  simp only [Memory.claimIdempotency] at h
  split at h
  · split_ifs at h with hvalid
    all_goals cases h
    all_goals rfl
  · cases h

theorem postgres_claim_error {records : IdempotencyRecords Response} {claim : Claim} {now : Time}
    {fault : Fault} (h : (Postgres.claimIdempotency records claim now).1 = .error fault) :
    fault = .validation "IdempotencyRecord" := by
  simp only [Postgres.claimIdempotency] at h
  split_ifs at h with hvalid
  · split at h
    · cases h
    · split_ifs at h
      cases h
      rfl
  · cases h
    rfl

instance : ClaimFaults .memory where
  claim _ _ _ _ _ h := memory_claim_error h

instance : ClaimFaults .postgres where
  claim _ _ _ _ _ h := postgres_claim_error h

/-! ### Invocations side by side -/

variable {b : Backend} [Framed b] [ClaimStore b] {env : Env} {svc : Service} {r : KeyedRequest}
  {pool : Pool Effect Fault (World b)} {e : PoolEvent Unit}

/-- The invocations write what an assessment may write. -/
def OnlyAssess (pool : Pool Effect Fault (World b)) : Prop :=
  pool.Stands fun p _ => p.Only fun op => ∀ c ∈ op.writes, c ∈ assessedCollections

omit [Framed b] [ClaimStore b] in
theorem OnlyAssess.apply (h : OnlyAssess pool) :
    OnlyAssess (pool.apply env.exec (invocation svc) e) := by
  refine Pool.stands_apply h e (fun _ => ?_) fun i op next _ _ hcall => ?_
  · have hwrites : Api.Writes assessedCollections (invocation svc ()) :=
      Api.writes_handle .processDueAssessments
    exact hwrites.only
  · exact ⟨hcall.2 _, fun p _ hp => hp⟩

omit [Framed b] [ClaimStore b] in
theorem OnlyAssess.writes {α : Type} {op : Effect α} {next : Except Fault α → Api Unit} {i : ℕ}
    (h : OnlyAssess pool) (hi : pool.threads[i]? = some (.call op next)) :
    ∀ c ∈ op.writes, c ∈ assessedCollections := (h _ (List.mem_of_getElem? hi)).1

omit [Framed b] [ClaimStore b] in
theorem OnlyAssess.purges {α : Type} {op : Effect α} {next : Except Fault α → Api Unit} {i : ℕ}
    (h : OnlyAssess pool) (hi : pool.threads[i]? = some (.call op next)) : op.purges = false :=
  purges_eq_false fun hmem => absurd (h.writes hi _ hmem) (by decide)

/-- The request has no record in the ledger. -/
def World.Unheld (r : KeyedRequest) (w : World b) : Prop := ∀ record, ¬w.ledger.Holds r record

/-- As long as it is not granted, a request gets no record. -/
theorem unheld_apply (hquiet : OnlyAssess pool) (h : pool.state.Unheld r)
    (hgranted : ¬pool.Answered env.exec r.GrantedBy e) :
    (pool.apply env.exec (invocation svc) e).state.Unheld r := by
  cases e with
  | spawn _ => exact h
  | step i =>
    show (pool.stepThread env.exec i).state.Unheld r
    rcases Pool.stepThread_cases env.exec pool i with hsame | ⟨γ, op, next, hi, hstep⟩
    · rw [hsame]
      exact h
    · have hnot : ¬r.GrantedBy op (env.exec op pool.state).1 :=
        fun hr => hgranted ⟨_, hi, hr⟩
      rw [hstep]
      exact World.unheld_after h (hquiet.purges hi) hnot

theorem not_answered_of_held (hintime : ClaimsInTime env r pool e)
    (h : ∃ record, pool.state.ledger.Holds r record) :
    ¬pool.Answered env.exec r.GrantedBy e := by
  obtain ⟨record, hrecord⟩ := h
  cases e with
  | spawn _ => exact id
  | step i =>
    intro hanswered
    obtain ⟨γ, op, next, hi, hgranted⟩ := hanswered.call
    exact World.not_grantedBy hrecord (hintime.claim hi) hgranted

/-- A request that has a record keeps one, as long as no claim of it comes after the record has
expired. -/
theorem held_apply (hquiet : OnlyAssess pool) (hintime : ClaimsInTime env r pool e)
    (h : ∃ record, pool.state.ledger.Holds r record) :
    ∃ record, (pool.apply env.exec (invocation svc) e).state.ledger.Holds r record := by
  obtain ⟨record, hrecord⟩ := h
  cases e with
  | spawn _ => exact ⟨record, hrecord⟩
  | step i =>
    show ∃ record, (pool.stepThread env.exec i).state.ledger.Holds r record
    rcases Pool.stepThread_cases env.exec pool i with hsame | ⟨γ, op, next, hi, hstep⟩
    · rw [hsame]
      exact ⟨record, hrecord⟩
    · rw [hstep]
      exact World.holds_after hrecord (hquiet.purges hi) (hintime.claim hi)

/-- A granted request has a record. -/
theorem held_of_answered (h : pool.Answered env.exec r.GrantedBy e) :
    ∃ record, (pool.apply env.exec (invocation svc) e).state.ledger.Holds r record := by
  cases e with
  | spawn _ => exact h.elim
  | step i =>
    obtain ⟨γ, op, next, hi, hgranted⟩ := h.call
    show ∃ record, (pool.stepThread env.exec i).state.ledger.Holds r record
    rw [Pool.stepThread_call hi]
    exact World.holds_of_grantedBy hgranted

/-- The number of times that the request is granted in a run of invocations. -/
def grantsIn (svc : Service) (env : Env) (r : KeyedRequest) (pool : Pool Effect Fault (World b))
    (events : List (PoolEvent Unit)) : ℕ :=
  countFrom (Pool.apply env.exec (invocation svc))
    (fun pool e => pool.Answered env.exec r.GrantedBy e) pool events

/-- Where no claim of a request comes after its record has expired, it is granted at most once. -/
theorem grantsIn_le_one {events : List (PoolEvent Unit)} (hquiet : OnlyAssess pool)
    (h : Meets (Pool.apply env.exec (invocation svc)) (ClaimsInTime env r) pool events) :
    grantsIn svc env r pool events ≤ 1 := by
  have hmeets := h.and_inv OnlyAssess (fun pool e hpool _ => hpool.apply) hquiet
  refine countFrom_le_one (fun pool => ∃ record, pool.state.ledger.Holds r record) ?_ ?_ ?_ hmeets
  · exact fun pool e _ hanswered => held_of_answered hanswered
  · exact fun pool e hheld hcond => held_apply hcond.1 hcond.2 hheld
  · exact fun pool e hheld hcond => not_answered_of_held hcond.2 hheld

/-- After a run in which a request was granted it has a record. -/
theorem held_of_grants {events : List (PoolEvent Unit)} (hquiet : OnlyAssess pool)
    (h : Meets (Pool.apply env.exec (invocation svc)) (ClaimsInTime env r) pool events)
    (hgrants : grantsIn svc env r pool events ≠ 0) :
    ∃ record, (runFrom (Pool.apply env.exec (invocation svc)) pool events).state.ledger.Holds r
      record := by
  have hmeets := h.and_inv OnlyAssess (fun pool e hpool _ => hpool.apply) hquiet
  refine runFrom_of_hit (fun pool => ∃ record, pool.state.ledger.Holds r record) ?_ ?_ hmeets hgrants
  · exact fun pool e _ hanswered => held_of_answered hanswered
  · exact fun pool e hheld hcond => held_apply hcond.1 hcond.2 hheld

/-! ### A granted window -/

/-- A backend that keeps the assessments that it was given. -/
class AssessmentStore (b : Backend) [Framed b] where
  Stored : b.State → RiskAssessment → Prop
  stored_congr : ∀ {s s' : b.State}, Framed.only s' .assessments = Framed.only s .assessments →
    ∀ assessment, Stored s' assessment ↔ Stored s assessment
  save : ∀ (tenantId : String) (assessment : RiskAssessment) (now : Time) (fresh : ℕ → Uuid)
    (s : b.State),
    (∀ earlier, Stored s earlier →
      Stored (b.exec (.saveAssessment tenantId assessment) now fresh s).2 earlier) ∧
    ((b.exec (.saveAssessment tenantId assessment) now fresh s).1 = .ok () →
      Stored (b.exec (.saveAssessment tenantId assessment) now fresh s).2 assessment)

instance : AssessmentStore .memory where
  Stored s assessment := assessment ∈ s.assessments.items assessment.tripId
  stored_congr h assessment := by
    have h' := congrArg (fun s : InMemoryRepository Response => s.assessments) h
    exact iff_of_eq (congrArg (fun t => assessment ∈ t.items assessment.tripId) h')
  save tenantId assessment now fresh s := by
    simp only [Backend.memory, InMemoryRepository.saveAssessment]
    split_ifs
    · exact ⟨fun earlier h => h, nofun⟩
    · refine ⟨fun earlier h => ?_, fun _ => ?_⟩
      · show earlier ∈ (s.assessments.push assessment.tripId assessment).items earlier.tripId
        rw [Table.items_push, Function.update_apply]
        split_ifs with hsame
        · rw [← hsame]
          exact List.mem_append_left _ h
        · exact h
      · show assessment ∈ (s.assessments.push assessment.tripId assessment).items assessment.tripId
        rw [Table.items_push, Function.update_self]
        exact List.mem_append_right _ List.mem_cons_self

instance : AssessmentStore .postgres where
  Stored s assessment := ∃ row ∈ s.assessments.rows, row.payload = assessment
  stored_congr h assessment := by
    have h' := congrArg (fun s : PostgresRepository Response => s.assessments) h
    exact iff_of_eq (congrArg (fun t => ∃ row ∈ t.rows, row.payload = assessment) h')
  save tenantId assessment now fresh s := by
    simp only [Backend.postgres, PostgresRepository.saveAssessment, Table.inserted]
    cases hinsert : s.assessments.insert ⟨tenantId, assessment⟩ with
    | none => exact ⟨fun earlier h => h, nofun⟩
    | some rows =>
      obtain ⟨hnew, rfl⟩ := Table.insert_eq_some.mp hinsert
      have hrows := s.assessments.rows_put hnew
      refine ⟨fun earlier h => ?_, fun _ => ?_⟩
      · obtain ⟨row, hrow, hpayload⟩ := h
        exact ⟨row, hrows ▸ List.mem_append_left _ hrow, hpayload⟩
      · exact ⟨_, hrows ▸ List.mem_append_right _ List.mem_cons_self, rfl⟩

section Stored

variable {b : Backend} [Framed b] [AssessmentStore b] {env : Env} {w : World b}
  {assessment : RiskAssessment} {α : Type}

def World.Stored (w : World b) (assessment : RiskAssessment) : Prop :=
  AssessmentStore.Stored w.store assessment

/-- The job's calls keep the assessments. -/
theorem World.stored_after (h : w.Stored assessment) {op : Effect α}
    (hop : ∀ c ∈ op.writes, c ∈ assessedCollections) : (env.after w op).Stored assessment := by
  by_cases hwrites : .assessments ∈ op.writes
  · cases op with
    | repo op =>
      cases op with
      | saveAssessment tenantId saved =>
        exact (AssessmentStore.save tenantId saved (env.clock w.tick) (drawn w.tick) w.store).1 _ h
      | purgeExpired cutoffs =>
        exact absurd (hop .uploads (by decide : .uploads ∈ purgedCollections)) (by decide)
      | eraseTravelerData tenantId travelerId scope =>
        exact absurd (hop .profiles (by decide : .profiles ∈ erasedCollections)) (by decide)
      | _ => simp [Effect.writes, RepoOp.writes] at hwrites
    | _ => simp [Effect.writes] at hwrites
  · exact (AssessmentStore.stored_congr (env.exec_only op w hwrites) assessment).mpr h

/-- What has become of a window by the stage that its invocation has come to. -/
def WindowStage.Made (marks : List WindowMark) (w : World b) : WindowStage → Prop
  | .away => ∃ result : AssessmentResult, w.Stored result.assessment ∧
      marks = [.assessed result, .answered result.assessment.assessmentId]
  | .granted => marks = []
  | .assessing => marks = []
  | .stored assessment => marks = [] ∧ w.Stored assessment
  | .assessed assessmentId => ∃ result : AssessmentResult, w.Stored result.assessment ∧
      marks = [.assessed result] ∧ result.assessment.assessmentId = assessmentId

theorem WindowStage.Made.mono {stage : WindowStage} {marks : List WindowMark} {w w' : World b}
    (h : stage.Made marks w) (hw : ∀ assessment, w.Stored assessment → w'.Stored assessment) :
    stage.Made marks w' := by
  cases stage with
  | granted | assessing => exact h
  | stored assessment => exact ⟨h.1, hw _ h.2⟩
  | away | assessed =>
    obtain ⟨result, hstored, hmarks⟩ := h
    exact ⟨result, hw _ hstored, hmarks⟩

/-- An allowed call of the invocation takes the window on. -/
theorem WindowStage.Made.after {svc : Service} {trip : Trip} {window : String}
    {stage : WindowStage} {marks : List WindowMark} (h : stage.Made marks w) {op : Effect α}
    (hop : ∀ c ∈ op.writes, c ∈ assessedCollections) (hallowed : stage.allowed trip window op)
    (hgranted : ¬(windowRequest svc trip window).GrantedBy op (env.exec op w).1) :
    (stage.advance svc trip window op (env.exec op w).1).Made
      (marks ++ (op.mark? trip window (env.exec op w).1).toList) (env.after w op) := by
  have hkept : ∀ assessment, w.Stored assessment → (env.after w op).Stored assessment :=
    fun assessment hstored => World.stored_after hstored hop
  have hlater := h.mono hkept
  have hsame : stage.Made (marks ++ []) (env.after w op) := by rwa [List.append_nil]
  cases op with
  | repo op =>
    cases op with
    | claimIdempotency claim =>
      generalize (env.exec (.repo (.claimIdempotency claim)) w).1 = answer at hgranted ⊢
      cases answer with
      | error fault => exact hsame
      | ok answer =>
        obtain ⟨disposition, record⟩ := answer
        cases stage with
        | away =>
          have hnot : ¬(disposition = .execute ∧ claim.request = windowRequest svc trip window) := by
            rintro ⟨rfl, hrequest⟩
            exact hgranted hrequest
          show WindowStage.Made _ _ (if _ then _ else _)
          rw [if_neg hnot]
          exact hsame
        | granted => exact hsame
        | assessing | stored | assessed => exact hallowed.elim
    | completeIdempotency completion =>
      generalize (env.exec (.repo (.completeIdempotency completion)) w).1 = answer
      cases answer with
      | error fault => exact hsame
      | ok record =>
        show WindowStage.Made (marks ++ (completion.mark? trip window).toList) _ stage.completed
        cases stage with
        | away | granted | assessing =>
          rw [show completion.mark? trip window = none from hallowed]
          exact hsame
        | stored assessment =>
          obtain ⟨result, hmark, rfl⟩ := hallowed
          obtain ⟨rfl, hstored⟩ := hlater
          rw [hmark]
          exact ⟨result, hstored, rfl, rfl⟩
        | assessed assessmentId =>
          obtain ⟨result, hstored, rfl, rfl⟩ := hlater
          rw [show completion.mark? trip window = some _ from hallowed]
          exact ⟨result, hstored, rfl⟩
    | saveAssessment tenantId assessment =>
      have hsaved := (AssessmentStore.save tenantId assessment (env.clock w.tick) (drawn w.tick)
        w.store).2
      cases hanswer : (env.exec (.repo (.saveAssessment tenantId assessment)) w).1 with
      | error fault => exact hsame
      | ok saved =>
        cases stage with
        | assessing =>
          obtain rfl : marks = [] := h
          exact ⟨rfl, hsaved hanswer⟩
        | away | granted | stored | assessed => exact hsame
    | _ => exact hsame
  | _ => exact hsame

end Stored

/-! ### Runs through a window -/

/-- The answer of a claim of a request that is in progress. -/
def Effect.inProgress {α : Type} : Effect α → Except Fault α → Bool
  | .repo (.claimIdempotency _), .ok (.inProgress, _) => true
  | _, _ => false

/-- The refusal of a claim in progress is raised on the answer to such a claim only. -/
def RefusedInProgress {b : Backend} (env : Env) (w : World b) : Api Unit → Prop
  | .call op next => (next (env.exec op w).1).thrown? = some stillInProgress →
    op.inProgress (env.exec op w).1 = true
  | _ => True

instance {b : Backend} (env : Env) (w : World b) : (p : Api Unit) →
    Decidable (RefusedInProgress env w p)
  | .call op next => inferInstanceAs (Decidable ((next (env.exec op w).1).thrown? =
      some stillInProgress → op.inProgress (env.exec op w).1 = true))
  | .pure _ => .isTrue trivial
  | .throw _ => .isTrue trivial

/-- The program that an event steps is refused on the answer to such a claim only. -/
def StepsRefusedInProgress {b : Backend} (env : Env) (pool : Pool Effect Fault (World b)) :
    PoolEvent Unit → Prop
  | .step i => ∀ p ∈ pool.threads[i]?, RefusedInProgress env pool.state p
  | .spawn _ => True

instance {b : Backend} (env : Env) (pool : Pool Effect Fault (World b)) :
    (e : PoolEvent Unit) → Decidable (StepsRefusedInProgress env pool e)
  | .step i => inferInstanceAs (Decidable (∀ p ∈ pool.threads[i]?, RefusedInProgress env pool.state p))
  | .spawn _ => .isTrue trivial

/-- A claim of the key, if the event makes one, finds no live record under it. -/
def ClaimsFree (env : Env) (key : IdempotencyRecord.Key) (pool : Pool Effect Fault (World b))
    (e : PoolEvent Unit) : Prop :=
  ∀ claim ∈ pool.next? Effect.claim? e, claim.key = key →
    pool.state.ledger.live claim.key (env.clock pool.state.tick) = none

instance (env : Env) (key : IdempotencyRecord.Key) (pool : Pool Effect Fault (World b))
    (e : PoolEvent Unit) : Decidable (ClaimsFree env key pool e) :=
  inferInstanceAs (Decidable (∀ claim ∈ pool.next? Effect.claim? e, claim.key = key →
    pool.state.ledger.live claim.key (env.clock pool.state.tick) = none))

/-- No claim of a window comes after its record has expired, the key of its assessment is free when
it is claimed, and no assessment fails with the refusal of a claim in progress. -/
structure Uncontested (svc : Service) (env : Env) (trip : Trip) (window : String)
    (pool : Pool Effect Fault (World b)) (e : PoolEvent Unit) : Prop where
  inTime : ClaimsInTime env (windowRequest svc trip window) pool e
  free : ClaimsFree env (windowAssessmentKey trip window) pool e
  refused : StepsRefusedInProgress env pool e

/-- While no record of the window lapses, no claim of it is late. -/
theorem Uncontested.of_live {trip : Trip} {window : String} {pool : Pool Effect Fault (World b)}
    {e : PoolEvent Unit}
    (h : ¬pool.state.ledger.Lapsed (windowRequest svc trip window) (env.clock pool.state.tick) ∧
      ClaimsFree env (windowAssessmentKey trip window) pool e ∧ StepsRefusedInProgress env pool e) :
    Uncontested svc env trip window pool e := ⟨fun _ _ _ => h.1, h.2.1, h.2.2⟩

/-- What is answered for a window in a run of invocations. -/
def windowMarks (svc : Service) (env : Env) (trip : Trip) (window : String)
    (pool : Pool Effect Fault (World b)) (events : List (PoolEvent Unit)) : List WindowMark :=
  readFrom (Pool.apply env.exec (invocation svc))
    (fun pool e => pool.read? env.exec (Effect.mark? trip window) e) pool events

/-- The invocation goes on from a stage of the window, and ends away from it. -/
def Underway (svc : Service) (trip : Trip) (window : String) (stage : WindowStage) (p : Api Unit) :
    Prop := p.Follows (windowContract svc trip window) (fun stage' _ => stage' = .away) stage

section Window

variable {trip : Trip} {window : String} {stage : WindowStage} {marks : List WindowMark} {i : ℕ}
  {α : Type} {op : Effect α} {next : Except Fault α → Api Unit}

theorem advance_away {answer : Except Fault α}
    (h : ¬(windowRequest svc trip window).GrantedBy op answer) :
    WindowStage.away.advance svc trip window op answer = .away := by
  cases op with
  | repo op =>
    cases op with
    | claimIdempotency claim =>
      cases answer with
      | error fault => rfl
      | ok answer =>
        obtain ⟨disposition, record⟩ := answer
        refine if_neg ?_
        rintro ⟨rfl, hrequest⟩
        exact h hrequest
    | completeIdempotency | saveAssessment => cases answer <;> rfl
    | _ => rfl
  | _ => rfl

/-- The call of an invocation that is away marks nothing. -/
theorem mark?_away (h : WindowStage.away.allowed trip window op) (answer : Except Fault α) :
    op.mark? trip window answer = none := by
  cases op with
  | repo op =>
    cases op with
    | completeIdempotency completion =>
      cases answer with
      | error fault => rfl
      | ok record => exact h
    | _ => rfl
  | _ => rfl

/-- The one promise is about a claim by an invocation that was granted the window. -/
theorem promised_of_ne (h : stage ≠ .granted) (answer : Except Fault α) :
    stage.promised op answer := by
  cases op with
  | repo op =>
    cases op with
    | claimIdempotency claim =>
      cases answer with
      | error fault => trivial
      | ok answer => exact fun hstage => absurd hstage h
    | _ => trivial
  | _ => trivial

/-- An invocation that is granted nothing stays away. -/
theorem Underway.stays_away (h : Underway svc trip window .away (.call op next))
    {answer : Except Fault α} (hgranted : ¬(windowRequest svc trip window).GrantedBy op answer) :
    Underway svc trip window .away (next answer) := by
  have hpromised : WindowStage.away.promised op answer := promised_of_ne (by decide) answer
  have hnext := h.2 answer hpromised
  rwa [show (windowContract svc trip window).advance .away op answer = .away from
    advance_away hgranted] at hnext

theorem advance_granted {answer : Except Fault α}
    (h : (windowRequest svc trip window).GrantedBy op answer) :
    WindowStage.away.advance svc trip window op answer = .granted ∧
      op.inProgress answer = false := by
  unfold KeyedRequest.GrantedBy at h
  split at h
  · exact ⟨if_pos ⟨rfl, h⟩, rfl⟩
  · exact h.elim

/-- A granted claim takes an invocation to the window. -/
theorem Underway.granted (h : Underway svc trip window .away (.call op next))
    {answer : Except Fault α} (hgranted : (windowRequest svc trip window).GrantedBy op answer) :
    Underway svc trip window .granted (next answer) := by
  have hpromised : WindowStage.away.promised op answer := promised_of_ne (by decide) answer
  have hnext := h.2 answer hpromised
  rwa [show (windowContract svc trip window).advance .away op answer = .granted from
    (advance_granted hgranted).1] at hnext

/-- The claim of an invocation that was granted the window finds the key of the assessment free. -/
theorem promised_of_free {w : World b} (hallowed : stage.allowed trip window op)
    (hfree : ∀ claim ∈ op.claim?, claim.key = windowAssessmentKey trip window →
      w.ledger.live claim.key (env.clock w.tick) = none) :
    stage.promised op (env.exec op w).1 := by
  by_cases hstage : stage = .granted
  · subst hstage
    cases op with
    | repo op =>
      cases op with
      | claimIdempotency claim =>
        have hstep := ClaimStore.claim claim (env.clock w.tick) (drawn w.tick) w.store
        have hlive := hfree claim rfl hallowed
        show WindowStage.promised _ _ (b.exec (.claimIdempotency claim) (env.clock w.tick)
          (drawn w.tick) w.store).1
        generalize (b.exec (.claimIdempotency claim) (env.clock w.tick) (drawn w.tick)
          w.store).1 = answer at hstep
        cases answer with
        | error fault => trivial
        | ok answer =>
          obtain ⟨hanswer, -⟩ := hstep
          change IdempotencyLedger.live (ClaimStore.ledger w.store) claim.key _ = none at hlive
          simp only [IdempotencyLedger.claimAnswer, hlive] at hanswer
          rw [hanswer]
          exact fun _ => rfl
      | _ => trivial
    | _ => trivial
  · exact promised_of_ne hstage _

/-- An invocation that was granted the window and whose promise is kept is not refused. -/
theorem advance_of_inProgress {answer : Except Fault α} (hallowed : stage.allowed trip window op)
    (hpromised : stage.promised op answer) (h : op.inProgress answer = true) :
    stage.advance svc trip window op answer = .away := by
  cases op with
  | repo op =>
    cases op with
    | claimIdempotency claim =>
      cases answer with
      | error fault => cases h
      | ok answer =>
        obtain ⟨disposition, record⟩ := answer
        cases disposition with
        | inProgress =>
          cases stage with
          | away => exact advance_away id
          | granted => cases hpromised rfl
          | assessing | stored | assessed => exact hallowed.elim
        | execute | replay | conflict => cases h
    | _ => cases h
  | _ => cases h

/-- One invocation has come to a stage of the window, and is not refused before it has gone through;
all others are away. -/
structure Holder (svc : Service) (trip : Trip) (window : String) (stage : WindowStage) (i : ℕ)
    (pool : Pool Effect Fault (World b)) : Prop where
  thread : ∃ p, pool.threads[i]? = some p ∧ Underway svc trip window stage p ∧
    (stage ≠ .away → p.thrown? ≠ some stillInProgress)
  others : ∀ (j : ℕ) (p : Api Unit), j ≠ i → pool.threads[j]? = some p →
    Underway svc trip window .away p

omit [Framed b] [ClaimStore b] in
/-- What stands beside the program that steps, and the program itself. -/
theorem threads_stepThread {j : ℕ} {p : Api Unit} (hi : pool.threads[i]? = some (.call op next))
    (hj : (pool.stepThread env.exec i).threads[j]? = some p) :
    (j = i ∧ p = next (env.exec op pool.state).1) ∨ (j ≠ i ∧ pool.threads[j]? = some p) := by
  rw [Pool.stepThread_call hi] at hj
  by_cases hji : j = i
  · subst hji
    rw [List.getElem?_set_self (List.getElem?_eq_some_iff.mp hi).1] at hj
    exact .inl ⟨rfl, (Option.some.inj hj).symm⟩
  · rw [List.getElem?_set_ne (Ne.symm hji)] at hj
    exact .inr ⟨hji, hj⟩

omit [Framed b] [ClaimStore b] in
/-- A step of the invocation that has come to the window. -/
theorem Holder.of_step (hi : pool.threads[i]? = some (.call op next))
    (hself : Underway svc trip window stage (next (env.exec op pool.state).1))
    (hthrown : stage ≠ .away →
      (next (env.exec op pool.state).1).thrown? ≠ some stillInProgress)
    (hothers : ∀ (j : ℕ) (p : Api Unit), j ≠ i → pool.threads[j]? = some p →
      Underway svc trip window .away p) :
    Holder svc trip window stage i (pool.stepThread env.exec i) where
  thread := by
    rw [Pool.stepThread_call hi]
    exact ⟨_, List.getElem?_set_self (List.getElem?_eq_some_iff.mp hi).1, hself, hthrown⟩
  others j p hj hp := by
    rcases threads_stepThread hi hp with ⟨rfl, -⟩ | ⟨-, hp⟩
    · exact absurd rfl hj
    · exact hothers j p hj hp

omit [Framed b] [ClaimStore b] in
/-- A step of another invocation, which is not granted the window. -/
theorem Holder.of_other_step {j : ℕ} (h : Holder svc trip window stage i pool) (hji : j ≠ i)
    (hj : pool.threads[j]? = some (.call op next))
    (hgranted : ¬(windowRequest svc trip window).GrantedBy op (env.exec op pool.state).1) :
    Holder svc trip window stage i (pool.stepThread env.exec j) where
  thread := by
    obtain ⟨p, hi, hp⟩ := h.thread
    rw [Pool.stepThread_call hj]
    exact ⟨p, (List.getElem?_set_ne hji).trans hi, hp⟩
  others k q hk hq := by
    rcases threads_stepThread hj hq with ⟨-, rfl⟩ | ⟨-, hq⟩
    · exact (h.others j _ hji hj).stays_away hgranted
    · exact h.others k q hk hq

variable [AssessmentStore b]

/-- The window is not granted yet and no invocation has come to it, or it was granted to one, which
has marked it as its stage says. -/
inductive Course (svc : Service) (trip : Trip) (window : String)
    (pool : Pool Effect Fault (World b)) : List WindowMark → Prop
  | unclaimed
    (haway : ∀ (j : ℕ) (p : Api Unit), pool.threads[j]? = some p →
      Underway svc trip window .away p)
    (hunheld : pool.state.Unheld (windowRequest svc trip window)) : Course svc trip window pool []
  | claimed {stage : WindowStage} (i : ℕ) {marks : List WindowMark}
    (hholder : Holder svc trip window stage i pool)
    (hheld : ∃ record, pool.state.ledger.Holds (windowRequest svc trip window) record)
    (hmade : stage.Made marks pool.state) : Course svc trip window pool marks

omit [Framed b] [ClaimStore b] [AssessmentStore b] in
/-- An invocation starts away from the window. -/
theorem underway_invocation {departure : Time} {hours : ℤ} :
    Underway svc trip (windowName departure hours) .away (invocation svc ()) :=
  Prog.follows_map Api.processDueAssessments_stages

end Window

section Course

variable [AssessmentStore b] {trip : Trip} {departure : Time} {hours : ℤ} {marks : List WindowMark}
  {i : ℕ} {α : Type} {op : Effect α} {next : Except Fault α → Api Unit}

omit [Framed b] [ClaimStore b] [AssessmentStore b] in
theorem arrived {j : ℕ} {p : Api Unit}
    (hj : (pool.threads ++ [invocation svc ()])[j]? = some p) :
    pool.threads[j]? = some p ∨ Underway svc trip (windowName departure hours) .away p := by
  by_cases hlt : j < pool.threads.length
  · exact .inl ((List.getElem?_append_left hlt).symm.trans hj)
  · rw [List.getElem?_append_right (not_lt.mp hlt)] at hj
    rw [List.mem_singleton.mp (List.mem_of_getElem? hj)]
    exact .inr underway_invocation

/-- An arriving invocation. -/
theorem Course.spawn (h : Course svc trip (windowName departure hours) pool marks) :
    Course svc trip (windowName departure hours)
      (pool.apply env.exec (invocation svc) (.spawn ())) marks := by
  cases h with
  | unclaimed haway hunheld =>
    exact .unclaimed (fun j p hj => (arrived hj).elim (haway j p) id) hunheld
  | claimed i hholder hheld hmade =>
    obtain ⟨⟨p, hi, hp⟩, hothers⟩ := hholder
    refine .claimed i ⟨⟨p, ?_, hp⟩, fun j q hj hq => ?_⟩ hheld hmade
    · exact (List.getElem?_append_left (List.getElem?_eq_some_iff.mp hi).1).trans hi
    · exact (arrived hq).elim (hothers j q hj) id

/-- A call before the window is granted: it may be the claim that is. -/
theorem Course.unclaimed_step {window : String}
    (haway : ∀ (j : ℕ) (p : Api Unit), pool.threads[j]? = some p →
      Underway svc trip window .away p)
    (hunheld : pool.state.Unheld (windowRequest svc trip window)) (hwrites : OnlyAssess pool)
    (hcond : Uncontested svc env trip window pool (.step i))
    (hi : pool.threads[i]? = some (.call op next)) :
    Course svc trip window (pool.stepThread env.exec i) [] := by
  have hthread := haway i _ hi
  by_cases hgranted : (windowRequest svc trip window).GrantedBy op (env.exec op pool.state).1
  · refine .claimed i (Holder.of_step hi (hthread.granted hgranted) (fun _ hthrown => ?_)
      fun j p _ => haway j p) ?_ rfl
    · have hrefused := hcond.refused _ hi hthrown
      rw [(advance_granted hgranted).2] at hrefused
      cases hrefused
    · rw [Pool.stepThread_call hi]
      exact World.holds_of_grantedBy hgranted
  · refine .unclaimed (fun j p hj => ?_) ?_
    · rcases threads_stepThread hi hj with ⟨-, rfl⟩ | ⟨-, hj⟩
      · exact hthread.stays_away hgranted
      · exact haway j p hj
    · rw [Pool.stepThread_call hi]
      exact World.unheld_after hunheld (hwrites.purges hi) hgranted

/-- A call after the window was granted: it takes the window on, or is one of an invocation that is
away. -/
theorem Course.claimed_step {window : String} {stage : WindowStage} {j : ℕ}
    (hholder : Holder svc trip window stage i pool)
    (hheld : ∃ record, pool.state.ledger.Holds (windowRequest svc trip window) record)
    (hmade : stage.Made marks pool.state) (hwrites : OnlyAssess pool)
    (hcond : Uncontested svc env trip window pool (.step j))
    (hj : pool.threads[j]? = some (.call op next)) :
    Course svc trip window (pool.stepThread env.exec j)
      (marks ++ (op.mark? trip window (env.exec op pool.state).1).toList) := by
  obtain ⟨record, hrecord⟩ := hheld
  have hclaims := fun claim => hcond.inTime.claim hj claim
  have hgranted := World.not_grantedBy hrecord hclaims
  have hlater := World.holds_after hrecord (hwrites.purges hj) hclaims
  have hstep : (pool.stepThread env.exec j).state = env.after pool.state op := by
    rw [Pool.stepThread_call hj]
    rfl
  by_cases hij : j = i
  · subst hij
    obtain ⟨⟨p, hi, hp, hthrown⟩, hothers⟩ := hholder
    obtain rfl := Option.some.inj (hj.symm.trans hi)
    have hfree : ∀ claim ∈ op.claim?, claim.key = windowAssessmentKey trip window →
        pool.state.ledger.live claim.key (env.clock pool.state.tick) = none :=
      fun claim hclaim => hcond.free claim (by simpa [Pool.next?, hj, Prog.next?] using hclaim)
    have hpromised := promised_of_free hp.1 hfree
    refine .claimed j (Holder.of_step hj (hp.2 _ hpromised) (fun hne hthrown => hne ?_) hothers)
      (hstep ▸ hlater) (hstep ▸ hmade.after (hwrites.writes hj) hp.1 hgranted)
    exact advance_of_inProgress hp.1 hpromised (hcond.refused _ hj hthrown)
  · have haway := hholder.others j _ hij hj
    rw [mark?_away haway.1, Option.toList_none, List.append_nil]
    refine .claimed i (hholder.of_other_step hij hj hgranted) (hstep ▸ hlater) (hstep ▸ ?_)
    exact hmade.mono fun assessment hstored => World.stored_after hstored (hwrites.writes hj)

/-- What every event of a run keeps. -/
theorem Course.apply {e : PoolEvent Unit} (h : Course svc trip (windowName departure hours) pool marks)
    (hwrites : OnlyAssess pool) (hcond : Uncontested svc env trip (windowName departure hours) pool e) :
    Course svc trip (windowName departure hours) (pool.apply env.exec (invocation svc) e)
      (marks ++ (pool.read? env.exec (Effect.mark? trip (windowName departure hours)) e).toList) := by
  cases e with
  | spawn _ =>
    show Course _ _ _ _ (marks ++ [])
    rw [List.append_nil]
    exact h.spawn
  | step i =>
    show Course _ _ _ (pool.stepThread env.exec i) _
    rcases Pool.call_or_still env.exec pool i (ι := Unit) with
      ⟨γ, op, next, hi⟩ | ⟨hsame, hread⟩
    · rw [Pool.read?_call hi]
      cases h with
      | unclaimed haway hunheld =>
        rw [mark?_away (haway i _ hi).1]
        exact Course.unclaimed_step haway hunheld hwrites hcond hi
      | claimed j hholder hheld hmade =>
        exact Course.claimed_step hholder hheld hmade hwrites hcond hi
    · rw [hsame, hread]
      rwa [Option.toList_none, List.append_nil]

/-- A run through the window. -/
theorem Course.run {events : List (PoolEvent Unit)}
    (h : Course svc trip (windowName departure hours) pool []) (hwrites : OnlyAssess pool)
    (hcond : Meets (Pool.apply env.exec (invocation svc))
      (Uncontested svc env trip (windowName departure hours)) pool events) :
    Course svc trip (windowName departure hours)
      (runFrom (Pool.apply env.exec (invocation svc)) pool events)
      (windowMarks svc env trip (windowName departure hours) pool events) := by
  have hrun := runFrom_read (fun pool e => pool.read? env.exec
    (Effect.mark? trip (windowName departure hours)) e) (fun pool marks => OnlyAssess pool ∧
      Course svc trip (windowName departure hours) pool marks) ?_ ⟨hwrites, h⟩ hcond
  · exact hrun.2
  · exact fun pool e marks hpool hmet => ⟨hpool.1.apply, hpool.2.apply hpool.1 hmet⟩

/-- When every invocation is settled, a window that was granted is assessed. -/
theorem Course.assessed {window : String} (h : Course svc trip window pool marks)
    (hheld : ∃ record, pool.state.ledger.Holds (windowRequest svc trip window) record)
    (hsettled : ∀ p ∈ pool.threads, Settled p) :
    ∃ result : AssessmentResult, pool.state.Stored result.assessment ∧
      marks = [.assessed result, .answered result.assessment.assessmentId] := by
  cases h with
  | unclaimed haway hunheld =>
    obtain ⟨record, hrecord⟩ := hheld
    exact absurd hrecord (hunheld record)
  | @claimed stage i marks hholder hheld hmade =>
    obtain ⟨⟨p, hi, hp, hthrown⟩, -⟩ := hholder
    have haway : stage = .away := by
      by_contra hne
      have hend := hsettled p (List.mem_of_getElem? hi)
      cases p with
      | call op next => exact hend
      | pure a => exact hne hp
      | throw fault => exact hthrown hne (congrArg some hend)
    subst haway
    exact hmade

end Course

/-! ### A window that is open at a turn -/

variable [ClaimFaults b]

/-- The request was not granted so far, and an invocation is about to claim it. -/
structure Outstanding (r : KeyedRequest) (i : ℕ) (pool : Pool Effect Fault (World b)) : Prop where
  quiet : OnlyAssess pool
  unheld : pool.state.Unheld r
  pending : ∃ p, pool.threads[i]? = some p ∧ Pending r p

/-- The answer to a claim that is pending is a grant, or a refusal that ends the program, as long
as the request has no record. -/
theorem Pending.after {w : World b} {claim : Claim}
    {next : Except Fault (IdempotencyDisposition × MutationRecord) → Api Unit}
    (hrequest : claim.request = r)
    (hconflict : ∀ record, ∃ fault ≠ stillInProgress, next (.ok (.conflict, record)) = .throw fault)
    (hfault : ∀ fault, next (.error fault) = .throw fault) (hw : w.Unheld r)
    (hgranted : ¬r.GrantedBy (.repo (.claimIdempotency claim))
      (env.exec (.repo (.claimIdempotency claim)) w).1) :
    Pending r (next (env.exec (.repo (.claimIdempotency claim)) w).1) := by
  have hstep := ClaimStore.claim claim (env.clock w.tick) (drawn w.tick) w.store
  have hfaults := ClaimFaults.claim claim (env.clock w.tick) (drawn w.tick) w.store
  change ¬r.GrantedBy _ (b.exec (.claimIdempotency claim) _ _ w.store).1 at hgranted
  show Pending r
    (next (b.exec (.claimIdempotency claim) (env.clock w.tick) (drawn w.tick) w.store).1)
  generalize (b.exec (.claimIdempotency claim) (env.clock w.tick) (drawn w.tick) w.store).1 =
    answer at hstep hfaults hgranted
  cases answer with
  | error fault =>
    rw [hfault, hfaults fault rfl]
    exact .ended (by decide)
  | ok answer =>
    obtain ⟨disposition, record⟩ := answer
    obtain ⟨hanswer, -⟩ := hstep
    cases hlive : IdempotencyLedger.live (ClaimStore.ledger w.store) claim.key
      (env.clock w.tick) with
    | none =>
      simp only [IdempotencyLedger.claimAnswer, hlive] at hanswer
      cases hanswer
      exact absurd hrequest hgranted
    | some current =>
      simp only [IdempotencyLedger.claimAnswer, hlive] at hanswer
      cases hanswer
      have hconflicts : claim.answer record = .conflict := by
        by_contra hne
        exact hw record (hrequest ▸ IdempotencyLedger.holds_of_live hlive hne)
      obtain ⟨fault, hne, hraised⟩ := hconflict record
      rw [hconflicts, hraised]
      exact .ended hne

/-- An invocation that is about to claim the request stays so until the request is granted. -/
theorem Outstanding.apply {i : ℕ} (h : Outstanding r i pool)
    (hgranted : ¬pool.Answered env.exec r.GrantedBy e) :
    Outstanding r i (pool.apply env.exec (invocation svc) e) := by
  refine ⟨h.quiet.apply, unheld_apply h.quiet h.unheld hgranted, ?_⟩
  obtain ⟨p, hi, hpending⟩ := h.pending
  by_cases he : e = .step i
  · subst he
    show ∃ p, (pool.stepThread env.exec i).threads[i]? = some p ∧ Pending r p
    have hlt : i < pool.threads.length := (List.getElem?_eq_some_iff.mp hi).1
    cases hpending with
    | now hnext =>
      rw [Pool.stepThread_call hi]
      exact ⟨_, List.getElem?_set_self hlt, hnext _⟩
    | claim hrequest hconflict hfault =>
      have hnot := fun hr => hgranted ⟨_, hi, hr⟩
      rw [Pool.stepThread_call hi]
      exact ⟨_, List.getElem?_set_self hlt, Pending.after hrequest hconflict hfault h.unheld hnot⟩
    | ended hne =>
      have hsame : pool.stepThread env.exec i = pool := by simp only [Pool.stepThread, hi]
      rw [hsame]
      exact ⟨_, hi, .ended hne⟩
  · exact ⟨p, Pool.threads_apply_of_ne hi he, hpending⟩

/-- In a run after which every invocation is settled, a request that an invocation is about to
claim is granted. -/
theorem Outstanding.granted {i : ℕ} (h : Outstanding r i pool) {events : List (PoolEvent Unit)}
    (hsettled : ∀ p ∈ (runFrom (Pool.apply env.exec (invocation svc)) pool events).threads,
      Settled p) : grantsIn svc env r pool events ≠ 0 := by
  intro hnone
  have hlast := runFrom_inv (Outstanding r i) (fun pool e hpool hgranted => hpool.apply hgranted) h
    (countFrom_eq_zero_iff.mp hnone)
  obtain ⟨p, hi, hpending⟩ := hlast.pending
  exact hpending.not_settled (hsettled p (List.mem_of_getElem? hi))

/-- At a time of a run an invocation comes to the trip. -/
def TurnIn (svc : Service) (env : Env) (trip : Trip) (pool : Pool Effect Fault (World b))
    (events : List (PoolEvent Unit)) (time : Time) : Prop :=
  ∃ before i after, events = before ++ .step i :: after ∧
    let reached := runFrom (Pool.apply env.exec (invocation svc)) pool before
    (∃ p, reached.threads[i]? = some p ∧ AtTurn svc trip p) ∧ env.clock reached.state.tick = time

/-- A window that is open at a turn at its trip is granted before all invocations are settled. -/
theorem granted_of_turn {trip : Trip} {segment : FlightSegment} {window : String} {time : Time}
    {events : List (PoolEvent Unit)} (hsegment : trip.segments.head? = some segment)
    (hwindow : window ∈ dueMonitoringWindows segment.scheduledDepartureAt time)
    (hquiet : OnlyAssess pool) (hw : pool.state.Unheld (windowRequest svc trip window))
    (hturn : TurnIn svc env trip pool events time)
    (hsettled : ∀ p ∈ (runFrom (Pool.apply env.exec (invocation svc)) pool events).threads,
      Settled p) : grantsIn svc env (windowRequest svc trip window) pool events ≠ 0 := by
  obtain ⟨before, i, after, rfl, ⟨p, hi, hatTurn⟩, htime⟩ := hturn
  intro hnone
  have hmeets := countFrom_eq_zero_iff.mp hnone
  obtain ⟨hbefore, hstep, hafter⟩ := (meets_append _ _ _).mp hmeets
  let reached := runFrom (Pool.apply env.exec (invocation svc)) pool before
  have hreached : OnlyAssess reached ∧ reached.state.Unheld (windowRequest svc trip window) := by
    refine runFrom_inv (fun pool => OnlyAssess pool ∧ pool.state.Unheld _) ?_ ⟨hquiet, hw⟩ hbefore
    exact fun pool e hpool hgranted => ⟨hpool.1.apply, unheld_apply hpool.1 hpool.2 hgranted⟩
  obtain ⟨next, rfl, hpending⟩ := Api.pending_of_atTurn hatTurn hsegment hwindow
  have hlt : i < reached.threads.length := (List.getElem?_eq_some_iff.mp hi).1
  have houtstanding : Outstanding (windowRequest svc trip window) i
      (reached.apply env.exec (invocation svc) (.step i)) := by
    refine ⟨hreached.1.apply, unheld_apply hreached.1 hreached.2 hstep, ?_⟩
    show ∃ p, (reached.stepThread env.exec i).threads[i]? = some p ∧ _
    rw [Pool.stepThread_call hi]
    refine ⟨_, List.getElem?_set_self hlt, ?_⟩
    show Pending _ (next (.ok (env.clock reached.state.tick)))
    rw [htime]
    exact hpending
  rw [runFrom_append] at hsettled
  exact houtstanding.granted hsettled (countFrom_eq_zero_iff.mpr hafter)

variable [AssessmentStore b]

/-- Nothing is wrong with any trip, at the times of a clock. -/
def Env.clocked (clock : ℕ → Time) : Env := { Env.allWell with clock }

/-- A trip that departs in two hours. -/
def World.oneTrip : World .memory where
  store := ({} : InMemoryRepository Response).createTrip (departingTrip (.v5 "first"))

/-- Another one departs ten minutes later. -/
def laterTrip : Trip :=
  { departingTrip (.v5 "second") with
    segments := (departingTrip (.v5 "second")).segments.map fun segment =>
      { segment with scheduledDepartureAt := minutes 130 } }

def World.twoTrips : World .memory where
  store := World.oneTrip.store.createTrip laterTrip

/-- An invocation comes to the trip before its window, the next two while it is open. -/
def besideEachOther : List (PoolEvent Unit) :=
  (.spawn () :: List.replicate 4 (.step 0)) ++ (.spawn () :: List.replicate 6 (.step 1)) ++
    (.spawn () :: List.replicate 6 (.step 2)) ++ List.replicate 35 (.step 1)

/-- In the loop over the trips, an invocation comes to each whose automation is on. -/
theorem atTurn_loop (svc : Service) (trip : Trip) (others : List Trip)
    (before : List (List DueOutcome)) :
    AtTurn svc trip (Functor.discard (List.flatten <$> ((Api.dueWindows trip >>= fun windows =>
      windows.mapM (Api.assessWindow svc trip)) >>= fun outcomes =>
        List.mapM.loop (Api.assessDueTrip svc) others (outcomes :: before) : Api _))) := by
  refine ⟨fun outcomes => (List.mapM.loop (Api.assessDueTrip svc) others (outcomes :: before) >>=
    fun all => pure all.flatten) >>= fun _ => pure (), ?_⟩
  rw [← bind_assoc, ← bind_assoc]
  rfl

/-- A quarter of an hour goes by, from ten minutes before the start on. -/
def Env.quarterOn : Env := .clocked fun tick => if tick < 4 then minutes (-10) else minutes 5

/-- The times at which the invocations of a run start. -/
def startTimes {b : Backend} (svc : Service) (env : Env) :
    Pool Effect Fault (World b) → List (PoolEvent Unit) → List Time
  | _, [] => []
  | pool, e :: events => (e.arrival.map fun _ => env.clock pool.state.tick) ++
    startTimes svc env (pool.apply env.exec (invocation svc) e) events

/-- The first invocation claims the first trip's window and stalls; the second, ten minutes later,
meets the claim and ends; the third, when the window of the second trip has passed, does nothing,
and so does the first at the second trip. -/
def stalledAtFirst : List (PoolEvent Unit) :=
  (.spawn () :: List.replicate 6 (.step 0)) ++ (.spawn () :: List.replicate 6 (.step 1)) ++
    (.spawn () :: List.replicate 7 (.step 2)) ++ List.replicate 40 (.step 0)

end RouteShield
