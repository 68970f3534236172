import RouteShield.Api.EvidenceRuns
import RouteShield.Api.Grants
import RouteShield.Lib.Separated
import RouteShield.Workers.DueJob

/-!
The stages of a window's assessment. An invocation whose claim of a window is granted claims the key
of the window's assessment, assesses the trip and stores the assessment, answers with it under that
key, and then answers the claim of the window. No other part of the job answers under either key,
and between its two claims and their answers an invocation claims nothing else.
-/

namespace RouteShield

/-- What the job claims for a window. -/
def windowRequest (svc : Service) (trip : Trip) (window : String) : KeyedRequest where
  key := (trip.tenantId, assessmentDueKey trip.tripId window)
  scope := "internal:assessment-due"
  requestHash := svc.fingerprint "internal:assessment-due" (.window trip.tripId window)

/-- The key under which the trip of a window is assessed. -/
def windowAssessmentKey (trip : Trip) (window : String) : IdempotencyRecord.Key :=
  (trip.tenantId, Api.assessmentKey (assessmentDueKey trip.tripId window))

/-- What is answered for a window: the result of its assessment under the key of the assessment, and
the assessment's identifier under the window's own. -/
inductive WindowMark where
  | assessed (result : AssessmentResult)
  | answered (assessmentId : Uuid)
  deriving DecidableEq

def Completion.mark? (trip : Trip) (window : String) (completion : Completion Response) :
    Option WindowMark :=
  match completion.responsePayload with
  | .assessment result =>
    if completion.key = windowAssessmentKey trip window then some (.assessed result) else none
  | .dueAssessment _ _ assessmentId =>
    if completion.key = (trip.tenantId, assessmentDueKey trip.tripId window) then
      some (.answered assessmentId)
    else none
  | _ => none

/-- What an answered completion marks. -/
def Effect.mark? (trip : Trip) (window : String) {α : Type} :
    Effect α → Except Fault α → Option WindowMark
  | .repo (.completeIdempotency completion), .ok _ => completion.mark? trip window
  | _, _ => none

/-- How far an invocation has come with a window. -/
inductive WindowStage where
  | away
  | granted
  | assessing
  | stored (assessment : RiskAssessment)
  | assessed (assessmentId : Uuid)
  deriving DecidableEq

namespace WindowStage

variable (svc : Service) (trip : Trip) (window : String)

def mayClaim (claim : Claim) : WindowStage → Prop
  | .away => True
  | .granted => claim.key = windowAssessmentKey trip window
  | _ => False

def mayComplete (completion : Completion Response) : WindowStage → Prop
  | .stored assessment => ∃ result, completion.mark? trip window = some (.assessed result) ∧
      result.assessment = assessment
  | .assessed assessmentId => completion.mark? trip window = some (.answered assessmentId)
  | _ => completion.mark? trip window = none

def allowed (stage : WindowStage) {α : Type} : Effect α → Prop
  | .repo (.claimIdempotency claim) => stage.mayClaim trip window claim
  | .repo (.completeIdempotency completion) => stage.mayComplete trip window completion
  | _ => True

/-- The claim of the assessment's key is granted. -/
def promised (stage : WindowStage) {α : Type} : Effect α → Except Fault α → Prop
  | .repo (.claimIdempotency _), .ok (disposition, _) =>
    stage = .granted → disposition = .execute
  | _, _ => True

def claimed (claim : Claim) (disposition : IdempotencyDisposition) : WindowStage → WindowStage
  | .away => if disposition = .execute ∧ claim.request = windowRequest svc trip window then .granted
      else .away
  | .granted => .assessing
  | stage => stage

def saved (assessment : RiskAssessment) : WindowStage → WindowStage
  | .assessing => .stored assessment
  | stage => stage

def completed : WindowStage → WindowStage
  | .stored assessment => .assessed assessment.assessmentId
  | .assessed _ => .away
  | stage => stage

def advance (stage : WindowStage) {α : Type} : Effect α → Except Fault α → WindowStage
  | .repo (.claimIdempotency claim), .ok (disposition, _) =>
    stage.claimed svc trip window claim disposition
  | .repo (.saveAssessment _ assessment), .ok _ => stage.saved assessment
  | .repo (.completeIdempotency _), .ok _ => stage.completed
  | _, _ => stage

end WindowStage

/-- An invocation on its way through a window, and through all others. -/
def windowContract (svc : Service) (trip : Trip) (window : String) :
    Prog.Contract Effect Fault WindowStage where
  allowed stage := stage.allowed trip window
  promised stage := stage.promised
  advance stage := stage.advance svc trip window
  stop _ := True

/-- The keys of different windows differ. -/
theorem assessmentDueKey_inj {tripId tripId' : Uuid} {departure departure' : Time}
    {hours hours' : ℤ} (h : assessmentDueKey tripId (windowName departure hours) =
      assessmentDueKey tripId' (windowName departure' hours')) :
    tripId = tripId' ∧ windowName departure hours = windowName departure' hours' := by
  have hhours : ∀ n : ℤ, ':' ∉ ("T-" ++ toString n).toList := fun n => by
    rw [String.toList_append, List.mem_append, not_or]
    exact ⟨by decide, colon_notMem_toString n⟩
  have hparts : ∀ (tripId : Uuid) (departure : Time) (hours : ℤ),
      assessmentDueKey tripId (windowName departure hours) =
        "assessment-due:" ++ tripId.str ++ ":" ++ ("T-" ++ toString hours) ++ ":" ++
          toString departure := fun tripId departure hours => by
    unfold assessmentDueKey windowName isoformat
    simp only [String.append_assoc]
  rw [hparts, hparts,
    Separated.colon_inj_right (colon_notMem_toString _) (colon_notMem_toString _),
    Separated.colon_inj_right (hhours _) (hhours _), String.append_right_inj] at h
  obtain ⟨⟨hid, hname⟩, hdeparture⟩ := h
  refine ⟨Uuid.str_injective hid, ?_⟩
  unfold windowName isoformat
  rw [hname, hdeparture]

namespace Api

open Prog hiding pure

variable {svc : Service} {trip other : Trip} {window name : String} {stage : WindowStage}
  {cs : List Collection} {α : Type}

/-- A part that writes no key and no assessment leaves an invocation in its stage. -/
theorem Writes.keepsStage {p : Api α} (hp : Writes cs p) (hkeys : .idempotency ∉ cs)
    (hassessments : stage = .assessing → .assessments ∉ cs) :
    p.Follows (windowContract svc trip window) (fun stage' _ => stage' = stage) stage := by
  refine hp.only.keeps (fun op hop => ?_) (fun op answer hop => ?_) trivial
  · cases op with
    | repo op =>
      cases op with
      | claimIdempotency | completeIdempotency => exact absurd (hop _ List.mem_cons_self) hkeys
      | _ => trivial
    | _ => trivial
  · cases op with
    | repo op =>
      cases op with
      | claimIdempotency | completeIdempotency => exact absurd (hop _ List.mem_cons_self) hkeys
      | saveAssessment tenantId assessment =>
        have hmem : .assessments ∈ cs := hop _ List.mem_cons_self
        have hstage : stage ≠ .assessing := fun h => hassessments h hmem
        cases answer with
        | error fault => rfl
        | ok _ =>
          cases stage with
          | assessing => exact absurd rfl hstage
          | _ => rfl
      | _ => rfl
    | _ => rfl

/-- A claim from elsewhere goes on to assess the window when it is the window's and is granted. -/
theorem claimMutation_stages {tenantId key scope : String} {payload : Payload} :
    (claimMutation svc tenantId key scope payload).Follows (windowContract svc trip window)
      (fun stage answer => stage = if answer.2 = none ∧
          (⟨(tenantId, key), scope, svc.fingerprint scope payload⟩ : KeyedRequest) =
            windowRequest svc trip window then .granted else .away) .away := by
  unfold claimMutation
  refine follows_bind ((writes_now : Writes [] now).keepsStage List.not_mem_nil nofun) ?_
  rintro _ claimedAt rfl
  refine follows_seq ⟨trivial, fun answer _ => ?_⟩
  cases answer with
  | error fault => trivial
  | ok answer =>
    obtain ⟨disposition, record⟩ := answer
    cases disposition with
    | execute =>
      show WindowStage.claimed svc trip window _ .execute .away = _
      simp [WindowStage.claimed, Claim.request, Claim.key]
    | replay =>
      refine Eq.trans (b := WindowStage.away) ?_ (if_neg (by simp)).symm
      simp [windowContract, WindowStage.advance, WindowStage.claimed]
    | conflict | inProgress => trivial

/-- A completion that marks nothing leaves an invocation away. -/
theorem completeMutation_away {tenantId key requestHash : String} {status : ℕ} {payload : Response}
    (h : Completion.mark? trip window ⟨tenantId, key, requestHash, status, payload⟩ = none) :
    (completeMutation tenantId key requestHash status payload).Follows
      (windowContract svc trip window) (fun stage _ => stage = .away) .away := by
  refine follows_seq ⟨h, fun answer _ => ?_⟩
  cases answer with
  | error fault => trivial
  | ok record => exact follows_pure rfl

/-- An assessment stores one and returns it. -/
theorem runAssessment_stages {tenantId : String} {scenario : Option DemoScenario} :
    (runAssessment svc tenantId other scenario).Follows (windowContract svc trip window)
      (fun stage result => stage = .stored result.assessment) .assessing := by
  have hquiet : ∀ {β : Type} {p : Api β}, Writes [.evidence, .events] p →
      p.Follows (windowContract svc trip window) (fun stage _ => stage = .assessing) .assessing :=
    fun hp => hp.keepsStage (by decide) (fun _ => by decide)
  have hlate : ∀ {β : Type} {p : Api β} {assessment : RiskAssessment}, Writes openedCollections p →
      p.Follows (windowContract svc trip window) (fun stage _ => stage = .stored assessment)
        (.stored assessment) := fun hp => hp.keepsStage (by decide) nofun
  unfold runAssessment
  refine follows_bind (hquiet writes_uuid4) ?_
  rintro _ correlationId rfl
  refine follows_bind (hquiet (writes_assessmentEvidence.mono (by decide))) ?_
  rintro _ evidence rfl
  refine follows_bind (hquiet (writes_forM fun item => writes_emitEvent (by decide) _)) ?_
  rintro _ _ rfl
  refine follows_bind (hquiet (writes_ofExcept _)) ?_
  rintro _ ⟨factors, unknown⟩ rfl
  refine follows_bind (hquiet writes_uuid4) ?_
  rintro _ assessmentId rfl
  refine follows_bind (hquiet writes_now) ?_
  rintro _ assessedAt rfl
  refine follows_bind (hquiet (writes_ofExcept _)) ?_
  rintro _ assessment rfl
  refine follows_seq ⟨trivial, fun answer _ => ?_⟩
  cases answer with
  | error fault => trivial
  | ok saved =>
    have hreturned : ∀ (fields : EventFields) (health : SourceHealth)
        (disposition : AssessmentDisposition) (incidentId : Option Uuid),
        (emitEvent fields >>= fun _ => (pure ⟨assessment, evidence, health, disposition,
          incidentId⟩ : Api AssessmentResult)).Follows (windowContract svc trip window)
            (fun stage result => stage = .stored result.assessment) (.stored assessment) := by
      intro fields health disposition incidentId
      refine follows_bind (hlate (writes_emitEvent (by decide) _)) ?_
      rintro _ _ rfl
      exact follows_pure rfl
    refine follows_pure ?_
    dsimp only
    split_ifs
    · refine follows_bind (hlate (writes_map writes_openIncident)) ?_
      rintro _ incidentId rfl
      exact hreturned _ _ _ _
    · exact hreturned _ _ _ _

/-- The scope of an assessment of a trip. -/
def assessScope (tripId : Uuid) : String := "POST:/v1/trips/" ++ tripId.str ++ "/assess"

variable {caller : Caller} {Q : WindowStage → AssessmentResult → Prop}

/-- What goes before the claim of an assessment leaves an invocation in its stage. -/
theorem assessTrip_claims (hstage : stage ≠ .assessing) (htenant : caller.tenantId = some other.tenantId)
    (h : ∀ found, (mutation svc other.tenantId caller.idempotencyKey (assessScope other.tripId)
      (.scenario none) 200 Response.ofAssessment
        (runAssessment svc other.tenantId found none)).Follows (windowContract svc trip window) Q
          stage) :
    (assessTrip svc caller other.tripId none).Follows (windowContract svc trip window) Q stage := by
  have hread : ∀ {β : Type} {p : Api β}, Writes [] p → p.Follows (windowContract svc trip window)
      (fun stage' _ => stage' = stage) stage :=
    fun hp => hp.keepsStage List.not_mem_nil fun h => absurd h hstage
  unfold assessTrip
  refine follows_bind
    (P := fun stage' tenantId => stage' = stage ∧ tenantId = other.tenantId) ?_ ?_
  · refine follows_callFree (callFree_requireTenant _) (fun tenantId h => ⟨rfl, ?_⟩) trivial
    exact (Option.some.inj (htenant.symm.trans (requireTenant_eq_pure h).1)).symm
  rintro stage' tenantId ⟨rfl, rfl⟩
  refine follows_bind (hread (writes_repo nofun)) ?_
  rintro stage' stored rfl
  refine follows_bind (hread (writes_found _ _ _)) ?_
  rintro stage' found rfl
  refine follows_bind (hread (writes_requireTripAccess _ _ _)) ?_
  rintro stage' _ rfl
  exact h found

/-- A mutation under a key claims the key, and answers with its result under it. -/
theorem mutation_keyed {tenantId scope key : String} {given : Option String} {payload : Payload}
    {status : ℕ} {stored : Stored α} {body : Api α} (h : keyed given = some key) :
    mutation svc tenantId given scope payload status stored body =
      claimMutation svc tenantId key scope payload >>= fun answer =>
        answer.2.elim (body >>= fun a =>
          completeMutation tenantId key answer.1 status (stored.encode a) >>= fun _ => pure a)
          stored.replay := by
  unfold mutation claimOptionalMutation completeOptionalMutation
  rw [h]
  simp only [bind_assoc, pure_bind]
  refine congrArg (claimMutation svc tenantId key scope payload >>= ·) (funext fun answer => ?_)
  obtain ⟨requestHash, _ | record⟩ := answer <;> rfl

theorem keyed_monitorCaller (tenantId key : String) :
    keyed (monitorCaller tenantId key).idempotencyKey = some (assessmentKey key) := by
  simp [keyed, monitorCaller, assessmentKey]

/-- An invocation that was granted a window answers for its assessment. -/
theorem assessTrip_stages : (assessTrip svc (monitorCaller trip.tenantId
      (assessmentDueKey trip.tripId window)) trip.tripId none).Follows
        (windowContract svc trip window)
        (fun stage result => stage = .assessed result.assessment.assessmentId) .granted := by
  refine assessTrip_claims nofun rfl fun found => ?_
  rw [mutation_keyed (keyed_monitorCaller _ _)]
  unfold claimMutation
  simp only [bind_assoc]
  refine follows_bind ((writes_now : Writes [] now).keepsStage List.not_mem_nil nofun) ?_
  rintro _ claimedAt rfl
  refine follows_seq ⟨rfl, fun answer hpromised => ?_⟩
  cases answer with
  | error fault => trivial
  | ok answer =>
    obtain ⟨disposition, record⟩ := answer
    obtain rfl : disposition = .execute := hpromised rfl
    refine follows_pure ?_
    dsimp only
    rw [pure_bind]
    refine follows_bind (P := fun stage result => stage = .stored result.assessment)
      runAssessment_stages ?_
    rintro _ result rfl
    refine follows_seq ⟨⟨result, if_pos rfl, rfl⟩, fun answer _ => ?_⟩
    cases answer with
    | error fault => trivial
    | ok record => exact follows_pure rfl

/-- And then for the window. -/
theorem completeWindow_stages {requestHash : String} (htenant : other.tenantId = trip.tenantId)
    (hid : other.tripId = trip.tripId) :
    (completeWindow svc other window requestHash).Follows (windowContract svc trip window)
      (fun stage _ => stage = .away) .granted := by
  unfold completeWindow
  rw [htenant, hid]
  refine follows_bind assessTrip_stages ?_
  rintro _ result rfl
  refine follows_seq ⟨if_pos rfl, fun answer _ => ?_⟩
  cases answer with
  | error fault => trivial
  | ok record => exact follows_pure rfl

/-! ### Other windows -/

/-- The trip and the window differ from those of the contract. -/
def Elsewhere (trip : Trip) (window : String) (other : Trip) (name : String) : Prop :=
  (other.tenantId, assessmentDueKey other.tripId name) ≠
    (trip.tenantId, assessmentDueKey trip.tripId window)

theorem Elsewhere.assessment (h : Elsewhere trip window other name) :
    (other.tenantId, assessmentKey (assessmentDueKey other.tripId name)) ≠
      windowAssessmentKey trip window := by
  intro hkey
  obtain ⟨htenant, htext⟩ := Prod.mk.inj hkey
  exact h (Prod.ext htenant ((String.append_left_inj _).mp htext))

theorem Elsewhere.mark?_assessment (h : Elsewhere trip window other name) (requestHash : String)
    (status : ℕ) (result : AssessmentResult) :
    Completion.mark? trip window ⟨other.tenantId, assessmentKey (assessmentDueKey other.tripId name),
      requestHash, status, .assessment result⟩ = none := if_neg h.assessment

theorem Elsewhere.mark?_dueAssessment (h : Elsewhere trip window other name) (requestHash : String)
    (status : ℕ) (assessmentId : Uuid) :
    Completion.mark? trip window ⟨other.tenantId, assessmentDueKey other.tripId name, requestHash,
      status, .dueAssessment other.tripId name assessmentId⟩ = none := if_neg h

/-- An assessment under another key. -/
theorem assessTrip_away (hother : Elsewhere trip window other name) :
    (assessTrip svc (monitorCaller other.tenantId (assessmentDueKey other.tripId name))
      other.tripId none).Follows (windowContract svc trip window) (fun stage _ => stage = .away)
        .away := by
  refine assessTrip_claims nofun rfl fun found => ?_
  have hscope : assessScope other.tripId ≠ "internal:assessment-due" := fun h => by
    have hfirst := congrArg (fun s => s.toList.head?) h
    simp [assessScope] at hfirst
  rw [mutation_keyed (keyed_monitorCaller _ _)]
  refine follows_bind claimMutation_stages ?_
  rintro _ ⟨requestHash, replay⟩ rfl
  rw [if_neg fun h => hscope (congrArg KeyedRequest.scope h.2)]
  cases replay with
  | some record => exact follows_callFree (callFree_replay _ record) (fun _ _ => rfl) trivial
  | none =>
    refine follows_bind (P := fun stage _ => stage = .away) ?_ ?_
    · exact writes_runAssessment_unkeyed.keepsStage (by decide) nofun
    rintro _ result rfl
    refine follows_bind (completeMutation_away (hother.mark?_assessment _ _ _)) ?_
    rintro _ _ rfl
    exact follows_pure rfl

theorem completeWindow_away {requestHash : String} (hother : Elsewhere trip window other name) :
    (completeWindow svc other name requestHash).Follows (windowContract svc trip window)
      (fun stage _ => stage = .away) .away := by
  unfold completeWindow
  refine follows_bind (assessTrip_away hother) ?_
  rintro _ result rfl
  exact completeMutation_away (hother.mark?_dueAssessment _ _ _)

/-! ### The job -/

theorem assessWindow_stages
    (hname : assessmentDueKey other.tripId name = assessmentDueKey trip.tripId window →
      other.tripId = trip.tripId ∧ name = window) :
    (assessWindow svc other name).Follows (windowContract svc trip window)
      (fun stage _ => stage = .away) .away := by
  unfold assessWindow
  refine follows_bind claimMutation_stages ?_
  rintro _ ⟨requestHash, replay⟩ rfl
  cases replay with
  | some record => exact follows_pure (if_neg (by simp))
  | none =>
    have hevent : ∀ fields : EventFields, (emitEvent fields >>= fun _ =>
        (pure .assessed : Api DueOutcome)).Follows (windowContract svc trip window)
          (fun stage _ => stage = .away) .away := fun fields => by
      refine follows_bind ((writes_emitEvent List.mem_cons_self fields :
        Writes [.events] _).keepsStage (by decide) nofun) ?_
      rintro _ _ rfl
      exact follows_pure rfl
    refine follows_bind (P := fun stage _ => stage = .away) ?_ ?_
    · by_cases hother : Elsewhere trip window other name
      · rw [if_neg fun h => hother (congrArg KeyedRequest.key h.2)]
        exact completeWindow_away hother
      · obtain ⟨htenant, hkey⟩ := Prod.mk.inj (not_not.mp hother)
        obtain ⟨hid, rfl⟩ := hname hkey
        have hours : windowRequest svc other name = windowRequest svc trip name := by
          unfold windowRequest
          rw [htenant, hid]
        rw [if_pos ⟨rfl, hours⟩]
        exact completeWindow_stages htenant hid
    · rintro _ _ rfl
      refine follows_bind ((writes_uuid4 : Writes [] uuid4).keepsStage List.not_mem_nil nofun) ?_
      rintro _ correlationId rfl
      exact hevent _

/-- The windows that a trip has reached have the names of windows. -/
theorem dueWindows_stages :
    (dueWindows other).Follows (windowContract svc trip window) (fun stage windows => stage = .away ∧
      ∀ name ∈ windows, ∃ departure hours, name = windowName departure hours) .away := by
  unfold dueWindows
  refine follows_bind ((writes_now : Writes [] now).keepsStage List.not_mem_nil nofun) ?_
  rintro _ timestamp rfl
  split
  next segment hsegment =>
    refine follows_pure ⟨rfl, fun name hname => ?_⟩
    rw [dueMonitoringWindows_eq] at hname
    obtain ⟨hours, -, rfl⟩ := List.mem_map.mp hname
    exact ⟨_, hours, rfl⟩
  · exact trivial

/-- Through all trips and windows, an invocation answers for a window only where it was granted it,
and for its assessment only where it has stored one. -/
theorem processDueAssessments_stages {departure : Time} {hours : ℤ} :
    (processDueAssessments svc).Follows (windowContract svc trip (windowName departure hours))
      (fun stage _ => stage = .away) .away := by
  unfold processDueAssessments
  refine follows_bind ((writes_repo nofun : Writes [] (repo .listTrips)).keepsStage
    List.not_mem_nil nofun) ?_
  rintro _ trips rfl
  refine follows_map (follows_mono (follows_mapM (I := fun stage => stage = .away)
    (S := fun _ => True) (fun other _ stage hstage => ?_) rfl) fun _ _ h => h.1)
  subst hstage
  unfold assessDueTrip
  refine follows_bind ((writes_controlEnabled _ _ : Writes [] (controlEnabled svc other.tenantId
    .tenantAutomationEnabled)).keepsStage List.not_mem_nil nofun) ?_
  rintro _ enabled rfl
  split_ifs
  · refine follows_bind dueWindows_stages ?_
    rintro _ windows ⟨rfl, hnames⟩
    refine follows_mono (follows_mapM (I := fun stage => stage = .away) (S := fun _ => True)
      (fun name hname stage hstage => ?_) rfl) fun _ _ h => ⟨h.1, trivial⟩
    obtain ⟨departure', hours', rfl⟩ := hnames name hname
    rw [hstage]
    exact follows_mono (assessWindow_stages assessmentDueKey_inj) fun _ _ h => ⟨h, trivial⟩
  · exact follows_pure ⟨rfl, trivial⟩

end Api

end RouteShield
