import RouteShield.Api.Claims
import RouteShield.Api.Controls
import RouteShield.Lib.Rounds
import RouteShield.Workers.Windows

/-!
One invocation of the monitoring job. The job takes the trips one after the other, and a trip
whose claim is refused or whose assessment raises ends it: the job does for every trip what it
does for the trip on its own exactly where no trip of the list is such a trip.
-/

namespace RouteShield

/-- A backend that lists its trips. -/
class TripList (b : Backend) where
  listed : b.State → List Trip
  listTrips : ∀ (now : Time) (fresh : ℕ → Uuid) (s : b.State),
    b.exec .listTrips now fresh s = (.ok (listed s), s)

instance : TripList .memory where
  listed := InMemoryRepository.listTrips
  listTrips _ _ _ := rfl

instance : TripList .postgres where
  listed := PostgresRepository.listTrips
  listTrips _ _ _ := rfl

variable {b : Backend} {svc : Service} {env : Env} {w : World b}

/-- The claim that the job makes for a window when it has come to it at a tick. -/
def Service.claimWindow (svc : Service) (env : Env) (tick : ℕ) (trip : Trip) (window : String) :
    Claim :=
  svc.claimAt env tick trip.tenantId (assessmentDueKey trip.tripId window)
    "internal:assessment-due" (.window trip.tripId window)

/-- The store replays the claim of a window, or grants it and the assessment goes through. -/
def WindowSound (svc : Service) (env : Env) (trip : Trip) (w : World b) (window : String) : Prop :=
  let claim : Effect _ := .repo (.claimIdempotency (svc.claimWindow env w.tick trip window))
  match (env.exec claim (env.after w .now)).1 with
  | .ok (.execute, _) => (Api.completeWindow svc trip window
      (svc.claimWindow env w.tick trip window).requestHash).Returns env.exec
        (env.after (env.after w .now) claim)
  | .ok (.replay, _) => True
  | _ => False

/-- The trip's automation is off, or the window that it has reached, if any, is sound. -/
def TripSound (svc : Service) (env : Env) (w : World b) (trip : Trip) : Prop :=
  ∀ w', (Api.controlEnabled svc trip.tenantId .tenantAutomationEnabled).run env.exec w =
      (.ok true, w') →
    ∃ segment, trip.segments.head? = some segment ∧
      ∀ window ∈ dueMonitoringWindows segment.scheduledDepartureAt (env.clock w'.tick),
        WindowSound svc env trip (env.after w' .now) window

/-- The trips of the job, each on its own: the outcomes of those that return, and the world that
they all leave. -/
def World.dueEach [TripList b] (svc : Service) (env : Env) (w : World b) :
    List DueOutcome × World b :=
  let each := Prog.runEach env.exec (Api.assessDueTrip svc) (TripList.listed w.store)
    (env.after w (.repo .listTrips))
  (each.1.flatten, each.2)

/-- The job returns, and has done for every trip what it does for the trip on its own. -/
def GoesOn [TripList b] (svc : Service) (env : Env) (w : World b) : Prop :=
  (Api.processDueAssessments svc).run env.exec w =
    (.ok (w.dueEach svc env).1, (w.dueEach svc env).2)

namespace Api

open Prog hiding pure

/-- The events' identifiers are drawn in the world that a handler leaves. -/
theorem Writes.drawn [Framed b] [EventLog b] {cs : List Collection} {α : Type} {p : Api α}
    (hp : Writes cs p) (hw : w.EventsDrawn) {r : Except Fault α} {w' : World b}
    (hrun : p.run env.exec w = (r, w')) : w'.EventsDrawn := by
  have hdrawn := (hp.run env hw).1
  rw [hrun] at hdrawn
  exact hdrawn

theorem writes_completeWindow (trip : Trip) (window requestHash : String) :
    Writes assessedCollections (completeWindow svc trip window requestHash) :=
  writes_bind writes_assessTrip fun _ => writes_completeMutation (by decide) _ _ _ _ _

/-- A window that is claimed or replayed returns when its assessment does. -/
theorem assessWindow_returns [Framed b] [EventLog b] (hw : w.EventsDrawn) (trip : Trip)
    (window : String) :
    (assessWindow svc trip window).Returns env.exec w ↔ WindowSound svc env trip w window := by
  have hannounced : ∀ (w' : World b), w'.EventsDrawn →
      (uuid4 >>= fun correlationId => emitEvent
          { eventType := "assessment.due.completed"
            tenantId := trip.tenantId
            tripId := some trip.tripId
            correlationId
            actorId := some "system-monitor"
            details := [("window", .str window)] } >>= fun _ =>
        pure DueOutcome.assessed : Api DueOutcome).Returns env.exec w' := by
    intro w' hw'
    obtain ⟨event, w'', hemitted, -⟩ := announce_run env (fun correlationId =>
      { eventType := "assessment.due.completed"
        tenantId := trip.tenantId
        tripId := some trip.tripId
        correlationId
        actorId := some "system-monitor"
        details := [("window", .str window)] }) hw'
    rw [← bind_assoc]
    exact returns_bind.mpr ⟨(), w'', hemitted, returns_pure _ _⟩
  have hrun : (claimMutation svc trip.tenantId (assessmentDueKey trip.tripId window)
      "internal:assessment-due" (.window trip.tripId window)).run env.exec w = _ :=
    claimMutation_run svc env _ _ _ _ w
  have hwrites : Writes [.idempotency] (claimMutation svc trip.tenantId
      (assessmentDueKey trip.tripId window) "internal:assessment-due"
      (.window trip.tripId window)) := writes_claimMutation List.mem_cons_self _ _ _ _
  unfold assessWindow WindowSound Service.claimWindow
  rw [returns_bind]
  rcases hcall : env.exec (.repo (.claimIdempotency (svc.claimAt env w.tick trip.tenantId
    (assessmentDueKey trip.tripId window) "internal:assessment-due"
    (.window trip.tripId window)))) (env.after w .now) with ⟨fault | ⟨disposition, record⟩, w'⟩
  · rw [hcall] at hrun
    refine iff_of_false ?_ (by simp [hcall])
    rintro ⟨a, s', h, -⟩
    rw [hrun] at h
    cases h
  · rw [hcall] at hrun
    cases disposition with
    | execute =>
      have hw' : env.after (env.after w .now) (.repo (.claimIdempotency (svc.claimAt env w.tick
          trip.tenantId (assessmentDueKey trip.tripId window) "internal:assessment-due"
          (.window trip.tripId window)))) = w' := congrArg Prod.snd hcall
      simp only [hcall, hw']
      have hclaimed := hwrites.drawn hw hrun
      constructor
      · rintro ⟨a, s', h, hrest⟩
        rw [hrun] at h
        cases h
        obtain ⟨r, w'', hcompleted, -⟩ := returns_bind.mp hrest
        exact ⟨r, w'', hcompleted⟩
      · rintro ⟨r, w'', hcompleted⟩
        refine ⟨_, w', hrun, returns_bind.mpr ⟨r, w'', hcompleted, hannounced w'' ?_⟩⟩
        exact (writes_completeWindow trip window _).drawn hclaimed hcompleted
    | replay =>
      simp only [hcall, iff_true]
      exact ⟨_, w', hrun, returns_pure _ _⟩
    | conflict | inProgress =>
      refine iff_of_false ?_ (by simp [hcall])
      rintro ⟨a, s', h, -⟩
      rw [hrun] at h
      cases h

/-- The loop over a trip's windows returns when the window reached, if any, does. -/
theorem dueWindows_returns {f : String → Api DueOutcome} (trip : Trip) :
    (dueWindows trip >>= fun windows => windows.mapM f).Returns env.exec w ↔
      ∃ segment, trip.segments.head? = some segment ∧
        ∀ window ∈ dueMonitoringWindows segment.scheduledDepartureAt (env.clock w.tick),
          (f window).Returns env.exec (env.after w .now) := by
  unfold dueWindows
  rw [bind_assoc]
  have hnow : (now : Api Time).run env.exec w = (.ok (env.clock w.tick), env.after w .now) := rfl
  cases hsegments : trip.segments.head? with
  | none =>
    simp only [reduceCtorEq, false_and, exists_false, iff_false]
    rintro ⟨a, s', h⟩
    rw [run_bind_ok hnow] at h
    cases h
  | some segment =>
    have hloop : (now >>= fun timestamp => (pure (dueMonitoringWindows
          segment.scheduledDepartureAt timestamp) : Api (List String)) >>= fun windows =>
            windows.mapM f).Returns env.exec w ↔
        Meets (roundFrom env.exec f) (fun w' window => (f window).Returns env.exec w')
          (env.after w .now)
          (dueMonitoringWindows segment.scheduledDepartureAt (env.clock w.tick)) := by
      rw [returns_bind, ← returns_mapM]
      constructor
      · rintro ⟨timestamp, w', h, hreturns⟩
        rw [hnow] at h
        cases h
        exact hreturns
      · exact fun h => ⟨_, _, hnow, h⟩
    simp only [Option.some.injEq, exists_eq_left']
    refine hloop.trans ?_
    rcases dueMonitoringWindows_cases segment.scheduledDepartureAt (env.clock w.tick) with
      hnone | ⟨window, hone⟩
    · simp [hnone, Meets]
    · simp [hone, Meets]

/-- A trip's round returns when the trip is sound. -/
theorem assessDueTrip_returns [Framed b] [EventLog b] [DecisionStore b] (hw : w.EventsDrawn)
    (trip : Trip) :
    (assessDueTrip svc trip).Returns env.exec w ↔ TripSound svc env w trip := by
  obtain ⟨w₁, henabled, -⟩ := controlEnabled_run svc env trip.tenantId .tenantAutomationEnabled w
  have hread : Writes [] (controlEnabled svc trip.tenantId .tenantAutomationEnabled) :=
    writes_controlEnabled _ _
  have hw₁ : w₁.EventsDrawn := hread.drawn hw henabled
  have hw₂ : (env.after w₁ .now).EventsDrawn := hw₁.of_same rfl (Nat.le_succ _)
  unfold assessDueTrip
  rw [returns_bind]
  cases hon : svc.controlAt env w.decisions trip.tenantId .tenantAutomationEnabled w.tick with
  | false =>
    rw [hon] at henabled
    refine iff_of_true ⟨false, w₁, henabled, returns_pure _ _⟩ fun w' h => ?_
    rw [henabled] at h
    cases h
  | true =>
    rw [hon] at henabled
    have hround : (∃ a s', (controlEnabled svc trip.tenantId .tenantAutomationEnabled).run
        env.exec w = (.ok a, s') ∧ (if a = true then dueWindows trip >>= fun windows =>
          windows.mapM (assessWindow svc trip) else pure [DueOutcome.skipped] : Api _).Returns
            env.exec s') ↔ (dueWindows trip >>= fun windows =>
          windows.mapM (assessWindow svc trip)).Returns env.exec w₁ := by
      constructor
      · rintro ⟨a, s', h, hrest⟩
        rw [henabled] at h
        cases h
        exact hrest
      · exact fun h => ⟨true, w₁, henabled, h⟩
    have hsound : TripSound svc env w trip ↔ ∃ segment, trip.segments.head? = some segment ∧
        ∀ window ∈ dueMonitoringWindows segment.scheduledDepartureAt (env.clock w₁.tick),
          WindowSound svc env trip (env.after w₁ .now) window := by
      refine ⟨fun h => h w₁ henabled, fun h w' hw' => ?_⟩
      rw [henabled] at hw'
      cases hw'
      exact h
    rw [hsound]
    refine hround.trans ((dueWindows_returns trip).trans ?_)
    refine exists_congr fun segment => and_congr_right fun _ => forall₂_congr fun window _ => ?_
    exact assessWindow_returns hw₂ trip window

end Api

/-! ### The job -/

variable [Framed b] [EventLog b]

/-- A trip's round keeps the events' identifiers drawn. -/
theorem drawn_roundFrom (hw : w.EventsDrawn) (trip : Trip) :
    (Prog.roundFrom env.exec (Api.assessDueTrip svc) w trip).EventsDrawn :=
  (Api.writes_assessDueTrip.run env hw).1

variable [DecisionStore b] [TripList b]

/-- A trip that departs in two hours. -/
def departingTrip (tripId : Uuid) : Trip where
  tenantId := "acme"
  travelerId := "ada"
  groundOrigin := "office"
  destinationCountry := "US"
  segments :=
    [{ segmentId := "s1"
       carrierCode := "RS"
       flightNumber := "1"
       departureAirport := "AMS"
       arrivalAirport := "JFK"
       scheduledDepartureAt := minutes 120
       scheduledArrivalAt := minutes 600 }]
  tripId
  createdAt := 0

/-- Two trips have reached a window; the first one's is claimed by a run that has not answered. -/
def World.windowLeft : World .memory where
  store :=
    { (({} : InMemoryRepository Response).createTrip (departingTrip (.v5 "first"))).createTrip
        (departingTrip (.v5 "second")) with
      idempotencyRecords := Table.empty.put
        { tenantId := "acme"
          idempotencyKey := assessmentDueKey (.v5 "first") "T-2:7200000000"
          scope := "internal:assessment-due"
          requestHash := Service.switchedOn.fingerprint "internal:assessment-due"
            (.window (.v5 "first") "T-2:7200000000")
          createdAt := 0
          expiresAt := minutes 60 } }

theorem World.windowLeft_drawn : World.windowLeft.EventsDrawn :=
  fun _ he => absurd he List.not_mem_nil

/-- Nothing is wrong with any trip, and the clock stands still. -/
def Env.allWell : Env :=
  { Env.still with
    collectEvidence := fun _ _ _ => .ok
      [{ evidenceId := .v5 "reading"
         sourceName := "fixture"
         sourceType := "flight_status"
         sourceUrlOrRecordId := "fixture"
         retrievedAt := 0
         expiresAt := minutes 15
         normalizedPayload := [("risk_score", .num (.int 0))] }] }

end RouteShield
