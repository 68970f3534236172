import RouteShield.Api.Assess
import RouteShield.Api.Governance

/-!
The monitoring job. A trip has three windows before its first departure; a run of the job
assesses the trips whose windows it reaches, each window once, under a key of its own.
-/

namespace RouteShield

def monitoringWindowsHours : List ℕ := [24, 6, 2]

def monitoringGracePeriod : ℤ := minutes 20

def assessmentDueKey (tripId : Uuid) (window : String) : String :=
  "assessment-due:" ++ tripId.str ++ ":" ++ window

/-- The windows before a departure that a run at this time reaches. -/
def dueMonitoringWindows (departure timestamp : Time) : List String :=
  (monitoringWindowsHours.filter fun hours =>
    let late := timestamp - (departure - minutes (60 * hours))
    0 ≤ late ∧ late < monitoringGracePeriod).map fun hours =>
      "T-" ++ toString hours ++ ":" ++ isoformat departure

inductive DueOutcome where
  | assessed | replayed | skipped
  deriving DecidableEq

/-- The caller that assesses the trip of a window. -/
def monitorCaller (tenantId idempotencyKey : String) : Caller where
  tenantId := some tenantId
  actorRole := some .tenantAdmin
  actorId := some "system-monitor"
  idempotencyKey := some (Api.assessmentKey idempotencyKey)

namespace Api

variable (svc : Service)

/-- Assess a window whose key was just claimed, and answer the claim. -/
def completeWindow (trip : Trip) (window requestHash : String) : Api Unit := do
  let key := assessmentDueKey trip.tripId window
  let result ← assessTrip svc (monitorCaller trip.tenantId key) trip.tripId none
  completeMutation trip.tenantId key requestHash 200
    (.dueAssessment trip.tripId window result.assessment.assessmentId)

def assessWindow (trip : Trip) (window : String) : Api DueOutcome := do
  let (requestHash, replay) ← claimMutation svc trip.tenantId
    (assessmentDueKey trip.tripId window) "internal:assessment-due" (.window trip.tripId window)
  if replay.isSome then return .replayed
  else do
    completeWindow svc trip window requestHash
    let correlationId ← uuid4
    emitEvent
      { eventType := "assessment.due.completed"
        tenantId := trip.tenantId
        tripId := some trip.tripId
        correlationId
        actorId := some "system-monitor"
        details := [("window", .str window)] }
    return .assessed

def dueWindows (trip : Trip) : Api (List String) := do
  let timestamp ← now
  match trip.segments.head? with
  | some segment => return dueMonitoringWindows segment.scheduledDepartureAt timestamp
  | none => .throw (.value "list index out of range")

def assessDueTrip (trip : Trip) : Api (List DueOutcome) := do
  if ← controlEnabled svc trip.tenantId .tenantAutomationEnabled then do
    let windows ← dueWindows trip
    windows.mapM (assessWindow svc trip)
  else return [.skipped]

/-- The outcomes of all windows reached; the job answers with the numbers of each. -/
def processDueAssessments : Api (List DueOutcome) := do
  let trips ← repo .listTrips
  List.flatten <$> trips.mapM (assessDueTrip svc)

end Api

end RouteShield
