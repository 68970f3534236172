import Mathlib.Data.List.MinMax
import RouteShield.Domain.RiskEngine

/-!
How an evidence list becomes a scoring input, a source-health summary and a
disposition. A factor is unknown exactly when its source type has no item that is
neither stale nor unavailable; the numbers an item carries play no part in that.
-/

namespace RouteShield

/-- The evidence-driven factors and the source type each is read from. -/
def scoringFields : List (RiskFactor × String) :=
  [(.flightDisruption, "flight_status"),
    (.connectionFragility, "connection_feasibility"),
    (.airportWeather, "airport_weather"),
    (.groundRouteDisruption, "ground_route"),
    (.destinationAdvisory, "destination_advisory")]

/-- The items of a source type that are neither stale nor unavailable. -/
def available (evidence : List EvidenceEnvelope) (sourceType : String) : List EvidenceEnvelope :=
  (evidence.filter (fun item => item.sourceType = sourceType)).filter (fun item => !item.dark)

/-- `payload.get("risk_score", 0)`. -/
def riskScoreOrZero (payload : JsonObject) : Json :=
  (Json.get? payload "risk_score").getD (.num (.int 0))

def numbers (evidence : List EvidenceEnvelope) (sourceType : String) : List JsonNumber :=
  (available evidence sourceType).filterMap
    (fun item => Json.number? (riskScoreOrZero item.normalizedPayload))

/-- `max(values, default=0)`. -/
def maxOrZero : List PyFloat → PyFloat
  | [] => .finite 0
  | v :: vs => vs.foldl max v

/-- One entry of `scores`; without available items there are no numbers and the entry is 0. -/
def fieldScore (evidence : List EvidenceEnvelope) (sourceType : String) : Except Fault PyFloat :=
  match (numbers evidence sourceType).mapM JsonNumber.toFloat? with
  | some values => .ok (maxOrZero values)
  | none => .error .overflow

/-- The check `ge=0, le=100`. -/
def percent? (x : PyFloat) : Option Percent :=
  x.rat?.bind (fun q => if h : 0 ≤ q ∧ q ≤ 100 then some ⟨q, h⟩ else none)

def criticalityScore : TripCriticality → Percent
  | .standard => ⟨20, by norm_num⟩
  | .important => ⟨60, by norm_num⟩
  | .businessCritical => ⟨100, by norm_num⟩

def unknownFactors (evidence : List EvidenceEnvelope) : List RiskFactor :=
  (scoringFields.filter (fun field => (available evidence field.2).isEmpty)).map Prod.fst

def getScoringInput (evidence : List EvidenceEnvelope) (trip : Trip) :
    Except Fault (RiskFactors × List RiskFactor) := do
  let flight ← fieldScore evidence "flight_status"
  let connection ← fieldScore evidence "connection_feasibility"
  let weather ← fieldScore evidence "airport_weather"
  let ground ← fieldScore evidence "ground_route"
  let advisory ← fieldScore evidence "destination_advisory"
  match percent? flight, percent? connection, percent? weather, percent? ground,
      percent? advisory with
  | some flightDisruption, some connectionFragility, some airportWeather,
      some groundRouteDisruption, some destinationAdvisory =>
    .ok
      ({ flightDisruption, connectionFragility, airportWeather, groundRouteDisruption,
         destinationAdvisory
         travelerTripCriticality := criticalityScore trip.tripCriticality },
        unknownFactors evidence)
  | _, _, _, _, _ => .error (.validation "RiskFactors")

/-- A set in the source, so its order carries no meaning. -/
def coreSourceTypes : List String := ["flight_status", "airport_weather", "ground_route"]

def sourceUnavailable (evidence : List EvidenceEnvelope) (sourceType : String) : Bool :=
  let items := evidence.filter (fun item => item.sourceType = sourceType)
  items.isEmpty || items.all EvidenceEnvelope.dark

def sourceHealthFor (evidence : List EvidenceEnvelope) : SourceHealth :=
  let unavailable := coreSourceTypes.filter (sourceUnavailable evidence)
  { coreSourcesUnavailable := unavailable
    limitedVisibility := !unavailable.isEmpty }

/-- Severity `high` or `critical`. -/
def Severity.elevated : Severity → Bool
  | .high | .critical => true
  | .low | .watch => false

def dispositionFor (assessment : RiskAssessment) (health : SourceHealth) : AssessmentDisposition :=
  if assessment.severity.elevated ∧ "flight_status" ∈ health.coreSourcesUnavailable then
    .needsHumanReview
  else if 2 ≤ health.coreSourcesUnavailable.length then .needsHumanReview
  else if assessment.severity.elevated then .investigate
  else if assessment.severity = .watch then .managerQueue
  else .monitor

/-- The pure middle of an assessment, whose risk is calculated in one way or another: score the
evidence and choose a disposition. -/
def assessedBy (risk : RiskFactors → List Uuid → List RiskFactor → Except Fault RiskAssessment)
    (trip : Trip) (evidence : List EvidenceEnvelope) :
    Except Fault (RiskFactors × RiskAssessment × AssessmentDisposition) := do
  let (factors, unknown) ← getScoringInput evidence trip
  let assessment ← risk factors (evidence.map (fun item => item.evidenceId)) unknown
  return (factors, assessment, dispositionFor assessment (sourceHealthFor evidence))

/-- As the service calculates it, without the factors. -/
def assessEvidence (assessmentId : Uuid) (now : Time) (trip : Trip)
    (evidence : List EvidenceEnvelope) : Except Fault (RiskAssessment × AssessmentDisposition) :=
  (assessedBy (calculateRisk assessmentId trip.tripId now) trip evidence).map Prod.snd

/-! ### Which evidence is read -/

theorem mem_available {evidence : List EvidenceEnvelope} {sourceType : String}
    {item : EvidenceEnvelope} :
    item ∈ available evidence sourceType ↔
      item ∈ evidence ∧ item.sourceType = sourceType ∧ item.dark = false := by
  simp only [available, List.mem_filter, decide_eq_true_eq, Bool.not_eq_true', and_assoc]

theorem mem_numbers {evidence : List EvidenceEnvelope} {sourceType : String} {n : JsonNumber} :
    n ∈ numbers evidence sourceType ↔ ∃ item ∈ available evidence sourceType,
      Json.number? (riskScoreOrZero item.normalizedPayload) = some n := by
  simp [numbers]

theorem mem_unknownFactors {evidence : List EvidenceEnvelope} {field : RiskFactor × String}
    (h : field ∈ scoringFields) :
    field.1 ∈ unknownFactors evidence ↔ available evidence field.2 = [] := by
  simp only [scoringFields, List.mem_cons, List.not_mem_nil, or_false] at h
  rcases h with rfl | rfl | rfl | rfl | rfl <;> simp [unknownFactors, scoringFields]

/-- A core source is down exactly when the scoring reads nothing from it. -/
theorem sourceUnavailable_iff (evidence : List EvidenceEnvelope) (sourceType : String) :
    sourceUnavailable evidence sourceType = true ↔ available evidence sourceType = [] := by
  simp only [sourceUnavailable, available, Bool.or_eq_true, List.isEmpty_iff, List.all_eq_true,
    List.filter_eq_nil_iff (p := fun item : EvidenceEnvelope => !item.dark)]
  constructor
  · rintro (h | h)
    · simp [h]
    · exact fun item hi => by simp [h item hi]
  · exact fun h => .inr (fun item hi => by simpa using h item hi)

/-! ### When the scores are in range -/

theorem foldl_max_le {b : PyFloat} (vs : List PyFloat) (v : PyFloat) :
    vs.foldl max v ≤ b ↔ v ≤ b ∧ ∀ w ∈ vs, w ≤ b := by
  induction vs generalizing v with
  | nil => simp
  | cons w vs ih => simp [ih, and_assoc]

theorem le_foldl_max {b : PyFloat} (vs : List PyFloat) (v : PyFloat) :
    b ≤ vs.foldl max v ↔ b ≤ v ∨ ∃ w ∈ vs, b ≤ w := by
  induction vs generalizing v with
  | nil => simp
  | cons w vs ih => simp [ih, or_assoc]

theorem percent?_eq_some {x : PyFloat} {p : Percent} : percent? x = some p ↔ x = .finite p := by
  simp only [percent?, Option.bind_eq_some_iff, PyFloat.rat?_eq_some]
  constructor
  · rintro ⟨q, rfl, h⟩
    split_ifs at h
    cases h
    rfl
  · rintro rfl
    exact ⟨p, rfl, by rw [dif_pos p.2]⟩

theorem percent?_isSome {x : PyFloat} :
    (percent? x).isSome ↔ PyFloat.finite 0 ≤ x ∧ x ≤ PyFloat.finite 100 := by
  rw [Option.isSome_iff_exists]
  simp only [percent?_eq_some]
  constructor
  · rintro ⟨p, rfl⟩
    exact ⟨PyFloat.finite_le_finite.mpr p.2.1, PyFloat.finite_le_finite.mpr p.2.2⟩
  · rintro ⟨h0, h1⟩
    obtain ⟨q, rfl⟩ := PyFloat.exists_eq_finite h0 h1
    exact ⟨⟨q, PyFloat.finite_le_finite.mp h0, PyFloat.finite_le_finite.mp h1⟩, rfl⟩

/-- The numbers of a source type convert, and the largest of them lies in range. -/
def Scorable (evidence : List EvidenceEnvelope) (sourceType : String) : Prop :=
  (∀ n ∈ numbers evidence sourceType, ∃ x, n.toFloat? = some x ∧ x ≤ .finite 100) ∧
    (numbers evidence sourceType = [] ∨
      ∃ n ∈ numbers evidence sourceType, ∃ x, n.toFloat? = some x ∧ .finite 0 ≤ x)

/-- A validated entry of `scores`. -/
def fieldReading (evidence : List EvidenceEnvelope) (sourceType : String) : Option Percent :=
  (fieldScore evidence sourceType).toOption.bind percent?

theorem mapM_toFloat?_eq_some {ns : List JsonNumber} {xs : List PyFloat}
    (h : ns.mapM JsonNumber.toFloat? = some xs) : ns.map JsonNumber.toFloat? = xs.map some := by
  induction ns generalizing xs with
  | nil =>
    cases h
    rfl
  | cons n ns ih =>
    simp only [List.mapM_cons, Option.pure_def, Option.bind_eq_bind, Option.bind_eq_some_iff] at h
    obtain ⟨x, hx, ys, hys, h⟩ := h
    cases h
    rw [List.map_cons, List.map_cons, hx, ih hys]

theorem mapM_toFloat?_eq_none {ns : List JsonNumber} (h : ns.mapM JsonNumber.toFloat? = none) :
    ∃ n ∈ ns, n.toFloat? = none := by
  induction ns with
  | nil => simp [List.mapM_nil] at h
  | cons n ns ih =>
    cases hn : n.toFloat? with
    | none => exact ⟨n, List.mem_cons_self, hn⟩
    | some x =>
      cases hns : ns.mapM JsonNumber.toFloat? with
      | none =>
        obtain ⟨m, hm, hnone⟩ := ih hns
        exact ⟨m, List.mem_cons_of_mem n hm, hnone⟩
      | some xs => simp [List.mapM_cons, hn, hns] at h

theorem mem_of_mapM_toFloat? {ns : List JsonNumber} {xs : List PyFloat}
    (h : ns.mapM JsonNumber.toFloat? = some xs) (x : PyFloat) :
    x ∈ xs ↔ ∃ n ∈ ns, n.toFloat? = some x := by
  have hmap := congrArg (some x ∈ ·) (mapM_toFloat?_eq_some h)
  simpa using hmap.symm

theorem maxOrZero_le_hundred (xs : List PyFloat) :
    maxOrZero xs ≤ .finite 100 ↔ ∀ x ∈ xs, x ≤ .finite 100 := by
  cases xs with
  | nil => simpa [maxOrZero] using PyFloat.finite_le_finite.mpr (by norm_num)
  | cons x xs => simp [maxOrZero, foldl_max_le]

theorem zero_le_maxOrZero (xs : List PyFloat) :
    .finite 0 ≤ maxOrZero xs ↔ xs = [] ∨ ∃ x ∈ xs, .finite 0 ≤ x := by
  cases xs with
  | nil => simp [maxOrZero]
  | cons x xs => simp [maxOrZero, le_foldl_max]

theorem fieldReading_isSome (evidence : List EvidenceEnvelope) (sourceType : String) :
    (fieldReading evidence sourceType).isSome ↔ Scorable evidence sourceType := by
  unfold fieldReading fieldScore
  cases h : (numbers evidence sourceType).mapM JsonNumber.toFloat? with
  | none =>
    obtain ⟨n, hn, hnone⟩ := mapM_toFloat?_eq_none h
    refine iff_of_false (by simp [Except.toOption]) (fun hs => ?_)
    obtain ⟨x, hx, -⟩ := hs.1 n hn
    rw [hnone] at hx
    cases hx
  | some xs =>
    have hmem := mem_of_mapM_toFloat? h
    have hmap := mapM_toFloat?_eq_some h
    have hconv : ∀ n ∈ numbers evidence sourceType, ∃ x, n.toFloat? = some x := by
      intro n hn
      have hin := List.mem_map_of_mem (f := JsonNumber.toFloat?) hn
      rw [hmap, List.mem_map] at hin
      exact hin.imp (fun x hx => hx.2.symm)
    have hnil : xs = [] ↔ numbers evidence sourceType = [] := by
      simpa using congrArg (fun l => l.length = 0) hmap.symm
    simp only [Except.toOption, Option.bind_some, percent?_isSome, maxOrZero_le_hundred,
      zero_le_maxOrZero, Scorable, hmem, hnil]
    constructor
    · rintro ⟨h0, h1⟩
      refine ⟨fun n hn => ?_, h0.imp_right ?_⟩
      · obtain ⟨x, hx⟩ := hconv n hn
        exact ⟨x, hx, h1 x ⟨n, hn, hx⟩⟩
      · rintro ⟨x, ⟨n, hn, hx⟩, hle⟩
        exact ⟨n, hn, x, hx, hle⟩
    · rintro ⟨h1, h0⟩
      refine ⟨h0.imp_right ?_, ?_⟩
      · rintro ⟨n, hn, x, hx, hle⟩
        exact ⟨x, ⟨n, hn, hx⟩, hle⟩
      · rintro x ⟨n, hn, hx⟩
        obtain ⟨y, hy, hle⟩ := h1 n hn
        rw [hx] at hy
        cases hy
        exact hle

theorem fieldReading_eq_some {evidence : List EvidenceEnvelope} {sourceType : String} {p : Percent} :
    fieldReading evidence sourceType = some p ↔ fieldScore evidence sourceType = .ok (.finite p) := by
  unfold fieldReading
  cases fieldScore evidence sourceType with
  | error e => simp [Except.toOption]
  | ok x => simp [Except.toOption, percent?_eq_some]

/-- The scoring input, from the five validated readings. -/
theorem getScoringInput_eq_ok {evidence : List EvidenceEnvelope} {trip : Trip}
    {r : RiskFactors × List RiskFactor} :
    getScoringInput evidence trip = .ok r ↔ ∃ factors : RiskFactors,
      r = (factors, unknownFactors evidence) ∧
      factors.travelerTripCriticality = criticalityScore trip.tripCriticality ∧
      ∀ field ∈ scoringFields, fieldReading evidence field.2 = some (factors.get field.1) := by
  constructor
  · intro h
    unfold getScoringInput at h
    cases h1 : fieldScore evidence "flight_status" with
    | error e => simp [h1, bind, Except.bind] at h
    | ok x1 =>
      cases h2 : fieldScore evidence "connection_feasibility" with
      | error e => simp [h1, h2, bind, Except.bind] at h
      | ok x2 =>
        cases h3 : fieldScore evidence "airport_weather" with
        | error e => simp [h1, h2, h3, bind, Except.bind] at h
        | ok x3 =>
          cases h4 : fieldScore evidence "ground_route" with
          | error e => simp [h1, h2, h3, h4, bind, Except.bind] at h
          | ok x4 =>
            cases h5 : fieldScore evidence "destination_advisory" with
            | error e => simp [h1, h2, h3, h4, h5, bind, Except.bind] at h
            | ok x5 =>
              simp only [h1, h2, h3, h4, h5, bind, Except.bind] at h
              split at h
              · rename_i p1 p2 p3 p4 p5
                cases h
                refine ⟨_, rfl, rfl, ?_⟩
                simp only [fieldReading_eq_some, scoringFields, List.forall_mem_cons,
                  RiskFactors.get, h1, h2, h3, h4, h5, percent?_eq_some.mp p1,
                  percent?_eq_some.mp p2, percent?_eq_some.mp p3, percent?_eq_some.mp p4,
                  percent?_eq_some.mp p5]
                simp
              · cases h
  · rintro ⟨factors, rfl, hcrit, hfields⟩
    simp only [fieldReading_eq_some, scoringFields, List.forall_mem_cons, RiskFactors.get] at hfields
    obtain ⟨h1, h2, h3, h4, h5, -⟩ := hfields
    have hp : ∀ p : Percent, percent? (.finite p) = some p := fun p => percent?_eq_some.mpr rfl
    simp only [getScoringInput, h1, h2, h3, h4, h5, bind, Except.bind, hp]
    rw [← hcrit]

theorem getScoringInput_ok_iff (evidence : List EvidenceEnvelope) (trip : Trip) :
    (∃ r, getScoringInput evidence trip = .ok r) ↔
      ∀ field ∈ scoringFields, Scorable evidence field.2 := by
  simp only [getScoringInput_eq_ok, ← fieldReading_isSome]
  constructor
  · rintro ⟨r, factors, -, -, h⟩ field hf
    rw [h field hf]
    rfl
  · intro h
    simp only [scoringFields, List.forall_mem_cons, Option.isSome_iff_exists] at h
    obtain ⟨⟨p1, h1⟩, ⟨p2, h2⟩, ⟨p3, h3⟩, ⟨p4, h4⟩, ⟨p5, h5⟩, -⟩ := h
    refine ⟨_, ⟨p1, p2, p3, p4, p5, criticalityScore trip.tripCriticality⟩, rfl, rfl, ?_⟩
    simp only [scoringFields, List.forall_mem_cons, RiskFactors.get, h1, h2, h3, h4, h5]
    simp

end RouteShield
