import RouteShield.Domain.Json

/-!
The domain contracts around a trip: the itinerary, the evidence collected for it and
the deterministic risk assessment. Field names follow the service's models. A score
carries its range, so a value outside it cannot be built.
-/

namespace RouteShield

/-- Microseconds since the epoch, in UTC. -/
abbrev Time := ℤ

def minutes (n : ℤ) : ℤ := n * 60 * 1000000

def seconds (n : ℤ) : ℤ := n * 1000000

/-- An identifier: drawn at random, or derived from a name. -/
inductive Uuid where
  | v4 (n : ℕ)
  | v5 (name : String)
  deriving DecidableEq

/-- `str(uuid)`, up to the spelling of the two kinds. -/
def Uuid.str : Uuid → String
  | .v4 n => "4-" ++ toString n
  | .v5 name => "5-" ++ name

theorem Uuid.str_injective : Function.Injective Uuid.str := by
  rintro (n | name) (m | name') h
  · have hdigits : Nat.toDigits 10 n = Nat.toDigits 10 m := by
      rw [← Nat.toList_repr, ← Nat.toList_repr]
      exact congrArg String.toList ((String.append_right_inj _).mp h)
    have hvalue := congrArg (fun ds => Nat.ofDigitChars 10 ds 0) hdigits
    simp only [Nat.ofDigitChars_toDigits (b := 10) (by decide) (by decide)] at hvalue
    rw [hvalue]
  · have hfirst := congrArg (fun s => s.toList.head?) h
    simp [Uuid.str] at hfirst
  · have hfirst := congrArg (fun s => s.toList.head?) h
    simp [Uuid.str] at hfirst
  · rw [(String.append_right_inj _).mp h]

/-- `UUID(text)`: the identifier of which a text is the spelling. -/
def Uuid.parse? (text : String) : Option Uuid :=
  let id : Uuid := match text.toList with
    | '4' :: '-' :: digits => .v4 (Nat.ofDigitChars 10 digits 0)
    | rest => .v5 (String.ofList (rest.drop 2))
  if id.str = text then some id else none

@[simp] theorem Uuid.parse?_str (id : Uuid) : parse? id.str = some id := by
  cases id <;> simp [parse?, str]

theorem Uuid.str_of_parse? {text : String} {id : Uuid} (h : parse? text = some id) :
    id.str = text := by
  simp only [parse?, Option.ite_none_right_eq_some] at h
  obtain ⟨htext, hid⟩ := h
  rw [← htext, Option.some.inj hid]

/-- What a handler can raise. -/
inductive Fault where
  | http (status : ℕ) (detail : String)
  | validation (model : String)
  | value (message : String)
  | key (message : String)
  | integrity (table : String)
  | data (message : String)
  | attribute (message : String)
  | csv (message : String)
  | overflow
  deriving DecidableEq

inductive Severity where
  | low | watch | high | critical
  deriving DecidableEq

def Severity.value : Severity → String
  | .low => "low"
  | .watch => "watch"
  | .high => "high"
  | .critical => "critical"

inductive FreshnessStatus where
  | fresh | cached | stale | unavailable
  deriving DecidableEq

def FreshnessStatus.value : FreshnessStatus → String
  | .fresh => "fresh"
  | .cached => "cached"
  | .stale => "stale"
  | .unavailable => "unavailable"

inductive TripCriticality where
  | standard | important | businessCritical
  deriving DecidableEq

inductive TripStatus where
  | active | cancelled
  deriving DecidableEq

inductive AssessmentDisposition where
  | monitor | managerQueue | investigate | needsHumanReview
  deriving DecidableEq

def AssessmentDisposition.value : AssessmentDisposition → String
  | .monitor => "monitor"
  | .managerQueue => "manager_queue"
  | .investigate => "investigate"
  | .needsHumanReview => "needs_human_review"

/-! ### Itinerary -/

structure FlightSegment where
  segmentId : String
  carrierCode : String
  flightNumber : String
  departureAirport : String
  arrivalAirport : String
  scheduledDepartureAt : Time
  scheduledArrivalAt : Time
  deriving DecidableEq

structure TripCreate where
  tenantId : String
  travelerId : String
  assignedManagerId : Option String := none
  tripCriticality : TripCriticality := .standard
  groundOrigin : String
  destinationCountry : String
  segments : List FlightSegment
  deriving DecidableEq

structure Trip extends TripCreate where
  tripId : Uuid
  status : TripStatus := .active
  createdAt : Time
  deriving DecidableEq

/-- The Unicode property White_Space. -/
def isWhiteSpace (c : Char) : Bool :=
  (9 ≤ c.toNat ∧ c.toNat ≤ 13) ∨ (0x2000 ≤ c.toNat ∧ c.toNat ≤ 0x200A) ∨
    c.toNat ∈ [0x20, 0x85, 0xA0, 0x1680, 0x2028, 0x2029, 0x202F, 0x205F, 0x3000]

/-- `str_strip_whitespace`. -/
def stripWhitespace (text : String) : String :=
  .ofList ((text.toList.dropWhile isWhiteSpace).reverse.dropWhile isWhiteSpace).reverse

/-- What validation makes of a trip: of its texts only the assigned manager is ever set
without it. -/
def Trip.stripped (trip : Trip) : Trip :=
  { trip with assignedManagerId := trip.assignedManagerId.map stripWhitespace }

/-! ### Evidence -/

/-- A normalized source result. -/
structure EvidenceEnvelope where
  evidenceId : Uuid
  sourceName : String
  sourceType : String
  sourceUrlOrRecordId : String
  retrievedAt : Time
  observedAt : Option Time := none
  expiresAt : Time
  freshnessStatus : FreshnessStatus := .fresh
  normalizedPayload : JsonObject := []
  rawPayloadReference : Option String := none
  providerLatencyMs : Option ℕ := none
  providerRequestId : Option String := none
  errorCode : Option String := none
  deriving DecidableEq

/-- The test every reader of evidence makes on the stored label. -/
def EvidenceEnvelope.dark (item : EvidenceEnvelope) : Bool :=
  item.freshnessStatus = .stale ∨ item.freshnessStatus = .unavailable

/-! ### Risk -/

/-- A number that passed `ge=0, le=100`. -/
abbrev Percent := {q : ℚ // 0 ≤ q ∧ q ≤ 100}

inductive RiskFactor where
  | flightDisruption | connectionFragility | airportWeather
  | groundRouteDisruption | destinationAdvisory | travelerTripCriticality
  deriving DecidableEq

def RiskFactor.value : RiskFactor → String
  | .flightDisruption => "flight_disruption"
  | .connectionFragility => "connection_fragility"
  | .airportWeather => "airport_weather"
  | .groundRouteDisruption => "ground_route_disruption"
  | .destinationAdvisory => "destination_advisory"
  | .travelerTripCriticality => "traveler_trip_criticality"

structure RiskFactors where
  flightDisruption : Percent
  connectionFragility : Percent
  airportWeather : Percent
  groundRouteDisruption : Percent
  destinationAdvisory : Percent
  travelerTripCriticality : Percent
  deriving DecidableEq

/-- `getattr(factors, factor)`. -/
def RiskFactors.get (factors : RiskFactors) : RiskFactor → Percent
  | .flightDisruption => factors.flightDisruption
  | .connectionFragility => factors.connectionFragility
  | .airportWeather => factors.airportWeather
  | .groundRouteDisruption => factors.groundRouteDisruption
  | .destinationAdvisory => factors.destinationAdvisory
  | .travelerTripCriticality => factors.travelerTripCriticality

structure RiskAssessment where
  assessmentId : Uuid
  tripId : Uuid
  policyVersion : String
  riskScore : Percent
  severity : Severity
  factorContributions : List (RiskFactor × ℚ)
  assessmentTime : Time
  evidenceIds : List Uuid
  unknownFactors : List RiskFactor
  uncertainty : String
  deriving DecidableEq

structure SourceHealth where
  coreSourcesUnavailable : List String
  limitedVisibility : Bool
  deriving DecidableEq

structure AssessmentResult where
  assessment : RiskAssessment
  evidence : List EvidenceEnvelope
  sourceHealth : SourceHealth
  disposition : AssessmentDisposition
  incidentId : Option Uuid := none
  deriving DecidableEq

end RouteShield
