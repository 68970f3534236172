import RouteShield.Lib.Table
import RouteShield.Api.Scoring

/-!
The bounded JSON adapters behind live evidence. What the network answers is an input:
one reply per attempt. A fetch reads the shared cache, then the breaker and the
switches, and only then asks the network; every error it catches becomes an
unavailable envelope.
-/

namespace RouteShield

/-- What one HTTP attempt gives. -/
inductive HttpReply where
  /-- A body that is the JSON text of a value. -/
  | json (value : Json)
  | notJson
  /-- An `httpx.HTTPError`, by the name of its class in lower case. -/
  | httpError (name : String)
  | timeout
  deriving DecidableEq

/-- The digits of the longest integer that is converted from text, by default. -/
def maxStrDigits : ℕ := 4300

/-- No integer of the value has more digits than are converted. -/
def Json.readable (value : Json) : Bool :=
  value.numbersPass fun
    | .int n => n.natAbs < 10 ^ maxStrDigits
    | .float _ => true

/-- `response.json()`: an integer that is not converted is a `ValueError`. -/
def responseJson (value : Json) : Except String Json :=
  if value.readable then .ok value else .error "valueerror"

theorem responseJson_eq_ok {value read : Json} :
    responseJson value = .ok read ↔ value = read ∧ read.readable = true := by
  unfold responseJson
  split_ifs with h
  · exact ⟨fun hread => Except.ok.inj hread ▸ ⟨rfl, h⟩, fun hread => congrArg Except.ok hread.1⟩
  · exact iff_of_false (fun hread => by cases hread) fun hread => h (hread.1 ▸ hread.2)

/-- Entries of the process-local cache, by their key. -/
abbrev ProviderCache := Table (fun entry : String × EvidenceEnvelope => entry.1)

namespace ProviderCache

/-- An unexpired entry, relabelled as cached. -/
def get (cache : ProviderCache) (key : String) (now : Time) : Option EvidenceEnvelope :=
  match cache.find? key with
  | some (_, item) =>
    if now < item.expiresAt then some { item with freshnessStatus := .cached } else none
  | none => none

theorem get_eq_some {cache : ProviderCache} {key : String} {now : Time} {cached : EvidenceEnvelope} :
    cache.get key now = some cached ↔ ∃ row item, cache.find? key = some (row, item) ∧
      now < item.expiresAt ∧ cached = { item with freshnessStatus := .cached } := by
  unfold get
  split
  · rename_i row item hfind
    constructor
    · intro h
      split_ifs at h with hlive
      exact ⟨row, item, hfind, hlive, (Option.some.inj h).symm⟩
    · rintro ⟨row', item', hfind', hlive, rfl⟩
      cases hfind.symm.trans hfind'
      rw [if_pos hlive]
  · rename_i hnone
    simp [hnone]

end ProviderCache

structure CircuitBreaker where
  threshold : ℕ := 3
  failures : ℕ := 0
  deriving DecidableEq

namespace CircuitBreaker

def isOpen (breaker : CircuitBreaker) : Bool := breaker.threshold ≤ breaker.failures

def recordSuccess (breaker : CircuitBreaker) : CircuitBreaker := { breaker with failures := 0 }

def recordFailure (breaker : CircuitBreaker) : CircuitBreaker :=
  { breaker with failures := breaker.failures + 1 }

end CircuitBreaker

/-- Accept only a normalized numeric score; an integer beyond the floats raises. -/
def riskScorePayload (payload : JsonObject) : Except Fault JsonObject :=
  match Json.number? (riskScoreOrZero payload) with
  | some n =>
    match n.toFloat? with
    | some x => .ok [("risk_score", .num (.float x))]
    | none => .error .overflow
  | none => .ok [("risk_score", .num (.int 0))]

structure JsonHttpProvider where
  name : String
  sourceType : String
  enabledEnv : String
  urlEnv : String
  normalize : JsonObject → Except Fault JsonObject := riskScorePayload
  freshnessMinutes : ℤ := 15
  retries : ℕ := 1

def amadeusFlightStatus : JsonHttpProvider where
  name := "amadeus-flight-status"
  sourceType := "flight_status"
  enabledEnv := "PROVIDER_AMADEUS_ENABLED"
  urlEnv := "AMADEUS_FLIGHT_STATUS_URL"
  freshnessMinutes := 5

def nwsAlerts : JsonHttpProvider where
  name := "nws-alerts"
  sourceType := "airport_weather"
  enabledEnv := "PROVIDER_NWS_ENABLED"
  urlEnv := "NWS_ALERTS_URL"

def faaNas : JsonHttpProvider where
  name := "faa-nas-status"
  sourceType := "airport_weather"
  enabledEnv := "PROVIDER_FAA_ENABLED"
  urlEnv := "FAA_NAS_STATUS_URL"

def aviationWeather : JsonHttpProvider where
  name := "aviation-weather"
  sourceType := "airport_weather"
  enabledEnv := "PROVIDER_AVIATION_WEATHER_ENABLED"
  urlEnv := "AVIATION_WEATHER_URL"

def googleRoutes : JsonHttpProvider where
  name := "google-routes"
  sourceType := "ground_route"
  enabledEnv := "PROVIDER_GOOGLE_ROUTES_ENABLED"
  urlEnv := "GOOGLE_ROUTES_URL"
  freshnessMinutes := 5

def destinationAdvisory : JsonHttpProvider where
  name := "state-department-advisory"
  sourceType := "destination_advisory"
  enabledEnv := "PROVIDER_DESTINATION_ADVISORY_ENABLED"
  urlEnv := "DESTINATION_ADVISORY_URL"
  freshnessMinutes := 1440

/-- The providers of the live collector, in its order. -/
def liveProviders : List JsonHttpProvider :=
  [amadeusFlightStatus, faaNas, nwsAlerts, aviationWeather, googleRoutes, destinationAdvisory]

/-- What one fetch is given from outside: the request, the environment, the network and
the readings of the clock in their order. -/
structure FetchInput where
  tenantId : String
  cacheKey : String
  correlationId : String
  enabled : Option Bool
  environ : String → Option String
  replies : ℕ → HttpReply
  evidenceId : Uuid
  cacheReadAt : Time
  startedAt : Time
  finishedAt : Time
  builtAt : Time

structure ProviderState where
  cache : ProviderCache
  breaker : CircuitBreaker

namespace JsonHttpProvider

variable (provider : JsonHttpProvider)

def unavailable (input : FetchInput) (errorCode : String) : EvidenceEnvelope where
  evidenceId := input.evidenceId
  sourceName := provider.name
  sourceType := provider.sourceType
  sourceUrlOrRecordId := "unavailable:" ++ input.correlationId
  retrievedAt := input.builtAt
  observedAt := some input.builtAt
  expiresAt := input.builtAt
  freshnessStatus := .unavailable
  errorCode := some errorCode

/-- The retry loop: only an `httpx.HTTPError` is retried. The error is the class name. -/
def request (replies : ℕ → HttpReply) (attempt : ℕ) : ℕ → Except String Json
  | 0 =>
    match replies attempt with
    | .json value => responseJson value
    | .notJson => .error "jsondecodeerror"
    | .timeout => .error "timeouterror"
    | .httpError name => .error name
  | left + 1 =>
    match replies attempt with
    | .json value => responseJson value
    | .notJson => .error "jsondecodeerror"
    | .timeout => .error "timeouterror"
    | .httpError _ => request replies (attempt + 1) left

def cacheKeyOf (input : FetchInput) : String :=
  input.tenantId ++ ":" ++ provider.sourceType ++ ":" ++ input.cacheKey

/-- `os.getenv(name, "false").lower() == "true"`. -/
def switchedOn (environ : String → Option String) (name : String) : Bool :=
  ((environ name).getD "false").toLower = "true"

/-- The envelope built from an accepted answer. -/
def answered (input : FetchInput) (url : String) (normalized : JsonObject) : EvidenceEnvelope where
  evidenceId := input.evidenceId
  sourceName := provider.name
  sourceType := provider.sourceType
  sourceUrlOrRecordId := url
  retrievedAt := input.builtAt
  observedAt := some input.startedAt
  expiresAt := input.startedAt + minutes provider.freshnessMinutes
  normalizedPayload := normalized
  providerLatencyMs := some ((input.finishedAt - input.startedAt) / 1000).toNat

/-- One fetch; an exception that the adapter does not catch leaves the state as it is. -/
def fetch (state : ProviderState) (input : FetchInput) :
    Except Fault EvidenceEnvelope × ProviderState :=
  let key := provider.cacheKeyOf input
  match state.cache.get key input.cacheReadAt with
  | some cached => (.ok cached, state)
  | none =>
    if state.breaker.isOpen then
      (.ok (provider.unavailable input "provider_circuit_open"), state)
    else if input.enabled = some false ∨
        (input.enabled = none ∧ !switchedOn input.environ provider.enabledEnv) then
      (.ok (provider.unavailable input "provider_disabled"), state)
    else
      match input.environ provider.urlEnv with
      | none | some "" => (.ok (provider.unavailable input "provider_url_not_configured"), state)
      | some url =>
        match request input.replies 0 provider.retries with
        | .ok (.obj payload) =>
          match provider.normalize payload with
          | .ok normalized =>
            let item := provider.answered input url normalized
            (.ok item,
              { cache := state.cache.put (key, item), breaker := state.breaker.recordSuccess })
          | .error fault => (.error fault, state)
        | .ok _ =>
          (.ok (provider.unavailable input "valueerror"),
            { state with breaker := state.breaker.recordFailure })
        | .error name =>
          (.ok (provider.unavailable input name),
            { state with breaker := state.breaker.recordFailure })

end JsonHttpProvider

theorem normalize_liveProviders {provider : JsonHttpProvider} (h : provider ∈ liveProviders) :
    provider.normalize = riskScorePayload := by
  simp only [liveProviders, List.mem_cons, List.not_mem_nil, or_false] at h
  rcases h with rfl | rfl | rfl | rfl | rfl | rfl <;> rfl

/-! ### What an answer turns into -/

/-- The provider will ask the network: nothing usable is cached, the breaker is closed
and the provider is switched on with a URL. -/
structure JsonHttpProvider.Asks (provider : JsonHttpProvider) (state : ProviderState)
    (input : FetchInput) (url : String) : Prop where
  notCached : state.cache.get (provider.cacheKeyOf input) input.cacheReadAt = none
  closed : state.breaker.isOpen = false
  enabled : input.enabled = some true ∨
    (input.enabled = none ∧ JsonHttpProvider.switchedOn input.environ provider.enabledEnv = true)
  url_eq : input.environ provider.urlEnv = some url
  url_ne : url ≠ ""

theorem JsonHttpProvider.fetch_answered {provider : JsonHttpProvider} {state : ProviderState}
    {input : FetchInput} {url : String} (h : provider.Asks state input url)
    {payload normalized : JsonObject}
    (hreply : request input.replies 0 provider.retries = .ok (.obj payload))
    (hnorm : provider.normalize payload = .ok normalized) :
    (provider.fetch state input).1 = .ok (provider.answered input url normalized) := by
  have henabled : ¬ (input.enabled = some false ∨
      (input.enabled = none ∧ !switchedOn input.environ provider.enabledEnv)) := by
    rcases h.enabled with he | ⟨he, hs⟩ <;> simp_all
  have hurl := h.url_ne
  simp only [fetch, h.notCached, h.closed, Bool.false_eq_true, if_false, if_neg henabled, h.url_eq,
    hreply]
  split <;> simp_all

end RouteShield
