import RouteShield.Lib.Prog
import RouteShield.Tools.Providers

/-!
Live evidence. A collection sends the fetches of all its providers out together: each looks at
the cache and at its breaker before the first reply comes, and the replies come in any order.
An envelope from the cache keeps the identifier that it was built with; every other envelope of
a collection has an identifier of its own.
-/

namespace RouteShield

namespace JsonHttpProvider

variable (provider : JsonHttpProvider)

/-- A fetch up to its request: an answer without the network, or the URL to ask. -/
def lookUp (state : ProviderState) (input : FetchInput) : EvidenceEnvelope ⊕ String :=
  match state.cache.get (provider.cacheKeyOf input) input.cacheReadAt with
  | some cached => .inl cached
  | none =>
    if state.breaker.isOpen then .inl (provider.unavailable input "provider_circuit_open")
    else if input.enabled = some false ∨
        (input.enabled = none ∧ !switchedOn input.environ provider.enabledEnv) then
      .inl (provider.unavailable input "provider_disabled")
    else
      match input.environ provider.urlEnv with
      | none | some "" => .inl (provider.unavailable input "provider_url_not_configured")
      | some url => .inr url

/-- The rest of a fetch, from its request on. -/
def ask (state : ProviderState) (input : FetchInput) (url : String) :
    Except Fault EvidenceEnvelope × ProviderState :=
  match request input.replies 0 provider.retries with
  | .ok (.obj payload) =>
    match provider.normalize payload with
    | .ok normalized =>
      let item := provider.answered input url normalized
      (.ok item,
        { cache := state.cache.put (provider.cacheKeyOf input, item)
          breaker := state.breaker.recordSuccess })
    | .error fault => (.error fault, state)
  | .ok _ =>
    (.ok (provider.unavailable input "valueerror"),
      { state with breaker := state.breaker.recordFailure })
  | .error name =>
    (.ok (provider.unavailable input name),
      { state with breaker := state.breaker.recordFailure })

variable {provider} {state : ProviderState} {input : FetchInput} {url : String}

/-- A fetch is its two parts with nothing between them. -/
theorem fetch_eq : provider.fetch state input = match provider.lookUp state input with
    | .inl item => (.ok item, state)
    | .inr url => provider.ask state input url := by
  unfold fetch lookUp
  cases hcached : state.cache.get (provider.cacheKeyOf input) input.cacheReadAt with
  | some cached => simp only [hcached]
  | none =>
    simp only [hcached]
    split_ifs
    · rfl
    · rfl
    · cases hurl : input.environ provider.urlEnv with
      | none => rfl
      | some url =>
        by_cases hempty : url = ""
        · subst hempty
          rfl
        · simp only
          rfl

theorem fetch_inl {item : EvidenceEnvelope} (h : provider.lookUp state input = .inl item) :
    provider.fetch state input = (.ok item, state) := by
  rw [fetch_eq, h]

theorem fetch_inr (h : provider.lookUp state input = .inr url) :
    provider.fetch state input = provider.ask state input url := by
  rw [fetch_eq, h]

theorem lookUp_cached {item : EvidenceEnvelope}
    (h : state.cache.get (provider.cacheKeyOf input) input.cacheReadAt = some item) :
    provider.lookUp state input = .inl item := by
  unfold lookUp
  simp only [h]

/-- Without a cached answer a fetch has none, or asks. -/
theorem lookUp_uncached
    (h : state.cache.get (provider.cacheKeyOf input) input.cacheReadAt = none) :
    (∃ errorCode, provider.lookUp state input = .inl (provider.unavailable input errorCode)) ∨
      ∃ url, provider.lookUp state input = .inr url := by
  unfold lookUp
  simp only [h]
  split_ifs
  · exact .inl ⟨_, rfl⟩
  · exact .inl ⟨_, rfl⟩
  · split
    · exact .inl ⟨_, rfl⟩
    · exact .inl ⟨_, rfl⟩
    · exact .inr ⟨_, rfl⟩

theorem lookUp_eq_inr : provider.lookUp state input = .inr url ↔ provider.Asks state input url := by
  have hswitch : input.enabled = some true ∨
      (input.enabled = none ∧ switchedOn input.environ provider.enabledEnv = true) ↔
      ¬(input.enabled = some false ∨
        (input.enabled = none ∧ !switchedOn input.environ provider.enabledEnv)) := by
    cases input.enabled with
    | none => simp
    | some enabled => cases enabled <;> simp
  constructor
  · intro h
    unfold lookUp at h
    split at h
    · cases h
    · rename_i huncached
      split_ifs at h with hopen hoff
      split at h
      · cases h
      · cases h
      · rename_i hempty hurl
        cases h
        exact ⟨huncached, Bool.eq_false_iff.mpr hopen, hswitch.mpr hoff, hurl, hempty⟩
  · rintro ⟨huncached, hclosed, hon, hurl, hne⟩
    unfold lookUp
    simp only [huncached, hclosed, Bool.false_eq_true, if_false, if_neg (hswitch.mp hon), hurl]

/-- The answer to a request is put, or raises, or counts as a failure. -/
theorem ask_cases (provider : JsonHttpProvider) (state : ProviderState) (input : FetchInput)
    (url : String) :
    (∃ payload normalized, request input.replies 0 provider.retries = .ok (.obj payload) ∧
      provider.normalize payload = .ok normalized ∧
      provider.ask state input url = (.ok (provider.answered input url normalized),
        { cache := state.cache.put (provider.cacheKeyOf input, provider.answered input url normalized)
          breaker := state.breaker.recordSuccess })) ∨
    (∃ payload fault, request input.replies 0 provider.retries = .ok (.obj payload) ∧
      provider.normalize payload = .error fault ∧
      provider.ask state input url = (.error fault, state)) ∨
    ∃ errorCode, (∀ payload, request input.replies 0 provider.retries ≠ .ok (.obj payload)) ∧
      provider.ask state input url = (.ok (provider.unavailable input errorCode),
        { state with breaker := state.breaker.recordFailure }) := by
  unfold ask
  split
  · rename_i payload hreply
    split
    · rename_i normalized hnormalized
      exact .inl ⟨payload, normalized, hreply, hnormalized, rfl⟩
    · rename_i fault hfault
      exact .inr (.inl ⟨payload, fault, hreply, hfault, rfl⟩)
  · rename_i value hnot hreply
    exact .inr (.inr ⟨_, fun payload h => hnot payload (Except.ok.inj (hreply.symm.trans h)), rfl⟩)
  · rename_i name hreply
    exact .inr (.inr ⟨name, fun payload h => by simp [hreply] at h, rfl⟩)

/-- What a fetch builds itself has the identifier that was drawn for it. -/
theorem evidenceId_of_fetch {item : EvidenceEnvelope}
    (huncached : state.cache.get (provider.cacheKeyOf input) input.cacheReadAt = none)
    (h : (provider.fetch state input).1 = .ok item) : item.evidenceId = input.evidenceId := by
  obtain ⟨errorCode, hlookUp⟩ | ⟨url, hlookUp⟩ := lookUp_uncached huncached
  · rw [fetch_inl hlookUp] at h
    cases h
    rfl
  · rw [fetch_inr hlookUp] at h
    obtain ⟨payload, normalized, -, -, hask⟩ | ⟨payload, fault, -, -, hask⟩ | ⟨errorCode, -, hask⟩ :=
      ask_cases provider state input url
    · rw [hask] at h
      cases h
      rfl
    · rw [hask] at h
      cases h
    · rw [hask] at h
      cases h
      rfl

end JsonHttpProvider

/-- The places of a list. -/
theorem map_zipIdx_snd {α β : Type} (f : ℕ → β) (xs : List α) :
    xs.zipIdx.map (fun p => f p.2) = (List.range xs.length).map f := by
  rw [List.range_eq_range', ← List.zipIdx_map_snd, List.map_map]
  rfl

/-- The cache that the providers of the process share, and the breaker of each. -/
structure LiveEvidenceCollector where
  cache : ProviderCache := .empty
  breakers : ℕ → CircuitBreaker := fun _ => {}

/-- What one collection is given from outside; what each provider has its own of, by its place. -/
structure LiveReadings where
  enabled : String → Bool
  environ : String → Option String
  replies : ℕ → ℕ → HttpReply
  cacheReadAt : ℕ → Time
  startedAt : ℕ → Time
  finishedAt : ℕ → Time
  builtAt : ℕ → Time
  calculatedAt : Time
  /-- The places in the order in which their replies come. -/
  arrivals : List ℕ
  arrivals_perm : arrivals.Perm (List.range liveProviders.length)

/-- The minutes between each segment and the next. -/
def connectionLegs (trip : Trip) : List ℚ :=
  (trip.segments.zip trip.segments.tail).map fun (previous, next) =>
    Binary64.round (Binary64.round
      ((next.scheduledDepartureAt - previous.scheduledArrivalAt : ℤ) / 1000000) / 60)

/-- The shortest connection of a trip, or a default of 90. -/
def connectionMinutes (trip : Trip) : JsonNumber :=
  match (connectionLegs trip).min? with
  | some shortest => .float (.finite shortest)
  | none => .int 90

def connectionRisk (trip : Trip) : ℤ :=
  let shortest := (connectionLegs trip).min?.getD 90
  if shortest < 45 then 90 else if shortest < 60 then 40 else 5

def connectionFeasibility (evidenceId : Uuid) (retrievedAt now : Time) (trip : Trip)
    (correlationId : String) : EvidenceEnvelope where
  evidenceId
  sourceName := "routeshield-connection-feasibility"
  sourceType := "connection_feasibility"
  sourceUrlOrRecordId := "calculated:" ++ correlationId
  retrievedAt
  observedAt := some now
  expiresAt := now + minutes 15
  freshnessStatus := .fresh
  normalizedPayload :=
    [("risk_score", .num (.int (connectionRisk trip))),
      ("connection_minutes", .num (connectionMinutes trip))]

namespace LiveEvidenceCollector

/-- Operational fields only; the providers add the tenant and their source type. -/
def cacheKey (trip : Trip) (firstSegment : FlightSegment) : String :=
  ":".intercalate [firstSegment.carrierCode, firstSegment.flightNumber,
    firstSegment.departureAirport, trip.destinationCountry]

def fetchInput (readings : LiveReadings) (fresh : ℕ → Uuid) (trip : Trip)
    (firstSegment : FlightSegment) (correlationId : String) (provider : JsonHttpProvider) (i : ℕ) :
    FetchInput where
  tenantId := trip.tenantId
  cacheKey := cacheKey trip firstSegment
  correlationId
  enabled := some (readings.enabled provider.enabledEnv)
  environ := readings.environ
  replies := readings.replies i
  evidenceId := fresh i
  cacheReadAt := readings.cacheReadAt i
  startedAt := readings.startedAt i
  finishedAt := readings.finishedAt i
  builtAt := readings.builtAt i

variable (collector : LiveEvidenceCollector)

def stateOf (i : ℕ) : ProviderState := ⟨collector.cache, collector.breakers i⟩

/-- The reply of a provider comes, where it was asked at the start. -/
def settle (input : JsonHttpProvider → ℕ → FetchInput) (current : LiveEvidenceCollector) (i : ℕ) :
    LiveEvidenceCollector :=
  match liveProviders[i]? with
  | none => current
  | some provider =>
    match provider.lookUp (collector.stateOf i) (input provider i) with
    | .inl _ => current
    | .inr url =>
      let state := (provider.ask (current.stateOf i) (input provider i) url).2
      { cache := state.cache, breakers := Function.update current.breakers i state.breaker }

/-- The envelopes of the providers in their order, and the connection's. -/
def collect (readings : LiveReadings) (fresh : ℕ → Uuid) (trip : Trip) (correlationId : String) :
    Except Fault (List EvidenceEnvelope) × LiveEvidenceCollector :=
  match trip.segments.head? with
  | none => (.error (.value "list index out of range"), collector)
  | some firstSegment =>
    let input := fetchInput readings fresh trip firstSegment correlationId
    let evidence : Except Fault (List EvidenceEnvelope) := do
      let items ← liveProviders.zipIdx.mapM fun (provider, i) =>
        (provider.fetch (collector.stateOf i) (input provider i)).1
      let last := liveProviders.length
      return items ++ [connectionFeasibility (fresh last) (readings.builtAt last)
        readings.calculatedAt trip correlationId]
    (evidence, readings.arrivals.foldl (collector.settle input) collector)

/-- No fetch of the collection finds its answer in the cache. -/
def Uncached (readings : LiveReadings) (trip : Trip) : Prop :=
  ∀ firstSegment ∈ trip.segments.head?, ∀ p ∈ liveProviders.zipIdx,
    collector.cache.get (trip.tenantId ++ ":" ++ p.1.sourceType ++ ":" ++
      cacheKey trip firstSegment) (readings.cacheReadAt p.2) = none

instance (readings : LiveReadings) (trip : Trip) : Decidable (collector.Uncached readings trip) :=
  inferInstanceAs (Decidable (∀ firstSegment ∈ trip.segments.head?, _))

variable {collector} {readings : LiveReadings} {fresh : ℕ → Uuid} {trip : Trip}
  {correlationId : String} {evidence : List EvidenceEnvelope}

/-- An uncached collection draws all its identifiers. -/
theorem ids_of_collect (h : collector.Uncached readings trip)
    (hok : (collector.collect readings fresh trip correlationId).1 = .ok evidence) :
    evidence.map EvidenceEnvelope.evidenceId =
      (List.range (liveProviders.length + 1)).map fresh := by
  unfold collect at hok
  cases hfirst : trip.segments.head? with
  | none => simp [hfirst] at hok
  | some firstSegment =>
    simp only [hfirst] at hok
    obtain ⟨items, hitems, hevidence⟩ := except_bind_eq_ok.mp hok
    cases hevidence
    have hids : items.map EvidenceEnvelope.evidenceId =
        liveProviders.zipIdx.map (fun p => fresh p.2) := by
      refine map_eq_map_of_mapM (fun p hp item hitem => ?_) hitems
      have hcached := h firstSegment hfirst p hp
      exact @JsonHttpProvider.evidenceId_of_fetch p.1 (collector.stateOf p.2)
        (fetchInput readings fresh trip firstSegment correlationId p.1 p.2) item hcached hitem
    rw [List.map_append, hids, map_zipIdx_snd, List.range_succ, List.map_append]
    rfl

end LiveEvidenceCollector

end RouteShield
