import RouteShield.Tools.ProviderRuns

/-!
How a fetch ends. The cache is read before the breaker, the switch and the URL, so a provider that
is switched off still returns what it has cached. Of the faults of a request all but one are caught
and become an unavailable envelope: an integer score beyond the doubles does not convert, and its
error leaves the fetch and the collection with it.
-/

namespace RouteShield

variable {provider : JsonHttpProvider} {state : ProviderState} {input : FetchInput} {url : String}
  {item : EvidenceEnvelope}

/-! ### The switch -/

namespace JsonHttpProvider

/-- A provider that is switched off never asks. -/
theorem lookUp_ne_inr (hoff : input.enabled = some false) (url : String) :
    provider.lookUp state input ≠ .inr url := by
  intro h
  have hon := (lookUp_eq_inr.mp h).enabled
  simp [hoff] at hon

theorem fetch_unavailable_iff (hoff : input.enabled = some false) :
    (∃ item, (provider.fetch state input).1 = .ok item ∧ item.sourceName = provider.name ∧
      item.freshnessStatus = .unavailable) ↔
    state.cache.get (provider.cacheKeyOf input) input.cacheReadAt = none := by
  cases hget : state.cache.get (provider.cacheKeyOf input) input.cacheReadAt with
  | some cached =>
    obtain ⟨row, entry, -, -, rfl⟩ := ProviderCache.get_eq_some.mp hget
    rw [fetch_inl (lookUp_cached hget)]
    refine iff_of_false ?_ (by simp)
    rintro ⟨item, hitem, -, hdark⟩
    cases hitem
    cases hdark
  | none =>
    refine iff_of_true ?_ rfl
    obtain ⟨errorCode, hlookUp⟩ | ⟨url, hlookUp⟩ := lookUp_uncached hget
    · exact ⟨_, congrArg Prod.fst (fetch_inl hlookUp), rfl, rfl⟩
    · exact absurd hlookUp (lookUp_ne_inr hoff url)

end JsonHttpProvider

namespace LiveEvidenceCollector

variable {collector : LiveEvidenceCollector} {readings : LiveReadings} {fresh : ℕ → Uuid}
  {trip : Trip} {firstSegment : FlightSegment} {correlationId : String}
  {evidence : List EvidenceEnvelope} {i : ℕ}

/-- What the provider at a place returns to a collection. -/
def fetched (collector : LiveEvidenceCollector) (readings : LiveReadings) (fresh : ℕ → Uuid)
    (trip : Trip) (firstSegment : FlightSegment) (correlationId : String)
    (p : JsonHttpProvider × ℕ) : Except Fault EvidenceEnvelope :=
  (p.1.fetch (collector.stateOf p.2)
    (fetchInput readings fresh trip firstSegment correlationId p.1 p.2)).1

/-- A collection is the envelopes of its providers, each at its place, and one more. -/
theorem collect_eq_ok (hfirst : trip.segments.head? = some firstSegment) :
    (collector.collect readings fresh trip correlationId).1 = .ok evidence ↔
      ∃ items, liveProviders.zipIdx.mapM
          (collector.fetched readings fresh trip firstSegment correlationId) = .ok items ∧
        evidence = items ++ [connectionFeasibility (fresh liveProviders.length)
          (readings.builtAt liveProviders.length) readings.calculatedAt trip correlationId] := by
  simp only [collect, hfirst]
  rw [except_bind_eq_ok]
  refine exists_congr fun items => and_congr_right fun _ => ?_
  exact ⟨fun h => (Except.ok.inj h).symm, fun h => congrArg Except.ok h.symm⟩

theorem getElem?_collect (hfirst : trip.segments.head? = some firstSegment)
    (hok : (collector.collect readings fresh trip correlationId).1 = .ok evidence)
    (hi : liveProviders[i]? = some provider) :
    ∃ item, collector.fetched readings fresh trip firstSegment correlationId (provider, i) =
      .ok item ∧ evidence[i]? = some item := by
  obtain ⟨items, hitems, rfl⟩ := (collect_eq_ok hfirst).mp hok
  have hitems := mapM_eq_ok.mp hitems
  obtain ⟨hlt, rfl⟩ := List.getElem?_eq_some_iff.mp hi
  have hlt' : i < items.length := by
    rw [← hitems.length_eq, List.length_zipIdx]
    exact hlt
  have hfetched := hitems.get (by rwa [List.length_zipIdx]) hlt'
  simp only [List.get_eq_getElem, List.getElem_zipIdx, Nat.zero_add] at hfetched
  refine ⟨items[i], hfetched, ?_⟩
  rw [List.getElem?_append_left hlt', List.getElem?_eq_getElem hlt']

/-- A collection returns all its envelopes when each of its fetches returns one. -/
theorem collect_all_iff (hfirst : trip.segments.head? = some firstSegment) :
    (∃ evidence, (collector.collect readings fresh trip correlationId).1 = .ok evidence ∧
      evidence.length = liveProviders.length + 1) ↔
    ∀ p ∈ liveProviders.zipIdx, ∃ item,
      collector.fetched readings fresh trip firstSegment correlationId p = .ok item := by
  rw [← exists_mapM_eq_ok]
  constructor
  · rintro ⟨evidence, hok, -⟩
    obtain ⟨items, hitems, -⟩ := (collect_eq_ok hfirst).mp hok
    exact ⟨items, hitems⟩
  · rintro ⟨items, hitems⟩
    refine ⟨_, (collect_eq_ok hfirst).mpr ⟨items, hitems, rfl⟩, ?_⟩
    rw [List.length_append, ← (mapM_eq_ok.mp hitems).length_eq, List.length_zipIdx]
    rfl

/-- A switched-off provider of a collection leaves its signal, unless it has something cached. -/
theorem collect_unavailable_iff (hfirst : trip.segments.head? = some firstSegment)
    (hok : (collector.collect readings fresh trip correlationId).1 = .ok evidence)
    (hi : liveProviders[i]? = some provider) (hoff : readings.enabled provider.enabledEnv = false) :
    (∃ item, evidence[i]? = some item ∧ item.sourceName = provider.name ∧
      item.freshnessStatus = .unavailable) ↔
    collector.cache.get (provider.cacheKeyOf (fetchInput readings fresh trip firstSegment
      correlationId provider i)) (readings.cacheReadAt i) = none := by
  obtain ⟨item, hfetched, hitem⟩ := getElem?_collect hfirst hok hi
  have hiff := @JsonHttpProvider.fetch_unavailable_iff provider (collector.stateOf i)
    (fetchInput readings fresh trip firstSegment correlationId provider i) (congrArg some hoff)
  unfold fetched at hfetched
  refine Iff.trans ?_ hiff
  simp [hitem, hfetched]

end LiveEvidenceCollector

/-- A provider that is switched off asks nothing, and is reported unavailable exactly when nothing
unexpired is cached under its key; and so is each of the switched-off providers of a collection. -/
theorem unavailable_iff_uncached (hoff : input.enabled = some false) :
    (∀ url, provider.lookUp state input ≠ .inr url) ∧
    ((∃ item, (provider.fetch state input).1 = .ok item ∧ item.sourceName = provider.name ∧
        item.freshnessStatus = .unavailable) ↔
      state.cache.get (provider.cacheKeyOf input) input.cacheReadAt = none) ∧
    ∀ (collector : LiveEvidenceCollector) (readings : LiveReadings) (fresh : ℕ → Uuid) (trip : Trip)
      (firstSegment : FlightSegment) (correlationId : String) (evidence : List EvidenceEnvelope),
      trip.segments.head? = some firstSegment →
      (collector.collect readings fresh trip correlationId).1 = .ok evidence →
      ∀ i provider, liveProviders[i]? = some provider →
        readings.enabled provider.enabledEnv = false →
        ((∃ item, evidence[i]? = some item ∧ item.sourceName = provider.name ∧
          item.freshnessStatus = .unavailable) ↔
        collector.cache.get (provider.cacheKeyOf (LiveEvidenceCollector.fetchInput readings fresh
          trip firstSegment correlationId provider i)) (readings.cacheReadAt i) = none) := by
  refine ⟨JsonHttpProvider.lookUp_ne_inr hoff, JsonHttpProvider.fetch_unavailable_iff hoff, ?_⟩
  intro collector readings fresh trip firstSegment correlationId evidence hfirst hok i provider hi hoff
  exact LiveEvidenceCollector.collect_unavailable_iff hfirst hok hi hoff

/-- A fetch of a flight's status that is answered with a score. -/
def flightInput : FetchInput where
  tenantId := "acme"
  cacheKey := "UA:123:SFO:US"
  correlationId := "run"
  enabled := some true
  environ := fun _ => some "https://provider"
  replies := fun _ => .json (.obj [("risk_score", .num (.float (.finite 50)))])
  evidenceId := .v4 0
  cacheReadAt := 0
  startedAt := 0
  finishedAt := 0
  builtAt := 0

/-- A first fetch that is switched off. -/
theorem unavailable_iff_uncached_off :
    ∃ item, (amadeusFlightStatus.fetch ⟨Table.empty, {}⟩
        { flightInput with enabled := some false }).1 = .ok item ∧
      item.sourceName = amadeusFlightStatus.name ∧ item.freshnessStatus = .unavailable :=
  (unavailable_iff_uncached rfl).2.1.mpr rfl

def flightAnswer : EvidenceEnvelope :=
  amadeusFlightStatus.answered flightInput "https://provider"
    [("risk_score", .num (.float (.finite 50)))]

def answeredState : ProviderState where
  cache := Table.empty.put (amadeusFlightStatus.cacheKeyOf flightInput, flightAnswer)
  breaker := {}

theorem get_answeredState :
    answeredState.cache.get (amadeusFlightStatus.cacheKeyOf flightInput) 0 =
      some { flightAnswer with freshnessStatus := .cached } :=
  ProviderCache.get_eq_some.mpr ⟨_, flightAnswer, Table.find?_put_self _ _, by decide, rfl⟩

/-- Switched off after a fetch, a provider returns what that fetch has put. -/
theorem switched_off_returns_cached :
    ¬∀ (provider : JsonHttpProvider) (inputs : List FetchInput) (input : FetchInput),
      input.enabled = some false →
      ∃ item, (provider.fetch (runFrom (fun state input => (provider.fetch state input).2)
        ⟨Table.empty, {}⟩ inputs) input).1 = .ok item ∧ item.freshnessStatus = .unavailable := by
  intro h
  obtain ⟨item, hitem, hdark⟩ := h amadeusFlightStatus [flightInput]
    { flightInput with enabled := some false } rfl
  have hstate : runFrom (fun state input => (amadeusFlightStatus.fetch state input).2)
      ⟨Table.empty, {}⟩ [flightInput] = answeredState := rfl
  have hlookUp := @JsonHttpProvider.lookUp_cached amadeusFlightStatus answeredState
    { flightInput with enabled := some false } _ get_answeredState
  rw [hstate, JsonHttpProvider.fetch_inl hlookUp] at hitem
  cases hitem
  cases hdark

/-! ### The fault that is not caught -/

/-- The score is an integer that rounds to no double. -/
def Overflows (payload : JsonObject) : Prop :=
  ∃ n : ℤ, Json.number? (riskScoreOrZero payload) = some (.int n) ∧ 2 ^ 1024 ≤ |Binary64.round n|

theorem riskScorePayload_eq_error {payload : JsonObject} {fault : Fault} :
    riskScorePayload payload = .error fault ↔ fault = .overflow ∧ Overflows payload := by
  unfold riskScorePayload Overflows
  cases hscore : Json.number? (riskScoreOrZero payload) with
  | none => simp
  | some n =>
    cases n with
    | float x => simp [JsonNumber.toFloat?]
    | int n =>
      by_cases hlt : |Binary64.round n| < 2 ^ 1024
      · simp only [JsonNumber.toFloat?, if_pos hlt]
        simp [hlt]
      · simp only [JsonNumber.toFloat?, if_neg hlt]
        simp [not_lt.mp hlt, eq_comm]

namespace JsonHttpProvider

/-- A request takes the first reply that is no HTTP error, if it comes within the retries. -/
theorem request_eq_ok {replies : ℕ → HttpReply} {attempt left : ℕ} {value : Json} :
    request replies attempt left = .ok value ↔ ∃ k ≤ left,
      (∀ j < k, ∃ name, replies (attempt + j) = .httpError name) ∧
      replies (attempt + k) = .json value ∧ value.readable = true := by
  induction left generalizing attempt with
  | zero =>
    simp only [request, Nat.le_zero, exists_eq_left, Nat.not_lt_zero, false_implies, implies_true,
      true_and, Nat.add_zero]
    cases replies attempt <;> simp [responseJson_eq_ok]
  | succ left ih =>
    -- a first reply that is no HTTP error is the one taken, at `k = 0`
    have hfirst : ∀ {reply}, replies attempt = reply → (∀ name, reply ≠ .httpError name) →
        ((∃ k ≤ left + 1, (∀ j < k, ∃ name, replies (attempt + j) = .httpError name) ∧
          replies (attempt + k) = .json value ∧ value.readable = true) ↔
            reply = .json value ∧ value.readable = true) := by
      intro reply hreply hne
      constructor
      · rintro ⟨k, -, herrors, hvalue⟩
        cases k with
        | zero => exact ⟨hreply.symm.trans hvalue.1, hvalue.2⟩
        | succ k =>
          obtain ⟨name, hname⟩ := herrors 0 k.succ_pos
          exact absurd (hreply.symm.trans hname) (hne name)
      · intro hvalue
        exact ⟨0, Nat.zero_le _, fun j hj => absurd hj j.not_lt_zero, hreply.trans hvalue.1, hvalue.2⟩
    cases hreply : replies attempt with
    | json value' => simp [request, hreply, hfirst hreply (by simp), responseJson_eq_ok]
    | notJson => simp [request, hreply, hfirst hreply (by simp)]
    | timeout => simp [request, hreply, hfirst hreply (by simp)]
    | httpError name =>
      simp only [request, hreply]
      rw [ih]
      constructor
      · rintro ⟨k, hk, herrors, hvalue⟩
        refine ⟨k + 1, by omega, fun j hj => ?_, by rwa [Nat.add_comm k 1, ← Nat.add_assoc]⟩
        cases j with
        | zero => exact ⟨name, hreply⟩
        | succ j =>
          rw [Nat.add_comm j 1, ← Nat.add_assoc]
          exact herrors j (by omega)
      · rintro ⟨k, hk, herrors, hvalue⟩
        cases k with
        | zero => simp [hreply] at hvalue
        | succ k =>
          refine ⟨k, by omega, fun j hj => ?_, by rwa [Nat.add_assoc, Nat.add_comm 1 k]⟩
          rw [Nat.add_assoc, Nat.add_comm 1 j]
          exact herrors (j + 1) (by omega)

/-- The fetch asks, and the first reply that is no HTTP error is an object that can be read, with
such a score. -/
structure Escapes (provider : JsonHttpProvider) (state : ProviderState) (input : FetchInput) :
    Prop where
  asks : ∃ url, provider.Asks state input url
  answer : ∃ k ≤ provider.retries, (∀ j < k, ∃ name, input.replies j = .httpError name) ∧
    ∃ payload, input.replies k = .json (.obj payload) ∧ (Json.obj payload).readable = true ∧
      Overflows payload

theorem Escapes.request_eq (h : provider.Escapes state input) : ∃ payload,
    request input.replies 0 provider.retries = .ok (.obj payload) ∧ Overflows payload := by
  obtain ⟨k, hk, herrors, payload, hpayload, hread, hoverflows⟩ := h.answer
  refine ⟨payload, request_eq_ok.mpr ⟨k, hk, fun j hj => ?_, ?_, hread⟩, hoverflows⟩
  · rw [Nat.zero_add]
    exact herrors j hj
  · rwa [Nat.zero_add]

/-- With the built-in normalizer a fetch returns an envelope unless such a score escapes. -/
theorem fetch_returns_iff (hnormalize : provider.normalize = riskScorePayload) :
    (∃ item, (provider.fetch state input).1 = .ok item) ↔ ¬provider.Escapes state input := by
  cases hlookUp : provider.lookUp state input with
  | inl item =>
    refine iff_of_true ⟨item, congrArg Prod.fst (fetch_inl hlookUp)⟩ fun h => ?_
    obtain ⟨url, hasks⟩ := h.asks
    cases hlookUp.symm.trans (lookUp_eq_inr.mpr hasks)
  | inr url =>
    rw [fetch_inr hlookUp]
    obtain ⟨payload, normalized, hreply, hok, hask⟩ | ⟨payload, fault, hreply, hfault, hask⟩ |
      ⟨errorCode, hreply, hask⟩ := ask_cases provider state input url
    · refine iff_of_true ⟨_, congrArg Prod.fst hask⟩ fun h => ?_
      obtain ⟨payload', hreply', hoverflows⟩ := h.request_eq
      cases hreply.symm.trans hreply'
      have herror := riskScorePayload_eq_error.mpr ⟨rfl, hoverflows⟩
      cases (hnormalize ▸ hok).symm.trans herror
    · refine iff_of_false ?_ (not_not_intro ⟨⟨url, lookUp_eq_inr.mp hlookUp⟩, ?_⟩)
      · rintro ⟨item, hitem⟩
        rw [hask] at hitem
        cases hitem
      · obtain ⟨k, hk, herrors, hvalue⟩ := request_eq_ok.mp hreply
        simp only [Nat.zero_add] at herrors hvalue
        rw [hnormalize] at hfault
        exact ⟨k, hk, herrors, payload, hvalue.1, hvalue.2, (riskScorePayload_eq_error.mp hfault).2⟩
    · refine iff_of_true ⟨_, congrArg Prod.fst hask⟩ fun h => ?_
      obtain ⟨payload, hreply', -⟩ := h.request_eq
      exact hreply payload hreply'

end JsonHttpProvider

/-- A fetch with the built-in normalizer returns an envelope, and a collection all of its
envelopes, exactly when no integer score beyond the doubles escapes. An integer of more than 4300
digits does not come so far: the body that holds it is not read. -/
theorem returns_iff_not_escapes (hnormalize : provider.normalize = riskScorePayload) :
    ((∃ item, (provider.fetch state input).1 = .ok item) ↔ ¬provider.Escapes state input) ∧
    ∀ (collector : LiveEvidenceCollector) (readings : LiveReadings) (fresh : ℕ → Uuid) (trip : Trip)
      (firstSegment : FlightSegment) (correlationId : String),
      trip.segments.head? = some firstSegment →
      ((∃ evidence, (collector.collect readings fresh trip correlationId).1 = .ok evidence ∧
        evidence.length = 7) ↔
      ∀ p ∈ liveProviders.zipIdx, ¬p.1.Escapes (collector.stateOf p.2)
        (LiveEvidenceCollector.fetchInput readings fresh trip firstSegment correlationId p.1 p.2)) := by
  refine ⟨JsonHttpProvider.fetch_returns_iff hnormalize, ?_⟩
  intro collector readings fresh trip firstSegment correlationId hfirst
  refine (LiveEvidenceCollector.collect_all_iff hfirst).trans ?_
  refine forall₂_congr fun p hp => JsonHttpProvider.fetch_returns_iff (normalize_liveProviders ?_)
  exact (List.mem_zipIdx' hp).2 ▸ List.getElem_mem _

/-- A score that is a double. -/
theorem returns_iff_not_escapes_double :
    ∃ item, (amadeusFlightStatus.fetch ⟨Table.empty, {}⟩ flightInput).1 = .ok item := by
  refine (returns_iff_not_escapes rfl).1.mpr fun h => ?_
  obtain ⟨k, -, -, payload, hpayload, -, n, hn, -⟩ := h.answer
  cases hpayload
  cases hn

theorem overflows_pow {n : ℕ} (hn : 1024 ≤ n) :
    Overflows [("risk_score", .num (.int (2 ^ n)))] := by
  refine ⟨2 ^ n, rfl, le_trans ?_ (le_abs_self _)⟩
  have hround : Binary64.round (2 ^ (n : ℤ)) = 2 ^ (n : ℤ) := Binary64.round_zpow (by omega)
  rw [zpow_natCast] at hround
  push_cast
  rw [hround]
  exact pow_le_pow_right₀ one_le_two hn

theorem readable_pow {n : ℕ} (hn : n < maxStrDigits) :
    (Json.obj [("risk_score", .num (.int (2 ^ n)))]).readable = true := by
  have habs : (2 ^ n : ℤ).natAbs = 2 ^ n := Int.natAbs_pow 2 n
  have hlt : 2 ^ n < 10 ^ maxStrDigits :=
    (Nat.pow_le_pow_left (by decide) n).trans_lt (Nat.pow_lt_pow_right (by decide) hn)
  simp only [Json.readable, Json.numbersPass, Json.fieldsPass, Bool.and_true, decide_eq_true_iff,
    habs]
  exact hlt

theorem fetch_can_raise :
    ¬∀ provider ∈ liveProviders, ∀ (state : ProviderState) (input : FetchInput),
      ∃ item, (provider.fetch state input).1 = .ok item := by
  intro h
  obtain ⟨n, hn⟩ : ∃ n : ℕ, n = 1024 := ⟨1024, rfl⟩
  have hreturns := h amadeusFlightStatus List.mem_cons_self ⟨Table.empty, {}⟩ { flightInput with
    replies := fun _ => .json (.obj [("risk_score", .num (.int (2 ^ n)))]) }
  refine (JsonHttpProvider.fetch_returns_iff rfl).mp hreturns ⟨⟨"https://provider", ?_⟩, ?_⟩
  · exact ⟨rfl, rfl, .inl rfl, rfl, by decide⟩
  · exact ⟨0, Nat.zero_le _, by simp, _, rfl, readable_pow (hn ▸ by decide), overflows_pow hn.ge⟩

end RouteShield
