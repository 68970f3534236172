import RouteShield.Tools.Providers

/-!
Where a missing reading goes. The scoring names a factor unknown only when its source
type has nothing usable, and the adapters put a number into every envelope they build
from an answer; so an item or an answer without a score counts as a reading of zero.
-/

namespace RouteShield

/-- A JSON number under `risk_score`. -/
def CarriesNumber (payload : JsonObject) : Prop :=
  ∃ j, Json.get? payload "risk_score" = some j ∧ j.IsNumber

/-- A factor is left out of the unknown ones only on the strength of a usable reading. -/
def BackedByReadings (evidence : List EvidenceEnvelope) (unknown : List RiskFactor) : Prop :=
  ∀ field ∈ scoringFields, field.1 ∉ unknown → ∃ item ∈ evidence,
    item.sourceType = field.2 ∧ item.dark = false ∧ CarriesNumber item.normalizedPayload

theorem mem_unknown_of_getScoringInput {evidence : List EvidenceEnvelope} {trip : Trip}
    {r : RiskFactors × List RiskFactor} (h : getScoringInput evidence trip = .ok r)
    {field : RiskFactor × String} (hf : field ∈ scoringFields) :
    field.1 ∈ r.2 ↔ available evidence field.2 = [] := by
  obtain ⟨factors, rfl, -, -⟩ := getScoringInput_eq_ok.mp h
  exact mem_unknownFactors hf

/-- The unknown factors of one evidence list are backed by readings exactly when every
usable source has a usable reading, unless an out-of-range reading stops the scoring. -/
theorem backedByReadings_iff (evidence : List EvidenceEnvelope) (trip : Trip) :
    (∀ r, getScoringInput evidence trip = .ok r → BackedByReadings evidence r.2) ↔
      (∃ field ∈ scoringFields, ¬ Scorable evidence field.2) ∨
      ∀ field ∈ scoringFields, available evidence field.2 ≠ [] →
        ∃ item ∈ available evidence field.2, CarriesNumber item.normalizedPayload := by
  by_cases hok : ∃ r, getScoringInput evidence trip = .ok r
  · have hscorable := (getScoringInput_ok_iff evidence trip).mp hok
    obtain ⟨r, hr⟩ := hok
    have hmem : ∀ field ∈ scoringFields, field.1 ∈ r.2 ↔ available evidence field.2 = [] :=
      fun _ hf => mem_unknown_of_getScoringInput hr hf
    constructor
    · intro h
      refine .inr (fun field hf hne => ?_)
      obtain ⟨item, hi, hsource, hdark, hnum⟩ := h r hr field hf (by rwa [hmem field hf])
      exact ⟨item, mem_available.mpr ⟨hi, hsource, hdark⟩, hnum⟩
    · rintro (⟨field, hf, hno⟩ | h) r' hr' field' hf' hne
      · exact absurd (hscorable field hf) hno
      · rw [mem_unknown_of_getScoringInput hr' hf'] at hne
        obtain ⟨item, hi, hnum⟩ := h field' hf' hne
        obtain ⟨hin, hsource, hdark⟩ := mem_available.mp hi
        exact ⟨item, hin, hsource, hdark, hnum⟩
  · refine iff_of_true (fun r hr => absurd ⟨r, hr⟩ hok) (.inl ?_)
    rw [getScoringInput_ok_iff] at hok
    push Not at hok
    exact hok

/-- The envelope of an accepted answer is usable, whatever the answer was. -/
theorem answered_mem_available {provider : JsonHttpProvider} {input : FetchInput} {url : String}
    {normalized : JsonObject} {evidence : List EvidenceEnvelope}
    (h : provider.answered input url normalized ∈ evidence) :
    provider.answered input url normalized ∈ available evidence provider.sourceType :=
  mem_available.mpr ⟨h, rfl, rfl⟩

theorem available_singleton {item : EvidenceEnvelope} {sourceType : String}
    (h : item.sourceType ≠ sourceType) : available [item] sourceType = [] := by
  rw [List.eq_nil_iff_forall_not_mem]
  intro other ho
  obtain ⟨hin, hsource, -⟩ := mem_available.mp ho
  rw [List.mem_singleton] at hin
  exact h (hin ▸ hsource)

/-- An answer without a number becomes a reading of a small number. -/
theorem riskScorePayload_small {payload : JsonObject} (h : ¬ CarriesNumber payload) :
    ∃ n q, riskScorePayload payload = .ok [("risk_score", .num n)] ∧
      n.toFloat? = some (.finite q) ∧ 0 ≤ q ∧ q ≤ 1 := by
  have h0 := JsonNumber.toFloat?_int (n := 0) (by norm_num)
  have hzero : ∃ n q, (Except.ok [("risk_score", Json.num (.int 0))] : Except Fault JsonObject) =
      .ok [("risk_score", .num n)] ∧ n.toFloat? = some (.finite q) ∧ 0 ≤ q ∧ q ≤ 1 :=
    ⟨.int 0, 0, rfl, by simpa using h0, le_rfl, by norm_num⟩
  unfold riskScorePayload riskScoreOrZero
  cases hj : Json.get? payload "risk_score" with
  | none =>
    refine ⟨.float (.finite 0), 0, ?_, rfl, le_rfl, by norm_num⟩
    simp [Json.number?, h0]
  | some j =>
    cases j with
    | num n => exact absurd ⟨_, hj, trivial⟩ h
    | bool b =>
      have hb := JsonNumber.toFloat?_int (n := b.toNat) (by cases b <;> norm_num)
      refine ⟨.float (.finite (b.toNat : ℤ)), (b.toNat : ℤ), ?_, rfl, ?_, ?_⟩
      · simp only [Option.getD_some, Json.number?, hb]
      · positivity
      · cases b <;> norm_num
    | null => exact hzero
    | str s => exact hzero
    | arr items => exact hzero
    | obj fields => exact hzero

/-- Alone, an envelope with a small number is scored. -/
theorem getScoringInput_answered (provider : JsonHttpProvider) (input : FetchInput) (url : String)
    (normalized : JsonObject) {n : JsonNumber} {q : ℚ}
    (hnumber : Json.number? (riskScoreOrZero normalized) = some n)
    (hn : n.toFloat? = some (.finite q)) (h0 : 0 ≤ q) (h1 : q ≤ 1) (trip : Trip) :
    ∃ r, getScoringInput [provider.answered input url normalized] trip = .ok r := by
  rw [getScoringInput_ok_iff]
  intro field _
  by_cases hs : provider.sourceType = field.2
  · have hnum : numbers [provider.answered input url normalized] field.2 = [n] := by
      simp [numbers, available, ← hs, JsonHttpProvider.answered, EvidenceEnvelope.dark, hnumber]
    rw [Scorable, hnum]
    refine ⟨fun m hm => ?_, .inr ⟨n, List.mem_singleton_self n, _, hn, ?_⟩⟩
    · rw [List.mem_singleton.mp hm]
      exact ⟨_, hn, PyFloat.finite_le_finite.mpr (by linarith)⟩
    · exact PyFloat.finite_le_finite.mpr h0
  · have hnum : numbers [provider.answered input url normalized] field.2 = [] := by
      rw [numbers, available_singleton hs]
      rfl
    rw [Scorable, hnum]
    exact ⟨(fun m hm => by cases hm), .inl rfl⟩

/-- Both layers. Scoring: the unknown factors are backed by readings exactly when every
usable source has a usable reading. Adapters: an answer without a number never leaves its
factor unknown. -/
theorem missing_reading_counts_as_zero (evidence : List EvidenceEnvelope) (trip : Trip) :
    ((∀ r, getScoringInput evidence trip = .ok r → BackedByReadings evidence r.2) ↔
      (∃ field ∈ scoringFields, ¬ Scorable evidence field.2) ∨
      ∀ field ∈ scoringFields, available evidence field.2 ≠ [] →
        ∃ item ∈ available evidence field.2, CarriesNumber item.normalizedPayload) ∧
    (∀ provider ∈ liveProviders, ∀ (state : ProviderState) (input : FetchInput) (url : String)
      (payload : JsonObject), provider.Asks state input url →
      JsonHttpProvider.request input.replies 0 provider.retries = .ok (.obj payload) →
      ¬ CarriesNumber payload →
      ∃ item, (provider.fetch state input).1 = .ok item ∧
        ∀ field ∈ scoringFields, field.2 = provider.sourceType →
          (∀ items trip r, item ∈ items → getScoringInput items trip = .ok r →
            field.1 ∉ r.2) ∧
          ∀ trip, ∃ r, getScoringInput [item] trip = .ok r) := by
  refine ⟨backedByReadings_iff evidence trip, ?_⟩
  intro provider hp state input url payload hasks hreply hno
  have hnormalize := normalize_liveProviders hp
  obtain ⟨n, q, hnorm, hn, h0, h1⟩ := riskScorePayload_small hno
  refine ⟨_, JsonHttpProvider.fetch_answered hasks hreply (hnormalize ▸ hnorm), ?_⟩
  intro field hf hsource
  refine ⟨fun items trip r hi hr => ?_, getScoringInput_answered provider input url _ rfl hn h0 h1⟩
  rw [mem_unknown_of_getScoringInput hr hf, hsource]
  exact List.ne_nil_of_mem (answered_mem_available hi)

/-! ### An empty answer from the flight source -/

/-- A fetch that is switched on and answered by an empty object. -/
def emptyAnswer : FetchInput where
  tenantId := "tenant"
  cacheKey := "UA:1:SFO:US"
  correlationId := "run"
  enabled := some true
  environ := fun _ => some "https://provider"
  replies := fun _ => .json (.obj [])
  evidenceId := .v4 0
  cacheReadAt := 0
  startedAt := 0
  finishedAt := 1000
  builtAt := 1000

def answeredTrip : Trip where
  tenantId := "tenant"
  travelerId := "traveler"
  groundOrigin := "office"
  destinationCountry := "US"
  segments := []
  tripId := .v4 1
  createdAt := 0

def emptyState : ProviderState := ⟨Table.empty, {}⟩

theorem asks_emptyAnswer :
    amadeusFlightStatus.Asks emptyState emptyAnswer "https://provider" :=
  ⟨rfl, rfl, .inl rfl, rfl, by decide⟩

theorem not_carriesNumber_empty : ¬ CarriesNumber [] := by
  rintro ⟨j, hj, -⟩
  cases hj

/-- An item without any score, and an answer without one: neither leaves the factor unknown. -/
theorem missing_reading_not_unknown :
    ¬ (∀ (evidence : List EvidenceEnvelope) (trip : Trip) r,
      getScoringInput evidence trip = .ok r → BackedByReadings evidence r.2) ∧
    ¬ (∀ provider ∈ liveProviders, ∀ (state : ProviderState) (input : FetchInput) (url : String)
      (payload : JsonObject) item, provider.Asks state input url →
      JsonHttpProvider.request input.replies 0 provider.retries = .ok (.obj payload) →
      ¬ CarriesNumber payload → (provider.fetch state input).1 = .ok item →
      ∀ field ∈ scoringFields, field.2 = provider.sourceType →
        ∀ evidence trip r, item ∈ evidence → getScoringInput evidence trip = .ok r →
          field.1 ∈ r.2) := by
  have h0 : (JsonNumber.int 0).toFloat? = some (.finite 0) := by
    rw [JsonNumber.toFloat?_int (by norm_num), Int.cast_zero]
  have hflight : (RiskFactor.flightDisruption, "flight_status") ∈ scoringFields :=
    List.mem_cons_self
  constructor
  · intro h
    obtain ⟨r, hr⟩ := getScoringInput_answered amadeusFlightStatus emptyAnswer "https://provider"
      [] (n := .int 0) rfl h0 le_rfl zero_le_one answeredTrip
    have hknown : RiskFactor.flightDisruption ∉ r.2 := by
      rw [mem_unknown_of_getScoringInput hr hflight]
      exact List.ne_nil_of_mem (answered_mem_available List.mem_cons_self)
    obtain ⟨item, hi, -, -, hnum⟩ := h _ _ r hr _ hflight hknown
    rw [List.mem_singleton.mp hi] at hnum
    exact not_carriesNumber_empty hnum
  · intro h
    obtain ⟨n, q, hnorm, hn, hq0, hq1⟩ := riskScorePayload_small not_carriesNumber_empty
    have hnormalize : amadeusFlightStatus.normalize = riskScorePayload := rfl
    have hreply : JsonHttpProvider.request emptyAnswer.replies 0 amadeusFlightStatus.retries =
        .ok (.obj []) := rfl
    have hfetch := JsonHttpProvider.fetch_answered asks_emptyAnswer hreply (hnormalize ▸ hnorm)
    obtain ⟨r, hr⟩ := getScoringInput_answered amadeusFlightStatus emptyAnswer "https://provider"
      [("risk_score", .num n)] rfl hn hq0 hq1 answeredTrip
    have hunknown := h _ List.mem_cons_self _ _ _ _ _ asks_emptyAnswer rfl not_carriesNumber_empty
      hfetch _ hflight rfl _ _ r List.mem_cons_self hr
    rw [mem_unknown_of_getScoringInput hr hflight] at hunknown
    exact List.ne_nil_of_mem (answered_mem_available List.mem_cons_self) hunknown

theorem missing_reading_counts_as_zero_empty :
    ∃ item, (amadeusFlightStatus.fetch emptyState emptyAnswer).1 = .ok item ∧
      ∀ evidence trip r, item ∈ evidence → getScoringInput evidence trip = .ok r →
        RiskFactor.flightDisruption ∉ r.2 := by
  obtain ⟨item, hfetch, h⟩ := (missing_reading_counts_as_zero [] answeredTrip).2 amadeusFlightStatus
    List.mem_cons_self emptyState emptyAnswer "https://provider" [] asks_emptyAnswer rfl
    not_carriesNumber_empty
  exact ⟨item, hfetch, (h (.flightDisruption, "flight_status") List.mem_cons_self rfl).1⟩

end RouteShield
