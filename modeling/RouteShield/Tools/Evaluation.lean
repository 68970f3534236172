import RouteShield.Api.Effects
import RouteShield.Api.EvidenceLoss

/-!
The release gate's own scoring and routing. It reads the last item of each source type, where the
service reads the best of those that are usable, and it counts the core sources with a dark item,
where the service counts those without a usable one and looks at the flight status besides.
-/

namespace RouteShield

/-- `{item.source_type: item for item in evidence}`: the last item of a type stays. -/
def lastOfType (evidence : List EvidenceEnvelope) (sourceType : String) : Option EvidenceEnvelope :=
  (evidence.filter (fun item => item.sourceType = sourceType)).getLast?

/-- No item, or a dark one. -/
def lastUnavailable (evidence : List EvidenceEnvelope) (sourceType : String) : Bool :=
  (lastOfType evidence sourceType).all EvidenceEnvelope.dark

/-- One entry of the gate's `scores`. -/
def goldenScore (evidence : List EvidenceEnvelope) (sourceType : String) : Except Fault PyFloat :=
  match (lastOfType evidence sourceType).filter (fun item => !item.dark) with
  | none => .ok (.finite 0)
  | some item =>
    match Json.number? (riskScoreOrZero item.normalizedPayload) with
    | none => .ok (.finite 0)
    | some n =>
      match n.toFloat? with
      | some value => .ok value
      | none => .error .overflow

def goldenUnknown (evidence : List EvidenceEnvelope) : List RiskFactor :=
  (scoringFields.filter (fun field => lastUnavailable evidence field.2)).map Prod.fst

/-- `_score_inputs`. -/
def scoreInputs (trip : Trip) (evidence : List EvidenceEnvelope) :
    Except Fault (RiskFactors × List RiskFactor) := do
  let flight ← goldenScore evidence "flight_status"
  let connection ← goldenScore evidence "connection_feasibility"
  let weather ← goldenScore evidence "airport_weather"
  let ground ← goldenScore evidence "ground_route"
  let advisory ← goldenScore evidence "destination_advisory"
  match percent? flight, percent? connection, percent? weather, percent? ground,
      percent? advisory with
  | some flightDisruption, some connectionFragility, some airportWeather,
      some groundRouteDisruption, some destinationAdvisory =>
    .ok
      ({ flightDisruption, connectionFragility, airportWeather, groundRouteDisruption,
         destinationAdvisory
         travelerTripCriticality := criticalityScore trip.tripCriticality },
        goldenUnknown evidence)
  | _, _, _, _, _ => .error (.validation "RiskFactors")

/-- The core source types of which some item is dark. -/
def goldenUnavailableCore (evidence : List EvidenceEnvelope) : List String :=
  coreSourceTypes.filter (fun sourceType =>
    evidence.any (fun item => item.sourceType = sourceType && item.dark))

def goldenDisposition (assessment : RiskAssessment) (evidence : List EvidenceEnvelope) :
    AssessmentDisposition :=
  if 2 ≤ (goldenUnavailableCore evidence).length then .needsHumanReview
  else if assessment.severity.elevated then .investigate
  else if assessment.severity = .watch then .managerQueue
  else .monitor

structure GoldenScenarioResult where
  scenario : DemoScenario
  riskScore : Percent
  severity : Severity
  disposition : AssessmentDisposition
  providerContractValid : Bool
  unknownFactors : List RiskFactor

/-- `evaluate_golden_scenario` on the evidence that it collected. -/
def evaluateGoldenScenario (assessmentId : Uuid) (now : Time) (trip : Trip)
    (scenario : DemoScenario) (evidence : List EvidenceEnvelope) :
    Except Fault GoldenScenarioResult := do
  let (factors, unknown) ← scoreInputs trip evidence
  let assessment ← calculateRisk assessmentId trip.tripId now factors
    (evidence.map (fun item => item.evidenceId)) unknown
  return {
    scenario
    riskScore := assessment.riskScore
    severity := assessment.severity
    disposition := goldenDisposition assessment evidence
    providerContractValid := evidence.all (fun item => item.sourceName ≠ "" ∧
      item.sourceUrlOrRecordId ≠ "" ∧ item.retrievedAt ≤ item.expiresAt)
    unknownFactors := unknown }

/-! ### What the gate reads -/

/-- The score of an item, 0 without a number. -/
def EvidenceEnvelope.score (item : EvidenceEnvelope) : ℚ :=
  (((Json.number? (riskScoreOrZero item.normalizedPayload)).bind JsonNumber.toFloat?).bind
    PyFloat.rat?).getD 0

/-- The score of the last item of a type, 0 where the gate sees none. -/
def lastReading (evidence : List EvidenceEnvelope) (sourceType : String) : ℚ :=
  (((lastOfType evidence sourceType).filter (fun item => !item.dark)).map
    EvidenceEnvelope.score).getD 0

variable {evidence : List EvidenceEnvelope} {sourceType : String} {item : EvidenceEnvelope}

theorem lastOfType_mem (h : lastOfType evidence sourceType = some item) :
    item ∈ evidence ∧ item.sourceType = sourceType := by
  obtain ⟨hmem, htype⟩ := List.mem_filter.mp (List.mem_of_getLast? h)
  exact ⟨hmem, of_decide_eq_true htype⟩

theorem score_bounds (hvalid : ValidScores evidence) (hitem : item ∈ evidence) :
    0 ≤ item.score ∧ item.score ≤ 100 := by
  unfold EvidenceEnvelope.score
  cases hn : Json.number? (riskScoreOrZero item.normalizedPayload) with
  | none => norm_num
  | some n =>
    obtain ⟨p, hp⟩ := hvalid item hitem n hn
    rw [Option.bind_some, hp, Option.bind_some, PyFloat.rat?_finite]
    exact p.property

/-- On valid scores the gate reads the last item. -/
theorem goldenScore_valid (hvalid : ValidScores evidence) (sourceType : String) :
    goldenScore evidence sourceType = .ok (.finite (lastReading evidence sourceType)) ∧
      0 ≤ lastReading evidence sourceType ∧ lastReading evidence sourceType ≤ 100 := by
  unfold goldenScore lastReading
  cases hlast : (lastOfType evidence sourceType).filter (fun item => !item.dark) with
  | none => exact ⟨rfl, by norm_num, by norm_num⟩
  | some item =>
    have hitem := (lastOfType_mem (Option.filter_eq_some_iff.mp hlast).1).1
    refine ⟨?_, score_bounds hvalid hitem⟩
    simp only [Option.map_some, Option.getD_some, EvidenceEnvelope.score]
    cases hn : Json.number? (riskScoreOrZero item.normalizedPayload) with
    | none => rfl
    | some n =>
      obtain ⟨p, hp⟩ := hvalid item hitem n hn
      simp only [Option.bind_some, hp, PyFloat.rat?_finite, Option.getD_some]

theorem scoreInputs_valid (hvalid : ValidScores evidence) (trip : Trip) :
    ∃ factors, scoreInputs trip evidence = .ok (factors, goldenUnknown evidence) ∧
      factors.travelerTripCriticality = criticalityScore trip.tripCriticality ∧
      ∀ field ∈ scoringFields, (factors.get field.1 : ℚ) = lastReading evidence field.2 := by
  have hscore := fun sourceType => (goldenScore_valid hvalid sourceType).1
  have hpercent : ∀ sourceType, percent? (.finite (lastReading evidence sourceType)) =
      some ⟨lastReading evidence sourceType, (goldenScore_valid hvalid sourceType).2⟩ :=
    fun sourceType => percent?_eq_some.mpr rfl
  refine ⟨⟨⟨_, (goldenScore_valid hvalid "flight_status").2⟩,
    ⟨_, (goldenScore_valid hvalid "connection_feasibility").2⟩,
    ⟨_, (goldenScore_valid hvalid "airport_weather").2⟩,
    ⟨_, (goldenScore_valid hvalid "ground_route").2⟩,
    ⟨_, (goldenScore_valid hvalid "destination_advisory").2⟩,
    criticalityScore trip.tripCriticality⟩, ?_, rfl, ?_⟩
  · simp only [scoreInputs, hscore, hpercent, bind, Except.bind]
  · simp only [scoringFields, List.forall_mem_cons, RiskFactors.get]
    simp

/-! ### Where both read alike -/

/-- The last item of a type is usable, and none of the usable ones scores more. -/
def LastIsBest (evidence : List EvidenceEnvelope) (sourceType : String) : Prop :=
  available evidence sourceType ≠ [] → ∃ last, lastOfType evidence sourceType = some last ∧
    last.dark = false ∧ ∀ item ∈ available evidence sourceType, item.score ≤ last.score

/-- The best reading bounds the scores of the usable items, and nothing below it does. -/
theorem bestReading_le_iff (hvalid : ValidScores evidence) {c : ℚ} (hc : 0 ≤ c) :
    bestReading evidence sourceType ≤ c ↔
      ∀ item ∈ available evidence sourceType, item.score ≤ c := by
  rw [bestReading, foldl_max_le_iff, and_iff_right hc]
  constructor
  · intro h item hitem
    unfold EvidenceEnvelope.score
    cases hn : Json.number? (riskScoreOrZero item.normalizedPayload) with
    | none => exact hc
    | some n =>
      obtain ⟨p, hp⟩ := hvalid item (mem_available.mp hitem).1 n hn
      rw [Option.bind_some, hp, Option.bind_some, PyFloat.rat?_finite]
      exact h _ (List.mem_filterMap.mpr ⟨n, mem_numbers.mpr ⟨item, hitem, hn⟩, by rw [hp]; rfl⟩)
  · intro h q hq
    obtain ⟨n, hn, hnq⟩ := List.mem_filterMap.mp hq
    obtain ⟨item, hitem, hnumber⟩ := mem_numbers.mp hn
    have hscore := h item hitem
    rwa [EvidenceEnvelope.score, hnumber, Option.bind_some, hnq, Option.getD_some] at hscore

theorem bestReading_nonneg (evidence : List EvidenceEnvelope) (sourceType : String) :
    0 ≤ bestReading evidence sourceType := ((foldl_max_le_iff _ _ _).mp le_rfl).1

theorem mem_available_of_last (h : lastOfType evidence sourceType = some item)
    (hdark : item.dark = false) : item ∈ available evidence sourceType :=
  mem_available.mpr ⟨(lastOfType_mem h).1, (lastOfType_mem h).2, hdark⟩

theorem readsAlike_iff (hvalid : ValidScores evidence) (sourceType : String) :
    (lastReading evidence sourceType = bestReading evidence sourceType ∧
      (lastUnavailable evidence sourceType = true ↔ available evidence sourceType = [])) ↔
    LastIsBest evidence sourceType := by
  by_cases hnone : available evidence sourceType = []
  · have hbest : bestReading evidence sourceType = 0 :=
      bestReading_none (by rw [numbers, hnone, List.filterMap_nil])
    have hdark : ∀ last, lastOfType evidence sourceType = some last → last.dark = true := by
      intro last hlast
      by_contra hlight
      have hmem := mem_available_of_last hlast (Bool.eq_false_iff.mpr hlight)
      rw [hnone] at hmem
      cases hmem
    refine iff_of_true ⟨?_, iff_of_true ?_ hnone⟩ fun h => absurd hnone h
    · rw [hbest, lastReading]
      cases hlast : lastOfType evidence sourceType with
      | none => rfl
      | some last =>
        rw [Option.filter_some, if_neg (by rw [hdark last hlast]; simp)]
        rfl
    · rw [lastUnavailable, Option.all_eq_true]
      exact hdark
  · unfold LastIsBest
    rw [imp_iff_right hnone]
    cases hlast : lastOfType evidence sourceType with
    | none => exact iff_of_false (by simp [lastUnavailable, hlast, hnone]) (by simp)
    | some last =>
      by_cases hdark : last.dark = true
      · exact iff_of_false (by simp [lastUnavailable, hlast, hnone, hdark]) (by simp [hdark])
      · rw [Bool.not_eq_true] at hdark
        have hmem := mem_available_of_last hlast hdark
        have hbelow : last.score ≤ bestReading evidence sourceType :=
          (bestReading_le_iff hvalid (bestReading_nonneg _ _)).mp le_rfl last hmem
        have habove : bestReading evidence sourceType ≤ last.score ↔
            ∀ item ∈ available evidence sourceType, item.score ≤ last.score :=
          bestReading_le_iff hvalid (score_bounds hvalid (mem_available.mp hmem).1).1
        have hreading : lastReading evidence sourceType = last.score := by
          rw [lastReading, hlast, Option.filter_some, if_pos (by rw [hdark]; rfl)]
          rfl
        have hknown : lastUnavailable evidence sourceType = true ↔
            available evidence sourceType = [] := by simp [lastUnavailable, hlast, hnone, hdark]
        rw [and_iff_left hknown, hreading]
        constructor
        · intro heq
          exact ⟨last, rfl, hdark, habove.mp heq.ge⟩
        · rintro ⟨last', hsame, -, hbest⟩
          cases hsame
          exact le_antisymm hbelow (habove.mpr hbest)

/-! ### Unknown factors -/

theorem scoringFields_inj {field field' : RiskFactor × String} (h : field ∈ scoringFields)
    (h' : field' ∈ scoringFields) (heq : field.1 = field'.1) : field = field' :=
  List.inj_on_of_nodup_map (f := Prod.fst) (l := scoringFields) (by decide) h h' heq

/-- Two selections of the scoring fields are one list when they select alike. -/
theorem selected_fields_iff (p q : String → Bool) :
    (scoringFields.filter (fun field => p field.2)).map Prod.fst =
        (scoringFields.filter (fun field => q field.2)).map Prod.fst ↔
      ∀ field ∈ scoringFields, p field.2 = q field.2 := by
  have hmem : ∀ (r : String → Bool) field, field ∈ scoringFields →
      (field.1 ∈ (scoringFields.filter (fun field => r field.2)).map Prod.fst ↔
        r field.2 = true) := by
    intro r field hfield
    rw [List.mem_map]
    constructor
    · rintro ⟨field', hfield', heq⟩
      obtain ⟨hin, hr⟩ := List.mem_filter.mp hfield'
      rwa [scoringFields_inj hin hfield heq] at hr
    · exact fun hr => ⟨field, List.mem_filter.mpr ⟨hfield, hr⟩, rfl⟩
  constructor
  · intro h field hfield
    rw [Bool.eq_iff_iff, ← hmem p field hfield, ← hmem q field hfield, h]
  · intro h
    exact congrArg (List.map Prod.fst) (List.filter_congr h)

theorem goldenUnknown_eq_iff (evidence : List EvidenceEnvelope) :
    goldenUnknown evidence = unknownFactors evidence ↔ ∀ field ∈ scoringFields,
      (lastUnavailable evidence field.2 = true ↔ available evidence field.2 = []) := by
  refine (selected_fields_iff (lastUnavailable evidence)
    (fun sourceType => (available evidence sourceType).isEmpty)).trans ?_
  refine forall₂_congr fun field _ => ?_
  rw [Bool.eq_iff_iff, List.isEmpty_iff]

theorem RiskFactors.ext_fields {factors factors' : RiskFactors}
    (hcrit : factors.travelerTripCriticality = factors'.travelerTripCriticality)
    (h : ∀ field ∈ scoringFields, factors.get field.1 = factors'.get field.1) :
    factors = factors' := by
  simp only [scoringFields, List.forall_mem_cons, RiskFactors.get] at h
  obtain ⟨h1, h2, h3, h4, h5, -⟩ := h
  cases factors
  cases factors'
  simp_all

/-- The gate's scoring input is the service's exactly when of each source type that has a usable
item the last item is usable and best. -/
theorem scoreInputs_eq_iff (hvalid : ValidScores evidence) (trip : Trip) :
    scoreInputs trip evidence = getScoringInput evidence trip ↔
      ∀ field ∈ scoringFields, LastIsBest evidence field.2 := by
  obtain ⟨golden, hgolden, hgcrit, hgfields⟩ := scoreInputs_valid hvalid trip
  obtain ⟨factors, hinput, -⟩ := getScoringInput_valid hvalid trip
  obtain ⟨factors', hsame, hcrit, hfields⟩ := getScoringInput_eq_ok.mp hinput
  cases hsame
  have hbest : ∀ field ∈ scoringFields, (factors.get field.1 : ℚ) = bestReading evidence field.2 := by
    intro field hfield
    obtain ⟨p, hp, hpq⟩ := fieldReading_valid hvalid field.2
    rw [hfields field hfield] at hp
    cases hp
    exact hpq
  have hfactors : golden = factors ↔ ∀ field ∈ scoringFields,
      lastReading evidence field.2 = bestReading evidence field.2 := by
    constructor
    · rintro rfl field hfield
      rw [← hgfields field hfield, hbest field hfield]
    · intro h
      refine RiskFactors.ext_fields (hgcrit.trans hcrit.symm) fun field hfield => Subtype.ext ?_
      rw [hgfields field hfield, hbest field hfield, h field hfield]
  rw [hgolden, hinput, Except.ok.injEq, Prod.mk.injEq, hfactors, goldenUnknown_eq_iff,
    ← forall₂_and]
  exact forall₂_congr fun field _ => readsAlike_iff hvalid field.2

/-! ### Where both route alike -/

/-- How many core sources have a dark item. -/
def partlyDarkCoreSources (evidence : List EvidenceEnvelope) : ℕ :=
  coreSourceTypes.countP (fun sourceType =>
    ∃ item ∈ evidence, item.sourceType = sourceType ∧ item.dark = true)

/-- Two core sources have a dark item exactly when two have no usable one, or the flight status has
none and the weighted reading is at least 50 points. -/
def RoutedAlike (evidence : List EvidenceEnvelope) (trip : Trip) : Prop :=
  2 ≤ partlyDarkCoreSources evidence ↔
    (5000 ≤ weightedReading evidence trip ∧ available evidence "flight_status" = []) ∨
      2 ≤ darkCoreSources evidence

theorem length_goldenUnavailableCore (evidence : List EvidenceEnvelope) :
    (goldenUnavailableCore evidence).length = partlyDarkCoreSources evidence := by
  rw [goldenUnavailableCore, partlyDarkCoreSources, List.countP_eq_length_filter]
  congr 1
  refine List.filter_congr fun sourceType _ => ?_
  rw [Bool.eq_iff_iff, List.any_eq_true, decide_eq_true_eq]
  simp only [Bool.and_eq_true, decide_eq_true_eq]

theorem elevated_severityOfCents (k : ℤ) : (severityOfCents k).elevated = true ↔ 5000 ≤ k := by
  unfold severityOfCents
  split_ifs <;> simp only [Severity.elevated, Bool.false_eq_true, false_iff, true_iff] <;> omega

/-- The route that the severity alone decides. -/
def Severity.disposition (severity : Severity) : AssessmentDisposition :=
  if severity.elevated then .investigate
  else if severity = .watch then .managerQueue
  else .monitor

theorem Severity.disposition_ne (severity : Severity) :
    severity.disposition ≠ .needsHumanReview := by
  cases severity <;> decide

/-- Both rules send to a human review or leave the route to the severity. -/
theorem ite_review_eq_iff {p q : Prop} [Decidable p] [Decidable q] (severity : Severity) :
    (if p then AssessmentDisposition.needsHumanReview else severity.disposition) =
        (if q then .needsHumanReview else severity.disposition) ↔ (p ↔ q) := by
  have hne := severity.disposition_ne
  by_cases hp : p <;> by_cases hq : q <;> simp [hp, hq, hne, hne.symm]

theorem dispositionFor_eq (assessment : RiskAssessment) (evidence : List EvidenceEnvelope) :
    dispositionFor assessment (sourceHealthFor evidence) =
      if (assessment.severity.elevated = true ∧ available evidence "flight_status" = []) ∨
          2 ≤ darkCoreSources evidence then .needsHumanReview
      else assessment.severity.disposition := by
  have hlength : (sourceHealthFor evidence).coreSourcesUnavailable.length =
      darkCoreSources evidence := by
    rw [coreSourcesUnavailable_eq, darkCoreSources, List.countP_eq_length_filter]
  have hflight : "flight_status" ∈ (sourceHealthFor evidence).coreSourcesUnavailable ↔
      available evidence "flight_status" = [] := by
    rw [coreSourcesUnavailable_eq, List.mem_filter, decide_eq_true_eq]
    simp [coreSourceTypes]
  simp only [dispositionFor, hlength, hflight]
  by_cases hfirst : assessment.severity.elevated = true ∧ available evidence "flight_status" = []
  · rw [if_pos hfirst, if_pos (Or.inl hfirst)]
  · rw [if_neg hfirst]
    by_cases hdark : 2 ≤ darkCoreSources evidence
    · rw [if_pos hdark, if_pos (Or.inr hdark)]
    · rw [if_neg hdark, if_neg (not_or.mpr ⟨hfirst, hdark⟩)]
      rfl

/-- At one severity both routes agree exactly when they agree on a human review. -/
theorem goldenDisposition_eq_iff {assessment assessment' : RiskAssessment} {k : ℤ}
    (h : assessment.severity = severityOfCents k) (h' : assessment'.severity = severityOfCents k)
    (evidence : List EvidenceEnvelope) :
    goldenDisposition assessment evidence =
        dispositionFor assessment' (sourceHealthFor evidence) ↔
      (2 ≤ partlyDarkCoreSources evidence ↔
        (5000 ≤ k ∧ available evidence "flight_status" = []) ∨ 2 ≤ darkCoreSources evidence) := by
  rw [← elevated_severityOfCents, ← h', dispositionFor_eq, goldenDisposition,
    length_goldenUnavailableCore, h.trans h'.symm]
  exact ite_review_eq_iff assessment'.severity

theorem evaluateGoldenScenario_eq_ok (assessmentId : Uuid) (now : Time) {trip : Trip}
    (scenario : DemoScenario) {factors : RiskFactors} {unknown : List RiskFactor}
    (h : scoreInputs trip evidence = .ok (factors, unknown)) :
    ∃ result assessment,
      evaluateGoldenScenario assessmentId now trip scenario evidence = .ok result ∧
      assessment.severity = severityForScore (scoreOf factors) ∧
      result.disposition = goldenDisposition assessment evidence := by
  unfold evaluateGoldenScenario
  rw [h]
  simp only [bind, Except.bind]
  rw [calculateRisk_ok]
  exact ⟨_, _, rfl, rfl, rfl⟩

theorem assessEvidence_eq_ok (assessmentId : Uuid) (now : Time) {trip : Trip}
    {factors : RiskFactors} {unknown : List RiskFactor}
    (h : getScoringInput evidence trip = .ok (factors, unknown)) :
    ∃ assessment, assessEvidence assessmentId now trip evidence =
        .ok (assessment, dispositionFor assessment (sourceHealthFor evidence)) ∧
      assessment.severity = severityForScore (scoreOf factors) := by
  unfold assessEvidence assessedBy
  rw [h]
  simp only [bind, Except.bind]
  rw [calculateRisk_ok]
  exact ⟨_, rfl, rfl⟩

/-- The gate scores and routes valid evidence like the service exactly when of each source type with
a usable item the last item is usable and best, and the two counts of core sources agree. -/
theorem release_gate_like_production_iff (assessmentId assessmentId' : Uuid) (now now' : Time)
    (trip : Trip) (scenario : DemoScenario) {evidence : List EvidenceEnvelope}
    (hvalid : ValidScores evidence) :
    (scoreInputs trip evidence = getScoringInput evidence trip ∧
      ∃ result assessment disposition,
        evaluateGoldenScenario assessmentId now trip scenario evidence = .ok result ∧
        assessEvidence assessmentId' now' trip evidence = .ok (assessment, disposition) ∧
        result.disposition = disposition) ↔
    (∀ field ∈ scoringFields, LastIsBest evidence field.2) ∧ RoutedAlike evidence trip := by
  rw [← scoreInputs_eq_iff hvalid trip]
  refine and_congr_right fun hsame => ?_
  obtain ⟨factors, hinput, hcents⟩ := getScoringInput_valid hvalid trip
  have hseverity := severityForScore_scoreOf factors
  rw [hcents] at hseverity
  obtain ⟨result, golden, hresult, hgolden, hroute⟩ :=
    evaluateGoldenScenario_eq_ok assessmentId now scenario (hsame.trans hinput)
  obtain ⟨assessment, hassessed, hassessment⟩ := assessEvidence_eq_ok assessmentId' now' hinput
  have hiff := goldenDisposition_eq_iff (hgolden.trans hseverity) (hassessment.trans hseverity)
    evidence
  rw [RoutedAlike, ← hiff, ← hroute]
  constructor
  · rintro ⟨result', assessment', disposition, h, h', heq⟩
    cases hresult.symm.trans h
    cases hassessed.symm.trans h'
    exact heq
  · exact fun heq => ⟨result, assessment, _, hresult, hassessed, heq⟩

/-- A usable flight item, and a stale one after it. -/
def staleLast : List EvidenceEnvelope :=
  [reading "flight_status" 50, { reading "flight_status" 50 with freshnessStatus := .stale }]

theorem validScores_staleLast : ValidScores staleLast := by
  intro item hitem n hn
  have hnumber : Json.number? (riskScoreOrZero item.normalizedPayload) = some (.int 50) := by
    simp only [staleLast, List.mem_cons, List.not_mem_nil, or_false] at hitem
    rcases hitem with rfl | rfl <;> rfl
  cases hn.symm.trans hnumber
  exact ⟨⟨50, by norm_num⟩, JsonNumber.toFloat?_int (by norm_num)⟩

/-- The gate takes the flight disruption for unknown, the service does not. -/
theorem stale_last_scored_apart :
    ¬ ∀ (trip : Trip) (evidence : List EvidenceEnvelope), ValidScores evidence →
      scoreInputs trip evidence = getScoringInput evidence trip := by
  intro h
  have hsame := h connectionTrip staleLast validScores_staleLast
  obtain ⟨golden, hgolden, -⟩ := scoreInputs_valid validScores_staleLast connectionTrip
  obtain ⟨factors, hinput, -⟩ := getScoringInput_valid validScores_staleLast connectionTrip
  rw [hgolden, hinput] at hsame
  have hunknown : goldenUnknown staleLast = unknownFactors staleLast :=
    congrArg Prod.snd (Except.ok.inj hsame)
  exact absurd hunknown (by decide)

theorem release_gate_like_production_iff_escalated :
    (scoreInputs connectionTrip escalated = getScoringInput escalated connectionTrip ∧
      ∃ result assessment disposition,
        evaluateGoldenScenario (.v4 0) 0 connectionTrip .disruption escalated = .ok result ∧
        assessEvidence (.v4 1) 1 connectionTrip escalated = .ok (assessment, disposition) ∧
        result.disposition = disposition) ↔
    (∀ field ∈ scoringFields, LastIsBest escalated field.2) ∧
      RoutedAlike escalated connectionTrip :=
  release_gate_like_production_iff (.v4 0) (.v4 1) 0 1 connectionTrip .disruption
    validScores_escalated

end RouteShield
