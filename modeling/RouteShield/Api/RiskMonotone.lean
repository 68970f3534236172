import RouteShield.Api.EvidenceLoss
import RouteShield.Domain.DecimalScore

/-!
A reading that rises. It lowers no factor, and nothing that is made of the factors: neither the
score nor the severity, nor the disposition, which source health decides along with the severity and
no reading has a part in.
-/

namespace RouteShield

variable {evidence evidence' : List EvidenceEnvelope} {item : EvidenceEnvelope}
  {payload : JsonObject} {sourceType : String} {i : ℕ} {factors factors' : RiskFactors} {trip : Trip}

/-- The score that a payload carries. -/
def readingOf (payload : JsonObject) : Option PyFloat :=
  (Json.number? (riskScoreOrZero payload)).bind JsonNumber.toFloat?

/-- A payload whose score, in range, is no lower. -/
structure Raises (before after : JsonObject) : Prop where
  readings : ∃ p p' : Percent, readingOf before = some (.finite p) ∧
    readingOf after = some (.finite p') ∧ p ≤ p'

/-- Items of the same sources in the same state, whose readings are no lower. -/
def NoLower (evidence evidence' : List EvidenceEnvelope) : Prop :=
  List.Forall₂ (fun item item' => item'.sourceType = item.sourceType ∧ item'.dark = item.dark ∧
    (item'.normalizedPayload = item.normalizedPayload ∨
      Raises item.normalizedPayload item'.normalizedPayload)) evidence evidence'

theorem noLower_set (hi : evidence[i]? = some item)
    (hraises : Raises item.normalizedPayload payload) :
    NoLower evidence (evidence.set i { item with normalizedPayload := payload }) := by
  unfold NoLower
  induction evidence generalizing i with
  | nil => cases hi
  | cons first evidence ih =>
    cases i with
    | zero =>
      cases hi
      exact .cons ⟨rfl, rfl, .inr hraises⟩ (List.forall₂_same.mpr fun _ _ => ⟨rfl, rfl, .inl rfl⟩)
    | succ i => exact .cons ⟨rfl, rfl, .inl rfl⟩ (ih hi)

theorem NoLower.available (h : NoLower evidence evidence') (sourceType : String) :
    NoLower (RouteShield.available evidence sourceType)
      (RouteShield.available evidence' sourceType) := by
  refine List.rel_filter (fun item item' hitem => ?_) (List.rel_filter (fun item item' hitem => ?_) h)
  · dsimp only
    rw [hitem.2.1]
  · dsimp only
    rw [hitem.1]

theorem NoLower.exists_mem (h : NoLower evidence evidence') (hitem : item ∈ evidence) :
    ∃ item' ∈ evidence', item'.normalizedPayload = item.normalizedPayload ∨
      Raises item.normalizedPayload item'.normalizedPayload := by
  induction h with
  | nil => cases hitem
  | @cons first first' _ _ hfirst _ ih =>
    rcases List.mem_cons.mp hitem with rfl | hitem
    · exact ⟨first', List.mem_cons_self, hfirst.2.2⟩
    · obtain ⟨item', hitem', hraises⟩ := ih hitem
      exact ⟨item', List.mem_cons_of_mem _ hitem', hraises⟩

/-! ### Source health -/

theorem NoLower.available_eq_nil (h : NoLower evidence evidence') (sourceType : String) :
    RouteShield.available evidence' sourceType = [] ↔
      RouteShield.available evidence sourceType = [] := by
  rw [← List.length_eq_zero_iff, ← List.length_eq_zero_iff,
    (h.available sourceType).length_eq]

theorem NoLower.sourceHealthFor_eq (h : NoLower evidence evidence') :
    sourceHealthFor evidence' = sourceHealthFor evidence := by
  have hsource : ∀ sourceType,
      sourceUnavailable evidence' sourceType = sourceUnavailable evidence sourceType := by
    intro sourceType
    rw [Bool.eq_iff_iff, sourceUnavailable_iff, sourceUnavailable_iff, h.available_eq_nil]
  unfold sourceHealthFor
  rw [List.filter_congr fun sourceType _ => hsource sourceType]

theorem NoLower.unknownFactors_eq (h : NoLower evidence evidence') :
    unknownFactors evidence' = unknownFactors evidence := by
  have hempty : ∀ sourceType, (RouteShield.available evidence' sourceType).isEmpty =
      (RouteShield.available evidence sourceType).isEmpty := by
    intro sourceType
    rw [Bool.eq_iff_iff, List.isEmpty_iff, List.isEmpty_iff, h.available_eq_nil]
  unfold unknownFactors
  rw [List.filter_congr fun field _ => hempty field.2]

/-! ### Factors -/

theorem bestReading_le_iff_readings {b : ℚ} : bestReading evidence sourceType ≤ b ↔
    0 ≤ b ∧ ∀ item ∈ available evidence sourceType, ∀ q,
      readingOf item.normalizedPayload = some (.finite q) → q ≤ b := by
  unfold bestReading
  rw [foldl_max_le_iff]
  refine and_congr_right fun _ => ?_
  constructor
  · intro h item hitem q hq
    obtain ⟨n, hn, hfloat⟩ := Option.bind_eq_some_iff.mp hq
    refine h q (List.mem_filterMap.mpr ⟨n, mem_numbers.mpr ⟨item, hitem, hn⟩, ?_⟩)
    rw [hfloat, Option.bind_some, PyFloat.rat?_finite]
  · intro h q hq
    obtain ⟨n, hn, hfinite⟩ := List.mem_filterMap.mp hq
    obtain ⟨item, hitem, hnumber⟩ := mem_numbers.mp hn
    obtain ⟨x, hx, hrat⟩ := Option.bind_eq_some_iff.mp hfinite
    refine h item hitem q (Option.bind_eq_some_iff.mpr ⟨n, hnumber, ?_⟩)
    rw [hx, PyFloat.rat?_eq_some.mp hrat]

/-- The best reading of a source rises with its readings. -/
theorem NoLower.bestReading_le (h : NoLower evidence evidence') (sourceType : String) :
    bestReading evidence sourceType ≤ bestReading evidence' sourceType := by
  have hself : bestReading evidence' sourceType ≤ bestReading evidence' sourceType := le_rfl
  obtain ⟨hzero, hbest⟩ := bestReading_le_iff_readings.mp hself
  refine bestReading_le_iff_readings.mpr ⟨hzero, fun item hitem q hq => ?_⟩
  obtain ⟨item', hitem', hsame | ⟨p, p', hp, hp', hle⟩⟩ := (h.available sourceType).exists_mem hitem
  · exact hbest item' hitem' q (hsame ▸ hq)
  · obtain rfl : q = p := by
      rw [hp] at hq
      exact (PyFloat.finite_injective (Option.some.inj hq)).symm
    exact le_trans hle (hbest item' hitem' p' hp')

theorem NoLower.validScores (h : NoLower evidence evidence') (hvalid : ValidScores evidence) :
    ValidScores evidence' := by
  unfold NoLower at h
  induction h with
  | nil => exact hvalid
  | @cons first first' evidence evidence' hfirst hrest ih =>
    have hvalid' := ih fun item hitem => hvalid item (List.mem_cons_of_mem _ hitem)
    refine fun item hitem n hn => ?_
    rcases List.mem_cons.mp hitem with rfl | hitem
    · rcases hfirst.2.2 with hsame | ⟨p, p', -, hp', -⟩
      · exact hvalid first List.mem_cons_self n (hsame ▸ hn)
      · refine ⟨p', ?_⟩
        unfold readingOf at hp'
        rwa [hn, Option.bind_some] at hp'
    · exact hvalid' item hitem n hn

theorem NoLower.factors_le (h : NoLower evidence evidence') (hvalid : ValidScores evidence)
    (trip : Trip) :
    ∃ factors factors', getScoringInput evidence trip = .ok (factors, unknownFactors evidence) ∧
      getScoringInput evidence' trip = .ok (factors', unknownFactors evidence) ∧
      factors.le factors' := by
  obtain ⟨factors, hok, hcrit, hbest⟩ := getScoringInput_get hvalid trip
  obtain ⟨factors', hok', hcrit', hbest'⟩ := getScoringInput_get (h.validScores hvalid) trip
  rw [h.unknownFactors_eq] at hok'
  refine ⟨factors, factors', hok, hok', fun factor => ?_⟩
  have hfield : ∀ field ∈ scoringFields, factors.get field.1 ≤ factors'.get field.1 := by
    intro field hf
    rw [← Subtype.coe_le_coe, hbest field hf, hbest' field hf]
    exact h.bestReading_le field.2
  cases factor with
  | travelerTripCriticality => exact (hcrit.trans hcrit'.symm).le
  | flightDisruption => exact hfield (.flightDisruption, "flight_status") (by decide)
  | connectionFragility => exact hfield (.connectionFragility, "connection_feasibility") (by decide)
  | airportWeather => exact hfield (.airportWeather, "airport_weather") (by decide)
  | groundRouteDisruption => exact hfield (.groundRouteDisruption, "ground_route") (by decide)
  | destinationAdvisory => exact hfield (.destinationAdvisory, "destination_advisory") (by decide)

/-! ### Assessments -/

/-- Neither a factor, nor the score, the severity or the disposition is lower. -/
structure NotLowered (before after : RiskFactors × RiskAssessment × AssessmentDisposition) :
    Prop where
  factors : before.1.le after.1
  score : before.2.1.riskScore ≤ after.2.1.riskScore
  severity : before.2.1.severity.rank ≤ after.2.1.severity.rank
  disposition : before.2.2.urgency ≤ after.2.2.urgency

theorem urgency_dispositionFor_mono {before after : RiskAssessment} (health : SourceHealth)
    (h : before.severity.rank ≤ after.severity.rank) :
    (dispositionFor before health).urgency ≤ (dispositionFor after health).urgency := by
  unfold dispositionFor
  cases hbefore : before.severity <;> cases hafter : after.severity <;>
    rw [hbefore, hafter] at h <;> simp only [Severity.elevated] <;> split_ifs <;>
      first | decide | simp_all [Severity.rank]

/-- Whatever score rises with the factors carries the rest with it. -/
theorem NoLower.notLowered (h : NoLower evidence evidence') (hvalid : ValidScores evidence)
    {score : RiskFactors → ℚ}
    {risk : RiskFactors → List Uuid → List RiskFactor → Except Fault RiskAssessment}
    (hrisk : Calculates score risk)
    (hmono : ∀ {factors factors' : RiskFactors}, factors.le factors' →
      score factors ≤ score factors') (trip : Trip) :
    ∃ before after, assessedBy risk trip evidence = .ok before ∧
      assessedBy risk trip evidence' = .ok after ∧ NotLowered before after := by
  obtain ⟨factors, factors', hok, hok', hle⟩ := h.factors_le hvalid trip
  obtain ⟨before, hbefore, hscore, hseverity⟩ :=
    hrisk factors (evidence.map EvidenceEnvelope.evidenceId) (unknownFactors evidence)
  obtain ⟨after, hafter, hscore', hseverity'⟩ :=
    hrisk factors' (evidence'.map EvidenceEnvelope.evidenceId) (unknownFactors evidence)
  have hrank : before.severity.rank ≤ after.severity.rank := by
    rw [hseverity, hseverity']
    exact rank_severityForScore_mono (hmono hle)
  refine ⟨(factors, before, dispositionFor before (sourceHealthFor evidence)),
    (factors', after, dispositionFor after (sourceHealthFor evidence')), ?_, ?_, hle, ?_, hrank, ?_⟩
  · rw [assessedBy, hok]
    simp only [bind, Except.bind, hbefore]
    rfl
  · rw [assessedBy, hok']
    simp only [bind, Except.bind, hafter]
    rfl
  · rw [← Subtype.coe_le_coe, hscore, hscore']
    exact hmono hle
  · rw [h.sourceHealthFor_eq]
    exact urgency_dispositionFor_mono _ hrank

/-- In decimals the score is in range, the sum of its contributions, and within three hundredths of
the weighted sum; and in decimals, as in doubles, a reading that rises within its range lowers
nothing. -/
theorem risk_monotone (hvalid : ValidScores evidence) (hi : evidence[i]? = some item)
    (hraises : Raises item.normalizedPayload payload) (assessmentId : Uuid) (now : Time)
    (trip : Trip) :
    (∀ factors evidenceIds unknown, ∃ assessment,
      decimalRisk assessmentId trip.tripId now factors evidenceIds unknown = .ok assessment ∧
        (assessment.riskScore : ℚ) = (assessment.factorContributions.map Prod.snd).sum ∧
        |(assessment.riskScore : ℚ) - weightedSum factors| ≤ 3 / 100) ∧
    (∃ before after,
      assessedBy (decimalRisk assessmentId trip.tripId now) trip evidence = .ok before ∧
        assessedBy (decimalRisk assessmentId trip.tripId now) trip
          (evidence.set i { item with normalizedPayload := payload }) = .ok after ∧
        NotLowered before after) ∧
    ∃ before after,
      assessedBy (calculateRisk assessmentId trip.tripId now) trip evidence = .ok before ∧
        assessedBy (calculateRisk assessmentId trip.tripId now) trip
          (evidence.set i { item with normalizedPayload := payload }) = .ok after ∧
        NotLowered before after := by
  have hlower := noLower_set hi hraises
  refine ⟨fun factors evidenceIds unknown => ?_, ?_, ?_⟩
  · refine ⟨_, calculateRiskIn_ok (decimalScore_bounds factors) assessmentId trip.tripId now
      evidenceIds unknown, ?_, abs_decimalScore_sub_le factors⟩
    exact (decimalScore_eq factors).trans (decimalContributions_sum factors).symm
  · exact hlower.notLowered hvalid (calculates_calculateRiskIn decimalScore_bounds _ _ _) decimalScore_mono trip
  · exact hlower.notLowered hvalid (calculates_calculateRiskIn scoreOf_bounds _ _ _) scoreOf_mono trip

theorem readingOf_whole (score : ℤ) (hscore : |score| ≤ 128) :
    readingOf (reading sourceType score).normalizedPayload = some (.finite score) := by
  unfold readingOf
  rw [number?_reading, Option.bind_some, JsonNumber.toFloat?_int hscore]

theorem raises_escalated : Raises (reading "ground_route" 0).normalizedPayload
    (reading "ground_route" 50).normalizedPayload := by
  refine ⟨⟨0, by norm_num⟩, ⟨50, by norm_num⟩, ?_, ?_, ?_⟩
  · exact (readingOf_whole 0 (by norm_num)).trans (by norm_num)
  · exact (readingOf_whole 50 (by norm_num)).trans (by norm_num)
  · rw [← Subtype.coe_le_coe]
    norm_num

theorem risk_monotone_escalated :
    ∃ before after,
      assessedBy (decimalRisk (.v4 0) connectionTrip.tripId 0) connectionTrip escalated =
        .ok before ∧
      assessedBy (decimalRisk (.v4 0) connectionTrip.tripId 0) connectionTrip
        (escalated.set 3 { reading "ground_route" 0 with
          normalizedPayload := (reading "ground_route" 50).normalizedPayload }) = .ok after ∧
      NotLowered before after :=
  have hground : escalated[3]? = some (reading "ground_route" 0) := rfl
  (risk_monotone validScores_escalated hground raises_escalated (.v4 0) 0 connectionTrip).2.1

end RouteShield
