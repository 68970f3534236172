import RouteShield.Api.Scoring

/-!
What losing one evidence item does to the decision. An unknown factor scores zero, so
the score can only fall; source health can only get worse. Both rules meet in the
disposition, and the health rule makes up for a lost severity step only once two core
sources are dark.
-/

namespace RouteShield

open Binary64 (cents)

/-- `MONITOR < MANAGER_QUEUE < INVESTIGATE < NEEDS_HUMAN_REVIEW`. -/
def AssessmentDisposition.urgency : AssessmentDisposition → ℕ
  | .monitor => 0
  | .managerQueue => 1
  | .investigate => 2
  | .needsHumanReview => 3

/-- Every number an item carries is a score from 0 to 100. -/
def ValidScores (evidence : List EvidenceEnvelope) : Prop :=
  ∀ item ∈ evidence, ∀ n, Json.number? (riskScoreOrZero item.normalizedPayload) = some n →
    ∃ p : Percent, n.toFloat? = some (.finite p)

def EvidenceEnvelope.markUnavailable (item : EvidenceEnvelope) : EvidenceEnvelope :=
  { item with freshnessStatus := .unavailable }

/-- One item is marked unavailable or taken away. -/
inductive EvidenceLoss (evidence : List EvidenceEnvelope) : List EvidenceEnvelope → Prop where
  | marked (i : ℕ) (h : i < evidence.length) :
    EvidenceLoss evidence (evidence.modify i EvidenceEnvelope.markUnavailable)
  | removed (i : ℕ) (h : i < evidence.length) : EvidenceLoss evidence (evidence.eraseIdx i)

/-- The largest reading of a source type, 0 without one. -/
def bestReading (evidence : List EvidenceEnvelope) (sourceType : String) : ℚ :=
  ((numbers evidence sourceType).filterMap (fun n => n.toFloat?.bind PyFloat.rat?)).foldl max 0

/-- The policy's weighted sum of the best readings, in hundredths of a point. -/
def weightedReading (evidence : List EvidenceEnvelope) (trip : Trip) : ℤ :=
  (scoringFields.map
    (fun field => cents (bestReading evidence field.2) (weightHundredths field.1))).sum +
  cents (criticalityScore trip.tripCriticality) (weightHundredths .travelerTripCriticality)

/-- How many core sources have no item that is neither stale nor unavailable. -/
def darkCoreSources (evidence : List EvidenceEnvelope) : ℕ :=
  coreSourceTypes.countP (fun sourceType => available evidence sourceType = [])

/-- A sum falls below the threshold of 25 or of 50 points. -/
def FallsBelow (k k' : ℤ) : Prop := (k' < 2500 ∧ 2500 ≤ k) ∨ (k' < 5000 ∧ 5000 ≤ k)

/-! ### The readings behind a valid score -/

theorem mem_numbers_valid {evidence : List EvidenceEnvelope} (hvalid : ValidScores evidence)
    {sourceType : String} {n : JsonNumber} (hn : n ∈ numbers evidence sourceType) :
    ∃ p : Percent, n.toFloat? = some (.finite p) := by
  obtain ⟨item, hitem, hnum⟩ := mem_numbers.mp hn
  exact hvalid item (mem_available.mp hitem).1 n hnum

theorem scorable_of_valid {evidence : List EvidenceEnvelope} (hvalid : ValidScores evidence)
    (sourceType : String) : Scorable evidence sourceType := by
  refine ⟨fun n hn => ?_, ?_⟩
  · obtain ⟨p, hp⟩ := mem_numbers_valid hvalid hn
    exact ⟨_, hp, PyFloat.finite_le_finite.mpr p.2.2⟩
  · rcases List.eq_nil_or_concat (numbers evidence sourceType) with h | ⟨ns, n, h⟩
    · exact .inl h
    · have hn : n ∈ numbers evidence sourceType := by simp [h]
      obtain ⟨p, hp⟩ := mem_numbers_valid hvalid hn
      exact .inr ⟨n, hn, _, hp, PyFloat.finite_le_finite.mpr p.2.1⟩

theorem foldl_max_finite (qs : List ℚ) (q : ℚ) :
    (qs.map PyFloat.finite).foldl max (PyFloat.finite q) = PyFloat.finite (qs.foldl max q) := by
  have hmono : Monotone PyFloat.finite := fun _ _ h => PyFloat.finite_le_finite.mpr h
  induction qs generalizing q with
  | nil => rfl
  | cons r qs ih => rw [List.map_cons, List.foldl_cons, ← hmono.map_max, ih, List.foldl_cons]

theorem foldl_max_le_iff (qs : List ℚ) (q c : ℚ) :
    qs.foldl max q ≤ c ↔ q ≤ c ∧ ∀ r ∈ qs, r ≤ c := by
  induction qs generalizing q with
  | nil => simp
  | cons r qs ih => rw [List.foldl_cons, ih, max_le_iff, List.forall_mem_cons, and_assoc]

theorem maxOrZero_finite (qs : List ℚ) (h : ∀ q ∈ qs, 0 ≤ q) :
    maxOrZero (qs.map PyFloat.finite) = PyFloat.finite (qs.foldl max 0) := by
  cases qs with
  | nil => rfl
  | cons q qs =>
    rw [List.map_cons, maxOrZero, foldl_max_finite, List.foldl_cons,
      max_eq_right (h q List.mem_cons_self)]

theorem mapM_toFloat?_valid (ns : List JsonNumber)
    (h : ∀ n ∈ ns, ∃ p : Percent, n.toFloat? = some (.finite p)) :
    ns.mapM JsonNumber.toFloat? =
      some ((ns.filterMap (fun n => n.toFloat?.bind PyFloat.rat?)).map PyFloat.finite) := by
  induction ns with
  | nil => rfl
  | cons n ns ih =>
    obtain ⟨p, hp⟩ := h n List.mem_cons_self
    have hns := ih (fun m hm => h m (List.mem_cons_of_mem n hm))
    simp [List.mapM_cons, hp, hns]

/-- On valid scores the code reads the best reading of each source type. -/
theorem fieldReading_valid {evidence : List EvidenceEnvelope} (hvalid : ValidScores evidence)
    (sourceType : String) :
    ∃ p : Percent, fieldReading evidence sourceType = some p ∧
      p = bestReading evidence sourceType := by
  obtain ⟨p, hp⟩ := Option.isSome_iff_exists.mp
    ((fieldReading_isSome evidence sourceType).mpr (scorable_of_valid hvalid sourceType))
  refine ⟨p, hp, ?_⟩
  have hns : ∀ n ∈ numbers evidence sourceType, ∃ p : Percent, n.toFloat? = some (.finite p) :=
    fun n hn => mem_numbers_valid hvalid hn
  rw [fieldReading_eq_some, fieldScore, mapM_toFloat?_valid _ hns] at hp
  simp only [Except.ok.injEq] at hp
  rw [maxOrZero_finite] at hp
  · exact (PyFloat.finite_injective hp).symm
  · intro q hq
    obtain ⟨n, hn, hnq⟩ := List.mem_filterMap.mp hq
    obtain ⟨r, hr⟩ := hns n hn
    rw [hr, Option.bind_some, PyFloat.rat?_finite] at hnq
    cases hnq
    exact r.2.1

/-- Valid readings make factors, each the best reading of its source. -/
theorem getScoringInput_get {evidence : List EvidenceEnvelope} (hvalid : ValidScores evidence)
    (trip : Trip) :
    ∃ factors, getScoringInput evidence trip = .ok (factors, unknownFactors evidence) ∧
      factors.travelerTripCriticality = criticalityScore trip.tripCriticality ∧
      ∀ field ∈ scoringFields, (factors.get field.1 : ℚ) = bestReading evidence field.2 := by
  obtain ⟨r, hr⟩ := (getScoringInput_ok_iff evidence trip).mpr
    (fun field _ => scorable_of_valid hvalid field.2)
  obtain ⟨factors, rfl, hcrit, hfields⟩ := getScoringInput_eq_ok.mp hr
  refine ⟨factors, hr, hcrit, fun field hf => ?_⟩
  obtain ⟨p, hp, hbest⟩ := fieldReading_valid hvalid field.2
  rw [hfields field hf] at hp
  cases hp
  exact hbest

theorem getScoringInput_valid {evidence : List EvidenceEnvelope} (hvalid : ValidScores evidence)
    (trip : Trip) : ∃ factors, getScoringInput evidence trip = .ok (factors, unknownFactors evidence) ∧
      totalCents factors = weightedReading evidence trip := by
  obtain ⟨factors, hok, hcrit, hbest⟩ := getScoringInput_get hvalid trip
  refine ⟨factors, hok, ?_⟩
  simp only [scoringFields, List.forall_mem_cons] at hbest
  obtain ⟨h1, h2, h3, h4, h5, -⟩ := hbest
  have h6 : (factors.get .travelerTripCriticality : ℚ) = criticalityScore trip.tripCriticality :=
    congrArg Subtype.val hcrit
  simp only [totalCents, RiskFactor.all, weightedReading, scoringFields, List.map_cons,
    List.map_nil, List.sum_cons, List.sum_nil, h1, h2, h3, h4, h5, h6]
  ring

/-! ### The decision from the sum and the dark sources -/

/-- The severity step that the disposition distinguishes: below 25, below 50, or above. -/
def severityStep (k : ℤ) : ℕ := if k < 2500 then 0 else if k < 5000 then 1 else 2

theorem fallsBelow_iff (k k' : ℤ) : FallsBelow k k' ↔ severityStep k' < severityStep k := by
  unfold FallsBelow severityStep
  split_ifs <;> omega

def decisionUrgency (step dark : ℕ) (flightDark : Prop) [Decidable flightDark] : ℕ :=
  if 2 ≤ dark then 3 else if step = 2 ∧ flightDark then 3 else step

theorem coreSourcesUnavailable_eq (evidence : List EvidenceEnvelope) :
    (sourceHealthFor evidence).coreSourcesUnavailable =
      coreSourceTypes.filter (fun sourceType => available evidence sourceType = []) := by
  unfold sourceHealthFor
  apply List.filter_congr
  intro sourceType _
  rw [Bool.eq_iff_iff, sourceUnavailable_iff, decide_eq_true_eq]

theorem urgency_dispositionFor (assessment : RiskAssessment) (evidence : List EvidenceEnvelope) {k : ℤ}
    (h : assessment.severity = severityOfCents k) :
    (dispositionFor assessment (sourceHealthFor evidence)).urgency =
      decisionUrgency (severityStep k) (darkCoreSources evidence)
        (available evidence "flight_status" = []) := by
  have hlen : (sourceHealthFor evidence).coreSourcesUnavailable.length = darkCoreSources evidence := by
    rw [coreSourcesUnavailable_eq, darkCoreSources, List.countP_eq_length_filter]
  have hflight : "flight_status" ∈ (sourceHealthFor evidence).coreSourcesUnavailable ↔
      available evidence "flight_status" = [] := by
    rw [coreSourcesUnavailable_eq, List.mem_filter, decide_eq_true_eq]
    simp [coreSourceTypes]
  simp only [dispositionFor, hlen, hflight, h, decisionUrgency]
  unfold severityOfCents severityStep
  split_ifs <;> simp_all [Severity.elevated, AssessmentDisposition.urgency]

theorem assessEvidence_valid {evidence : List EvidenceEnvelope} (hvalid : ValidScores evidence)
    (assessmentId : Uuid) (now : Time) (trip : Trip) :
    ∃ assessment d, assessEvidence assessmentId now trip evidence = .ok (assessment, d) ∧
      d.urgency = decisionUrgency (severityStep (weightedReading evidence trip))
        (darkCoreSources evidence) (available evidence "flight_status" = []) := by
  obtain ⟨factors, hinput, hcents⟩ := getScoringInput_valid hvalid trip
  refine ⟨_, _, by
    rw [assessEvidence, assessedBy, hinput]
    simp only [bind, Except.bind]
    rw [calculateRisk_ok]
    rfl, ?_⟩
  apply urgency_dispositionFor
  rw [← hcents]
  exact severityForScore_scoreOf factors

/-! ### What a loss can do -/

theorem EvidenceLoss.mem_of_mem_available {evidence evidence' : List EvidenceEnvelope}
    (h : EvidenceLoss evidence evidence') {sourceType : String} {item : EvidenceEnvelope}
    (hi : item ∈ available evidence' sourceType) : item ∈ available evidence sourceType := by
  rw [mem_available] at hi ⊢
  refine ⟨?_, hi.2⟩
  cases h with
  | removed i _ => exact List.mem_of_mem_eraseIdx hi.1
  | marked i _ =>
    obtain ⟨j, hj, hget⟩ := List.mem_iff_getElem.mp hi.1
    rw [List.getElem_modify] at hget
    split_ifs at hget with hij
    · have hdark := hi.2.2
      rw [← hget] at hdark
      simp [EvidenceEnvelope.markUnavailable, EvidenceEnvelope.dark] at hdark
    · exact hget ▸ List.getElem_mem _

theorem EvidenceLoss.available_eq_nil {evidence evidence' : List EvidenceEnvelope}
    (h : EvidenceLoss evidence evidence') (sourceType : String)
    (hnil : available evidence sourceType = []) : available evidence' sourceType = [] := by
  rw [List.eq_nil_iff_forall_not_mem] at hnil ⊢
  exact fun item hi => hnil item (h.mem_of_mem_available hi)

theorem EvidenceLoss.darkCoreSources_le {evidence evidence' : List EvidenceEnvelope}
    (h : EvidenceLoss evidence evidence') : darkCoreSources evidence ≤ darkCoreSources evidence' := by
  apply List.countP_mono_left
  intro sourceType _ hnil
  rw [decide_eq_true_eq] at hnil ⊢
  exact h.available_eq_nil _ hnil

theorem EvidenceLoss.validScores {evidence evidence' : List EvidenceEnvelope}
    (h : EvidenceLoss evidence evidence') (hvalid : ValidScores evidence) : ValidScores evidence' := by
  intro item hi n hn
  cases h with
  | removed i _ => exact hvalid item (List.mem_of_mem_eraseIdx hi) n hn
  | marked i _ =>
    obtain ⟨j, hj, rfl⟩ := List.mem_iff_getElem.mp hi
    rw [List.getElem_modify] at hn
    split_ifs at hn
    · exact hvalid _ (List.getElem_mem _) n hn
    · exact hvalid _ (List.getElem_mem _) n hn

/-- The two rules together: the health rule outweighs a lost step only from two dark sources on. -/
theorem decisionUrgency_le_iff {step step' dark dark' : ℕ} {flight flight' : Prop}
    [Decidable flight] [Decidable flight'] (hstep : step ≤ 2) (hstep' : step' ≤ 2)
    (hdark : dark ≤ dark') (hflight : flight → flight') :
    decisionUrgency step dark flight ≤ decisionUrgency step' dark' flight' ↔
      2 ≤ dark' ∨ ¬ step' < step := by
  unfold decisionUrgency
  split_ifs <;> simp_all <;> omega

theorem severityStep_le (k : ℤ) : severityStep k ≤ 2 := by
  unfold severityStep
  split_ifs <;> omega

/-- Losing an item keeps the decision at least as urgent exactly when two core sources are
dark afterwards or the weighted reading does not fall below 25 or 50 points. -/
theorem loss_keeps_urgency_iff (assessmentId assessmentId' : Uuid) (now now' : Time) (trip : Trip)
    {evidence evidence' : List EvidenceEnvelope} (hvalid : ValidScores evidence)
    (hloss : EvidenceLoss evidence evidence') :
    (∃ assessment assessment' d d',
      assessEvidence assessmentId now trip evidence = .ok (assessment, d) ∧
      assessEvidence assessmentId' now' trip evidence' = .ok (assessment', d') ∧
      d.urgency ≤ d'.urgency) ↔
    2 ≤ darkCoreSources evidence' ∨
      ¬ FallsBelow (weightedReading evidence trip) (weightedReading evidence' trip) := by
  obtain ⟨a, d, ha, hd⟩ := assessEvidence_valid hvalid assessmentId now trip
  obtain ⟨a', d', ha', hd'⟩ := assessEvidence_valid (hloss.validScores hvalid) assessmentId' now' trip
  have hdecision := decisionUrgency_le_iff (severityStep_le (weightedReading evidence trip))
    (severityStep_le (weightedReading evidence' trip)) hloss.darkCoreSources_le
    (hloss.available_eq_nil "flight_status")
  rw [← hd, ← hd', ← fallsBelow_iff] at hdecision
  rw [← hdecision]
  constructor
  · rintro ⟨b, b', e, e', hb, hb', hle⟩
    rw [ha] at hb
    rw [ha'] at hb'
    cases hb
    cases hb'
    exact hle
  · exact fun hle => ⟨a, a', d, d', ha, ha', hle⟩

/-! ### An escalated trip that loses its flight status -/

/-- A fresh item with a whole score. -/
def reading (sourceType : String) (score : ℤ) : EvidenceEnvelope where
  evidenceId := .v4 0
  sourceName := "fixture"
  sourceType := sourceType
  sourceUrlOrRecordId := "fixture"
  retrievedAt := 0
  expiresAt := minutes 15
  normalizedPayload := [("risk_score", .num (.int score))]

def connectionTrip : Trip where
  tenantId := "tenant"
  travelerId := "traveler"
  groundOrigin := "office"
  destinationCountry := "US"
  segments := []
  tripId := .v4 1
  createdAt := 0

def escalated : List EvidenceEnvelope :=
  [reading "flight_status" 100, reading "connection_feasibility" 80, reading "airport_weather" 0,
    reading "ground_route" 0, reading "destination_advisory" 0]

theorem number?_reading (sourceType : String) (score : ℤ) :
    Json.number? (riskScoreOrZero (reading sourceType score).normalizedPayload) =
      some (.int score) := rfl

theorem validScores_escalated : ValidScores escalated := by
  intro item hi n hn
  simp only [escalated, List.mem_cons, List.not_mem_nil, or_false] at hi
  rcases hi with rfl | rfl | rfl | rfl | rfl <;> rw [number?_reading] at hn <;> cases hn
  · exact ⟨⟨100, by norm_num⟩, JsonNumber.toFloat?_int (by norm_num)⟩
  · exact ⟨⟨80, by norm_num⟩, JsonNumber.toFloat?_int (by norm_num)⟩
  all_goals exact ⟨⟨0, by norm_num⟩, JsonNumber.toFloat?_int (by norm_num)⟩

/-- Whole best readings weigh in exactly. -/
theorem weightedReading_whole {evidence : List EvidenceEnvelope} {trip : Trip} (score : String → ℤ)
    (criticality : ℤ) (hcrit : (criticalityScore trip.tripCriticality : ℚ) = criticality)
    (h : ∀ field ∈ scoringFields, bestReading evidence field.2 = score field.2 ∧
      0 ≤ score field.2 ∧ score field.2 ≤ 100) :
    weightedReading evidence trip =
      (scoringFields.map (fun field => score field.2 * weightHundredths field.1)).sum +
        criticality * weightHundredths .travelerTripCriticality := by
  have hc := (criticalityScore trip.tripCriticality).2
  rw [hcrit] at hc
  rw [weightedReading, hcrit, Binary64.cents_intCast (by exact_mod_cast hc.1)
    (by exact_mod_cast hc.2) (by decide) (by decide)]
  congr 2
  apply List.map_congr_left
  intro field hf
  obtain ⟨hb, h0, h1⟩ := h field hf
  rw [hb, Binary64.cents_intCast h0 h1 (weightHundredths_bounds _).1 (weightHundredths_bounds _).2]

theorem bestReading_single {evidence : List EvidenceEnvelope} {sourceType : String} {m : ℤ}
    (h : numbers evidence sourceType = [.int m]) (h0 : 0 ≤ m) (h1 : m ≤ 100) :
    bestReading evidence sourceType = m := by
  have hm : |m| ≤ 128 := abs_le.mpr ⟨by omega, by omega⟩
  have h0' : (0 : ℚ) ≤ m := by exact_mod_cast h0
  simp [bestReading, h, JsonNumber.toFloat?_int hm, h0']

theorem bestReading_none {evidence : List EvidenceEnvelope} {sourceType : String}
    (h : numbers evidence sourceType = []) : bestReading evidence sourceType = 0 := by
  simp [bestReading, h]

theorem weightedReading_escalated : weightedReading escalated connectionTrip = 5200 := by
  rw [weightedReading_whole (fun sourceType => if sourceType = "flight_status" then 100
    else if sourceType = "connection_feasibility" then 80 else 0) 20 rfl]
  · decide
  · simp only [scoringFields, List.forall_mem_cons]
    refine ⟨⟨bestReading_single ?_ ?_ ?_, ?_, ?_⟩, ⟨bestReading_single ?_ ?_ ?_, ?_, ?_⟩,
      ⟨bestReading_single ?_ ?_ ?_, ?_, ?_⟩, ⟨bestReading_single ?_ ?_ ?_, ?_, ?_⟩,
      ⟨bestReading_single ?_ ?_ ?_, ?_, ?_⟩, fun _ h => by cases h⟩ <;> decide

theorem weightedReading_escalated_lost :
    weightedReading (escalated.eraseIdx 0) connectionTrip = 1700 := by
  rw [weightedReading_whole (fun sourceType =>
    if sourceType = "connection_feasibility" then 80 else 0) 20 rfl]
  · decide
  · simp only [scoringFields, List.forall_mem_cons]
    refine ⟨⟨(bestReading_none ?_).trans ?_, ?_, ?_⟩, ⟨bestReading_single ?_ ?_ ?_, ?_, ?_⟩,
      ⟨bestReading_single ?_ ?_ ?_, ?_, ?_⟩, ⟨bestReading_single ?_ ?_ ?_, ?_, ?_⟩,
      ⟨bestReading_single ?_ ?_ ?_, ?_, ?_⟩, fun _ h => by cases h⟩ <;> decide

/-- An outage of the flight source turns an investigated trip into a monitored one. -/
theorem loss_can_lower_urgency :
    ¬ ∀ (trip : Trip) (evidence evidence' : List EvidenceEnvelope), ValidScores evidence →
      EvidenceLoss evidence evidence' → ∀ assessmentId now assessment assessment' d d',
      assessEvidence assessmentId now trip evidence = .ok (assessment, d) →
      assessEvidence assessmentId now trip evidence' = .ok (assessment', d') →
      d.urgency ≤ d'.urgency := by
  intro h
  have hloss : EvidenceLoss escalated (escalated.eraseIdx 0) := .removed 0 (by decide)
  obtain ⟨a, d, ha, hd⟩ := assessEvidence_valid validScores_escalated (.v4 0) 0 connectionTrip
  obtain ⟨a', d', ha', hd'⟩ := assessEvidence_valid (hloss.validScores validScores_escalated)
    (.v4 0) 0 connectionTrip
  have hle := h connectionTrip _ _ validScores_escalated hloss (.v4 0) 0 a a' d d' ha ha'
  rw [hd, hd', weightedReading_escalated, weightedReading_escalated_lost] at hle
  revert hle
  decide

theorem loss_keeps_urgency_iff_escalated :
    (∃ assessment assessment' d d',
      assessEvidence (.v4 0) 0 connectionTrip escalated = .ok (assessment, d) ∧
      assessEvidence (.v4 1) 1 connectionTrip (escalated.eraseIdx 0) = .ok (assessment', d') ∧
      d.urgency ≤ d'.urgency) ↔
    2 ≤ darkCoreSources (escalated.eraseIdx 0) ∨
      ¬ FallsBelow (weightedReading escalated connectionTrip)
        (weightedReading (escalated.eraseIdx 0) connectionTrip) :=
  loss_keeps_urgency_iff (.v4 0) (.v4 1) 0 1 connectionTrip validScores_escalated
    (.removed 0 (by decide))

end RouteShield
