import RouteShield.Domain.Models

/-!
Deterministic route-risk scoring. Contributions and the score are doubles rounded to
hundredths. A score is decided by whole hundredths: the rounded weighted readings add
up exactly, whatever the floating-point summation loses on the way.
-/

namespace RouteShield

open Binary64 (hundredths cents)

def riskPolicyVersion : String := "mvp-2026-07-14"

/-- The policy's weights in hundredths; each literal is the double nearest to it. -/
def weightHundredths : RiskFactor → ℤ
  | .flightDisruption => 35
  | .connectionFragility => 20
  | .airportWeather => 20
  | .groundRouteDisruption => 10
  | .destinationAdvisory => 10
  | .travelerTripCriticality => 5

/-- The factors in the order of the weight table. -/
def RiskFactor.all : List RiskFactor :=
  [.flightDisruption, .connectionFragility, .airportWeather, .groundRouteDisruption,
    .destinationAdvisory, .travelerTripCriticality]

/-- The arithmetic that a score is calculated in. -/
structure Arithmetic where
  literal : ℚ → ℚ
  mul : ℚ → ℚ → ℚ
  sum : List ℚ → ℚ
  round2 : ℚ → ℚ

/-- The service's own, in which every literal, product and sum is a double. -/
def Arithmetic.doubles : Arithmetic where
  literal := Binary64.round
  mul x y := Binary64.round (x * y)
  sum := Binary64.sum
  round2 := Binary64.round2

def weightsIn (arithmetic : Arithmetic) : List (RiskFactor × ℚ) :=
  RiskFactor.all.map (fun factor => (factor, arithmetic.literal (weightHundredths factor / 100)))

def weights : List (RiskFactor × ℚ) := weightsIn .doubles

def severityForScore (score : ℚ) : Severity :=
  if score < 25 then .low
  else if score < 50 then .watch
  else if score < 75 then .high
  else .critical

/-- Each factor's score times its weight, rounded to hundredths. -/
def contributionsIn (arithmetic : Arithmetic) (factors : RiskFactors) : List (RiskFactor × ℚ) :=
  (weightsIn arithmetic).map (fun (factor, weight) =>
    (factor, arithmetic.round2 (arithmetic.mul (factors.get factor) weight)))

def scoreIn (arithmetic : Arithmetic) (factors : RiskFactors) : ℚ :=
  arithmetic.round2 (arithmetic.sum ((contributionsIn arithmetic factors).map Prod.snd))

/-- `calculate_risk`, with the arithmetic left open. The identifier and the time are the record's
defaults, drawn when it is built. -/
def calculateRiskIn (arithmetic : Arithmetic) (assessmentId tripId : Uuid) (now : Time)
    (factors : RiskFactors) (evidenceIds : List Uuid) (unknownFactors : List RiskFactor) :
    Except Fault RiskAssessment :=
  let score := scoreIn arithmetic factors
  if h : 0 ≤ score ∧ score ≤ 100 then
    .ok
      { assessmentId
        tripId
        policyVersion := riskPolicyVersion
        riskScore := ⟨score, h⟩
        severity := severityForScore score
        factorContributions := contributionsIn arithmetic factors
        assessmentTime := now
        evidenceIds
        unknownFactors
        uncertainty := if unknownFactors = [] then "low" else "high" }
  else .error (.validation "RiskAssessment")

theorem calculateRiskIn_ok {arithmetic : Arithmetic} {factors : RiskFactors}
    (h : 0 ≤ scoreIn arithmetic factors ∧ scoreIn arithmetic factors ≤ 100)
    (assessmentId tripId : Uuid) (now : Time) (evidenceIds : List Uuid)
    (unknownFactors : List RiskFactor) :
    calculateRiskIn arithmetic assessmentId tripId now factors evidenceIds unknownFactors =
      .ok
        { assessmentId
          tripId
          policyVersion := riskPolicyVersion
          riskScore := ⟨scoreIn arithmetic factors, h⟩
          severity := severityForScore (scoreIn arithmetic factors)
          factorContributions := contributionsIn arithmetic factors
          assessmentTime := now
          evidenceIds
          unknownFactors
          uncertainty := if unknownFactors = [] then "low" else "high" } :=
  dif_pos h

def contributions (factors : RiskFactors) : List (RiskFactor × ℚ) :=
  contributionsIn .doubles factors

def scoreOf (factors : RiskFactors) : ℚ := scoreIn .doubles factors

def calculateRisk (assessmentId tripId : Uuid) (now : Time) (factors : RiskFactors)
    (evidenceIds : List Uuid) (unknownFactors : List RiskFactor) : Except Fault RiskAssessment :=
  calculateRiskIn .doubles assessmentId tripId now factors evidenceIds unknownFactors

/-! ### The score in hundredths -/

/-- The weighted readings in whole hundredths of a point. -/
def totalCents (factors : RiskFactors) : ℤ :=
  (RiskFactor.all.map (fun factor => cents (factors.get factor) (weightHundredths factor))).sum

theorem weightHundredths_bounds (factor : RiskFactor) :
    0 ≤ weightHundredths factor ∧ weightHundredths factor ≤ 100 := by
  cases factor <;> decide

theorem cents_get_bounds (factors : RiskFactors) (factor : RiskFactor) :
    0 ≤ cents (factors.get factor) (weightHundredths factor) ∧
      cents (factors.get factor) (weightHundredths factor) ≤ 100 * weightHundredths factor :=
  Binary64.cents_bounds (factors.get factor).2.1 (factors.get factor).2.2
    (weightHundredths_bounds factor).1 (weightHundredths_bounds factor).2

/-- The weights add up to one, so the readings never exceed a hundred points. -/
theorem totalCents_le (factors : RiskFactors) : totalCents factors ≤ 10000 := by
  have h := fun factor => (cents_get_bounds factors factor).2
  have h1 := h .flightDisruption
  have h2 := h .connectionFragility
  have h3 := h .airportWeather
  have h4 := h .groundRouteDisruption
  have h5 := h .destinationAdvisory
  have h6 := h .travelerTripCriticality
  simp only [weightHundredths] at h1 h2 h3 h4 h5 h6
  simp only [totalCents, RiskFactor.all, List.map_cons, List.map_nil, List.sum_cons, List.sum_nil,
    weightHundredths]
  omega

theorem totalCents_nonneg (factors : RiskFactors) : 0 ≤ totalCents factors := by
  apply List.sum_nonneg
  intro c hc
  obtain ⟨factor, -, rfl⟩ := List.mem_map.mp hc
  exact (cents_get_bounds factors factor).1

theorem contributions_snd (factors : RiskFactors) :
    (contributions factors).map Prod.snd =
      (RiskFactor.all.map
        (fun factor => cents (factors.get factor) (weightHundredths factor))).map hundredths := by
  simp only [contributions, contributionsIn, weightsIn, List.map_map]
  rfl

theorem scoreOf_eq (factors : RiskFactors) : scoreOf factors = hundredths (totalCents factors) := by
  have hscore : scoreOf factors =
      Binary64.round2 (Binary64.sum ((contributions factors).map Prod.snd)) := rfl
  rw [hscore, contributions_snd]
  apply Binary64.round2_sum_hundredths
  · simp [RiskFactor.all]
  · intro c hc
    obtain ⟨factor, -, rfl⟩ := List.mem_map.mp hc
    exact (cents_get_bounds factors factor).1
  · exact totalCents_le factors

theorem scoreOf_bounds (factors : RiskFactors) : 0 ≤ scoreOf factors ∧ scoreOf factors ≤ 100 := by
  rw [scoreOf_eq]
  exact ⟨Binary64.hundredths_nonneg (totalCents_nonneg factors) (totalCents_le factors),
    Binary64.hundredths_le_hundred (totalCents_nonneg factors) (totalCents_le factors)⟩

/-- The score and severity that every validated input gets. -/
theorem calculateRisk_ok (assessmentId tripId : Uuid) (now : Time) (factors : RiskFactors)
    (evidenceIds : List Uuid) (unknownFactors : List RiskFactor) :
    calculateRisk assessmentId tripId now factors evidenceIds unknownFactors =
      .ok
        { assessmentId
          tripId
          policyVersion := riskPolicyVersion
          riskScore := ⟨scoreOf factors, scoreOf_bounds factors⟩
          severity := severityForScore (scoreOf factors)
          factorContributions := contributions factors
          assessmentTime := now
          evidenceIds
          unknownFactors
          uncertainty := if unknownFactors = [] then "low" else "high" } :=
  calculateRiskIn_ok (scoreOf_bounds factors) assessmentId tripId now evidenceIds unknownFactors

/-- The severity read off the hundredths. -/
def severityOfCents (k : ℤ) : Severity :=
  if k < 2500 then .low else if k < 5000 then .watch else if k < 7500 then .high else .critical

theorem severityForScore_scoreOf (factors : RiskFactors) :
    severityForScore (scoreOf factors) = severityOfCents (totalCents factors) := by
  have h0 := totalCents_nonneg factors
  have h1 := totalCents_le factors
  have h25 := Binary64.hundredths_lt_iff h0 h1 (m := 25) (by norm_num)
  have h50 := Binary64.hundredths_lt_iff h0 h1 (m := 50) (by norm_num)
  have h75 := Binary64.hundredths_lt_iff h0 h1 (m := 75) (by norm_num)
  norm_num at h25 h50 h75
  rw [scoreOf_eq, severityForScore, severityOfCents]
  simp only [h25, h50, h75]

end RouteShield
