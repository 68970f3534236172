import RouteShield.Domain.RiskEngine

/-!
The risk score in exact decimal arithmetic, and what both it and the score in doubles share: a
factor that rises lowers neither the score nor the severity. In decimals the score is the sum of the
contributions as it stands, and six roundings of half a hundredth are all that it can be off by.
-/

namespace RouteShield

open Binary64 (roundHalfEven hundredths)

/-- `round(value, 2)` in decimals: the nearest hundredth, ties to even. -/
def decimalRound2 (q : ℚ) : ℚ := roundHalfEven (100 * q) / 100

/-- Literals, products and sums as they stand, and hundredths rounded in decimals. -/
def Arithmetic.decimals : Arithmetic where
  literal := id
  mul x y := x * y
  sum := List.sum
  round2 := decimalRound2

def decimalContributions (factors : RiskFactors) : List (RiskFactor × ℚ) :=
  contributionsIn .decimals factors

def decimalScore (factors : RiskFactors) : ℚ := scoreIn .decimals factors

/-- `calculate_risk` in decimals. -/
def decimalRisk (assessmentId tripId : Uuid) (now : Time) (factors : RiskFactors)
    (evidenceIds : List Uuid) (unknownFactors : List RiskFactor) : Except Fault RiskAssessment :=
  calculateRiskIn .decimals assessmentId tripId now factors evidenceIds unknownFactors

/-- What the policy weighs up, without any rounding. -/
def weightedSum (factors : RiskFactors) : ℚ :=
  (RiskFactor.all.map fun factor => (factors.get factor : ℚ) * (weightHundredths factor / 100)).sum

/-- No factor is lower. -/
def RiskFactors.le (factors factors' : RiskFactors) : Prop :=
  ∀ factor, factors.get factor ≤ factors'.get factor

/-! ### Whole hundredths -/

/-- A weighted factor in whole hundredths, in decimals. -/
def decimalCents (x : ℚ) (k : ℤ) : ℤ := roundHalfEven (x * k)

def decimalTotal (factors : RiskFactors) : ℤ :=
  (RiskFactor.all.map fun factor =>
    decimalCents (factors.get factor) (weightHundredths factor)).sum

theorem decimalRound2_mul (x : ℚ) (k : ℤ) :
    decimalRound2 (x * (k / 100)) = decimalCents x k / 100 := by
  rw [decimalRound2, decimalCents, show 100 * (x * ((k : ℚ) / 100)) = x * k by ring]

theorem decimalRound2_hundredths (k : ℤ) : decimalRound2 (k / 100) = k / 100 := by
  rw [decimalRound2, mul_div_cancel₀ _ (by norm_num : (100 : ℚ) ≠ 0),
    Binary64.roundHalfEven_intCast]

/-- A sum of hundredths is the sum in hundredths. -/
theorem sum_hundredths (ks : List ℤ) :
    (ks.map fun k : ℤ => (k : ℚ) / 100).sum = (ks.sum : ℚ) / 100 := by
  induction ks with
  | nil => simp
  | cons k ks ih =>
    rw [List.map_cons, List.sum_cons, List.sum_cons, ih]
    push_cast
    ring

theorem decimalContributions_sum (factors : RiskFactors) :
    ((decimalContributions factors).map Prod.snd).sum = (decimalTotal factors : ℚ) / 100 := by
  rw [decimalTotal, ← sum_hundredths, decimalContributions, contributionsIn, weightsIn,
    List.map_map, List.map_map, List.map_map]
  refine congrArg List.sum (List.map_congr_left fun factor _ => ?_)
  exact decimalRound2_mul _ _

theorem decimalScore_eq (factors : RiskFactors) :
    decimalScore factors = (decimalTotal factors : ℚ) / 100 := by
  have hscore : decimalScore factors =
      decimalRound2 ((decimalContributions factors).map Prod.snd).sum := rfl
  rw [hscore, decimalContributions_sum, decimalRound2_hundredths]

theorem decimalCents_mono {x y : ℚ} {k : ℤ} (hk : 0 ≤ k) (h : x ≤ y) :
    decimalCents x k ≤ decimalCents y k := by
  have hk' : (0 : ℚ) ≤ k := by exact_mod_cast hk
  exact Binary64.roundHalfEven_mono (mul_le_mul_of_nonneg_right h hk')

theorem decimalCents_bounds (factors : RiskFactors) (factor : RiskFactor) :
    0 ≤ decimalCents (factors.get factor) (weightHundredths factor) ∧
      decimalCents (factors.get factor) (weightHundredths factor) ≤ 100 * weightHundredths factor := by
  have hweight := (weightHundredths_bounds factor).1
  have hlow := decimalCents_mono hweight (factors.get factor).2.1
  have hhigh := decimalCents_mono hweight (factors.get factor).2.2
  have hzero : decimalCents 0 (weightHundredths factor) = 0 := by
    rw [decimalCents, zero_mul]
    exact_mod_cast Binary64.roundHalfEven_intCast 0
  have hhundred : decimalCents 100 (weightHundredths factor) = 100 * weightHundredths factor := by
    rw [decimalCents]
    exact_mod_cast Binary64.roundHalfEven_intCast (100 * weightHundredths factor)
  rw [hzero] at hlow
  rw [hhundred] at hhigh
  exact ⟨hlow, hhigh⟩

/-- The weights add up to one, so decimals stay in range as doubles do. -/
theorem decimalTotal_bounds (factors : RiskFactors) :
    0 ≤ decimalTotal factors ∧ decimalTotal factors ≤ 10000 := by
  have h := decimalCents_bounds factors
  have h1 := h .flightDisruption
  have h2 := h .connectionFragility
  have h3 := h .airportWeather
  have h4 := h .groundRouteDisruption
  have h5 := h .destinationAdvisory
  have h6 := h .travelerTripCriticality
  simp only [weightHundredths] at h1 h2 h3 h4 h5 h6
  simp only [decimalTotal, RiskFactor.all, List.map_cons, List.map_nil, List.sum_cons, List.sum_nil,
    weightHundredths]
  omega

theorem decimalScore_bounds (factors : RiskFactors) :
    0 ≤ decimalScore factors ∧ decimalScore factors ≤ 100 := by
  obtain ⟨h0, h1⟩ := decimalTotal_bounds factors
  have h0' : (0 : ℚ) ≤ decimalTotal factors := by exact_mod_cast h0
  have h1' : (decimalTotal factors : ℚ) ≤ 10000 := by exact_mod_cast h1
  rw [decimalScore_eq]
  constructor <;> linarith

/-- Each of six roundings is off by at most half a hundredth. -/
theorem abs_decimalScore_sub_le (factors : RiskFactors) :
    |decimalScore factors - weightedSum factors| ≤ 3 / 100 := by
  have h := fun factor => abs_le.mp (Binary64.abs_roundHalfEven_sub_le
    (factors.get factor * (weightHundredths factor : ℚ)))
  have h1 := h .flightDisruption
  have h2 := h .connectionFragility
  have h3 := h .airportWeather
  have h4 := h .groundRouteDisruption
  have h5 := h .destinationAdvisory
  have h6 := h .travelerTripCriticality
  rw [decimalScore_eq, abs_le]
  simp only [decimalTotal, decimalCents, weightedSum, RiskFactor.all, List.map_cons, List.map_nil,
    List.sum_cons, List.sum_nil]
  push_cast
  constructor <;> linarith

/-- A way to calculate the risk that always gives the severity of its score. -/
def Calculates (score : RiskFactors → ℚ)
    (risk : RiskFactors → List Uuid → List RiskFactor → Except Fault RiskAssessment) : Prop :=
  ∀ factors evidenceIds unknown, ∃ assessment, risk factors evidenceIds unknown = .ok assessment ∧
    (assessment.riskScore : ℚ) = score factors ∧
    assessment.severity = severityForScore (score factors)

/-- Any arithmetic in which no score is out of range will do. -/
theorem calculates_calculateRiskIn {arithmetic : Arithmetic}
    (hbounds : ∀ factors, 0 ≤ scoreIn arithmetic factors ∧ scoreIn arithmetic factors ≤ 100)
    (assessmentId tripId : Uuid) (now : Time) :
    Calculates (scoreIn arithmetic) (calculateRiskIn arithmetic assessmentId tripId now) :=
  fun factors evidenceIds unknown =>
    ⟨_, calculateRiskIn_ok (hbounds factors) assessmentId tripId now evidenceIds unknown, rfl, rfl⟩

/-! ### Factors that rise -/

/-- `LOW < WATCH < HIGH < CRITICAL`. -/
def Severity.rank : Severity → ℕ
  | .low => 0
  | .watch => 1
  | .high => 2
  | .critical => 3

theorem rank_severityForScore_mono {score score' : ℚ} (h : score ≤ score') :
    (severityForScore score).rank ≤ (severityForScore score').rank := by
  unfold severityForScore
  split_ifs <;> first | decide | (exfalso; linarith)

theorem decimalScore_mono {factors factors' : RiskFactors} (h : factors.le factors') :
    decimalScore factors ≤ decimalScore factors' := by
  have htotal : decimalTotal factors ≤ decimalTotal factors' :=
    List.sum_le_sum fun factor _ => decimalCents_mono (weightHundredths_bounds factor).1 (h factor)
  have htotal' : (decimalTotal factors : ℚ) ≤ decimalTotal factors' := by exact_mod_cast htotal
  rw [decimalScore_eq, decimalScore_eq]
  linarith

/-- The score in doubles rises with its factors too. -/
theorem scoreOf_mono {factors factors' : RiskFactors} (h : factors.le factors') :
    scoreOf factors ≤ scoreOf factors' := by
  have htotal : totalCents factors ≤ totalCents factors' :=
    List.sum_le_sum fun factor _ => Binary64.cents_mono (weightHundredths_bounds factor).1 (h factor)
  rw [scoreOf_eq, scoreOf_eq]
  exact Binary64.hundredths_mono htotal

end RouteShield
