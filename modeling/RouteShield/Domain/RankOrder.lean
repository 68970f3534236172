import RouteShield.Domain.Policies
import RouteShield.Domain.Ranking
import RouteShield.Lib.Prog

/-!
What the deterministic score says about two options. It is a penalty for delay and cost, taken from
a hundred, held at zero and rounded to hundredths in doubles: a better option never scores lower, and
it scores higher wherever the floor and the rounding leave room for a difference.
-/

namespace RouteShield

open Binary64 (hundredths roundHalfEven eps)

/-- What an option costs its traveler: half a point for each minute, a tenth for each unit of cost.
An infinite cost has no finite penalty. -/
def RecoveryCandidate.penalty? (candidate : RecoveryCandidate) : Option ℚ :=
  candidate.incrementalCost.val.rat?.map fun cost =>
    candidate.arrivalDelayMinutes / 2 + cost / 10

/-- No later, no dearer, and ahead by so much of penalty. -/
structure Better (gap : ℚ) (a b : RecoveryCandidate) : Prop where
  delay_le : a.arrivalDelayMinutes ≤ b.arrivalDelayMinutes
  cost_le : a.incrementalCost ≤ b.incrementalCost
  penalty_le : ∃ p ∈ a.penalty?, ∀ q ∈ b.penalty?, p + gap ≤ q

/-- Wherever the two are ranked, the one is displayed before the other. -/
def Above (candidates : List EvaluatedCandidate) (a b : EvaluatedCandidate) : Prop :=
  ∀ i j, { a with displayedPosition := some i } ∈ rankEligible candidates →
    { b with displayedPosition := some j } ∈ rankEligible candidates → i < j

/-- No better option of these candidates is displayed below a worse one. -/
def BetterAbove (policy : CorporateTravelPolicy) (candidates : List RecoveryCandidate) : Prop :=
  ∀ evaluated, (candidates.mapM fun c => evaluatePolicyEligibleCandidate c policy) = .ok evaluated →
    ∀ a ∈ evaluated, ∀ b ∈ evaluated, a.eligible = true → b.eligible = true →
      Better (1 / 100) a.toRecoveryCandidate b.toRecoveryCandidate → Above evaluated a b

/-! ### The score before it is held at zero -/

/-- The score of a delay, which is a double already, and a cost. -/
def rawScore (delay cost : ℚ) : ℚ :=
  Binary64.round (Binary64.round (100 - Binary64.round (delay / 2)) -
    Binary64.round (cost * Binary64.round (1 / 10)))

theorem round_tenth_nonneg : 0 ≤ Binary64.round (1 / 10) := Binary64.round_nonneg (by norm_num)

theorem rawScore_anti {delay delay' cost cost' : ℚ} (hdelay : delay ≤ delay') (hcost : cost ≤ cost') :
    rawScore delay' cost' ≤ rawScore delay cost := by
  have h1 : Binary64.round (delay / 2) ≤ Binary64.round (delay' / 2) :=
    Binary64.round_mono (by linarith)
  have h2 : Binary64.round (100 - Binary64.round (delay' / 2)) ≤
      Binary64.round (100 - Binary64.round (delay / 2)) :=
    Binary64.round_mono (by linarith)
  have h3 : Binary64.round (cost * Binary64.round (1 / 10)) ≤
      Binary64.round (cost' * Binary64.round (1 / 10)) :=
    Binary64.round_mono (mul_le_mul_of_nonneg_right hcost round_tenth_nonneg)
  exact Binary64.round_mono (by linarith)

/-- Up to a score of zero the doubles are off by at most a billionth of a point. -/
theorem abs_rawScore_sub_le {delay cost : ℚ} (hdelay0 : 0 ≤ delay) (hdelay : delay ≤ 200)
    (hcost0 : 0 ≤ cost) (hcost : cost ≤ 1000) :
    |rawScore delay cost - (100 - (delay / 2 + cost / 10))| ≤ 1 / 10 ^ 10 / 4 := by
  have heps : eps = 1 / 2 ^ 46 := rfl
  have h1 := Binary64.abs_round_sub_le (q := delay / 2) (by rw [abs_le]; constructor <;> linarith)
  rw [abs_le] at h1
  have h2 := Binary64.abs_round_sub_le (q := 100 - Binary64.round (delay / 2))
    (by rw [abs_le]; constructor <;> linarith)
  rw [abs_le] at h2
  have h3 := Binary64.abs_round_sub_le (q := 1 / 10) (by norm_num)
  rw [abs_le] at h3
  have h4 : |cost * Binary64.round (1 / 10) - cost / 10| ≤ 1000 * eps := by
    rw [show cost * Binary64.round (1 / 10) - cost / 10 =
      cost * (Binary64.round (1 / 10) - 1 / 10) by ring, abs_mul, abs_of_nonneg hcost0]
    exact mul_le_mul hcost (abs_le.mpr h3) (abs_nonneg _) (by norm_num)
  rw [abs_le] at h4
  have h5 := Binary64.abs_round_sub_le (q := cost * Binary64.round (1 / 10))
    (by rw [abs_le]; constructor <;> linarith)
  rw [abs_le] at h5
  have h6 := Binary64.abs_round_sub_le
    (q := Binary64.round (100 - Binary64.round (delay / 2)) -
      Binary64.round (cost * Binary64.round (1 / 10)))
    (by rw [abs_le]; constructor <;> linarith)
  rw [abs_le] at h6
  unfold rawScore
  rw [abs_le]
  constructor <;> linarith

theorem rawScore_le_hundred {delay cost : ℚ} (hdelay : 0 ≤ delay) (hcost : 0 ≤ cost) :
    rawScore delay cost ≤ 100 := by
  have hhundred : Binary64.round 100 = 100 := by
    exact_mod_cast Binary64.round_intCast (m := 100) (by norm_num)
  calc rawScore delay cost ≤ rawScore 0 0 := rawScore_anti hdelay hcost
    _ = 100 := by simp [rawScore, hhundred]

/-- Beyond a penalty of a hundred nothing is left to score. -/
theorem rawScore_le {delay : ℕ} {cost : ℚ} (hcost : 0 ≤ cost) :
    rawScore (Binary64.round delay) cost ≤
      100 - min (delay / 2 + cost / 10) 100 + 1 / 10 ^ 10 / 4 := by
  have hdelay : (min delay 200 : ℚ) ≤ Binary64.round delay := by
    have hexact : Binary64.round ((min delay 200 : ℕ) : ℤ) = ((min delay 200 : ℕ) : ℤ) :=
      Binary64.round_intCast_of_le (by rw [abs_of_nonneg] <;> omega)
    have hle : ((min delay 200 : ℕ) : ℚ) ≤ delay := by exact_mod_cast min_le_left delay 200
    have hround := Binary64.round_mono hle
    push_cast at hexact hround
    rwa [hexact] at hround
  have hclose : |rawScore (min (delay : ℚ) 200) (min cost 1000) -
      (100 - (min (delay : ℚ) 200 / 2 + min cost 1000 / 10))| ≤ 1 / 10 ^ 10 / 4 :=
    abs_rawScore_sub_le (by positivity) (min_le_right _ _) (by positivity) (min_le_right _ _)
  have hbound := (abs_le.mp hclose).2
  have hanti := rawScore_anti hdelay (min_le_left cost 1000)
  have hpenalty : min ((delay : ℚ) / 2 + cost / 10) 100 ≤
      min (delay : ℚ) 200 / 2 + min cost 1000 / 10 := by
    have hdelay0 : (0 : ℚ) ≤ delay := Nat.cast_nonneg delay
    rcases le_total (delay : ℚ) 200 with h | h <;> rcases le_total cost 1000 with h' | h' <;>
      simp only [min_eq_left h, min_eq_right h, min_eq_left h', min_eq_right h'] <;>
      rw [min_le_iff]
    · exact .inl le_rfl
    · exact .inr (by linarith)
    · exact .inr (by linarith)
    · exact .inr (by norm_num)
  linarith

theorem le_rawScore {delay : ℕ} {cost : ℚ} (hcost : 0 ≤ cost)
    (hpenalty : (delay : ℚ) / 2 + cost / 10 ≤ 100) :
    100 - (delay / 2 + cost / 10) - 1 / 10 ^ 10 / 4 ≤ rawScore (Binary64.round delay) cost := by
  have hdelay0 : (0 : ℚ) ≤ delay := Nat.cast_nonneg delay
  have hdelay : (delay : ℚ) ≤ 200 := by linarith
  have hexact : Binary64.round (delay : ℤ) = (delay : ℤ) := by
    have hdelay' : delay ≤ 200 := by exact_mod_cast hdelay
    exact Binary64.round_intCast_of_le (by rw [abs_of_nonneg] <;> omega)
  push_cast at hexact
  rw [hexact]
  linarith [(abs_le.mp (abs_rawScore_sub_le hdelay0 hdelay hcost (by linarith))).1]

/-! ### The score as it is shown -/

/-- A raw score held at zero, in hundredths. -/
def shownScore (raw : ℚ) : ℚ := Binary64.round2 (max 0 raw)

theorem shownScore_mono {raw raw' : ℚ} (h : raw ≤ raw') : shownScore raw ≤ shownScore raw' :=
  Binary64.round2_mono (max_le_max_left 0 h)

theorem shownScore_zero : shownScore 0 = 0 := by
  have hzero : roundHalfEven 0 = 0 := by exact_mod_cast Binary64.roundHalfEven_intCast 0
  simp [shownScore, Binary64.round2, hzero]

theorem shownScore_lt {raw raw' : ℚ} (hraw : 1 / 200 < raw) (hraw' : raw ≤ 100)
    (h : raw' < 1 / 200 ∨ raw' + 1 / 100 < raw) : shownScore raw' < shownScore raw := by
  have hpos : max 0 raw = raw := max_eq_right (by linarith)
  have hnonneg : 0 ≤ roundHalfEven (100 * max 0 raw') := by
    rw [← Binary64.roundHalfEven_intCast 0]
    exact Binary64.roundHalfEven_mono (by push_cast; positivity)
  have hle : roundHalfEven (100 * raw) ≤ 10000 := by
    rw [← Binary64.roundHalfEven_intCast 10000]
    exact Binary64.roundHalfEven_mono (by push_cast; linarith)
  have hlow := (abs_le.mp (Binary64.abs_roundHalfEven_sub_le (100 * raw))).1
  have hlt : roundHalfEven (100 * max 0 raw') < roundHalfEven (100 * raw) := by
    by_cases hfloor : raw' < 1 / 200
    · have hzero : roundHalfEven (100 * max 0 raw') ≤ 0 := by
        refine Binary64.roundHalfEven_le ?_
        rcases max_cases 0 raw' with ⟨hmax, -⟩ | ⟨hmax, -⟩ <;> rw [hmax] <;> push_cast <;> linarith
      have hsome : (0 : ℚ) < roundHalfEven (100 * raw) := by linarith
      exact hzero.trans_lt (by exact_mod_cast hsome)
    · -- more than a hundredth apart, the two cannot round to the same
      have hgap := h.resolve_left hfloor
      have hhigh := (abs_le.mp (Binary64.abs_roundHalfEven_sub_le (100 * raw'))).2
      have hless : (roundHalfEven (100 * raw') : ℚ) < roundHalfEven (100 * raw) := by linarith
      rw [max_eq_right (by linarith)]
      exact_mod_cast hless
  unfold shownScore
  rw [hpos, Binary64.round2_eq_hundredths, Binary64.round2_eq_hundredths]
  exact Binary64.hundredths_lt_hundredths hnonneg hlt hle

/-! ### Scores of options -/

section Scores

variable {a b : RecoveryCandidate} {score score' : ℚ}

theorem toFloat?_int_cases (n : ℤ) :
    (JsonNumber.int n).toFloat? = none ∨
      (JsonNumber.int n).toFloat? = some (.finite (Binary64.round n)) := by
  unfold JsonNumber.toFloat?
  exact (ite_eq_or_eq _ _ _).symm

theorem recoveryScore_eq_ok (h : recoveryScore a = .ok score) :
    a.incrementalCost.val.rat? = none ∧ score = 0 ∨
      ∃ cost, a.incrementalCost.val = .finite cost ∧ 0 ≤ cost ∧
        score = shownScore (rawScore (Binary64.round a.arrivalDelayMinutes) cost) := by
  unfold recoveryScore at h
  rcases toFloat?_int_cases a.arrivalDelayMinutes with hdelay | hdelay
  · rw [hdelay] at h
    cases h
  · rw [hdelay, Option.bind_some, PyFloat.rat?_finite] at h
    cases hcost : a.incrementalCost.val.rat? with
    | none =>
      rw [hcost] at h
      exact .inl ⟨rfl, (Except.ok.inj h).symm⟩
    | some cost =>
      rw [hcost] at h
      have hfinite := PyFloat.rat?_eq_some.mp hcost
      have hnonneg := a.incrementalCost.2
      rw [hfinite, PyFloat.finite_le_finite] at hnonneg
      exact .inr ⟨cost, hfinite, hnonneg, (Except.ok.inj h).symm⟩

theorem shownScore_nonneg (raw : ℚ) : 0 ≤ shownScore raw := by
  calc 0 = shownScore 0 := shownScore_zero.symm
    _ = shownScore (min 0 raw) := by simp [shownScore]
    _ ≤ shownScore raw := shownScore_mono (min_le_right _ _)

/-- No later and no dearer is scored no lower. -/
theorem recoveryScore_le (hdelay : a.arrivalDelayMinutes ≤ b.arrivalDelayMinutes)
    (hcost : a.incrementalCost ≤ b.incrementalCost) (ha : recoveryScore a = .ok score)
    (hb : recoveryScore b = .ok score') : score' ≤ score := by
  rcases recoveryScore_eq_ok hb with ⟨-, rfl⟩ | ⟨cost', hcost', -, rfl⟩
  · rcases recoveryScore_eq_ok ha with ⟨-, rfl⟩ | ⟨cost, -, -, rfl⟩
    · exact le_rfl
    · exact shownScore_nonneg _
  · have hle : a.incrementalCost.val ≤ b.incrementalCost.val := hcost
    rcases recoveryScore_eq_ok ha with ⟨hinfinite, -⟩ | ⟨cost, hfinite, -, rfl⟩
    · rw [hcost'] at hle
      obtain ⟨q, hq⟩ := PyFloat.exists_eq_finite a.incrementalCost.2 hle
      rw [hq, PyFloat.rat?_finite] at hinfinite
      cases hinfinite
    · rw [hfinite, hcost', PyFloat.finite_le_finite] at hle
      have hdelay' : (a.arrivalDelayMinutes : ℚ) ≤ b.arrivalDelayMinutes := by exact_mod_cast hdelay
      exact shownScore_mono (rawScore_anti (Binary64.round_mono hdelay') hle)

/-- A penalty that leaves something to score is told from one that is larger by more than a
hundredth. -/
theorem recoveryScore_lt (hbetter : Better (1 / 100 + 1 / 10 ^ 10) a b)
    (hsmall : ∀ p ∈ a.penalty?, p ≤ 9999 / 100) (ha : recoveryScore a = .ok score)
    (hb : recoveryScore b = .ok score') : score' < score := by
  obtain ⟨p, hp, hgap⟩ := hbetter.penalty_le
  have hp' := hsmall p hp
  obtain ⟨cost, hcost, rfl⟩ := Option.map_eq_some_iff.mp hp
  rcases recoveryScore_eq_ok ha with ⟨hinfinite, -⟩ | ⟨cost', hfinite, hcost0, rfl⟩
  · rw [hinfinite] at hcost
    cases hcost
  obtain rfl : cost' = cost := by
    rw [hfinite, PyFloat.rat?_finite] at hcost
    exact Option.some.inj hcost
  have hraw := le_rawScore hcost0 (hp'.trans (by norm_num))
  have hle := rawScore_le_hundred
    (Binary64.round_nonneg (q := (a.arrivalDelayMinutes : ℚ)) (Nat.cast_nonneg _)) hcost0
  rcases recoveryScore_eq_ok hb with ⟨-, rfl⟩ | ⟨dearer, hdearer, hdearer0, rfl⟩
  · rw [← shownScore_zero]
    exact shownScore_lt (by linarith) hle (.inl (by norm_num))
  · have hq := hgap (b.arrivalDelayMinutes / 2 + dearer / 10)
      (by simp [RecoveryCandidate.penalty?, hdearer])
    have hupper : rawScore (Binary64.round b.arrivalDelayMinutes) dearer ≤
        100 - min (b.arrivalDelayMinutes / 2 + dearer / 10) 100 + 1 / 10 ^ 10 / 4 :=
      rawScore_le hdearer0
    apply shownScore_lt (by linarith) hle
    rcases le_total ((b.arrivalDelayMinutes : ℚ) / 2 + dearer / 10) 100 with hsome | hnone
    · rw [min_eq_left hsome] at hupper
      exact .inr (by linarith)
    · rw [min_eq_right hnone] at hupper
      exact .inl (by linarith)

end Scores

/-! ### Options that no policy excludes -/

def openOption (candidateId : String) (arrivalDelayMinutes : ℕ) (cost : {q : ℚ // 0 ≤ q}) :
    RecoveryCandidate :=
  { candidateId, available := true, policyCompliant := true, accessibilityCompliant := true,
    feasible := true, arrivalDelayMinutes,
    incrementalCost := ⟨.finite cost, PyFloat.finite_le_finite.mpr cost.2⟩,
    connectionMinutes := 60 }

/-- The option as it is evaluated. -/
def scoredOption (option : RecoveryCandidate) (score : Percent) : EvaluatedCandidate :=
  { option with
    eligible := true
    exclusionReasons := []
    deterministicRecoveryScore := some score
    normalizedCandidateFeatures :=
      [("available", .bool true), ("policy_compliant", .bool true),
        ("accessibility_compliant", .bool true), ("feasible", .bool true),
        ("arrival_delay_minutes", .num (.int option.arrivalDelayMinutes)),
        ("incremental_cost", .num (.float option.incrementalCost)),
        ("connection_minutes", .num (.int 60))] }

/-! ### Options on display -/

section Displayed

variable {policy : CorporateTravelPolicy} {candidates : List RecoveryCandidate}
  {evaluated : List EvaluatedCandidate} {a b : EvaluatedCandidate}

/-- What is ranked before another is displayed before it. -/
theorem above_of_ranksBefore_eq_false (h : ranksBefore b a = false) : Above evaluated a b := by
  intro i j hi hj
  obtain ⟨m, c, hc, hplace⟩ := mem_rankEligible.mp hi
  obtain ⟨n, d, hd, hplace'⟩ := mem_rankEligible.mp hj
  obtain rfl : m + 1 = i := Option.some.inj (congrArg EvaluatedCandidate.displayedPosition hplace)
  obtain rfl : n + 1 = j := Option.some.inj (congrArg EvaluatedCandidate.displayedPosition hplace')
  have hkey : rankKey c = rankKey a :=
    calc rankKey c = rankKey { c with displayedPosition := some (m + 1) } := rfl
      _ = rankKey a := by rw [hplace]; rfl
  have hkey' : rankKey d = rankKey b :=
    calc rankKey d = rankKey { d with displayedPosition := some (n + 1) } := rfl
      _ = rankKey b := by rw [hplace']; rfl
  have hbefore : ranksBefore d c = false := by
    unfold ranksBefore at h ⊢
    rwa [hkey, hkey']
  rcases lt_trichotomy m n with hlt | rfl | hlt
  · omega
  · rw [Option.some.inj (hc.symm.trans hd), sortOrder_ranksBefore.refl] at hbefore
    cases hbefore
  · obtain ⟨hm, hc⟩ := List.getElem?_eq_some_iff.mp hc
    obtain ⟨hn, hd⟩ := List.getElem?_eq_some_iff.mp hd
    have hsorted : ranksBefore (eligibleInOrder evaluated)[n] (eligibleInOrder evaluated)[m] = true :=
      List.pairwise_iff_getElem.mp (sortOrder_ranksBefore.pairwise _) n m hn hm hlt
    rw [hc, hd, hbefore] at hsorted
    cases hsorted

theorem evaluateCandidate_score {candidate : RecoveryCandidate} {minimum : ℕ}
    (h : evaluateCandidate candidate minimum = .ok a) (heligible : a.eligible = true) :
    a.toRecoveryCandidate = candidate ∧ recoveryScore candidate = .ok (rankKey a).1 := by
  simp only [evaluateCandidate, evaluateCandidateWith] at h
  split at h
  · obtain ⟨score, hscore, h⟩ := except_bind_eq_ok.mp h
    cases hq : recoveryScore candidate with
    | error fault =>
      rw [hq] at hscore
      cases hscore
    | ok q =>
      rw [hq] at hscore
      cases hscore
      dsimp only at h
      split at h
      · cases h
        exact ⟨rfl, rfl⟩
      · cases h
  · next hreasons =>
    cases h
    exact absurd heligible hreasons

/-- The key of an eligible candidate is its score. -/
theorem recoveryScore_rankKey {candidate : RecoveryCandidate}
    (h : evaluatePolicyEligibleCandidate candidate policy = .ok a) (heligible : a.eligible = true) :
    recoveryScore a.toRecoveryCandidate = .ok (rankKey a).1 := by
  unfold evaluatePolicyEligibleCandidate evaluatePolicyEligibleCandidateWith at h
  obtain ⟨alone, halone, h⟩ := except_bind_eq_ok.mp h
  dsimp only at h
  split at h
  · cases h
    obtain ⟨hcandidate, hscore⟩ := evaluateCandidate_score halone heligible
    show recoveryScore alone.toRecoveryCandidate = .ok (rankKey alone).1
    rw [hcandidate, hscore]
  · cases h
    cases heligible

theorem exists_position (ha : a ∈ evaluated) (heligible : a.eligible = true) :
    ∃ i, { a with displayedPosition := some i } ∈ rankEligible evaluated := by
  obtain ⟨i, hi⟩ := List.mem_iff_getElem?.mp (mem_eligibleInOrder.mpr ⟨ha, heligible⟩)
  exact ⟨i + 1, mem_rankEligible.mpr ⟨i, a, hi, rfl⟩⟩

theorem Above.asymm (h : Above evaluated a b) (ha : a ∈ evaluated) (hb : b ∈ evaluated)
    (heligible : a.eligible = true) (heligible' : b.eligible = true) : ¬Above evaluated b a := by
  intro h'
  obtain ⟨i, hi⟩ := exists_position ha heligible
  obtain ⟨j, hj⟩ := exists_position hb heligible'
  have hlt := h i j hi hj
  have hlt' := h' j i hj hi
  omega

theorem scored (hevaluated : (candidates.mapM fun c => evaluatePolicyEligibleCandidate c policy) =
      .ok evaluated) (ha : a ∈ evaluated) (heligible : a.eligible = true) :
    recoveryScore a.toRecoveryCandidate = .ok (rankKey a).1 := by
  have hall : ∀ e ∈ evaluated, e.eligible = true →
      recoveryScore e.toRecoveryCandidate = .ok (rankKey e).1 := by
    have heach := mapM_eq_ok.mp hevaluated
    clear hevaluated ha
    induction heach with
    | nil => exact List.forall_mem_nil _
    | cons he _ ih => exact List.forall_mem_cons.mpr ⟨recoveryScore_rankKey he, ih⟩
  exact hall a ha heligible

/-- The scores decide, and where they tie the identifiers. A better option never scores lower; it
scores higher wherever it has a hundredth of a point left and is ahead by more than one. -/
theorem better_above (hevaluated : (candidates.mapM fun c =>
      evaluatePolicyEligibleCandidate c policy) = .ok evaluated)
    (ha : a ∈ evaluated) (hb : b ∈ evaluated) (heligible : a.eligible = true)
    (heligible' : b.eligible = true)
    (hbetter : Better (1 / 100) a.toRecoveryCandidate b.toRecoveryCandidate) :
    (rankKey b).1 ≤ (rankKey a).1 ∧
      ((rankKey a).1 ≠ (rankKey b).1 ∨ b.candidateId < a.candidateId → Above evaluated a b) ∧
      ((rankKey a).1 = (rankKey b).1 → a.candidateId < b.candidateId → Above evaluated b a) ∧
      ((∀ p ∈ a.penalty?, p ≤ 9999 / 100) →
        Better (1 / 100 + 1 / 10 ^ 10) a.toRecoveryCandidate b.toRecoveryCandidate →
          (rankKey a).1 ≠ (rankKey b).1) := by
  have hscore := scored hevaluated ha heligible
  have hscore' := scored hevaluated hb heligible'
  have hle := recoveryScore_le hbetter.delay_le hbetter.cost_le hscore hscore'
  refine ⟨hle, fun h => ?_, fun htie hid => ?_, fun hsmall hbetter' => ?_⟩
  · apply above_of_ranksBefore_eq_false
    refine decide_eq_false fun hbefore => ?_
    rcases hbefore with hlt | ⟨htie, hid⟩
    · exact absurd hlt (not_lt.mpr hle)
    · rcases h with hne | hid'
      · exact hne htie
      · exact absurd hid (not_le.mpr hid')
  · apply above_of_ranksBefore_eq_false
    refine decide_eq_false fun hbefore => ?_
    rcases hbefore with hlt | ⟨-, hid'⟩
    · exact absurd htie hlt.ne'
    · exact absurd hid' (not_le.mpr hid)
  · exact (recoveryScore_lt hbetter' hsmall hscore hscore').ne'

/-- On time comes before an hour late, whatever the two are called. -/
theorem better_above_onTime :
    let onTime := scoredOption (openOption "a" 0 ⟨0, le_rfl⟩) ⟨100, by decide⟩
    let hourLate := scoredOption (openOption "b" 60 ⟨0, le_rfl⟩) ⟨70, by decide⟩
    Above [onTime, hourLate] onTime hourLate := by
  have hevaluated : ([openOption "a" 0 ⟨0, le_rfl⟩, openOption "b" 60 ⟨0, le_rfl⟩].mapM fun c =>
      evaluatePolicyEligibleCandidate c {}) =
        .ok [scoredOption (openOption "a" 0 ⟨0, le_rfl⟩) ⟨100, by decide⟩,
          scoredOption (openOption "b" 60 ⟨0, le_rfl⟩) ⟨70, by decide⟩] := by
    decide +kernel
  obtain ⟨-, habove, -, hapart⟩ := better_above hevaluated List.mem_cons_self
    (List.mem_cons_of_mem _ List.mem_cons_self) rfl rfl
    ⟨by decide, le_rfl, 0, by decide +kernel, by decide +kernel⟩
  refine habove (.inl (hapart (by decide +kernel) ?_))
  exact ⟨by decide, le_rfl, 0, by decide +kernel, by decide +kernel⟩

end Displayed

/-! ### Options that tie -/

/-- Of two options that score the same, the better one can be displayed below. -/
theorem not_betterAbove_of_tie {policy : CorporateTravelPolicy} {a b : RecoveryCandidate}
    (score : Percent)
    (hevaluated : ([a, b].mapM fun c => evaluatePolicyEligibleCandidate c policy) =
      .ok [scoredOption a score, scoredOption b score])
    (hid : a.candidateId < b.candidateId) (hbetter : Better (1 / 100) a b) :
    ¬BetterAbove policy [a, b] := by
  intro hall
  have ha : scoredOption a score ∈ [scoredOption a score, scoredOption b score] :=
    List.mem_cons_self
  have hb : scoredOption b score ∈ [scoredOption a score, scoredOption b score] :=
    List.mem_cons_of_mem _ List.mem_cons_self
  have habove := hall _ hevaluated _ ha _ hb rfl rfl hbetter
  refine habove.asymm ha hb rfl rfl (above_of_ranksBefore_eq_false (decide_eq_false ?_))
  rintro (hlt | ⟨-, hle⟩)
  · exact absurd hlt (lt_irrefl _)
  · exact absurd hle (not_le.mpr hid)

def roundedScore : Percent :=
  ⟨hundredths 9967, Binary64.hundredths_nonneg (by decide) (by decide),
    Binary64.hundredths_le_hundred (by decide) (by decide)⟩

/-- Four hours late and eight hours late score zero alike; so do penalties of 0.325 and 0.335, a
hundredth apart, round to one score. -/
theorem better_option_below :
    ¬BetterAbove {} [openOption "a" 240 ⟨0, le_rfl⟩, openOption "b" 480 ⟨0, le_rfl⟩] ∧
      ¬BetterAbove {} [openOption "a" 0 ⟨13 / 4, by norm_num⟩,
        openOption "b" 0 ⟨hundredths 335, Binary64.hundredths_nonneg (by decide) (by decide)⟩] := by
  constructor
  · refine not_betterAbove_of_tie ⟨0, by norm_num⟩ (by decide +kernel) (by decide) ?_
    exact ⟨by decide, le_rfl, 120, by decide +kernel, by decide +kernel⟩
  · refine not_betterAbove_of_tie roundedScore (by decide +kernel) (by decide) ?_
    exact ⟨by decide, by decide +kernel, 13 / 40, by decide +kernel, by decide +kernel⟩

end RouteShield
