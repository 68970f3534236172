import Mathlib.Data.Int.Log
import Mathlib.Data.Rat.Floor
import Mathlib.Tactic.Linarith
import Mathlib.Tactic.NormNum
import Mathlib.Tactic.Positivity
import Mathlib.Tactic.Push

/-!
Binary64 arithmetic on exact rationals. A finite double is the rational it
denotes, so one rounding function gives every operation: compute exactly, then
round to the nearest double, ties to the even significand. Nothing here is large
enough to overflow, and signed zeros are not distinguished.

The error bound is stated for magnitudes up to 128, where one rounding moves a
value by at most `eps`. Decimal rounding to two places absorbs any error below
half a hundredth, which makes a compensated sum of hundredths exact.
-/

namespace RouteShield.Binary64

/-- Nearest integer, ties to even. -/
def roundHalfEven (q : ℚ) : ℤ :=
  if q - ⌊q⌋ < 1 / 2 then ⌊q⌋
  else if 1 / 2 < q - ⌊q⌋ then ⌊q⌋ + 1
  else if ⌊q⌋ % 2 = 0 then ⌊q⌋ else ⌊q⌋ + 1

theorem abs_roundHalfEven_sub_le (q : ℚ) : |(roundHalfEven q : ℚ) - q| ≤ 1 / 2 := by
  have h1 := Int.floor_le q
  have h2 := Int.lt_floor_add_one q
  rw [abs_le]
  unfold roundHalfEven
  split_ifs <;> push_cast <;> constructor <;> linarith

/-- Anything closer than one half to an integer rounds to it. -/
theorem roundHalfEven_eq {q : ℚ} {k : ℤ} (h : |q - k| < 1 / 2) : roundHalfEven q = k := by
  have hr := abs_roundHalfEven_sub_le q
  rw [abs_lt] at h
  rw [abs_le] at hr
  have hlo : (k : ℚ) - 1 < roundHalfEven q := by linarith [h.1, hr.1]
  have hhi : (roundHalfEven q : ℚ) < k + 1 := by linarith [h.2, hr.2]
  have hlo' : k - 1 < roundHalfEven q := by exact_mod_cast hlo
  have hhi' : roundHalfEven q < k + 1 := by exact_mod_cast hhi
  omega

theorem roundHalfEven_intCast (k : ℤ) : roundHalfEven k = k := roundHalfEven_eq (by norm_num)

theorem roundHalfEven_le {q : ℚ} {n : ℤ} (h : q < n + 1 / 2) : roundHalfEven q ≤ n := by
  have hr := abs_le.mp (abs_roundHalfEven_sub_le q)
  have hlt : (roundHalfEven q : ℚ) < n + 1 := by linarith [hr.2]
  have hlt' : roundHalfEven q < n + 1 := by exact_mod_cast hlt
  omega

theorem floor_le_roundHalfEven (q : ℚ) : ⌊q⌋ ≤ roundHalfEven q := by
  unfold roundHalfEven
  split_ifs <;> omega

theorem roundHalfEven_le_floor_add_one (q : ℚ) : roundHalfEven q ≤ ⌊q⌋ + 1 := by
  unfold roundHalfEven
  split_ifs <;> omega

theorem roundHalfEven_mono {p q : ℚ} (h : p ≤ q) : roundHalfEven p ≤ roundHalfEven q := by
  rcases (Int.floor_le_floor h).lt_or_eq with hlt | heq
  · have hp := roundHalfEven_le_floor_add_one p
    have hq := floor_le_roundHalfEven q
    omega
  · unfold roundHalfEven
    rw [heq]
    split_ifs <;> first | omega | (exfalso; linarith)

theorem roundHalfEven_neg (q : ℚ) : roundHalfEven (-q) = -roundHalfEven q := by
  by_cases hint : (⌊q⌋ : ℚ) = q
  · rw [← hint, ← Int.cast_neg, roundHalfEven_intCast, roundHalfEven_intCast]
  · have hlo := lt_of_le_of_ne (Int.floor_le q) hint
    have hhi := Int.lt_floor_add_one q
    have hfloor : ⌊-q⌋ = -⌊q⌋ - 1 := by
      rw [Int.floor_eq_iff]
      push_cast
      constructor <;> linarith
    unfold roundHalfEven
    rw [hfloor]
    push_cast
    split_ifs <;> first | omega | (exfalso; linarith)

/-- The exponent of the last significand bit of a nonzero double near `q`. -/
def quantum (q : ℚ) : ℤ := max (Int.log 2 |q| - 52) (-1074)

/-- The double nearest to `q`. -/
def round (q : ℚ) : ℚ :=
  if q = 0 then 0 else roundHalfEven (q / 2 ^ quantum q) * 2 ^ quantum q

@[simp] theorem round_zero : round 0 = 0 := by simp [round]

/-- The largest error of one rounding below 128. -/
def eps : ℚ := 1 / 2 ^ 46

theorem quantum_le_sub {q : ℚ} {n : ℤ} (hq : q ≠ 0) (hn : -1022 ≤ n) (h : |q| ≤ 2 ^ n) :
    quantum q ≤ n - 52 := by
  have hlog : Int.log 2 |q| ≤ n := by
    calc Int.log 2 |q| ≤ Int.log 2 ((2 : ℕ) ^ n : ℚ) :=
          Int.log_mono_right (abs_pos.mpr hq) (by exact_mod_cast h)
      _ = n := Int.log_zpow one_lt_two n
  unfold quantum
  omega

/-- One rounding moves a value by at most half of its last significand bit. -/
theorem abs_round_sub_le_zpow {q : ℚ} {n : ℤ} (hn : -1022 ≤ n) (h : |q| ≤ 2 ^ n) :
    |round q - q| ≤ 1 / 2 * 2 ^ (n - 52) := by
  by_cases hq : q = 0
  · rw [hq, round_zero, sub_zero, abs_zero]
    exact mul_nonneg one_half_pos.le (zpow_pos two_pos _).le
  have hpos : (0 : ℚ) < 2 ^ quantum q := zpow_pos two_pos _
  have hround := abs_roundHalfEven_sub_le (q / 2 ^ quantum q)
  have hfactor : round q - q =
      (roundHalfEven (q / 2 ^ quantum q) - q / 2 ^ quantum q) * 2 ^ quantum q := by
    rw [round, if_neg hq, sub_mul, div_mul_cancel₀ _ hpos.ne']
  calc |round q - q|
      = |(roundHalfEven (q / 2 ^ quantum q) : ℚ) - q / 2 ^ quantum q| * 2 ^ quantum q := by
        rw [hfactor, abs_mul, abs_of_pos hpos]
    _ ≤ 1 / 2 * 2 ^ (n - 52) :=
        mul_le_mul hround (zpow_le_zpow_right₀ one_le_two (quantum_le_sub hq hn h)) hpos.le
          (by norm_num)

theorem abs_round_sub_le {q : ℚ} (h : |q| ≤ 128) : |round q - q| ≤ eps := by
  have hle : |q| ≤ 2 ^ (7 : ℤ) := h.trans (by norm_num)
  exact (abs_round_sub_le_zpow (by norm_num) hle).trans (by norm_num [eps])

/-- Whole numbers that fit into a significand are doubles. -/
theorem round_intCast_of_le {m : ℤ} (h : |m| ≤ 2 ^ 52) : round m = m := by
  by_cases hm : m = 0
  · simp [hm]
  have hq : (m : ℚ) ≠ 0 := by exact_mod_cast hm
  have hle : quantum m ≤ 52 - 52 := quantum_le_sub hq (by norm_num) (by exact_mod_cast h)
  obtain ⟨j, hj⟩ := Int.eq_ofNat_of_zero_le (show 0 ≤ -quantum m by omega)
  have hscaled : (m : ℚ) / 2 ^ quantum (m : ℚ) = ((m * 2 ^ j : ℤ) : ℚ) := by
    rw [show quantum (m : ℚ) = -(j : ℤ) by omega, zpow_neg, zpow_natCast]
    push_cast
    field_simp
  rw [round, if_neg hq, hscaled, roundHalfEven_intCast, ← hscaled,
    div_mul_cancel₀ _ (zpow_pos two_pos _).ne']

theorem round_intCast {m : ℤ} (h : |m| ≤ 128) : round m = m :=
  round_intCast_of_le (h.trans (by norm_num))

/-! ### Rounding keeps the order -/

@[simp] theorem quantum_neg (q : ℚ) : quantum (-q) = quantum q := by
  unfold quantum
  rw [abs_neg]

theorem round_eq (q : ℚ) : round q = roundHalfEven (q / 2 ^ quantum q) * 2 ^ quantum q := by
  unfold round
  split_ifs with h
  · rw [h, zero_div, show (0 : ℚ) = ((0 : ℤ) : ℚ) by norm_num, roundHalfEven_intCast]
    norm_num
  · rfl

theorem round_neg (q : ℚ) : round (-q) = -round q := by
  rw [round_eq, round_eq, quantum_neg, neg_div, roundHalfEven_neg, Int.cast_neg, neg_mul]

theorem round_nonneg {q : ℚ} (h : 0 ≤ q) : 0 ≤ round q := by
  rw [round_eq]
  have hpos : (0 : ℚ) < 2 ^ quantum q := zpow_pos two_pos _
  have hle : roundHalfEven ((0 : ℤ) : ℚ) ≤ roundHalfEven (q / 2 ^ quantum q) :=
    roundHalfEven_mono (by rw [Int.cast_zero]; positivity)
  rw [roundHalfEven_intCast] at hle
  have hle' : (0 : ℚ) ≤ roundHalfEven (q / 2 ^ quantum q) := by exact_mod_cast hle
  positivity

/-- A power of two is a multiple of the last significand bit of whatever is not larger. -/
theorem zpow_div_quantum {q : ℚ} {n : ℤ} (h : quantum q ≤ n) :
    ∃ k : ℤ, (2 : ℚ) ^ n / 2 ^ quantum q = k := by
  obtain ⟨j, hj⟩ := Int.eq_ofNat_of_zero_le (show 0 ≤ n - quantum q by omega)
  refine ⟨2 ^ j, ?_⟩
  rw [← zpow_sub₀ two_ne_zero, hj]
  push_cast
  exact zpow_natCast 2 j

theorem round_le_zpow {q : ℚ} {n : ℤ} (hn : quantum q ≤ n) (h : q ≤ 2 ^ n) : round q ≤ 2 ^ n := by
  have hpos : (0 : ℚ) < 2 ^ quantum q := zpow_pos two_pos _
  obtain ⟨k, hk⟩ := zpow_div_quantum hn
  have hle : roundHalfEven (q / 2 ^ quantum q) ≤ k := by
    rw [← roundHalfEven_intCast k, ← hk]
    exact roundHalfEven_mono (by gcongr)
  rw [round_eq, ← div_mul_cancel₀ ((2 : ℚ) ^ n) hpos.ne', hk]
  have hle' : (roundHalfEven (q / 2 ^ quantum q) : ℚ) ≤ k := by exact_mod_cast hle
  gcongr

theorem zpow_le_round {q : ℚ} {n : ℤ} (hn : quantum q ≤ n) (h : 2 ^ n ≤ q) : 2 ^ n ≤ round q := by
  have hpos : (0 : ℚ) < 2 ^ quantum q := zpow_pos two_pos _
  obtain ⟨k, hk⟩ := zpow_div_quantum hn
  have hle : k ≤ roundHalfEven (q / 2 ^ quantum q) := by
    rw [← roundHalfEven_intCast k, ← hk]
    exact roundHalfEven_mono (by gcongr)
  rw [round_eq, ← div_mul_cancel₀ ((2 : ℚ) ^ n) hpos.ne', hk]
  have hle' : (k : ℚ) ≤ roundHalfEven (q / 2 ^ quantum q) := by exact_mod_cast hle
  gcongr

/-- The powers of two down to the least are doubles. -/
theorem round_zpow {n : ℤ} (hn : -1074 ≤ n) : round (2 ^ n) = 2 ^ n := by
  have hlog : Int.log 2 |(2 : ℚ) ^ n| = n := by
    rw [abs_of_pos (zpow_pos two_pos n)]
    exact Int.log_zpow one_lt_two n
  have hquantum : quantum (2 ^ n) ≤ n := by
    rw [quantum, hlog]
    omega
  exact le_antisymm (round_le_zpow hquantum le_rfl) (zpow_le_round hquantum le_rfl)

theorem round_mono_of_pos {p q : ℚ} (hp : 0 < p) (h : p ≤ q) : round p ≤ round q := by
  have hq := hp.trans_le h
  have hlog : Int.log 2 |p| ≤ Int.log 2 |q| := by
    rw [abs_of_pos hp, abs_of_pos hq]
    exact Int.log_mono_right hp h
  by_cases hsame : quantum p = quantum q
  · have hpos : (0 : ℚ) < 2 ^ quantum q := zpow_pos two_pos _
    have hle : roundHalfEven (p / 2 ^ quantum q) ≤ roundHalfEven (q / 2 ^ quantum q) :=
      roundHalfEven_mono (by gcongr)
    have hle' : (roundHalfEven (p / 2 ^ quantum q) : ℚ) ≤ roundHalfEven (q / 2 ^ quantum q) := by
      exact_mod_cast hle
    rw [round_eq, round_eq, hsame]
    gcongr
  · -- the power of two that `q` reaches and `p` stays below comes between the two roundings
    have hbounds : quantum p ≤ Int.log 2 |q| ∧ quantum q ≤ Int.log 2 |q| ∧
        Int.log 2 |p| < Int.log 2 |q| := by
      unfold quantum at hsame ⊢
      omega
    have hlow : p ≤ 2 ^ Int.log 2 |q| := by
      rw [abs_of_pos hp] at hbounds
      calc p ≤ 2 ^ (Int.log 2 p + 1) := by
            exact_mod_cast (Int.lt_zpow_succ_log_self (R := ℚ) one_lt_two p).le
        _ ≤ 2 ^ Int.log 2 |q| := zpow_le_zpow_right₀ one_le_two (by omega)
    have hhigh : 2 ^ Int.log 2 |q| ≤ q := by
      rw [abs_of_pos hq]
      exact_mod_cast Int.zpow_log_le_self (R := ℚ) one_lt_two hq
    exact (round_le_zpow hbounds.1 hlow).trans (zpow_le_round hbounds.2.1 hhigh)

/-- Rounding keeps the order. -/
theorem round_mono {p q : ℚ} (h : p ≤ q) : round p ≤ round q := by
  rcases lt_trichotomy p 0 with hp | rfl | hp
  · rcases lt_or_ge q 0 with hq | hq
    · have hneg := round_mono_of_pos (neg_pos.mpr hq) (neg_le_neg h)
      rw [round_neg, round_neg] at hneg
      exact neg_le_neg_iff.mp hneg
    · have hneg := round_nonneg (neg_nonneg.mpr hp.le)
      rw [round_neg] at hneg
      exact (neg_nonneg.mp hneg).trans (round_nonneg hq)
  · rw [round_zero]
    exact round_nonneg h
  · exact round_mono_of_pos hp h

/-! ### Hundredths -/

/-- `round(q, 2)`: the double nearest to `q` in whole hundredths. -/
def round2 (q : ℚ) : ℚ := round (roundHalfEven (100 * q) / 100)

/-- Round a value known to within half a hundredth of `k / 100`. -/
theorem round2_eq {q : ℚ} {k : ℤ} (h : |q - k / 100| < 1 / 200) : round2 q = round (k / 100) := by
  have hk : roundHalfEven (100 * q) = k := by
    apply roundHalfEven_eq
    have hscale : 100 * q - (k : ℚ) = 100 * (q - k / 100) := by ring
    rw [hscale, abs_mul, abs_of_pos (by norm_num : (0 : ℚ) < 100)]
    linarith
  rw [round2, hk]

theorem round2_mono {p q : ℚ} (h : p ≤ q) : round2 p ≤ round2 q := by
  have hle : (roundHalfEven (100 * p) : ℚ) ≤ roundHalfEven (100 * q) := by
    exact_mod_cast roundHalfEven_mono (by linarith)
  unfold round2
  exact round_mono (by gcongr)

/-- The running total and the correction that a compensated sum carries. -/
structure Partial where
  total : ℚ
  correction : ℚ

/-- What the addition of `x` to `total` lost, as far as two more roundings tell. -/
def lowPart (total x : ℚ) : ℚ :=
  if |x| ≤ |total| then round (round (total - round (total + x)) + x)
  else round (round (x - round (total + x)) + total)

/-- One addend: the low-order part lost by the addition goes to the correction. -/
def Partial.add (p : Partial) (x : ℚ) : Partial where
  total := round (p.total + x)
  correction := round (p.correction + lowPart p.total x)

def sumFrom (p : Partial) (xs : List ℚ) : Partial := xs.foldl Partial.add p

/-- `sum(xs)` on floats: a compensated sum, with the correction added last. -/
def sum (xs : List ℚ) : ℚ :=
  let p := sumFrom ⟨0, 0⟩ xs
  round (p.total + p.correction)

/-- What a compensated sum knows after `n` addends of total `v` hundredths. -/
structure Tracks (n : ℕ) (v : ℤ) (p : Partial) : Prop where
  total_le : |p.total - v / 100| ≤ 2 * n * eps
  correction_le : |p.correction| ≤ 4 * n * eps
  exact_le : |p.total + p.correction - v / 100| ≤ 5 * n * eps

theorem Tracks.zero : Tracks 0 0 ⟨0, 0⟩ := ⟨by simp, by simp, by simp⟩

private theorem round_eq_add {q : ℚ} (h : |q| ≤ 128) : ∃ e, round q = q + e ∧ |e| ≤ eps :=
  ⟨round q - q, by ring, abs_round_sub_le h⟩

private theorem eps_bounds : 0 < eps ∧ eps ≤ 1 / 10 ^ 6 := by norm_num [eps]

/-- The double nearest to a number of hundredths, as the sum meets it. -/
def hundredths (k : ℤ) : ℚ := round (k / 100)

theorem hundredths_eq_add {k : ℤ} (h0 : 0 ≤ k) (h1 : k ≤ 10000) :
    ∃ e, hundredths k = k / 100 + e ∧ |e| ≤ eps := by
  have h0' : (0 : ℚ) ≤ k := by exact_mod_cast h0
  have h1' : (k : ℚ) ≤ 10000 := by exact_mod_cast h1
  exact round_eq_add (by rw [abs_le]; constructor <;> linarith)

/-- Both orders recover the rounding error of the addition up to two roundings. -/
theorem lowPart_eq {total x e : ℚ} (ht : |total| ≤ 110) (hx : |x| ≤ 110)
    (hr : round (total + x) = total + x + e) (he : |e| ≤ eps) :
    ∃ d, lowPart total x = -e + d ∧ |d| ≤ 2 * eps := by
  obtain ⟨hepos, hesmall⟩ := eps_bounds
  rw [abs_le] at ht hx he
  unfold lowPart
  split_ifs
  · obtain ⟨e2, h2, he2⟩ := round_eq_add (q := total - round (total + x))
      (by rw [hr, abs_le]; constructor <;> linarith)
    rw [abs_le] at he2
    obtain ⟨e3, h3, he3⟩ := round_eq_add (q := round (total - round (total + x)) + x)
      (by rw [h2, hr, abs_le]; constructor <;> linarith)
    rw [abs_le] at he3
    exact ⟨e2 + e3, by rw [h3, h2, hr]; ring, by rw [abs_le]; constructor <;> linarith⟩
  · obtain ⟨e2, h2, he2⟩ := round_eq_add (q := x - round (total + x))
      (by rw [hr, abs_le]; constructor <;> linarith)
    rw [abs_le] at he2
    obtain ⟨e3, h3, he3⟩ := round_eq_add (q := round (x - round (total + x)) + total)
      (by rw [h2, hr, abs_le]; constructor <;> linarith)
    rw [abs_le] at he3
    exact ⟨e2 + e3, by rw [h3, h2, hr]; ring, by rw [abs_le]; constructor <;> linarith⟩

theorem Tracks.add {n : ℕ} {v k : ℤ} {p : Partial} (h : Tracks n v p) (hn : n ≤ 100)
    (hv : 0 ≤ v) (hk : 0 ≤ k) (hvk : v + k ≤ 10000) :
    Tracks (n + 1) (v + k) (p.add (hundredths k)) := by
  obtain ⟨e, hx, he⟩ := hundredths_eq_add hk (by omega)
  obtain ⟨hepos, hesmall⟩ := eps_bounds
  have hn' : (n : ℚ) * eps ≤ 100 * eps :=
    mul_le_mul_of_nonneg_right (by exact_mod_cast hn) hepos.le
  have hv' : (0 : ℚ) ≤ v := by exact_mod_cast hv
  have hk' : (0 : ℚ) ≤ k := by exact_mod_cast hk
  have hvk' : (v : ℚ) + k ≤ 10000 := by exact_mod_cast hvk
  obtain ⟨ht, hc, hs⟩ := h
  rw [abs_le] at ht hc hs he
  obtain ⟨e1, h1, he1⟩ := round_eq_add (q := p.total + hundredths k)
    (by rw [hx, abs_le]; constructor <;> linarith)
  obtain ⟨d, hd, hdle⟩ := lowPart_eq (x := hundredths k)
    (by rw [abs_le]; constructor <;> linarith) (by rw [hx, abs_le]; constructor <;> linarith) h1 he1
  rw [abs_le] at he1 hdle
  obtain ⟨e4, h4, he4⟩ := round_eq_add (q := p.correction + (-e1 + d))
    (by rw [abs_le]; constructor <;> linarith)
  rw [abs_le] at he4
  have htotal : (p.add (hundredths k)).total = p.total + (k / 100 + e) + e1 := by
    rw [Partial.add, h1, hx]
  have hcorrection : (p.add (hundredths k)).correction = p.correction + (-e1 + d) + e4 := by
    rw [Partial.add, hd, h4]
  refine ⟨?_, ?_, ?_⟩
  · rw [htotal, abs_le]; push_cast; constructor <;> linarith
  · rw [hcorrection, abs_le]; push_cast; constructor <;> linarith
  · rw [htotal, hcorrection, abs_le]; push_cast; constructor <;> linarith

theorem Tracks.sumFrom (ks : List ℤ) {n : ℕ} {v : ℤ} {p : Partial} (h : Tracks n v p)
    (hn : n + ks.length ≤ 100) (hv : 0 ≤ v) (hks : ∀ k ∈ ks, 0 ≤ k) (hsum : v + ks.sum ≤ 10000) :
    Tracks (n + ks.length) (v + ks.sum) (sumFrom p (ks.map hundredths)) := by
  induction ks generalizing n v p with
  | nil => simpa [Binary64.sumFrom] using h
  | cons k ks ih =>
    have hk := hks k List.mem_cons_self
    have hrest := fun j hj => hks j (List.mem_cons_of_mem k hj)
    have hnonneg := List.sum_nonneg hrest
    rw [List.length_cons] at hn
    rw [List.sum_cons] at hsum
    have hstep := h.add (k := k) (by omega) hv hk (by omega)
    have := ih hstep (by omega) (by omega) hrest (by omega)
    rw [List.length_cons, List.sum_cons, ← add_assoc, ← add_assoc, add_right_comm n]
    exact this

/-- Summing doubles of hundredths and rounding to hundredths is exact. -/
theorem round2_sum_hundredths (ks : List ℤ) (hlen : ks.length ≤ 100) (hks : ∀ k ∈ ks, 0 ≤ k)
    (hsum : ks.sum ≤ 10000) : round2 (sum (ks.map hundredths)) = hundredths ks.sum := by
  have hs := (Tracks.sumFrom ks Tracks.zero (by omega) le_rfl hks (by omega)).exact_le
  obtain ⟨hepos, hesmall⟩ := eps_bounds
  have hn : (ks.length : ℚ) * eps ≤ 100 * eps :=
    mul_le_mul_of_nonneg_right (by exact_mod_cast hlen) hepos.le
  have h0 : (0 : ℚ) ≤ ks.sum := by exact_mod_cast List.sum_nonneg hks
  have h1 : (ks.sum : ℚ) ≤ 10000 := by exact_mod_cast hsum
  rw [Nat.zero_add, Int.zero_add, abs_le] at hs
  apply round2_eq
  obtain ⟨e, he, hle⟩ := round_eq_add (q := (Binary64.sumFrom ⟨0, 0⟩ (ks.map hundredths)).total +
    (Binary64.sumFrom ⟨0, 0⟩ (ks.map hundredths)).correction)
    (by rw [abs_le]; constructor <;> linarith)
  rw [abs_le] at hle
  rw [sum, he, abs_lt]
  constructor <;> linarith

theorem round2_eq_hundredths (q : ℚ) : round2 q = hundredths (roundHalfEven (100 * q)) := rfl

/-- The product of a number up to 100 with a weight of `k` hundredths, in hundredths. -/
def cents (x : ℚ) (k : ℤ) : ℤ := roundHalfEven (100 * round (x * hundredths k))

theorem cents_bounds {x : ℚ} {k : ℤ} (hx0 : 0 ≤ x) (hx1 : x ≤ 100) (hk0 : 0 ≤ k) (hk1 : k ≤ 100) :
    0 ≤ cents x k ∧ cents x k ≤ 100 * k := by
  obtain ⟨e, hw, he⟩ := hundredths_eq_add hk0 (by omega)
  obtain ⟨hepos, hesmall⟩ := eps_bounds
  rw [abs_le] at he
  have hk0' : (0 : ℚ) ≤ k := by exact_mod_cast hk0
  have hk1' : (k : ℚ) ≤ 100 := by exact_mod_cast hk1
  have hlo : -(100 * eps) ≤ x * hundredths k := by
    rw [hw]
    have h1 : 0 ≤ x * (k / 100) := mul_nonneg hx0 (by positivity)
    have h2 : -(100 * eps) ≤ x * e := by nlinarith
    linarith
  have hhi : x * hundredths k ≤ k + 100 * eps := by
    rw [hw]
    have h1 : x * (k / 100) ≤ 100 * (k / 100) := mul_le_mul_of_nonneg_right hx1 (by positivity)
    have h2 : x * e ≤ 100 * eps := by nlinarith
    linarith
  obtain ⟨d, hd, hde⟩ := round_eq_add (q := x * hundredths k)
    (by rw [abs_le]; constructor <;> linarith)
  rw [abs_le] at hde
  refine ⟨?_, roundHalfEven_le (by rw [hd]; push_cast; linarith)⟩
  have h := abs_le.mp (abs_roundHalfEven_sub_le (100 * round (x * hundredths k)))
  have hlt : (-1 : ℚ) < roundHalfEven (100 * round (x * hundredths k)) := by
    rw [hd] at h ⊢
    linarith [h.1]
  have hlt' : (-1 : ℤ) < roundHalfEven (100 * round (x * hundredths k)) := by exact_mod_cast hlt
  unfold cents
  omega

theorem cents_mono {x y : ℚ} {k : ℤ} (hk : 0 ≤ k) (h : x ≤ y) : cents x k ≤ cents y k := by
  have hk' : (0 : ℚ) ≤ k := by exact_mod_cast hk
  have hweight : 0 ≤ hundredths k := round_nonneg (by positivity)
  have hround : round (x * hundredths k) ≤ round (y * hundredths k) :=
    round_mono (mul_le_mul_of_nonneg_right h hweight)
  exact roundHalfEven_mono (by linarith)

theorem hundredths_mono {j k : ℤ} (h : j ≤ k) : hundredths j ≤ hundredths k := by
  have hle : (j : ℚ) ≤ k := by exact_mod_cast h
  exact round_mono (by linarith)

/-- A whole score weighs in exactly. -/
theorem cents_intCast {m k : ℤ} (hm0 : 0 ≤ m) (hm1 : m ≤ 100) (hk0 : 0 ≤ k) (hk1 : k ≤ 100) :
    cents m k = m * k := by
  obtain ⟨e, hw, he⟩ := hundredths_eq_add hk0 (by omega)
  obtain ⟨hepos, hesmall⟩ := eps_bounds
  rw [abs_le] at he
  have hm0' : (0 : ℚ) ≤ m := by exact_mod_cast hm0
  have hm1' : (m : ℚ) ≤ 100 := by exact_mod_cast hm1
  have hk0' : (0 : ℚ) ≤ k := by exact_mod_cast hk0
  have hk1' : (k : ℚ) ≤ 100 := by exact_mod_cast hk1
  have hprod : (m : ℚ) * k ≤ 10000 := by nlinarith
  have hprod0 : (0 : ℚ) ≤ m * k := mul_nonneg hm0' hk0'
  have hlo : -(100 * eps) ≤ m * e := by nlinarith
  have hhi : m * e ≤ 100 * eps := by nlinarith
  have hval : (m : ℚ) * hundredths k = m * k / 100 + m * e := by rw [hw]; ring
  obtain ⟨d, hd, hde⟩ := round_eq_add (q := (m : ℚ) * hundredths k)
    (by rw [hval, abs_le]; constructor <;> linarith)
  rw [abs_le] at hde
  apply roundHalfEven_eq
  rw [hd, hval, abs_lt]
  push_cast
  constructor <;> linarith

theorem hundredths_hundred_mul {m : ℤ} (h : |m| ≤ 128) : hundredths (100 * m) = m := by
  rw [hundredths, ← round_intCast h]
  congr 1
  push_cast
  ring

/-- Comparing a double of hundredths with a whole number compares the hundredths. -/
theorem hundredths_lt_iff {k : ℤ} (h0 : 0 ≤ k) (h1 : k ≤ 10000) {m : ℤ} (hm : |m| ≤ 128) :
    hundredths k < m ↔ k < 100 * m := by
  obtain ⟨e, he, hle⟩ := hundredths_eq_add h0 h1
  obtain ⟨hepos, hesmall⟩ := eps_bounds
  rw [abs_le] at hle
  rcases lt_trichotomy k (100 * m) with h | h | h
  · have hk : (k : ℚ) + 1 ≤ 100 * m := by exact_mod_cast h
    exact iff_of_true (by rw [he]; linarith) h
  · exact iff_of_false (by rw [h, hundredths_hundred_mul hm]; exact lt_irrefl _) (by omega)
  · have hk : (100 : ℚ) * m + 1 ≤ k := by exact_mod_cast h
    exact iff_of_false (by rw [he]; linarith) (by omega)

/-- Different hundredths are different doubles. -/
theorem hundredths_lt_hundredths {j k : ℤ} (h0 : 0 ≤ j) (h : j < k) (h1 : k ≤ 10000) :
    hundredths j < hundredths k := by
  obtain ⟨d, hj, hd⟩ := hundredths_eq_add h0 (by omega)
  obtain ⟨e, hk, he⟩ := hundredths_eq_add (by omega) h1
  obtain ⟨hepos, hesmall⟩ := eps_bounds
  rw [abs_le] at hd he
  have hstep : (j : ℚ) + 1 ≤ k := by exact_mod_cast h
  rw [hj, hk]
  linarith

theorem hundredths_nonneg {k : ℤ} (h0 : 0 ≤ k) (h1 : k ≤ 10000) : 0 ≤ hundredths k := by
  have h := (hundredths_lt_iff h0 h1 (m := 0) (by simp)).not.mpr (by omega)
  simpa using h

theorem hundredths_le_hundred {k : ℤ} (h0 : 0 ≤ k) (h1 : k ≤ 10000) : hundredths k ≤ 100 := by
  rcases h1.lt_or_eq with h | rfl
  · have := (hundredths_lt_iff h0 h1 (m := 100) (by norm_num)).mpr (by omega)
    exact_mod_cast this.le
  · have := hundredths_hundred_mul (m := 100) (by norm_num)
    norm_num at this
    exact this.le

end RouteShield.Binary64
