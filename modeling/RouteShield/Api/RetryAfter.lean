import RouteShield.Api.RateLimit

/-!
When a refused caller who waits as long as it was told is let through. The wait is what is left
until the oldest kept call leaves the window, in seconds and without its fraction: it is long
enough where there is no fraction, or where the least wait of one second covers what is left.
-/

namespace RouteShield

open SlidingWindow

/-- What is left is at most a second, or its double is the seconds rounded up. -/
def WaitCovers (remaining : ℤ) : Prop :=
  remaining ≤ seconds 1 ∨ totalSeconds remaining = ⌈(remaining : ℚ) / 10 ^ 6⌉

instance : DecidablePred WaitCovers := fun _ => inferInstanceAs (Decidable (_ ∨ _))

variable {remaining : ℤ}

theorem ceil_le_iff {k : ℤ} : ⌈(remaining : ℚ) / 10 ^ 6⌉ ≤ k ↔ remaining ≤ seconds k := by
  rw [Int.ceil_le, div_le_iff₀ (by norm_num)]
  unfold seconds
  exact_mod_cast Iff.rfl

/-- A duration has a whole number of seconds for its upper bound, and that is a double. -/
theorem round_ceil (hpos : 0 < remaining) (hmax : remaining ≤ 86399999999999999999) :
    Binary64.round (⌈(remaining : ℚ) / 10 ^ 6⌉ : ℤ) = ⌈(remaining : ℚ) / 10 ^ 6⌉ := by
  have hscale : (0 : ℚ) < (remaining : ℚ) / 10 ^ 6 := by positivity
  refine Binary64.round_intCast_of_le (abs_le.mpr ⟨?_, ?_⟩)
  · exact (neg_nonpos.mpr (by norm_num)).trans (Int.ceil_pos.mpr hscale).le
  · refine ceil_le_iff.mpr ?_
    unfold seconds
    omega

/-- A whole number of seconds is waited for in full. -/
theorem le_seconds_truncate_iff (hpos : 0 < remaining) (hmax : remaining ≤ 86399999999999999999) :
    remaining ≤ seconds (truncate (totalSeconds remaining)) ↔
      totalSeconds remaining = ⌈(remaining : ℚ) / 10 ^ 6⌉ := by
  have hscale : (0 : ℚ) < (remaining : ℚ) / 10 ^ 6 := by positivity
  have hnonneg : 0 ≤ totalSeconds remaining := Binary64.round_nonneg hscale.le
  have hceil : totalSeconds remaining ≤ ⌈(remaining : ℚ) / 10 ^ 6⌉ := by
    rw [← round_ceil hpos hmax]
    exact Binary64.round_mono (Int.le_ceil _)
  rw [← ceil_le_iff, truncate, if_pos hnonneg, Int.le_floor]
  exact ⟨fun h => le_antisymm hceil h, fun h => h.ge⟩

/-- The wait that a refusal tells is long enough where it covers what is left. -/
theorem le_retryAfter_iff (hpos : 0 < remaining) (hmax : remaining ≤ 86399999999999999999) :
    remaining ≤ seconds (max 1 (truncate (totalSeconds remaining))) ↔ WaitCovers remaining := by
  unfold WaitCovers
  rw [← le_seconds_truncate_iff hpos hmax]
  unfold seconds
  omega

/-- Up to some centuries, what is covered is a second at most or a whole number of them. -/
theorem waitCovers_iff_dvd (hpos : 0 < remaining) (hmax : remaining ≤ seconds (2 ^ 33)) :
    WaitCovers remaining ↔ remaining ≤ seconds 1 ∨ seconds 1 ∣ remaining := by
  have hmax' : remaining ≤ 86399999999999999999 := hmax.trans (by decide)
  refine or_congr_right ⟨fun h => ?_, fun h => ?_⟩
  · by_contra hdvd
    -- the fraction is larger than what rounding to a double can add
    have hle : remaining ≤ seconds ⌈(remaining : ℚ) / 10 ^ 6⌉ := ceil_le_iff.mp le_rfl
    have hne : remaining ≠ seconds ⌈(remaining : ℚ) / 10 ^ 6⌉ := fun heq =>
      hdvd ⟨⌈(remaining : ℚ) / 10 ^ 6⌉, by
        conv_lhs => rw [heq]
        unfold seconds
        ring⟩
    have hlt : remaining + 1 ≤ ⌈(remaining : ℚ) / 10 ^ 6⌉ * 1000000 := lt_of_le_of_ne hle hne
    have hlt' : (remaining : ℚ) + 1 ≤ ⌈(remaining : ℚ) / 10 ^ 6⌉ * 1000000 := by exact_mod_cast hlt
    have hsmall : |(remaining : ℚ) / 10 ^ 6| ≤ 2 ^ (33 : ℤ) := by
      rw [abs_of_pos (by positivity), div_le_iff₀ (by norm_num)]
      unfold seconds at hmax
      exact_mod_cast hmax
    have herror := Binary64.abs_round_sub_le_zpow (by norm_num) hsmall
    change |totalSeconds remaining - _| ≤ _ at herror
    rw [h] at herror
    have hbound := (abs_le.mp herror).2
    norm_num at hbound
    linarith
  · obtain ⟨k, rfl⟩ := h
    have hwhole : ((seconds 1 * k : ℤ) : ℚ) / 10 ^ 6 = (k : ℤ) := by
      unfold seconds
      push_cast
      ring
    have hround := round_ceil hpos hmax'
    rw [hwhole, Int.ceil_intCast] at hround ⊢
    rw [totalSeconds, hwhole]
    exact hround

namespace FixedWindowRateLimiter

variable {lim : FixedWindowRateLimiter} {limit : ℤ} {window : Timedelta} {key : String} {now : Time}
  {calls between : List (String × Time)}

/-- What is left until the oldest kept call leaves the window. -/
def left (lim : FixedWindowRateLimiter) (key : String) (now : Time) : ℤ :=
  lim.window.val - (now - (lim.active key now).headD now)

/-- The answer to a caller who comes back at the told time, after the calls in between. -/
def retried (lim : FixedWindowRateLimiter) (key : String) (now : Time)
    (between : List (String × Time)) : RateLimitResult :=
  let refusal := lim.check key now
  ((refusal.2.after between).check key (now + seconds refusal.1.retryAfterSeconds)).1

theorem check_of_le (h : lim.limit ≤ (lim.active key now).length) :
    lim.check key now =
      ({ allowed := false
         limit := lim.limit
         remaining := 0
         retryAfterSeconds := max 1 (truncate (totalSeconds (lim.left key now))) },
        { lim with requests := Function.update lim.requests key (lim.active key now) }) :=
  if_pos h

theorem after_requests_of_ne (lim : FixedWindowRateLimiter)
    (hother : ∀ call ∈ between, call.1 ≠ key) :
    (lim.after between).requests key = lim.requests key := by
  induction between generalizing lim with
  | nil => rfl
  | cons call between ih =>
    have hrest := ih (lim.check call.1 call.2).2 fun c hc => hother c (List.mem_cons_of_mem _ hc)
    exact hrest.trans (check_requests_of_ne lim call.2 (hother call List.mem_cons_self).symm)

/-- A refusal finds as many times as the limit, in order, and none after it. -/
theorem refused_active (hnew : new limit window = .ok lim)
    (hcalls : calls.Pairwise fun a b => a.2 ≤ b.2) (hnow : ∀ call ∈ calls, call.2 ≤ now)
    (hrefused : ((lim.after calls).check key now).1.allowed = false) :
    ((lim.after calls).active key now).length = lim.limit ∧
      ((lim.after calls).active key now).Pairwise (· ≤ ·) ∧
      ∀ t ∈ (lim.after calls).active key now, t ≤ now ∧ now - t < lim.window.val := by
  obtain ⟨hlimit, hwindow⟩ := after_limit lim calls
  obtain ⟨last, hlast, hsound⟩ := exists_sound hnew hcalls key hnow
  have hfull := (refused_iff _ key now).mp hrefused
  rw [hlimit] at hfull
  have hsub : ((lim.after calls).active key now).Sublist ((lim.after calls).requests key) :=
    List.filter_sublist
  have hkept : ((lim.after calls).requests key).Sublist (lim.allowedTimes key calls) := by
    have hgranted : (lim.after calls).requests key =
        inWindow lim.window.val (lim.allowedTimes key calls) last := hsound.kept
    rw [hgranted]
    exact List.filter_sublist
  refine ⟨le_antisymm (hsub.length_le.trans hsound.length) hfull,
    hsound.sorted.sublist (hsub.trans hkept), fun t ht => ⟨?_, ?_⟩⟩
  · exact (hsound.last t (hkept.subset (hsub.subset ht))).trans hlast
  · rw [← hwindow]
    exact of_decide_eq_true (List.mem_filter.mp ht).2

/-- A caller who was refused, and waits as long as it was told while nobody else calls on the key,
is let through exactly where the wait covers what was left: at most a second, or, up to some
centuries, a whole number of seconds. -/
theorem retry_after_iff (hnew : new limit window = .ok lim)
    (hcalls : calls.Pairwise fun a b => a.2 ≤ b.2) (hnow : ∀ call ∈ calls, call.2 ≤ now)
    (hrefused : ((lim.after calls).check key now).1.allowed = false)
    (hother : ∀ call ∈ between, call.1 ≠ key) :
    (((lim.after calls).retried key now between).allowed = true ↔
      WaitCovers ((lim.after calls).left key now)) ∧
    ((lim.after calls).left key now ≤ seconds (2 ^ 33) →
      (WaitCovers ((lim.after calls).left key now) ↔
        (lim.after calls).left key now ≤ seconds 1 ∨
          seconds 1 ∣ (lim.after calls).left key now)) := by
  obtain ⟨hlimit, hwindow⟩ := after_limit lim calls
  obtain ⟨hlength, hsorted, hactive⟩ := refused_active hnew hcalls hnow hrefused
  have hfull := (refused_iff _ key now).mp hrefused
  obtain ⟨oldest, rest, hrest⟩ : ∃ oldest rest, (lim.after calls).active key now = oldest :: rest :=
    List.exists_cons_of_length_pos (hlength ▸ lim.limit_pos)
  obtain ⟨hpast, hin⟩ := hactive oldest (hrest ▸ List.mem_cons_self)
  have hleft : (lim.after calls).left key now = lim.window.val - (now - oldest) := by
    rw [left, hrest, hwindow]
    rfl
  have hpos : 0 < (lim.after calls).left key now := by
    rw [hleft]
    exact sub_pos.mpr hin
  have hmax : (lim.after calls).left key now ≤ 86399999999999999999 := by
    rw [hleft]
    exact (sub_le_self _ (sub_nonneg.mpr hpast)).trans lim.window.property.2
  refine ⟨?_, waitCovers_iff_dvd hpos⟩
  rw [← le_retryAfter_iff hpos hmax]
  generalize hwait : max 1 (truncate (totalSeconds ((lim.after calls).left key now))) = wait
  have hretried : (lim.after calls).retried key now between =
      ((((lim.after calls).check key now).2.after between).check key (now + seconds wait)).1 := by
    rw [retried, check_of_le hfull, ← hwait]
  have hkept : (((lim.after calls).check key now).2.after between).requests key =
      oldest :: rest := by
    rw [after_requests_of_ne _ hother, check_of_le hfull, ← hrest]
    exact Function.update_self _ _ _
  obtain ⟨hlimit', hwindow'⟩ := after_limit ((lim.after calls).check key now).2 between
  rw [check_limit, hlimit] at hlimit'
  rw [check_window, hwindow] at hwindow'
  rw [hrest] at hsorted hlength
  have hallowed : (inWindow lim.window.val (oldest :: rest) (now + seconds wait)).length < lim.limit ↔
      lim.window.val ≤ now + seconds wait - oldest :=
    inWindow_length_lt_iff hsorted hlength _
  have hanswer : ((lim.after calls).retried key now between).allowed = true ↔
      (inWindow lim.window.val (oldest :: rest) (now + seconds wait)).length < lim.limit := by
    rw [hretried, ← Bool.not_eq_false, refused_iff, not_le, active, hkept, hlimit', hwindow']
    exact Iff.rfl
  rw [hanswer, hallowed, hleft]
  constructor <;> intro h <;> linarith

theorem retry_after_iff_sample :
    (((perMinute 1 le_rfl).after [("k", 0)]).retried "k" (seconds 2)
      [("other", seconds 3)]).allowed = true := by
  have hnew : new 1 (perMinute 1 le_rfl).window = .ok (perMinute 1 le_rfl) := rfl
  have hsorted : List.Pairwise (fun a b : String × Time => a.2 ≤ b.2) [("k", 0)] := by decide
  have hnow : ∀ call ∈ [(("k", 0) : String × Time)], call.2 ≤ seconds 2 := by decide
  have hother : ∀ call ∈ [(("other", seconds 3) : String × Time)], call.1 ≠ "k" := by decide
  have hrefused : (((perMinute 1 le_rfl).after [("k", 0)]).check "k" (seconds 2)).1.allowed =
      false := by
    decide +kernel
  have hhonest := retry_after_iff hnew hsorted hnow hrefused hother
  exact hhonest.1.mpr ((hhonest.2 (by decide)).mpr (.inr (by decide)))

/-- Half a second is lost: the caller who was told 59 seconds comes back too early. -/
theorem half_second_lost :
    (((perMinute 1 le_rfl).after [("k", 0)]).check "k" 500000).1 = ⟨false, 1, 0, 59⟩ ∧
      (((perMinute 1 le_rfl).after [("k", 0)]).retried "k" 500000 []).allowed = false := by
  decide +kernel

end FixedWindowRateLimiter

end RouteShield
