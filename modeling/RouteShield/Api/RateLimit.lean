import RouteShield.Domain.Models
import RouteShield.Lib.Binary64
import RouteShield.Lib.SlidingWindow

/-!
The limiter of one process. It keeps the times of the allowed calls on a key while they are within
the window, and tells a refused caller when to come back: in the whole seconds that are left until
the oldest kept call leaves the window, rounded down.
-/

namespace RouteShield

open SlidingWindow

/-- A `timedelta`, in microseconds. -/
abbrev Timedelta := {d : ℤ // -86399999913600000000 ≤ d ∧ d ≤ 86399999999999999999}

/-- `timedelta.total_seconds`. -/
def totalSeconds (delta : ℤ) : ℚ := Binary64.round (delta / 10 ^ 6)

/-- `int` of a float. -/
def truncate (x : ℚ) : ℤ := if 0 ≤ x then ⌊x⌋ else ⌈x⌉

structure RateLimitResult where
  allowed : Bool
  limit : ℕ
  remaining : ℕ
  retryAfterSeconds : ℤ
  deriving DecidableEq

structure FixedWindowRateLimiter where
  limit : ℕ
  window : Timedelta
  requests : String → List Time := fun _ => []
  limit_pos : 1 ≤ limit
  window_pos : 0 < window.val

namespace FixedWindowRateLimiter

/-- `__init__`. -/
def new (limit : ℤ) (window : Timedelta) : Except Fault FixedWindowRateLimiter :=
  if hlimit : limit < 1 then .error (.value "rate limit must be at least one request")
  else if hwindow : window.val ≤ 0 then .error (.value "rate-limit window must be positive")
  else .ok
    { limit := limit.toNat
      window
      limit_pos := by omega
      window_pos := not_le.mp hwindow }

def active (lim : FixedWindowRateLimiter) (key : String) (now : Time) : List Time :=
  (lim.requests key).filter (fun time => now - time < lim.window.val)

/-- A call under the lock; a refusal finds a time in `active`, since the limit is positive. -/
def check (lim : FixedWindowRateLimiter) (key : String) (now : Time) :
    RateLimitResult × FixedWindowRateLimiter :=
  let active := lim.active key now
  if lim.limit ≤ active.length then
    ({ allowed := false
       limit := lim.limit
       remaining := 0
       retryAfterSeconds :=
         max 1 (truncate (totalSeconds (lim.window.val - (now - active.headD now)))) },
      { lim with requests := Function.update lim.requests key active })
  else
    ({ allowed := true
       limit := lim.limit
       remaining := lim.limit - (active ++ [now]).length
       retryAfterSeconds := 0 },
      { lim with requests := Function.update lim.requests key (active ++ [now]) })

/-- The limiter after a sequence of calls. -/
def after (lim : FixedWindowRateLimiter) (calls : List (String × Time)) : FixedWindowRateLimiter :=
  calls.foldl (fun lim call => (lim.check call.1 call.2).2) lim

/-- The times of the calls on a key that are allowed. -/
def allowedTimes (lim : FixedWindowRateLimiter) (key : String) : List (String × Time) → List Time
  | [] => []
  | call :: calls =>
    (if call.1 = key ∧ (lim.check call.1 call.2).1.allowed = true then [call.2] else []) ++
      (lim.check call.1 call.2).2.allowedTimes key calls

variable {lim : FixedWindowRateLimiter} {limit : ℤ} {window : Timedelta} {key : String} {now : Time}
  {calls : List (String × Time)}

theorem new_eq_ok (h : new limit window = .ok lim) :
    (lim.limit : ℤ) = limit ∧ lim.window = window ∧ lim.requests = fun _ => [] := by
  unfold new at h
  split_ifs at h with hlimit
  cases h
  refine ⟨?_, rfl, rfl⟩
  have hpos : 0 ≤ limit := by omega
  exact Int.toNat_of_nonneg hpos

@[simp] theorem check_limit (lim : FixedWindowRateLimiter) (key : String) (now : Time) :
    (lim.check key now).2.limit = lim.limit := by
  unfold check
  dsimp only
  split_ifs <;> rfl

@[simp] theorem check_window (lim : FixedWindowRateLimiter) (key : String) (now : Time) :
    (lim.check key now).2.window = lim.window := by
  unfold check
  dsimp only
  split_ifs <;> rfl

/-- A call leaves what is kept of the other keys. -/
theorem check_requests_of_ne (lim : FixedWindowRateLimiter) (now : Time) {other : String}
    (h : other ≠ key) : (lim.check key now).2.requests other = lim.requests other := by
  unfold check
  dsimp only
  split_ifs <;> exact Function.update_of_ne h _ _

/-- On its own key a call is a call of the log. -/
theorem call_log (lim : FixedWindowRateLimiter) (key : String) (now : Time) (granted : List Time) :
    (Log.mk (lim.requests key) granted).call lim.limit lim.window.val now =
      ⟨(lim.check key now).2.requests key,
        granted ++ if (lim.check key now).1.allowed = true then [now] else []⟩ := by
  unfold check active
  dsimp only
  by_cases hfull : lim.limit ≤ (inWindow lim.window.val (lim.requests key) now).length
  · rw [Log.call_of_le hfull]
    simp only [inWindow] at hfull ⊢
    rw [if_pos hfull]
    simp
  · rw [Log.call_of_lt (not_le.mp hfull)]
    simp only [inWindow] at hfull ⊢
    rw [if_neg hfull]
    simp

/-- The times of the calls on a key. -/
def callsOn (key : String) (calls : List (String × Time)) : List Time :=
  (calls.filter (fun call => call.1 = key)).map Prod.snd

/-- What is kept and allowed on a key is a run of its calls alone. -/
theorem run_log (lim : FixedWindowRateLimiter) (key : String) (calls : List (String × Time))
    (granted : List Time) :
    (Log.mk (lim.requests key) granted).run lim.limit lim.window.val (callsOn key calls) =
      ⟨(lim.after calls).requests key, granted ++ lim.allowedTimes key calls⟩ := by
  induction calls generalizing lim granted with
  | nil => simp [callsOn, after, allowedTimes]
  | cons call calls ih =>
    have hstep := ih (lim.check call.1 call.2).2
    rw [check_limit, check_window] at hstep
    by_cases hkey : call.1 = key
    · have hcalls : callsOn key (call :: calls) = call.2 :: callsOn key calls := by
        simp [callsOn, hkey]
      rw [hcalls, Log.run_cons, ← hkey, call_log]
      rw [hkey] at hstep ⊢
      rw [hstep]
      simp [allowedTimes, hkey, after]
    · have hcalls : callsOn key (call :: calls) = callsOn key calls := by
        simp [callsOn, hkey]
      rw [hcalls, ← check_requests_of_ne lim call.2 (Ne.symm hkey), hstep]
      simp [allowedTimes, hkey, after]

theorem callsOn_sorted (hcalls : calls.Pairwise fun a b => a.2 ≤ b.2) (key : String) :
    (callsOn key calls).Pairwise (· ≤ ·) :=
  List.pairwise_map.mpr (hcalls.filter _)

/-- A fresh limiter runs each key from the empty log. -/
theorem run_log_of_new (h : new limit window = .ok lim) (key : String)
    (calls : List (String × Time)) :
    ({} : Log Time).run lim.limit lim.window.val (callsOn key calls) =
      ⟨(lim.after calls).requests key, lim.allowedTimes key calls⟩ := by
  have hrun := run_log lim key calls []
  rw [(new_eq_ok h).2.2] at hrun
  exact hrun

theorem after_limit (lim : FixedWindowRateLimiter) (calls : List (String × Time)) :
    (lim.after calls).limit = lim.limit ∧ (lim.after calls).window = lim.window := by
  induction calls generalizing lim with
  | nil => exact ⟨rfl, rfl⟩
  | cons call calls ih =>
    obtain ⟨hlimit, hwindow⟩ := ih (lim.check call.1 call.2).2
    exact ⟨hlimit.trans (check_limit _ _ _), hwindow.trans (check_window _ _ _)⟩

/-- An answer depends on what is kept of its key alone. -/
theorem check_congr {other : FixedWindowRateLimiter} (hlimit : lim.limit = other.limit)
    (hwindow : lim.window = other.window) (hkey : lim.requests key = other.requests key)
    (now : Time) : (lim.check key now).1 = (other.check key now).1 := by
  cases lim
  cases other
  dsimp only at hlimit hwindow hkey
  subst hlimit hwindow
  unfold check active
  dsimp only
  rw [hkey]
  split_ifs <;> rfl

theorem callsOn_filter (key : String) (calls : List (String × Time)) :
    callsOn key (calls.filter fun call => call.1 = key) = callsOn key calls := by
  unfold callsOn
  rw [List.filter_filter]
  simp

theorem after_filter (h : new limit window = .ok lim) (key : String)
    (calls : List (String × Time)) :
    (lim.after (calls.filter fun call => call.1 = key)).requests key =
      (lim.after calls).requests key := by
  have hrun := run_log_of_new h key calls
  rw [← callsOn_filter, run_log_of_new h] at hrun
  exact congrArg Log.kept hrun

theorem refused_iff (lim : FixedWindowRateLimiter) (key : String) (now : Time) :
    (lim.check key now).1.allowed = false ↔ lim.limit ≤ (lim.active key now).length := by
  unfold check
  dsimp only
  split_ifs with hfull
  · exact iff_of_true rfl hfull
  · exact iff_of_false (fun h => by cases h) hfull

/-- A set of times closer together than the window has no more allowed calls than the limit. -/
theorem allowed_le (hnew : new limit window = .ok lim)
    (hcalls : calls.Pairwise fun a b => a.2 ≤ b.2) (key : String) {times : Time → Bool}
    (hclose : Close lim.window.val times) :
    ((lim.allowedTimes key calls).filter times).length ≤ lim.limit := by
  have hle : ((({} : Log Time).run lim.limit lim.window.val (callsOn key calls)).granted.filter
      times).length ≤ lim.limit :=
    Log.granted_le lim.window_pos (callsOn_sorted hcalls key) hclose
  rwa [run_log_of_new hnew] at hle

/-- The state of a key at times that do not decrease. -/
theorem exists_sound (hnew : new limit window = .ok lim)
    (hcalls : calls.Pairwise fun a b => a.2 ≤ b.2) (key : String)
    (hnow : ∀ call ∈ calls, call.2 ≤ now) :
    ∃ last ≤ now, (Log.mk ((lim.after calls).requests key) (lim.allowedTimes key calls)).Sound
      lim.limit lim.window.val last := by
  have hall : ∀ t ∈ callsOn key calls, t ≤ now := by
    intro t ht
    obtain ⟨call, hcall, rfl⟩ := List.mem_map.mp ht
    exact hnow call (List.mem_filter.mp hcall).1
  have hsound : ∃ last ≤ now, (({} : Log Time).run lim.limit lim.window.val
      (callsOn key calls)).Sound lim.limit lim.window.val last :=
    Log.exists_sound lim.window_pos (callsOn_sorted hcalls key) hall
  rwa [run_log_of_new hnew] at hsound

/-- On each key, intervals of the length of the window that are open at one end have no more
allowed calls than the limit, a refused call comes after as many allowed ones within the window,
and the calls on the other keys make no difference. -/
theorem rate_limit_window (hnew : new limit window = .ok lim)
    (hcalls : calls.Pairwise fun a b => a.2 ≤ b.2) (key : String) :
    (∀ start, ((lim.allowedTimes key calls).filter
      fun t => start < t ∧ t ≤ start + window.val).length ≤ limit) ∧
    (∀ start, ((lim.allowedTimes key calls).filter
      fun t => start ≤ t ∧ t < start + window.val).length ≤ limit) ∧
    ∀ now, (∀ call ∈ calls, call.2 ≤ now) →
      (((lim.after calls).check key now).1.allowed = false →
        limit ≤ ((lim.allowedTimes key calls).filter
          fun t => now - window.val < t ∧ t ≤ now).length) ∧
      ((lim.after calls).check key now).1 =
        ((lim.after (calls.filter fun call => call.1 = key)).check key now).1 := by
  obtain ⟨hlimit, rfl, -⟩ := new_eq_ok hnew
  rw [← hlimit]
  norm_cast
  refine ⟨fun start => ?_, fun start => ?_, fun now hnow => ⟨fun hrefused => ?_, ?_⟩⟩
  · refine allowed_le hnew hcalls key fun s t hs ht => ?_
    simp only [decide_eq_true_eq] at hs ht
    omega
  · refine allowed_le hnew hcalls key fun s t hs ht => ?_
    simp only [decide_eq_true_eq] at hs ht
    omega
  · obtain ⟨hsame, hwindow⟩ := after_limit lim calls
    obtain ⟨last, hlast, hsound⟩ := exists_sound hnew hcalls key hnow
    have hfull := (refused_iff _ key now).mp hrefused
    unfold active at hfull
    rw [hsame, hwindow] at hfull
    exact hsound.refused hlast hfull
  · obtain ⟨hsame, hwindow⟩ := after_limit lim calls
    obtain ⟨hsame', hwindow'⟩ := after_limit lim (calls.filter fun call => call.1 = key)
    exact check_congr (hsame.trans hsame'.symm) (hwindow.trans hwindow'.symm)
      (after_filter hnew key calls).symm now

/-- So many calls a minute. -/
def perMinute (limit : ℕ) (hlimit : 1 ≤ limit) : FixedWindowRateLimiter where
  limit
  window := ⟨seconds 60, by decide⟩
  limit_pos := hlimit
  window_pos := by decide

def minuteOfCalls : List (String × Time) :=
  [("k", 0), ("k", seconds 30), ("k", seconds 59), ("k", seconds 60)]

/-- With two calls a minute the call at 59 seconds is refused. -/
theorem rate_limit_window_sample :
    (perMinute 2 one_le_two).allowedTimes "k" minuteOfCalls = [0, seconds 30, seconds 60] ∧
      (((perMinute 2 one_le_two).allowedTimes "k" minuteOfCalls).filter
        fun t => 0 < t ∧ t ≤ 0 + seconds 60).length ≤ 2 := by
  have hnew : new 2 (perMinute 2 one_le_two).window = .ok (perMinute 2 one_le_two) := rfl
  have hsorted : minuteOfCalls.Pairwise fun a b => a.2 ≤ b.2 := by decide
  have hle := (rate_limit_window hnew hsorted "k").1 0
  exact ⟨by decide, by exact_mod_cast hle⟩

end FixedWindowRateLimiter

end RouteShield
