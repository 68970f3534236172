import Mathlib.Algebra.Order.Group.Defs
import Mathlib.Data.List.Basic
import Mathlib.Data.List.Pairwise

/-!
A limit on the calls within a sliding window. The times of allowed calls are kept as long as they
are within the window, and a call is allowed while fewer than the limit are kept. At times that do
not decrease, what is kept is exactly the allowed calls within the window before the last call: so
no set of times closer together than the window has more allowed calls than the limit.
-/

namespace RouteShield.SlidingWindow

variable {G : Type*} [AddCommGroup G] [LinearOrder G]

/-- The times that are within the window before a time. -/
def inWindow (window : G) (times : List G) (now : G) : List G :=
  times.filter fun t => now - t < window

/-- The kept times of a limiter, and all its allowed calls. -/
@[ext] structure Log (G : Type*) where
  kept : List G := []
  granted : List G := []

variable {limit : ℕ} {window now : G} {log : Log G} {calls : List G}

def Log.call (limit : ℕ) (window : G) (log : Log G) (now : G) : Log G :=
  if limit ≤ (inWindow window log.kept now).length then
    { log with kept := inWindow window log.kept now }
  else
    { kept := inWindow window log.kept now ++ [now], granted := log.granted ++ [now] }

def Log.run (limit : ℕ) (window : G) (log : Log G) (calls : List G) : Log G :=
  calls.foldl (Log.call limit window) log

section Runs

@[simp] theorem Log.run_nil (log : Log G) : log.run limit window [] = log := rfl

@[simp] theorem Log.run_cons (log : Log G) (now : G) (calls : List G) :
    log.run limit window (now :: calls) = (log.call limit window now).run limit window calls := rfl

theorem Log.call_of_le (h : limit ≤ (inWindow window log.kept now).length) :
    log.call limit window now = { log with kept := inWindow window log.kept now } := if_pos h

theorem Log.call_of_lt (h : (inWindow window log.kept now).length < limit) :
    log.call limit window now =
      { kept := inWindow window log.kept now ++ [now], granted := log.granted ++ [now] } :=
  if_neg (not_le.mpr h)

end Runs

variable [IsOrderedAddMonoid G]

/-- What has left the window does not come back. -/
theorem inWindow_inWindow {last : G} (hle : last ≤ now) (times : List G) :
    inWindow window (inWindow window times last) now = inWindow window times now := by
  unfold inWindow
  rw [List.filter_filter]
  refine List.filter_congr fun t _ => ?_
  have hback : now - t < window → last - t < window := (sub_le_sub_right hle t).trans_lt
  by_cases h : now - t < window <;> simp [h, hback]

/-- Times that are closer together than the window. -/
def Close (window : G) (times : G → Bool) : Prop :=
  ∀ s t, times s = true → times t = true → t - s < window

/-- The invariant of a log after a call at the last time. -/
structure Log.Sound (limit : ℕ) (window : G) (log : Log G) (last : G) : Prop where
  kept : log.kept = inWindow window log.granted last
  length : log.kept.length ≤ limit
  sorted : log.granted.Pairwise (· ≤ ·)
  last : ∀ t ∈ log.granted, t ≤ last
  bound : ∀ times, Close window times → (log.granted.filter times).length ≤ limit

omit [IsOrderedAddMonoid G] in
theorem Log.sound_empty (limit : ℕ) (window last : G) : ({} : Log G).Sound limit window last where
  kept := rfl
  length := Nat.zero_le _
  sorted := .nil
  last _ h := absurd h List.not_mem_nil
  bound _ _ := Nat.zero_le _

theorem Log.Sound.call {last : G} (h : log.Sound limit window last) (hwindow : 0 < window)
    (hle : last ≤ now) : (log.call limit window now).Sound limit window now := by
  have hkept : inWindow window log.kept now = inWindow window log.granted now := by
    rw [h.kept, inWindow_inWindow hle]
  have hlast : ∀ t ∈ log.granted, t ≤ now := fun t ht => (h.last t ht).trans hle
  rcases le_or_gt limit (inWindow window log.kept now).length with hfull | hroom
  · rw [call_of_le hfull]
    exact
      { kept := hkept
        length := (List.length_filter_le _ _).trans h.length
        sorted := h.sorted
        last := hlast
        bound := h.bound }
  · rw [call_of_lt hroom]
    refine
      { kept := ?_
        length := by rw [List.length_append]; exact hroom
        sorted := List.pairwise_append.mpr ⟨h.sorted, List.pairwise_singleton _ _, ?_⟩
        last := ?_
        bound := ?_ }
    · have hnow : inWindow window [now] now = [now] := by simp [inWindow, hwindow]
      rw [hkept]
      unfold inWindow at hnow ⊢
      rw [List.filter_append, hnow]
    · intro t ht s hs
      rw [List.mem_singleton.mp hs]
      exact hlast t ht
    · intro t ht
      rcases List.mem_append.mp ht with ht | ht
      · exact hlast t ht
      · exact (List.mem_singleton.mp ht).le
    · intro times hclose
      rw [List.filter_append]
      by_cases hnow : times now = true
      · -- all of the set is within the window before this call
        have hsub : (log.granted.filter times).length ≤ (inWindow window log.granted now).length := by
          refine (List.monotone_filter_right _ fun t ht => ?_).length_le
          exact decide_eq_true (hclose t now ht hnow)
        rw [hkept] at hroom
        rw [List.filter_cons_of_pos hnow, List.filter_nil, List.length_append,
          List.length_singleton]
        omega
      · rw [List.filter_cons_of_neg hnow, List.filter_nil, List.append_nil]
        exact h.bound times hclose

theorem Log.Sound.run {last : G} (h : log.Sound limit window last) (hwindow : 0 < window)
    (hcalls : (last :: calls).Pairwise (· ≤ ·)) :
    (log.run limit window calls).Sound limit window
      ((last :: calls).getLast (List.cons_ne_nil _ _)) := by
  induction calls generalizing log last with
  | nil => exact h
  | cons now calls ih =>
    obtain ⟨hhead, htail⟩ := List.pairwise_cons.mp hcalls
    rw [List.getLast_cons_cons]
    exact ih (h.call hwindow (hhead now List.mem_cons_self)) htail

/-- At times that do not decrease, a set of times closer together than the window has no more
allowed calls than the limit. -/
theorem Log.granted_le (hwindow : 0 < window) (hcalls : calls.Pairwise (· ≤ ·)) {times : G → Bool}
    (hclose : Close window times) :
    ((({} : Log G).run limit window calls).granted.filter times).length ≤ limit := by
  cases calls with
  | nil => exact Nat.zero_le _
  | cons first calls =>
    have hstart : (({} : Log G).call limit window first).Sound limit window first :=
      (sound_empty limit window first).call hwindow le_rfl
    exact (hstart.run hwindow hcalls).bound times hclose

theorem Log.exists_sound (hwindow : 0 < window) (hcalls : calls.Pairwise (· ≤ ·))
    (hnow : ∀ t ∈ calls, t ≤ now) :
    ∃ last ≤ now, (({} : Log G).run limit window calls).Sound limit window last := by
  cases calls with
  | nil => exact ⟨now, le_rfl, sound_empty limit window now⟩
  | cons first calls =>
    have hstart : (({} : Log G).call limit window first).Sound limit window first :=
      (sound_empty limit window first).call hwindow le_rfl
    exact ⟨_, hnow _ (List.getLast_mem _), hstart.run hwindow hcalls⟩

/-- A call that is refused finds the limit of allowed calls within the window before it. -/
theorem Log.Sound.refused {last : G} (h : log.Sound limit window last) (hle : last ≤ now)
    (hfull : limit ≤ (inWindow window log.kept now).length) :
    limit ≤ (log.granted.filter fun t => now - window < t ∧ t ≤ now).length := by
  rw [h.kept, inWindow_inWindow hle] at hfull
  refine hfull.trans (le_of_eq ?_)
  unfold inWindow
  congr 1
  refine List.filter_congr fun t ht => ?_
  have hiff : now - t < window ↔ now - window < t := by
    rw [sub_lt_iff_lt_add, sub_lt_iff_lt_add']
  simp [hiff, (h.last t ht).trans hle]

/-- With the limit of times kept, a later call is allowed when the oldest of them has left. -/
theorem inWindow_length_lt_iff {oldest : G} {rest : List G}
    (hsorted : (oldest :: rest).Pairwise (· ≤ ·)) (hfull : (oldest :: rest).length = limit)
    (later : G) :
    (inWindow window (oldest :: rest) later).length < limit ↔ window ≤ later - oldest := by
  rw [← hfull]
  constructor
  · intro h
    by_contra hin
    have hall : inWindow window (oldest :: rest) later = oldest :: rest := by
      unfold inWindow
      rw [List.filter_eq_self]
      intro t ht
      have hold : oldest ≤ t := by
        rcases List.mem_cons.mp ht with rfl | ht
        · exact le_rfl
        · exact List.rel_of_pairwise_cons hsorted ht
      exact decide_eq_true ((sub_le_sub_left hold later).trans_lt (not_le.mp hin))
    rw [hall] at h
    exact lt_irrefl _ h
  · intro h
    unfold inWindow
    rw [List.filter_cons_of_neg (by simpa using h)]
    exact Nat.lt_succ_of_le (List.length_filter_le _ _)

end RouteShield.SlidingWindow
