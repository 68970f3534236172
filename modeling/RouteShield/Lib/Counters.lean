import Mathlib.Data.Int.Init
import Mathlib.Logic.Function.Basic
import Mathlib.Order.Lattice

/-!
Counters that a store keeps under keys until their deadlines. An increment of a counter that is
missing or past its deadline starts at one and has no deadline; a deadline is set afterwards. Of the
increments within an interval that every deadline outlasts, no more than a limit are answered with a
count within the limit.
-/

namespace RouteShield

/-- A counter of a store whose clock has its times in `T`. -/
structure Counter (T : Type) where
  count : ℕ
  deadline : Option T := none

namespace Counter

variable {T : Type} [LinearOrder T]

/-- The counter is still kept at a time. -/
def live (now : T) (counter : Counter T) : Bool := counter.deadline.all fun deadline => now < deadline

/-- The counter after one more increment. -/
def incremented (now : T) (counter : Option (Counter T)) : Counter T :=
  match counter.filter (live now) with
  | some counter => { counter with count := counter.count + 1 }
  | none => { count := 1 }

/-- A deadline is set for a counter that is kept; of no other is anything kept. -/
def expiring (now deadline : T) (counter : Option (Counter T)) : Option (Counter T) :=
  (counter.filter (live now)).map fun counter => { counter with deadline := some deadline }

/-- Of an interval's increments `n` have been granted, and the counter counts them and lasts until
the interval is over. -/
structure Grants (limit : ℕ) (opens closes : T) (n : ℕ) (now : T) (counter : Option (Counter T)) :
    Prop where
  within : n ≤ limit
  counted : counter = none → n = 0 ∨ closes ≤ now
  kept : ∀ c ∈ counter, n ≤ c.count ∧ opens ≤ now ∧ ∀ deadline ∈ c.deadline, closes ≤ deadline

variable {limit n : ℕ} {opens closes now deadline : T} {counter : Option (Counter T)}

theorem grants_none : Grants limit opens closes 0 now none :=
  ⟨Nat.zero_le _, fun _ => .inl rfl, fun _ h => (Option.not_mem_none _ h).elim⟩

theorem Grants.later {now' : T} (h : Grants limit opens closes n now counter) (hle : now ≤ now') :
    Grants limit opens closes n now' counter where
  within := h.within
  counted hnone := (h.counted hnone).imp_right hle.trans'
  kept c hc := by
    obtain ⟨hcount, hopens, hdeadline⟩ := h.kept c hc
    exact ⟨hcount, hopens.trans hle, hdeadline⟩

/-- Within the interval the counter is kept. -/
theorem Grants.filter_live (h : Grants limit opens closes n now counter) (hcloses : now < closes) :
    counter.filter (live now) = counter := by
  cases counter with
  | none => rfl
  | some c =>
    refine Option.filter_eq_some_iff.mpr ⟨rfl, ?_⟩
    obtain ⟨-, -, hdeadline⟩ := h.kept c rfl
    simp only [live, Option.all_eq_true, decide_eq_true_eq]
    exact fun d hd => hcloses.trans_le (hdeadline d hd)

/-- An increment within the interval is granted when its count is within the limit. -/
theorem Grants.increment (h : Grants limit opens closes n now counter) (hopens : opens ≤ now)
    (hcloses : now < closes) :
    Grants limit opens closes (if (incremented now counter).count ≤ limit then n + 1 else n) now
      (some (incremented now counter)) := by
  have hkept : n + 1 ≤ (incremented now counter).count ∧
      ∀ d ∈ (incremented now counter).deadline, closes ≤ d := by
    unfold incremented
    rw [h.filter_live hcloses]
    cases counter with
    | none =>
      obtain rfl := (h.counted rfl).resolve_right (not_le.mpr hcloses)
      exact ⟨Nat.le_refl _, fun _ hd => (Option.not_mem_none _ hd).elim⟩
    | some c =>
      obtain ⟨hcount, -, hdeadline⟩ := h.kept c rfl
      exact ⟨Nat.succ_le_succ hcount, hdeadline⟩
  refine ⟨?_, nofun, fun c hc => ?_⟩
  · split_ifs with hlimit
    · exact Nat.le_trans hkept.1 hlimit
    · exact h.within
  · obtain rfl := Option.some.inj hc
    refine ⟨?_, hopens, hkept.2⟩
    split_ifs
    · exact hkept.1
    · exact Nat.le_of_succ_le hkept.1

/-- A deadline that outlasts the interval, set at any time. -/
theorem Grants.expire (h : Grants limit opens closes n now counter)
    (hdeadline : opens ≤ now → closes ≤ deadline) :
    Grants limit opens closes n now (expiring now deadline counter) := by
  unfold expiring
  cases hlive : counter.filter (live now) with
  | none =>
    refine ⟨h.within, fun _ => ?_, fun _ hd => (Option.not_mem_none _ hd).elim⟩
    by_contra hlost
    rw [not_or, not_le] at hlost
    rw [h.filter_live hlost.2] at hlive
    exact hlost.1 ((h.counted hlive).resolve_right (not_le.mpr hlost.2))
  | some c =>
    obtain ⟨hcount, hopens, -⟩ := h.kept c (Option.filter_eq_some_iff.mp hlive).1
    refine ⟨h.within, nofun, fun d hd => ?_⟩
    obtain rfl := Option.some.inj hd
    refine ⟨hcount, hopens, fun e he => ?_⟩
    obtain rfl := Option.some.inj he
    exact hdeadline hopens

end Counter

end RouteShield
