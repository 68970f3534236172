import RouteShield.Lib.Pool

/-!
Programs against one state or another. Two interpreters are in lockstep when related states answer
a fitting call alike and are related after it. Pools of the same programs, stepped in the same
order, then hold the same programs for as long as the calls fit: no program can tell the two
interpreters apart.
-/

namespace RouteShield

variable {Op : Type → Type 1} {ε σ τ ι : Type}

/-- Related states answer a fitting call alike, and are related after it. -/
def Lockstep (exec : ∀ {γ : Type}, Op γ → σ → Except ε γ × σ)
    (exec' : ∀ {γ : Type}, Op γ → τ → Except ε γ × τ) (Fits : ∀ {γ : Type}, σ → Op γ → Prop)
    (R : σ → τ → Prop) : Prop :=
  ∀ {γ : Type} (op : Op γ) (s : σ) (t : τ), R s t → Fits s op →
    (exec' op t).1 = (exec op s).1 ∧ R (exec op s).2 (exec' op t).2

namespace Pool

/-- The same programs, against related states. -/
structure InStep (R : σ → τ → Prop) (pool : Pool Op ε σ) (pool' : Pool Op ε τ) : Prop where
  threads : pool'.threads = pool.threads
  state : R pool.state pool'.state

/-- The call that an event makes, if any, fits the state. -/
def Fitting (Fits : ∀ {γ : Type}, σ → Op γ → Prop) (pool : Pool Op ε σ) (e : PoolEvent ι) : Prop :=
  ¬pool.Calls (fun op => ¬Fits pool.state op) e

instance {Fits : ∀ {γ : Type}, σ → Op γ → Prop}
    [∀ (s : σ) {γ : Type} (op : Op γ), Decidable (Fits s op)] (pool : Pool Op ε σ)
    (e : PoolEvent ι) : Decidable (pool.Fitting Fits e) :=
  inferInstanceAs (Decidable ¬pool.Calls (fun op => ¬Fits pool.state op) e)

variable {exec : ∀ {γ : Type}, Op γ → σ → Except ε γ × σ}
  {exec' : ∀ {γ : Type}, Op γ → τ → Except ε γ × τ} {Fits : ∀ {γ : Type}, σ → Op γ → Prop}
  {R : σ → τ → Prop} {start : ι → Prog Op ε Unit} {pool : Pool Op ε σ} {pool' : Pool Op ε τ}

/-- The call of a step fits. -/
theorem Fitting.call {i : ℕ} (h : pool.Fitting Fits (.step i : PoolEvent ι)) {γ : Type}
    {op : Op γ} {next : Except ε γ → Prog Op ε Unit}
    (hi : pool.threads[i]? = some (.call op next)) : Fits pool.state op := by
  by_contra hnot
  exact h ⟨.call op next, hi, hnot⟩

/-- A step of a program that makes no call. -/
theorem stepThread_idle {i : ℕ}
    (hidle : ∀ {γ : Type} (op : Op γ) (next : Except ε γ → Prog Op ε Unit),
      pool.threads[i]? ≠ some (.call op next)) : pool.stepThread exec i = pool := by
  rcases stepThread_cases exec pool i with hsame | ⟨γ, op, next, hi, -⟩
  · exact hsame
  · exact absurd hi (hidle op next)

/-- One event, whose call fits if it makes one. -/
theorem InStep.apply (hlock : Lockstep exec exec' Fits R) (h : pool.InStep R pool')
    {e : PoolEvent ι} (hfits : pool.Fitting Fits e) :
    (pool.apply exec start e).InStep R (pool'.apply exec' start e) := by
  cases e with
  | spawn r =>
    refine ⟨?_, h.state⟩
    show pool'.threads ++ [start r] = pool.threads ++ [start r]
    rw [h.threads]
  | step i =>
    show (pool.stepThread exec i).InStep R (pool'.stepThread exec' i)
    by_cases hcalls : ∃ (γ : Type) (op : Op γ) (next : Except ε γ → Prog Op ε Unit),
      pool.threads[i]? = some (.call op next)
    · obtain ⟨γ, op, next, hi⟩ := hcalls
      have hi' : pool'.threads[i]? = some (.call op next) := by rw [h.threads, hi]
      obtain ⟨hanswer, hstate⟩ := hlock op pool.state pool'.state h.state (hfits.call hi)
      rw [stepThread_call hi, stepThread_call hi']
      refine ⟨?_, hstate⟩
      show pool'.threads.set i (next (exec' op pool'.state).1) =
        pool.threads.set i (next (exec op pool.state).1)
      rw [hanswer, h.threads]
    · have hidle : ∀ {γ : Type} (op : Op γ) (next : Except ε γ → Prog Op ε Unit),
          pool.threads[i]? ≠ some (.call op next) := fun op next hi => hcalls ⟨_, op, next, hi⟩
      have hidle' : ∀ {γ : Type} (op : Op γ) (next : Except ε γ → Prog Op ε Unit),
          pool'.threads[i]? ≠ some (.call op next) := by
        rw [h.threads]
        exact hidle
      rw [stepThread_idle hidle, stepThread_idle hidle']
      exact h

/-- Any number of events, each of whose calls fits the state it finds. -/
theorem InStep.runFrom (hlock : Lockstep exec exec' Fits R) (h : pool.InStep R pool')
    {events : List (PoolEvent ι)}
    (hfits : Meets (Pool.apply exec start) (fun pool e => pool.Fitting Fits e) pool events) :
    (runFrom (Pool.apply exec start) pool events).InStep R
      (runFrom (Pool.apply exec' start) pool' events) := by
  induction events generalizing pool pool' with
  | nil => exact h
  | cons e events ih => exact ih (h.apply hlock hfits.1) hfits.2

end Pool

end RouteShield
