import Mathlib.Data.List.Basic

/-!
Runs of a deterministic machine over a list of inputs, and the rule that carries an
invariant along a run whose inputs each meet a condition on the state they find.
-/

namespace RouteShield

variable {σ ι : Type*}

/-- The state after a list of inputs. -/
def runFrom (step : σ → ι → σ) (s : σ) (inputs : List ι) : σ := inputs.foldl step s

/-- Every input finds a state that meets the condition. -/
def Meets (step : σ → ι → σ) (cond : σ → ι → Prop) : σ → List ι → Prop
  | _, [] => True
  | s, i :: inputs => cond s i ∧ Meets step cond (step s i) inputs

variable {step : σ → ι → σ} {cond : σ → ι → Prop}

instance instDecidableMeets [∀ s i, Decidable (cond s i)] :
    ∀ s inputs, Decidable (Meets step cond s inputs)
  | _, [] => .isTrue trivial
  | s, i :: inputs =>
    have := instDecidableMeets (step s i) inputs
    inferInstanceAs (Decidable (cond s i ∧ Meets step cond (step s i) inputs))

@[simp] theorem runFrom_nil (s : σ) : runFrom step s [] = s := rfl

@[simp] theorem runFrom_cons (s : σ) (i : ι) (inputs : List ι) :
    runFrom step s (i :: inputs) = runFrom step (step s i) inputs := rfl

theorem runFrom_append (s : σ) (inputs inputs' : List ι) :
    runFrom step s (inputs ++ inputs') = runFrom step (runFrom step s inputs) inputs' :=
  List.foldl_append

theorem meets_append (s : σ) (inputs inputs' : List ι) :
    Meets step cond s (inputs ++ inputs') ↔
      Meets step cond s inputs ∧ Meets step cond (runFrom step s inputs) inputs' := by
  induction inputs generalizing s with
  | nil => simp [Meets]
  | cons i inputs ih => simp [Meets, ih, and_assoc]

/-- A condition on the inputs alone holds along every run. -/
theorem Meets.and_forall {inputs : List ι} {s : σ} {p : ι → Prop} (hp : ∀ i ∈ inputs, p i)
    (h : Meets step cond s inputs) : Meets step (fun s i => p i ∧ cond s i) s inputs := by
  induction inputs generalizing s with
  | nil => trivial
  | cons i inputs ih =>
    exact ⟨⟨hp i List.mem_cons_self, h.1⟩, ih (fun j hj => hp j (List.mem_cons_of_mem i hj)) h.2⟩

theorem Meets.mono {cond' : σ → ι → Prop} (h : ∀ s i, cond s i → cond' s i) {inputs : List ι}
    {s : σ} (hmeets : Meets step cond s inputs) : Meets step cond' s inputs := by
  induction inputs generalizing s with
  | nil => trivial
  | cons i inputs ih => exact ⟨h s i hmeets.1, ih hmeets.2⟩

/-- Every run meets a condition that always holds. -/
theorem meets_true (s : σ) (inputs : List ι) : Meets step (fun _ _ => True) s inputs := by
  induction inputs generalizing s with
  | nil => trivial
  | cons i inputs ih => exact ⟨trivial, ih (step s i)⟩

/-- What every step preserves, every run preserves. -/
theorem runFrom_inv (inv : σ → Prop) (hstep : ∀ s i, inv s → cond s i → inv (step s i))
    {inputs : List ι} {s : σ} (hs : inv s) (h : Meets step cond s inputs) :
    inv (runFrom step s inputs) := by
  induction inputs generalizing s with
  | nil => exact hs
  | cons i inputs ih => exact ih (hstep s i hs h.1) h.2

/-- What the invariant of a run gives at every input, the run meets. -/
theorem Meets.of_inv {goal : σ → ι → Prop} (inv : σ → Prop)
    (hstep : ∀ s i, inv s → cond s i → inv (step s i)) (hgoal : ∀ s i, inv s → goal s i)
    {inputs : List ι} {s : σ} (hs : inv s) (h : Meets step cond s inputs) :
    Meets step goal s inputs := by
  induction inputs generalizing s with
  | nil => trivial
  | cons i inputs ih => exact ⟨hgoal s i hs, ih (hstep s i hs h.1) h.2⟩

/-- A run that keeps an invariant finds it at every input, beside the condition. -/
theorem Meets.and_inv (inv : σ → Prop) (hstep : ∀ s i, inv s → cond s i → inv (step s i))
    {inputs : List ι} {s : σ} (hs : inv s) (h : Meets step cond s inputs) :
    Meets step (fun s i => inv s ∧ cond s i) s inputs := by
  induction inputs generalizing s with
  | nil => trivial
  | cons i inputs ih => exact ⟨⟨hs, h.1⟩, ih (hstep s i hs h.1) h.2⟩

/-- Two conditions that agree wherever a run can come hold of the same runs. -/
theorem meets_iff_of_inv {cond' : σ → ι → Prop} (inv : σ → Prop)
    (hstep : ∀ s i, inv s → inv (step s i)) (hiff : ∀ s i, inv s → (cond s i ↔ cond' s i))
    {inputs : List ι} {s : σ} (hs : inv s) :
    Meets step cond s inputs ↔ Meets step cond' s inputs := by
  induction inputs generalizing s with
  | nil => exact Iff.rfl
  | cons i inputs ih => exact and_congr (hiff s i hs) (ih (hstep s i hs))

/-! ### Counting -/

/-- The number of inputs that hit. -/
def countFrom (step : σ → ι → σ) (hit : σ → ι → Prop) [∀ s i, Decidable (hit s i)] :
    σ → List ι → ℕ
  | _, [] => 0
  | s, i :: inputs => (if hit s i then 1 else 0) + countFrom step hit (step s i) inputs

section Count

variable {hit : σ → ι → Prop} [∀ s i, Decidable (hit s i)]

theorem countFrom_eq_zero_iff {s : σ} {inputs : List ι} :
    countFrom step hit s inputs = 0 ↔ Meets step (fun s i => ¬hit s i) s inputs := by
  induction inputs generalizing s with
  | nil => simp [countFrom, Meets]
  | cons i inputs ih => simp [countFrom, Meets, ih]

/-- What the first hit leaves, and every input keeps without a hit, lets no second one come. -/
theorem countFrom_le_one (inv : σ → Prop)
    (hfirst : ∀ s i, cond s i → hit s i → inv (step s i))
    (hkeep : ∀ s i, inv s → cond s i → inv (step s i)) (hquiet : ∀ s i, inv s → cond s i → ¬hit s i)
    {inputs : List ι} {s : σ} (h : Meets step cond s inputs) :
    countFrom step hit s inputs ≤ 1 := by
  induction inputs generalizing s with
  | nil => simp [countFrom]
  | cons i inputs ih =>
    by_cases hi : hit s i
    · have hrest : countFrom step hit (step s i) inputs = 0 :=
        countFrom_eq_zero_iff.mpr <| (h.2.and_inv inv hkeep (hfirst s i h.1 hi)).mono
          fun s i hs => hquiet s i hs.1 hs.2
      simp [countFrom, hi, hrest]
    · simpa [countFrom, hi] using ih h.2

/-- What a hit leaves, and every input keeps, holds after a run with a hit. -/
theorem runFrom_of_hit (inv : σ → Prop) (hhit : ∀ s i, cond s i → hit s i → inv (step s i))
    (hkeep : ∀ s i, inv s → cond s i → inv (step s i)) {inputs : List ι} {s : σ}
    (h : Meets step cond s inputs) (hcount : countFrom step hit s inputs ≠ 0) :
    inv (runFrom step s inputs) := by
  induction inputs generalizing s with
  | nil => exact absurd rfl hcount
  | cons i inputs ih =>
    by_cases hi : hit s i
    · exact runFrom_inv inv hkeep (s := step s i) (hhit s i h.1 hi) h.2
    · exact ih h.2 (by simpa [countFrom, hi] using hcount)

end Count

/-! ### Reading -/

section Read

variable {δ : Type*} (read : σ → ι → Option δ)

/-- What is read off the inputs of a run. -/
def readFrom (step : σ → ι → σ) (read : σ → ι → Option δ) : σ → List ι → List δ
  | _, [] => []
  | s, i :: inputs => (read s i).toList ++ readFrom step read (step s i) inputs

/-- An invariant of the state and of what was read so far. -/
theorem runFrom_read (inv : σ → List δ → Prop)
    (hstep : ∀ s i earlier, inv s earlier → cond s i → inv (step s i) (earlier ++ (read s i).toList))
    {inputs : List ι} {s : σ} {earlier : List δ} (hs : inv s earlier)
    (h : Meets step cond s inputs) :
    inv (runFrom step s inputs) (earlier ++ readFrom step read s inputs) := by
  induction inputs generalizing s earlier with
  | nil => rwa [readFrom, List.append_nil]
  | cons i inputs ih =>
    rw [readFrom, ← List.append_assoc]
    exact ih (hstep s i earlier hs h.1) h.2

end Read

end RouteShield
