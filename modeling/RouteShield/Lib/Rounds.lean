import RouteShield.Lib.Prog
import RouteShield.Lib.Runs

/-!
Loops whose rounds may raise. `mapM` gives up at the first round that raises, and raises its
error. A loop that takes each round on its own goes on from the state the round has left, with
the results of the rounds that return. The two agree exactly where no round raises.
-/

namespace RouteShield.Prog

variable {Op : Type → Type 1} {ε α β σ : Type} (exec : ∀ {γ : Type}, Op γ → σ → Except ε γ × σ)

def Returns (p : Prog Op ε α) (s : σ) : Prop := ∃ a s', p.run exec s = (.ok a, s')

/-- The state that a round leaves, returned or raised. -/
def roundFrom (f : β → Prog Op ε α) (s : σ) (x : β) : σ := ((f x).run exec s).2

/-- Each round on its own. -/
def runEach (f : β → Prog Op ε α) : List β → σ → List α × σ
  | [], s => ([], s)
  | x :: xs, s =>
    let rest := runEach f xs (roundFrom exec f s x)
    (((f x).run exec s).1.toOption.toList ++ rest.1, rest.2)

variable {exec} {f : β → Prog Op ε α}

theorem returns_bind {g : α → Prog Op ε β} {p : Prog Op ε α} {s : σ} :
    (p >>= g).Returns exec s ↔ ∃ a s', p.run exec s = (.ok a, s') ∧ (g a).Returns exec s' := by
  constructor
  · rintro ⟨b, s'', h⟩
    obtain ⟨a, s', hp, hg⟩ := run_bind_eq_ok.mp h
    exact ⟨a, s', hp, b, s'', hg⟩
  · rintro ⟨a, s', hp, b, s'', hg⟩
    exact ⟨b, s'', run_bind_eq_ok.mpr ⟨a, s', hp, hg⟩⟩

theorem returns_pure (a : α) (s : σ) : (pure a : Prog Op ε α).Returns exec s := ⟨a, s, rfl⟩

/-- Where no round raises, the loop does what the rounds do on their own. -/
theorem run_mapM_eq_runEach {xs : List β} {s : σ}
    (h : Meets (roundFrom exec f) (fun s x => (f x).Returns exec s) s xs) :
    (xs.mapM f).run exec s = (.ok (runEach exec f xs s).1, (runEach exec f xs s).2) := by
  induction xs generalizing s with
  | nil => rfl
  | cons x xs ih =>
    obtain ⟨⟨a, s', hx⟩, hxs⟩ := h
    have hround : roundFrom exec f s x = s' := congrArg Prod.snd hx
    rw [hround] at hxs
    rw [List.mapM_cons, run_bind_ok hx, run_bind_ok (ih hxs)]
    simp only [runEach, hround, hx]
    rfl

/-- A loop that returns has no round that raises. -/
theorem meets_of_run_mapM {xs : List β} {ys : List α} {s s' : σ}
    (h : (xs.mapM f).run exec s = (.ok ys, s')) :
    Meets (roundFrom exec f) (fun s x => (f x).Returns exec s) s xs := by
  induction xs generalizing s ys s' with
  | nil => trivial
  | cons x xs ih =>
    rw [List.mapM_cons] at h
    obtain ⟨a, t, hx, hrest⟩ := run_bind_eq_ok.mp h
    obtain ⟨as, t', hxs, -⟩ := run_bind_eq_ok.mp hrest
    have hround : roundFrom exec f s x = t := congrArg Prod.snd hx
    refine ⟨⟨a, t, hx⟩, ?_⟩
    rw [hround]
    exact ih hxs

theorem returns_mapM {xs : List β} {s : σ} :
    (xs.mapM f).Returns exec s ↔ Meets (roundFrom exec f) (fun s x => (f x).Returns exec s) s xs :=
  ⟨fun ⟨_, _, h⟩ => meets_of_run_mapM h, fun h => ⟨_, _, run_mapM_eq_runEach h⟩⟩

end RouteShield.Prog
