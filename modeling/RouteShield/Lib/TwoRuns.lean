import RouteShield.Lib.Prog

/-!
Programs side by side. A program may be taken over to more operations, where it runs as before.
Two programs are alike under a relation on states when from related states they come to related
outcomes and to related states; the rules follow how programs are put together.
-/

namespace RouteShield

namespace Prog

variable {Op Op' : Type → Type 1} {ε α α' β β' σ : Type}

/-! ### More operations -/

/-- The program with each of its calls as a call of another operation. -/
def embed (lift : ∀ {γ : Type}, Op γ → Op' γ) : Prog Op ε α → Prog Op' ε α
  | .pure a => .pure a
  | .throw e => .throw e
  | .call op next => .call (lift op) fun r => (next r).embed lift

section Embed

variable {lift : ∀ {γ : Type}, Op γ → Op' γ}

theorem embed_bind (p : Prog Op ε α) (f : α → Prog Op ε β) :
    (p >>= f).embed lift = p.embed lift >>= fun a => (f a).embed lift := by
  induction p with
  | pure a => rfl
  | throw e => rfl
  | call op next ih => exact congrArg (Prog.call (lift op)) (funext ih)

theorem CallFree.embed {p : Prog Op ε α} (hp : p.CallFree) : (p.embed lift).CallFree := by
  obtain ⟨r, rfl⟩ := hp
  exact ⟨r, by cases r <;> rfl⟩

/-- Where the operations answer as before, the program runs as before. -/
theorem run_embed {exec : ∀ {γ : Type}, Op γ → σ → Except ε γ × σ}
    {exec' : ∀ {γ : Type}, Op' γ → σ → Except ε γ × σ}
    (hexec : ∀ {γ : Type} (op : Op γ) (s : σ), exec' (lift op) s = exec op s) (p : Prog Op ε α)
    (s : σ) : (p.embed lift).run exec' s = p.run exec s := by
  induction p generalizing s with
  | pure a => rfl
  | throw e => rfl
  | call op next ih =>
    show ((next (exec' (lift op) s).1).embed lift).run exec' (exec' (lift op) s).2 = _
    rw [hexec op s]
    exact ih _ _

end Embed

/-! ### Two runs -/

/-- The same error, or values that a relation holds of. -/
inductive Outcomes (Q : α → α' → Prop) : Except ε α → Except ε α' → Prop where
  | ok {a : α} {a' : α'} (h : Q a a') : Outcomes Q (.ok a) (.ok a')
  | error (e : ε) : Outcomes Q (.error e) (.error e)

theorem Outcomes.eq {r r' : Except ε α} (h : Outcomes Eq r r') : r = r' := by
  cases h with
  | ok h => rw [h]
  | error e => rfl

/-- From related states, two programs come to related outcomes and to related states. -/
def Alike (exec : ∀ {γ : Type}, Op γ → σ → Except ε γ × σ) (R : σ → σ → Prop)
    (Q : α → α' → Prop) (p : Prog Op ε α) (p' : Prog Op ε α') : Prop :=
  ∀ s s', R s s' → Outcomes Q (p.run exec s).1 (p'.run exec s').1 ∧
    R (p.run exec s).2 (p'.run exec s').2

section Alike

variable {exec : ∀ {γ : Type}, Op γ → σ → Except ε γ × σ} {R : σ → σ → Prop}
  {Q : α → α' → Prop} {S : β → β' → Prop}

theorem alike_pure {a : α} {a' : α'} (h : Q a a') :
    Alike exec R Q (pure a : Prog Op ε α) (pure a') := fun _ _ hs => ⟨.ok h, hs⟩

theorem alike_throw (e : ε) : Alike exec R Q (.throw e : Prog Op ε α) (.throw e) :=
  fun _ _ hs => ⟨.error e, hs⟩

/-- A sequence is alike when its parts are, on related values of the first. -/
theorem alike_bind {p : Prog Op ε α} {p' : Prog Op ε α'} {f : α → Prog Op ε β}
    {f' : α' → Prog Op ε β'} (hp : Alike exec R Q p p')
    (hf : ∀ a a', Q a a' → Alike exec R S (f a) (f' a')) :
    Alike exec R S (p >>= f) (p' >>= f') := by
  intro s s' hs
  have hruns : Outcomes Q (p.run exec s).1 (p'.run exec s').1 ∧
    R (p.run exec s).2 (p'.run exec s').2 := hp s s' hs
  rw [run_bind, run_bind]
  generalize p.run exec s = x at hruns ⊢
  generalize p'.run exec s' = x' at hruns ⊢
  obtain ⟨r, t⟩ := x
  obtain ⟨r', t'⟩ := x'
  obtain ⟨hout, hstate⟩ := hruns
  cases hout with
  | ok h => exact hf _ _ h t t' hstate
  | error e => exact ⟨.error e, hstate⟩

theorem alike_perform {op : Op α} {op' : Op α'}
    (h : ∀ s s', R s s' → Outcomes Q (exec op s).1 (exec op' s').1 ∧
      R (exec op s).2 (exec op' s').2) :
    Alike exec R Q (perform op : Prog Op ε α) (perform op') := by
  intro s s' hs
  rw [run_perform, run_perform]
  exact h s s' hs

/-- A program without calls looks at neither state. -/
theorem CallFree.alike {p : Prog Op ε α} (hp : p.CallFree) : Alike exec R Eq p p := by
  obtain ⟨r, rfl⟩ := hp
  cases r with
  | ok a => exact alike_pure rfl
  | error e => exact alike_throw e

/-- A check that ends here ends both runs. -/
theorem CallFree.alike_bind {p : Prog Op ε α} (hp : p.CallFree) {f : α → Prog Op ε β}
    {f' : α → Prog Op ε β'} (hf : ∀ a, p = pure a → Alike exec R S (f a) (f' a)) :
    Alike exec R S (p >>= f) (p >>= f') := by
  obtain ⟨r, rfl⟩ := hp
  cases r with
  | ok a => exact hf a rfl
  | error e => exact alike_throw e

/-- Calls that answer alike make the program answer alike. -/
theorem Only.alike {P : ∀ {γ : Type}, Op γ → Prop} {p : Prog Op ε α} (hp : p.Only P)
    (h : ∀ {γ : Type} (op : Op γ), P op → ∀ s s', R s s' →
      (exec op s).1 = (exec op s').1 ∧ R (exec op s).2 (exec op s').2) :
    Alike exec R Eq p p := by
  induction p with
  | pure a => exact alike_pure rfl
  | throw e => exact alike_throw e
  | call op next ih =>
    intro s s' hs
    obtain ⟨hanswer, hstate⟩ := h op hp.1 s s' hs
    show Outcomes Eq ((next (exec op s).1).run exec (exec op s).2).1
        ((next (exec op s').1).run exec (exec op s').2).1 ∧ _
    rw [← hanswer]
    refine ⟨(ih (exec op s).1 (hp.2 _) _ _ hstate).1, ?_⟩
    show R ((next (exec op s).1).run exec (exec op s).2).2
      ((next (exec op s').1).run exec (exec op s').2).2
    rw [← hanswer]
    exact (ih (exec op s).1 (hp.2 _) _ _ hstate).2

/-- A loop over related lists keeps related results, round by round. -/
theorem alike_mapM {f : α → Prog Op ε β} {f' : α' → Prog Op ε β'} {xs : List α} {xs' : List α'}
    (hxs : List.Forall₂ Q xs xs') (hf : ∀ a a', Q a a' → Alike exec R S (f a) (f' a')) :
    Alike exec R (List.Forall₂ S) (xs.mapM f) (xs'.mapM f') := by
  induction hxs with
  | nil => exact alike_pure .nil
  | cons hx hxs ih =>
    rw [List.mapM_cons, List.mapM_cons]
    refine alike_bind (hf _ _ hx) fun b b' hb => ?_
    exact alike_bind ih fun bs bs' hbs => alike_pure (.cons hb hbs)

end Alike

end Prog

end RouteShield
