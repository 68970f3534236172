import Mathlib.Data.List.Forall2

/-!
Programs that call operations one at a time. An operation answers with a value or an
error; a program may raise the error or go on. The same program is run against one state
by an interpreter, and its calls are the steps at which other programs may come between.

A contract on the calls of a program says which are allowed in which phase, given what the
earlier answers promise. An interpreter whose allowed operations preserve an invariant and
keep their promises preserves it along any program that follows the contract.
-/

namespace RouteShield

/-- A sequence of fallible steps succeeds through a value of its first step. -/
theorem except_bind_eq_ok {ε α β : Type} {x : Except ε α} {f : α → Except ε β} {b : β} :
    x >>= f = .ok b ↔ ∃ a, x = .ok a ∧ f a = .ok b := by
  cases x with
  | ok a => exact ⟨fun h => ⟨a, rfl, h⟩, fun ⟨_, ha, h⟩ => by cases ha; exact h⟩
  | error e => exact ⟨fun h => (by cases h), fun ⟨_, ha, _⟩ => by cases ha⟩

/-- A list of fallible steps succeeds when each of them does. -/
theorem mapM_eq_ok {ε α β : Type} {f : α → Except ε β} {xs : List α} {ys : List β} :
    xs.mapM f = .ok ys ↔ List.Forall₂ (fun x y => f x = .ok y) xs ys := by
  induction xs generalizing ys with
  | nil => exact ⟨fun h => (by cases h; exact .nil), fun h => (by cases h; rfl)⟩
  | cons x xs ih =>
    rw [List.mapM_cons, except_bind_eq_ok]
    constructor
    · rintro ⟨y, hy, h⟩
      obtain ⟨ys', hys', h⟩ := except_bind_eq_ok.mp h
      cases h
      exact .cons hy (ih.mp hys')
    · rintro (_ | ⟨hy, hys⟩)
      exact ⟨_, hy, except_bind_eq_ok.mpr ⟨_, ih.mpr hys, rfl⟩⟩

theorem exists_mapM_eq_ok {ε α β : Type} {f : α → Except ε β} {xs : List α} :
    (∃ ys, xs.mapM f = .ok ys) ↔ ∀ x ∈ xs, ∃ y, f x = .ok y := by
  simp only [mapM_eq_ok]
  induction xs with
  | nil => exact iff_of_true ⟨[], .nil⟩ (by simp)
  | cons x xs ih =>
    rw [List.forall_mem_cons, ← ih]
    constructor
    · rintro ⟨_, _ | ⟨hy, hys⟩⟩
      exact ⟨⟨_, hy⟩, _, hys⟩
    · rintro ⟨⟨y, hy⟩, ys, hys⟩
      exact ⟨y :: ys, .cons hy hys⟩

/-- What is the same before and after each step is the same before and after all of them. -/
theorem map_eq_map_of_mapM {ε α β γ : Type} {f : α → Except ε β} {g : α → γ} {g' : β → γ}
    {xs : List α} {ys : List β} (hsame : ∀ x ∈ xs, ∀ y, f x = .ok y → g' y = g x)
    (h : xs.mapM f = .ok ys) : ys.map g' = xs.map g := by
  induction mapM_eq_ok.mp h with
  | nil => rfl
  | @cons x y xs ys hy hys ih =>
    rw [List.map_cons, List.map_cons, hsame x List.mem_cons_self y hy]
    rw [ih (fun x' hx' => hsame x' (List.mem_cons_of_mem x hx')) (mapM_eq_ok.mpr hys)]

/-- Programs over the operations `Op`, with errors in `ε` and a result in `α`. -/
inductive Prog (Op : Type → Type 1) (ε α : Type) : Type 1 where
  | pure (a : α)
  | throw (e : ε)
  | call {β : Type} (op : Op β) (next : Except ε β → Prog Op ε α)

namespace Prog

variable {Op : Type → Type 1} {ε α β σ : Type}

def bind : Prog Op ε α → (α → Prog Op ε β) → Prog Op ε β
  | .pure a, f => f a
  | .throw e, _ => .throw e
  | .call op next, f => .call op (fun r => (next r).bind f)

instance : Monad (Prog Op ε) where
  pure := .pure
  bind := bind

/-- Call an operation and raise its error. -/
def perform (op : Op α) : Prog Op ε α :=
  .call op fun
    | .ok a => .pure a
    | .error e => .throw e

/-- Call an operation and keep its error as a value. -/
def attempt (op : Op α) : Prog Op ε (Except ε α) := .call op .pure

/-- Run a program and keep its error as a value. -/
def catching : Prog Op ε α → Prog Op ε (Except ε α)
  | .pure a => .pure (.ok a)
  | .throw e => .pure (.error e)
  | .call op next => .call op fun r => (next r).catching

/-- A pure computation that may raise. -/
def ofExcept : Except ε α → Prog Op ε α
  | .ok a => .pure a
  | .error e => .throw e

@[simp] theorem pure_bind' (a : α) (f : α → Prog Op ε β) : (pure a : Prog Op ε α) >>= f = f a := rfl

@[simp] theorem throw_bind (e : ε) (f : α → Prog Op ε β) :
    (.throw e : Prog Op ε α) >>= f = .throw e := rfl

@[simp] theorem call_bind {γ : Type} (op : Op γ) (next : Except ε γ → Prog Op ε α)
    (f : α → Prog Op ε β) : .call op next >>= f = .call op (fun r => next r >>= f) := rfl

theorem bind_self (p : Prog Op ε α) : p.bind Prog.pure = p := by
  induction p with
  | pure a => rfl
  | throw e => rfl
  | call op next ih => exact congrArg (Prog.call op) (funext ih)

theorem bind_bind {γ : Type} (p : Prog Op ε α) (f : α → Prog Op ε β) (g : β → Prog Op ε γ) :
    (p.bind f).bind g = p.bind (fun a => (f a).bind g) := by
  induction p with
  | pure a => rfl
  | throw e => rfl
  | call op next ih => exact congrArg (Prog.call op) (funext ih)

instance : LawfulMonad (Prog Op ε) :=
  LawfulMonad.mk' (Prog Op ε) bind_self (fun _ _ => rfl) bind_bind

/-! ### Programs without calls -/

/-- The program is a value or an error from the start. -/
def CallFree (p : Prog Op ε α) : Prop := ∃ r, p = ofExcept r

theorem callFree_pure (a : α) : (pure a : Prog Op ε α).CallFree := ⟨.ok a, rfl⟩

theorem callFree_throw (e : ε) : (.throw e : Prog Op ε α).CallFree := ⟨.error e, rfl⟩

theorem callFree_bind {p : Prog Op ε α} {f : α → Prog Op ε β} (hp : p.CallFree)
    (hf : ∀ a, p = pure a → (f a).CallFree) : (p >>= f).CallFree := by
  obtain ⟨r, rfl⟩ := hp
  cases r with
  | ok a => exact hf a rfl
  | error e => exact callFree_throw e

theorem pure_injective {a b : α} (h : (pure a : Prog Op ε α) = pure b) : a = b := by
  injection h

/-- A sequence without calls returns through a value of its first part. -/
theorem CallFree.bind_eq_pure {p : Prog Op ε α} {f : α → Prog Op ε β} {b : β}
    (hp : p.CallFree) (h : p >>= f = pure b) : ∃ a, p = pure a ∧ f a = pure b := by
  obtain ⟨r, rfl⟩ := hp
  cases r with
  | ok a => exact ⟨a, rfl, h⟩
  | error e => cases h

/-! ### Running a program alone -/

/-- Run a program to its end against one state. -/
def run (exec : ∀ {γ : Type}, Op γ → σ → Except ε γ × σ) : Prog Op ε α → σ → Except ε α × σ
  | .pure a, s => (.ok a, s)
  | .throw e, s => (.error e, s)
  | .call op next, s => (next (exec op s).1).run exec (exec op s).2

section Run

variable {exec : ∀ {γ : Type}, Op γ → σ → Except ε γ × σ}

@[simp] theorem run_pure (a : α) (s : σ) :
    (pure a : Prog Op ε α).run exec s = (.ok a, s) := rfl

@[simp] theorem run_throw (e : ε) (s : σ) :
    (.throw e : Prog Op ε α).run exec s = (.error e, s) := rfl

/-- A sequence runs its first part, and its second on the value the first returns. -/
theorem run_bind (p : Prog Op ε α) (f : α → Prog Op ε β) (s : σ) :
    (p >>= f).run exec s =
      match p.run exec s with
      | (.ok a, s') => (f a).run exec s'
      | (.error e, s') => (.error e, s') := by
  induction p generalizing s with
  | pure a => rfl
  | throw e => rfl
  | call op next ih => exact ih _ _

theorem run_perform (op : Op α) (s : σ) : (perform op).run exec s = exec op s := by
  show ((match (exec op s).1 with
    | .ok a => .pure a
    | .error e => .throw e : Prog Op ε α)).run exec (exec op s).2 = exec op s
  rcases h : exec op s with ⟨_ | _, _⟩ <;> rfl

/-- A caught program returns what it ends with. -/
@[simp] theorem run_catching (p : Prog Op ε α) (s : σ) :
    p.catching.run exec s = (.ok (p.run exec s).1, (p.run exec s).2) := by
  induction p generalizing s with
  | pure a => rfl
  | throw e => rfl
  | call op next ih => exact ih _ _

@[simp] theorem run_ofExcept (r : Except ε α) (s : σ) :
    (ofExcept r : Prog Op ε α).run exec s = (r, s) := by
  cases r <;> rfl

/-- A sequence succeeds through a value of its first part. -/
theorem run_bind_eq_ok {p : Prog Op ε α} {f : α → Prog Op ε β} {s s' : σ} {b : β} :
    (p >>= f).run exec s = (.ok b, s') ↔
      ∃ a t, p.run exec s = (.ok a, t) ∧ (f a).run exec t = (.ok b, s') := by
  rw [run_bind]
  rcases p.run exec s with ⟨e | a, t⟩ <;> simp

/-- A sequence after a first part that returned. -/
theorem run_bind_ok {p : Prog Op ε α} {f : α → Prog Op ε β} {s s' : σ} {a : α}
    (h : p.run exec s = (.ok a, s')) : (p >>= f).run exec s = (f a).run exec s' := by
  rw [run_bind, h]

/-- What is done with a result leaves the state. -/
@[simp] theorem run_discard (p : Prog Op ε α) (s : σ) :
    ((discard p).run exec s).2 = (p.run exec s).2 := by
  show ((p >>= fun _ => pure ()).run exec s).2 = _
  rw [run_bind]
  rcases p.run exec s with ⟨e | a, s'⟩ <;> rfl

/-- A check ends its sequence, or the sequence goes on with what it returned. -/
theorem CallFree.run_bind {p : Prog Op ε α} (hp : p.CallFree) {f : α → Prog Op ε β} {s : σ}
    {Q : σ → Prop} (hstop : Q s) (hok : ∀ a, p = pure a → Q ((f a).run exec s).2) :
    Q ((p >>= f).run exec s).2 := by
  obtain ⟨r, rfl⟩ := hp
  cases r with
  | ok a => exact hok a rfl
  | error e => exact hstop

/-- A program without calls returns where it was started. -/
theorem CallFree.run_eq_ok {p : Prog Op ε α} (hp : p.CallFree) {s s' : σ} {a : α}
    (h : p.run exec s = (.ok a, s')) : p = pure a ∧ s' = s := by
  obtain ⟨r, rfl⟩ := hp
  rw [run_ofExcept] at h
  cases h
  exact ⟨rfl, rfl⟩

/-- An interpreter that keeps a record of the calls beside the state. -/
def logged {μ : Type} (exec : ∀ {γ : Type}, Op γ → σ → Except ε γ × σ)
    (log : ∀ {γ : Type}, Op γ → Except ε γ → μ → μ) {γ : Type} (op : Op γ) (s : σ × μ) :
    Except ε γ × (σ × μ) :=
  ((exec op s.1).1, (exec op s.1).2, log op (exec op s.1).1 s.2)

/-- What the calls of a run leave, call by call. -/
def traces {μ : Type} (exec : ∀ {γ : Type}, Op γ → σ → Except ε γ × σ)
    (trace : ∀ {γ : Type}, Op γ → List μ) : Prog Op ε α → σ → List μ
  | .pure _, _ => []
  | .throw _, _ => []
  | .call op next, s => trace op ++ (next (exec op s).1).traces exec trace (exec op s).2

section Traces

variable {μ : Type} {trace : ∀ {γ : Type}, Op γ → List μ}

theorem traces_bind (p : Prog Op ε α) (f : α → Prog Op ε β) (s : σ) :
    (p >>= f).traces exec trace s = p.traces exec trace s ++
      match p.run exec s with
      | (.ok a, s') => (f a).traces exec trace s'
      | (.error _, _) => [] := by
  induction p generalizing s with
  | pure a => rfl
  | throw e => rfl
  | call op next ih => exact (congrArg (trace op ++ ·) (ih _ _)).trans (List.append_assoc _ _ _).symm

/-- A trace of a sequence is left by its first part, or by its second after the first returned. -/
theorem mem_traces_bind {p : Prog Op ε α} {f : α → Prog Op ε β} {s : σ} {m : μ} :
    m ∈ (p >>= f).traces exec trace s ↔ m ∈ p.traces exec trace s ∨
      ∃ a s', p.run exec s = (.ok a, s') ∧ m ∈ (f a).traces exec trace s' := by
  rw [traces_bind, List.mem_append]
  refine or_congr_right ?_
  rcases p.run exec s with ⟨e | a, s'⟩ <;> simp

theorem traces_perform (op : Op α) (s : σ) :
    (perform op).traces exec trace s = trace op := by
  show trace op ++ ((match (exec op s).1 with
    | .ok a => .pure a
    | .error e => .throw e : Prog Op ε α)).traces exec trace (exec op s).2 = trace op
  cases (exec op s).1 <;> exact List.append_nil _

end Traces

end Run

/-! ### Programs with few kinds of calls -/

/-- Every call that the program can come to satisfies `P`. -/
def Only (P : ∀ {γ : Type}, Op γ → Prop) : Prog Op ε α → Prop
  | .pure _ => True
  | .throw _ => True
  | .call op next => P op ∧ ∀ r, (next r).Only P

section Only

variable {P Q : ∀ {γ : Type}, Op γ → Prop}

theorem only_pure (a : α) : (pure a : Prog Op ε α).Only P := trivial

theorem only_throw (e : ε) : (.throw e : Prog Op ε α).Only P := trivial

theorem only_bind {p : Prog Op ε α} {f : α → Prog Op ε β} (hp : p.Only P)
    (hf : ∀ a, (f a).Only P) : (p >>= f).Only P := by
  induction p with
  | pure a => exact hf a
  | throw e => exact hp
  | call op next ih => exact ⟨hp.1, fun r => ih r (hp.2 r)⟩

theorem only_perform {op : Op α} (h : P op) : (perform op : Prog Op ε α).Only P :=
  ⟨h, fun r => by cases r <;> trivial⟩

theorem only_attempt {op : Op α} (h : P op) : (attempt op : Prog Op ε (Except ε α)).Only P :=
  ⟨h, fun _ => trivial⟩

theorem CallFree.only {p : Prog Op ε α} (h : p.CallFree) : p.Only P := by
  obtain ⟨r, rfl⟩ := h
  cases r <;> trivial

theorem only_forM {xs : List β} {f : β → Prog Op ε PUnit} (h : ∀ x, (f x).Only P) :
    (xs.forM f).Only P := by
  induction xs with
  | nil => exact only_pure _
  | cons x xs ih => exact only_bind (h x) fun _ => ih

theorem only_mapM {xs : List β} {f : β → Prog Op ε α} (h : ∀ x, (f x).Only P) :
    (xs.mapM f).Only P := by
  induction xs with
  | nil => exact only_pure _
  | cons x xs ih =>
    rw [List.mapM_cons]
    exact only_bind (h x) fun _ => only_bind ih fun _ => only_pure _

theorem only_map {p : Prog Op ε α} {f : α → β} (hp : p.Only P) : (f <$> p).Only P := by
  rw [map_eq_pure_bind]
  exact only_bind hp fun _ => only_pure _

theorem only_mono {p : Prog Op ε α} (hp : p.Only P) (h : ∀ {γ : Type} (op : Op γ), P op → Q op) :
    p.Only Q := by
  induction p with
  | pure a => trivial
  | throw e => trivial
  | call op next ih => exact ⟨h op hp.1, fun r => ih r (hp.2 r)⟩

/-- A program without the calls that leave a trace leaves none. -/
theorem Only.traces_eq_nil {exec : ∀ {γ : Type}, Op γ → σ → Except ε γ × σ} {μ : Type}
    {trace : ∀ {γ : Type}, Op γ → List μ} {p : Prog Op ε α} (hp : p.Only P)
    (h : ∀ {γ : Type} (op : Op γ), P op → trace op = []) (s : σ) :
    p.traces exec trace s = [] := by
  induction p generalizing s with
  | pure a => rfl
  | throw e => rfl
  | call op next ih => exact List.append_eq_nil_iff.mpr ⟨h op hp.1, ih _ (hp.2 _) _⟩

/-- What each of its calls preserves, a program preserves. -/
theorem Only.run {exec : ∀ {γ : Type}, Op γ → σ → Except ε γ × σ} {R : σ → σ → Prop}
    (hrefl : ∀ s, R s s) (htrans : ∀ {s t u}, R s t → R t u → R s u)
    (hexec : ∀ {γ : Type} (op : Op γ) (s : σ), P op → R s (exec op s).2) {p : Prog Op ε α}
    (hp : p.Only P) (s : σ) : R s (p.run exec s).2 := by
  induction p generalizing s with
  | pure a => exact hrefl s
  | throw e => exact hrefl s
  | call op next ih => exact htrans (hexec op s hp.1) (ih _ (hp.2 _) _)

end Only

/-! ### Contracts on calls -/

/-- What a program may call in each phase, what it may rely on in the answers, how calls move
the phase, and in which phases it may stop on an error. -/
structure Contract (Op : Type → Type 1) (ε Φ : Type) where
  allowed : Φ → {γ : Type} → Op γ → Prop
  promised : Φ → {γ : Type} → Op γ → Except ε γ → Prop
  advance : Φ → {γ : Type} → Op γ → Except ε γ → Φ
  stop : Φ → Prop

/-- Every call is allowed in its phase, whatever the earlier ones answer within their
promises, and a returned value satisfies `Q` in the last phase. -/
def Follows {Φ : Type} (c : Contract Op ε Φ) (Q : Φ → α → Prop) : Φ → Prog Op ε α → Prop
  | φ, .pure a => Q φ a
  | φ, .throw _ => c.stop φ
  | φ, .call op next => c.allowed φ op ∧
      ∀ r, c.promised φ op r → (next r).Follows c Q (c.advance φ op r)

section Follows

variable {Φ : Type} {c : Contract Op ε Φ} {P Q : Φ → α → Prop} {R : Φ → β → Prop} {φ : Φ}

theorem follows_pure {a : α} (h : Q φ a) : (pure a : Prog Op ε α).Follows c Q φ := h

theorem follows_throw {e : ε} (h : c.stop φ) : (.throw e : Prog Op ε α).Follows c Q φ := h

theorem follows_bind {p : Prog Op ε α} {f : α → Prog Op ε β} (hp : p.Follows c P φ)
    (hf : ∀ φ' a, P φ' a → (f a).Follows c R φ') : (p >>= f).Follows c R φ := by
  induction p generalizing φ with
  | pure a => exact hf φ a hp
  | throw e => exact hp
  | call op next ih => exact ⟨hp.1, fun r hr => ih r (hp.2 r hr)⟩

/-- A sequence, with what its second part needs as what its first part ends in. -/
theorem follows_seq {p : Prog Op ε α} {f : α → Prog Op ε β}
    (h : p.Follows c (fun φ' a => (f a).Follows c R φ') φ) : (p >>= f).Follows c R φ :=
  follows_bind h fun _ _ ha => ha

theorem follows_map {p : Prog Op ε α} {f : α → β} (hp : p.Follows c (fun φ' a => R φ' (f a)) φ) :
    (f <$> p).Follows c R φ := by
  rw [map_eq_pure_bind]
  exact follows_bind hp fun _ _ ha => ha

theorem follows_mono {p : Prog Op ε α} (hp : p.Follows c P φ) (h : ∀ φ' a, P φ' a → Q φ' a) :
    p.Follows c Q φ := by
  induction p generalizing φ with
  | pure a => exact h φ a hp
  | throw e => exact hp
  | call op next ih => exact ⟨hp.1, fun r hr => ih r (hp.2 r hr)⟩

/-- A caught program stops nowhere: its errors are returned. -/
theorem follows_catching {p : Prog Op ε α} {S : Φ → Except ε α → Prop}
    (hp : p.Follows { c with stop := fun φ' => ∀ e, S φ' (.error e) } (fun φ' a => S φ' (.ok a)) φ) :
    p.catching.Follows c S φ := by
  induction p generalizing φ with
  | pure a => exact hp
  | throw e => exact hp e
  | call op next ih => exact ⟨hp.1, fun r hr => ih r (hp.2 r hr)⟩

/-- A call whose errors may be raised. -/
theorem follows_perform {op : Op α} (h : c.allowed φ op)
    (hok : ∀ a, c.promised φ op (.ok a) → Q (c.advance φ op (.ok a)) a)
    (hstop : ∀ e, c.promised φ op (.error e) → c.stop (c.advance φ op (.error e))) :
    (perform op : Prog Op ε α).Follows c Q φ := by
  refine ⟨h, fun r hr => ?_⟩
  cases r with
  | ok a => exact hok a hr
  | error e => exact hstop e hr

theorem follows_callFree {p : Prog Op ε α} (hp : p.CallFree) (hok : ∀ a, p = pure a → Q φ a)
    (hstop : c.stop φ) : p.Follows c Q φ := by
  obtain ⟨r, rfl⟩ := hp
  cases r with
  | ok a => exact hok a rfl
  | error e => exact hstop

/-- A loop follows a contract when its body does, at every element and in every phase that
the earlier rounds can leave. -/
theorem follows_forM {I : Φ → Prop} {xs : List β} {f : β → Prog Op ε PUnit}
    (h : ∀ x ∈ xs, ∀ φ, I φ → (f x).Follows c (fun φ' _ => I φ') φ) (hφ : I φ) :
    (xs.forM f).Follows c (fun φ' _ => I φ') φ := by
  induction xs generalizing φ with
  | nil => exact hφ
  | cons x xs ih =>
    refine follows_bind (h x List.mem_cons_self φ hφ) fun φ' _ hφ' => ?_
    exact ih (fun y hy => h y (List.mem_cons_of_mem x hy)) hφ'

theorem follows_mapM {I : Φ → Prop} {S : α → Prop} {xs : List β} {f : β → Prog Op ε α}
    (h : ∀ x ∈ xs, ∀ φ, I φ → (f x).Follows c (fun φ' a => I φ' ∧ S a) φ) (hφ : I φ) :
    (xs.mapM f).Follows c (fun φ' as => I φ' ∧ ∀ a ∈ as, S a) φ := by
  induction xs generalizing φ with
  | nil => exact ⟨hφ, by simp⟩
  | cons x xs ih =>
    rw [List.mapM_cons]
    refine follows_bind (h x List.mem_cons_self φ hφ) fun φ' a ha => ?_
    refine follows_bind (ih (fun y hy => h y (List.mem_cons_of_mem x hy)) ha.1)
      fun φ'' as has => ?_
    exact follows_pure ⟨has.1, by simpa using ⟨ha.2, has.2⟩⟩

/-- A loop whose rounds use up the elements: each round keeps what the rest of them need. -/
theorem follows_mapM_rest {I : List β → Φ → Prop} {xs : List β} {f : β → Prog Op ε α}
    (h : ∀ x xs φ, I (x :: xs) φ → (f x).Follows c (fun φ' _ => I xs φ') φ) (hφ : I xs φ) :
    (xs.mapM f).Follows c (fun φ' _ => I [] φ') φ := by
  induction xs generalizing φ with
  | nil => exact hφ
  | cons x xs ih =>
    rw [List.mapM_cons]
    refine follows_bind (h x xs φ hφ) fun φ' a ha => ?_
    exact follows_bind (ih ha) fun φ'' as has => has

/-- A contract that promises everything bounds the calls by what it ever allows. -/
theorem Follows.only {P : ∀ {γ : Type}, Op γ → Prop} {p : Prog Op ε α} (hp : p.Follows c Q φ)
    (hallowed : ∀ {γ : Type} (φ : Φ) (op : Op γ), c.allowed φ op → P op)
    (hpromised : ∀ {γ : Type} (φ : Φ) (op : Op γ) (r : Except ε γ), c.promised φ op r) :
    p.Only P := by
  induction p generalizing φ with
  | pure a => trivial
  | throw e => trivial
  | call op next ih =>
    exact ⟨hallowed φ op hp.1, fun r => ih r (hp.2 r (hpromised φ op r))⟩

/-- Where every call satisfies what a contract always allows, the contract is followed. -/
theorem Only.follows {P : ∀ {γ : Type}, Op γ → Prop} {p : Prog Op ε α} (hp : p.Only P)
    (hallowed : ∀ {γ : Type} (φ : Φ) (op : Op γ), P op → c.allowed φ op) (hstop : ∀ φ, c.stop φ)
    (hQ : ∀ φ a, Q φ a) (φ : Φ) : p.Follows c Q φ := by
  induction p generalizing φ with
  | pure a => exact hQ φ a
  | throw e => exact hstop φ
  | call op next ih => exact ⟨hallowed φ op hp.1, fun r _ => ih r (hp.2 r) _⟩

/-- Calls that a phase allows and that leave it keep the phase. -/
theorem Only.keeps {P : ∀ {γ : Type}, Op γ → Prop} {p : Prog Op ε α} (hp : p.Only P)
    (hallowed : ∀ {γ : Type} (op : Op γ), P op → c.allowed φ op)
    (hadvance : ∀ {γ : Type} (op : Op γ) (r : Except ε γ), P op → c.advance φ op r = φ)
    (hstop : c.stop φ) : p.Follows c (fun φ' _ => φ' = φ) φ := by
  induction p with
  | pure a => rfl
  | throw e => exact hstop
  | call op next ih =>
    refine ⟨hallowed op hp.1, fun r _ => ?_⟩
    rw [hadvance op r hp.1]
    exact ih r (hp.2 r)

variable {exec : ∀ {γ : Type}, Op γ → σ → Except ε γ × σ} {inv : Φ → σ → Prop}

/-- An interpreter that keeps its invariant and its promises in every phase ends a program in
a phase in which the program may end. -/
theorem Follows.run
    (hexec : ∀ {γ : Type} (φ : Φ) (op : Op γ) (s : σ), inv φ s → c.allowed φ op →
      c.promised φ op (exec op s).1 ∧ inv (c.advance φ op (exec op s).1) (exec op s).2)
    {p : Prog Op ε α} (hp : p.Follows c Q φ) {s : σ} (hs : inv φ s) :
    ∃ φ', inv φ' (p.run exec s).2 ∧
      match (p.run exec s).1 with
      | .ok a => Q φ' a
      | .error _ => c.stop φ' := by
  induction p generalizing φ s with
  | pure a => exact ⟨φ, hs, hp⟩
  | throw e => exact ⟨φ, hs, hp⟩
  | call op next ih =>
    obtain ⟨hans, hinv⟩ := hexec φ op s hs hp.1
    exact ih _ (hp.2 _ hans) hinv

end Follows

end Prog

end RouteShield
