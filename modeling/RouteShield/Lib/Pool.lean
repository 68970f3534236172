import Mathlib.Data.List.Forall2
import RouteShield.Lib.Prog
import RouteShield.Lib.Runs

/-!
Programs side by side against one state. A pool takes one call of one program at a time, in
any order; a program that is never stepped again has stalled or crashed. An invariant of a
pool says of each of its programs where it may stand, given the state: the program that steps
has to reach its next stand, and every other has to keep its own.
-/

namespace RouteShield

variable {Op : Type → Type 1} {ε σ ι : Type}

/-- The call that a program makes next satisfies `P`. -/
def Prog.Next {α : Type} (P : ∀ {γ : Type}, Op γ → Prop) : Prog Op ε α → Prop
  | .call op _ => P op
  | _ => False

instance {α : Type} {P : ∀ {γ : Type}, Op γ → Prop} [∀ {γ : Type} (op : Op γ), Decidable (P op)] :
    (p : Prog Op ε α) → Decidable (p.Next P)
  | .call op _ => inferInstanceAs (Decidable (P op))
  | .pure _ => .isFalse id
  | .throw _ => .isFalse id

/-- The call that a program makes next satisfies `P` with the answer it gets. -/
def Prog.NextAnswered {α : Type} (exec : ∀ {γ : Type}, Op γ → σ → Except ε γ × σ)
    (P : ∀ {γ : Type}, Op γ → Except ε γ → Prop) (s : σ) : Prog Op ε α → Prop
  | .call op _ => P op (exec op s).1
  | _ => False

/-- The call that a program makes next satisfies `P`, and the program raises on its answer. -/
def Prog.NextRaises {α : Type} (exec : ∀ {γ : Type}, Op γ → σ → Except ε γ × σ)
    (P : ∀ {γ : Type}, Op γ → Prop) (s : σ) : Prog Op ε α → Prop
  | .call op next => P op ∧ ∃ e, next (exec op s).1 = .throw e
  | _ => False

instance {α : Type} {exec : ∀ {γ : Type}, Op γ → σ → Except ε γ × σ}
    {P : ∀ {γ : Type}, Op γ → Except ε γ → Prop}
    [∀ {γ : Type} (op : Op γ) (answer : Except ε γ), Decidable (P op answer)] (s : σ) :
    (p : Prog Op ε α) → Decidable (p.NextAnswered exec P s)
  | .call op _ => inferInstanceAs (Decidable (P op (exec op s).1))
  | .pure _ => .isFalse id
  | .throw _ => .isFalse id

instance {α : Type} : (p : Prog Op ε α) → Decidable (∃ e, p = .throw e)
  | .throw e => .isTrue ⟨e, rfl⟩
  | .pure _ => .isFalse nofun
  | .call _ _ => .isFalse nofun

instance {α : Type} {exec : ∀ {γ : Type}, Op γ → σ → Except ε γ × σ} {P : ∀ {γ : Type}, Op γ → Prop}
    [∀ {γ : Type} (op : Op γ), Decidable (P op)] (s : σ) :
    (p : Prog Op ε α) → Decidable (p.NextRaises exec P s)
  | .call op next => inferInstanceAs (Decidable (P op ∧ ∃ e, next (exec op s).1 = .throw e))
  | .pure _ => .isFalse id
  | .throw _ => .isFalse id

/-- What is read off the call that a program makes next. -/
def Prog.next? {α δ : Type} (f : ∀ {γ : Type}, Op γ → Option δ) : Prog Op ε α → Option δ
  | .call op _ => f op
  | _ => none

/-- What is read off the call that a program makes next and its answer. -/
def Prog.read? {α δ : Type} (exec : ∀ {γ : Type}, Op γ → σ → Except ε γ × σ)
    (f : ∀ {γ : Type}, Op γ → Except ε γ → Option δ) (s : σ) : Prog Op ε α → Option δ
  | .call op _ => f op (exec op s).1
  | _ => none

/-- What a program has raised. -/
def Prog.thrown? {α : Type} : Prog Op ε α → Option ε
  | .throw e => some e
  | _ => none

/-- The value of a program that has returned. -/
def Prog.returned? {α : Type} : Prog Op ε α → Option α
  | .pure a => some a
  | _ => none

/-- The program makes no more calls. -/
def Prog.Finished {α : Type} : Prog Op ε α → Prop
  | .call _ _ => False
  | _ => True

instance {α : Type} : (p : Prog Op ε α) → Decidable p.Finished
  | .call _ _ => .isFalse id
  | .pure _ => .isTrue trivial
  | .throw _ => .isTrue trivial

structure Pool (Op : Type → Type 1) (ε σ : Type) where
  state : σ
  threads : List (Prog Op ε Unit) := []

/-- A request arrives, or the next call of a program is made. -/
inductive PoolEvent (ι : Type) where
  | spawn (r : ι)
  | step (i : ℕ)

def PoolEvent.arrival {ι : Type} : PoolEvent ι → List ι
  | .spawn r => [r]
  | .step _ => []

namespace Pool

variable (exec : ∀ {γ : Type}, Op γ → σ → Except ε γ × σ) (start : ι → Prog Op ε Unit)
  (pool : Pool Op ε σ)

def stepThread (i : ℕ) : Pool Op ε σ :=
  match pool.threads[i]? with
  | some (.call op next) =>
    ⟨(exec op pool.state).2, pool.threads.set i (next (exec op pool.state).1)⟩
  | _ => pool

def apply : PoolEvent ι → Pool Op ε σ
  | .spawn r => { pool with threads := pool.threads ++ [start r] }
  | .step i => pool.stepThread exec i

/-- The program that an event steps makes a call that satisfies `P`. -/
def Calls (P : ∀ {γ : Type}, Op γ → Prop) : PoolEvent ι → Prop
  | .step i => ∃ p ∈ pool.threads[i]?, p.Next P
  | .spawn _ => False

instance {P : ∀ {γ : Type}, Op γ → Prop} [∀ {γ : Type} (op : Op γ), Decidable (P op)] :
    (e : PoolEvent ι) → Decidable (pool.Calls P e)
  | .step i => inferInstanceAs (Decidable (∃ p ∈ pool.threads[i]?, p.Next P))
  | .spawn _ => .isFalse id

/-- The program that an event steps makes a call that satisfies `P` with its answer. -/
def Answered (P : ∀ {γ : Type}, Op γ → Except ε γ → Prop) : PoolEvent ι → Prop
  | .step i => ∃ p ∈ pool.threads[i]?, p.NextAnswered exec P pool.state
  | .spawn _ => False

/-- The program that an event steps makes a call that satisfies `P`, and raises on its answer. -/
def Raises (P : ∀ {γ : Type}, Op γ → Prop) : PoolEvent ι → Prop
  | .step i => ∃ p ∈ pool.threads[i]?, p.NextRaises exec P pool.state
  | .spawn _ => False

instance {P : ∀ {γ : Type}, Op γ → Except ε γ → Prop}
    [∀ {γ : Type} (op : Op γ) (answer : Except ε γ), Decidable (P op answer)] :
    (e : PoolEvent ι) → Decidable (pool.Answered exec P e)
  | .step i => inferInstanceAs (Decidable (∃ p ∈ pool.threads[i]?, p.NextAnswered exec P pool.state))
  | .spawn _ => .isFalse id

instance {P : ∀ {γ : Type}, Op γ → Prop} [∀ {γ : Type} (op : Op γ), Decidable (P op)] :
    (e : PoolEvent ι) → Decidable (pool.Raises exec P e)
  | .step i => inferInstanceAs (Decidable (∃ p ∈ pool.threads[i]?, p.NextRaises exec P pool.state))
  | .spawn _ => .isFalse id

/-- What is read off the call that an event makes. -/
def next? {δ : Type} (f : ∀ {γ : Type}, Op γ → Option δ) : PoolEvent ι → Option δ
  | .step i => pool.threads[i]?.bind (Prog.next? f)
  | .spawn _ => none

/-- What is read off the call that an event makes and its answer. -/
def read? {δ : Type} (f : ∀ {γ : Type}, Op γ → Except ε γ → Option δ) : PoolEvent ι → Option δ
  | .step i => pool.threads[i]?.bind (Prog.read? exec f pool.state)
  | .spawn _ => none

/-- A step does nothing, or makes one call of one program. -/
theorem stepThread_cases (i : ℕ) :
    pool.stepThread exec i = pool ∨
      ∃ (γ : Type) (op : Op γ) (next : Except ε γ → Prog Op ε Unit),
        pool.threads[i]? = some (.call op next) ∧
        pool.stepThread exec i =
          ⟨(exec op pool.state).2, pool.threads.set i (next (exec op pool.state).1)⟩ := by
  unfold stepThread
  split
  next op next h => exact .inr ⟨_, op, next, h, rfl⟩
  · exact .inl rfl

/-- A step makes a call, or does nothing and nothing is read off it. -/
theorem call_or_still (i : ℕ) :
    (∃ (γ : Type) (op : Op γ) (next : Except ε γ → Prog Op ε Unit),
      pool.threads[i]? = some (.call op next)) ∨
    (pool.stepThread exec i = pool ∧
      ∀ {δ : Type} (f : ∀ {γ : Type}, Op γ → Except ε γ → Option δ),
        pool.read? exec f (.step i : PoolEvent ι) = none) := by
  cases hi : pool.threads[i]? with
  | none => exact .inr (by simp [stepThread, read?, hi])
  | some p =>
    cases p with
    | call op next => exact .inl ⟨_, op, next, rfl⟩
    | pure a | throw e => exact .inr (by simp [stepThread, read?, hi, Prog.read?])

variable {exec start pool}

/-- A step of a program that makes a call. -/
theorem stepThread_call {γ : Type} {op : Op γ} {next : Except ε γ → Prog Op ε Unit} {i : ℕ}
    (hi : pool.threads[i]? = some (.call op next)) :
    pool.stepThread exec i =
      ⟨(exec op pool.state).2, pool.threads.set i (next (exec op pool.state).1)⟩ := by
  simp only [stepThread, hi]

/-- What is read off a call. -/
theorem read?_call {γ δ : Type} {f : ∀ {γ : Type}, Op γ → Except ε γ → Option δ} {op : Op γ}
    {next : Except ε γ → Prog Op ε Unit} {i : ℕ} (hi : pool.threads[i]? = some (.call op next)) :
    pool.read? exec f (.step i : PoolEvent ι) = f op (exec op pool.state).1 := by
  simp [read?, hi, Prog.read?]

/-- The call behind an answer. -/
theorem Answered.call {P : ∀ {γ : Type}, Op γ → Except ε γ → Prop} {i : ℕ}
    (h : pool.Answered exec P (.step i : PoolEvent ι)) :
    ∃ (γ : Type) (op : Op γ) (next : Except ε γ → Prog Op ε Unit),
      pool.threads[i]? = some (.call op next) ∧ P op (exec op pool.state).1 := by
  obtain ⟨p, hp, hanswered⟩ := h
  cases p with
  | call op next => exact ⟨_, op, next, hp, hanswered⟩
  | pure a => exact hanswered.elim
  | throw e => exact hanswered.elim

/-- Another program stays where it is. -/
theorem threads_apply_of_ne {p : Prog Op ε Unit} {i : ℕ} (hi : pool.threads[i]? = some p)
    {e : PoolEvent ι} (he : e ≠ .step i) : (pool.apply exec start e).threads[i]? = some p := by
  cases e with
  | spawn r =>
    show (pool.threads ++ [start r])[i]? = some p
    rw [List.getElem?_append_left (List.getElem?_eq_some_iff.mp hi).1, hi]
  | step j =>
    have hne : j ≠ i := fun h => he (congrArg PoolEvent.step h)
    show (pool.stepThread exec j).threads[i]? = some p
    rcases stepThread_cases exec pool j with hsame | ⟨γ, op, next, -, hstep⟩
    · rw [hsame, hi]
    · rw [hstep]
      exact (List.getElem?_set_ne hne).trans hi

/-- Every program of the pool stands well. -/
def Stands (J : Prog Op ε Unit → σ → Prop) (pool : Pool Op ε σ) : Prop :=
  ∀ p ∈ pool.threads, J p pool.state

/-- A pool keeps its programs standing: an arriving program stands, and a call leaves the
program that makes it, and every other, standing. -/
theorem stands_apply {J : Prog Op ε Unit → σ → Prop} (hpool : pool.Stands J) (e : PoolEvent ι)
    (hspawn : ∀ r, J (start r) pool.state)
    (hcall : ∀ {γ : Type} (i : ℕ) (op : Op γ) (next : Except ε γ → Prog Op ε Unit),
      e = .step i → pool.threads[i]? = some (.call op next) → J (.call op next) pool.state →
        J (next (exec op pool.state).1) (exec op pool.state).2 ∧
          ∀ p ∈ pool.threads, J p pool.state → J p (exec op pool.state).2) :
    (pool.apply exec start e).Stands J := by
  cases e with
  | spawn r =>
    intro p hp
    rcases List.mem_append.mp hp with hp | hp
    · exact hpool p hp
    · rw [List.mem_singleton.mp hp]
      exact hspawn r
  | step i =>
    rcases stepThread_cases exec pool i with hsame | ⟨γ, op, next, hi, hstep⟩
    · show (pool.stepThread exec i).Stands J
      rw [hsame]
      exact hpool
    · obtain ⟨hself, hothers⟩ := hcall i op next rfl hi (hpool _ (List.mem_of_getElem? hi))
      show (pool.stepThread exec i).Stands J
      rw [hstep]
      intro p hp
      rcases List.mem_or_eq_of_mem_set hp with hp | rfl
      · exact hothers p hp (hpool p hp)
      · exact hself

/-! ### Phases side by side -/

/-- What stands beside an element of the second list, and stays related when both change. -/
theorem forall₂_set {A B : Type*} {R : A → B → Prop} {as : List A} {bs : List B}
    (h : List.Forall₂ R as bs) {i : ℕ} {b : B} (hi : bs[i]? = some b) :
    ∃ a, as[i]? = some a ∧ R a b ∧
      ∀ a' b', R a' b' → List.Forall₂ R (as.set i a') (bs.set i b') := by
  induction h generalizing i with
  | nil => cases hi
  | @cons a₀ b₀ as bs hab h ih =>
    cases i with
    | zero =>
      cases hi
      exact ⟨a₀, rfl, hab, fun a' b' h' => .cons h' h⟩
    | succ i =>
      obtain ⟨a, ha, hab', hset⟩ := ih hi
      exact ⟨a, ha, hab', fun a' b' h' => .cons hab (hset a' b' h')⟩

section Joint

variable {Φ : Type} {c : Prog.Contract Op ε Φ} {Q : Φ → Unit → Prop} {inv : List Φ → σ → Prop}

/-- Every program follows the contract from the phase it is in, and the phases together fit the
state. -/
def Joint (c : Prog.Contract Op ε Φ) (Q : Φ → Unit → Prop) (inv : List Φ → σ → Prop)
    (pool : Pool Op ε σ) : Prop :=
  ∃ φs : List Φ, List.Forall₂ (fun φ p => p.Follows c Q φ) φs pool.threads ∧ inv φs pool.state

/-- An allowed call of one program that keeps its promise moves that program's phase. -/
theorem joint_apply (hpool : pool.Joint c Q inv) (e : PoolEvent ι)
    (hspawn : ∀ r φs, e = .spawn r → inv φs pool.state →
      ∃ φ, (start r).Follows c Q φ ∧ inv (φs ++ [φ]) pool.state)
    (hcall : ∀ {γ : Type} (op : Op γ) (next : Except ε γ → Prog Op ε Unit) (i : ℕ) (φs : List Φ)
      (φ : Φ), e = .step i → pool.threads[i]? = some (.call op next) → inv φs pool.state →
      φs[i]? = some φ → c.allowed φ op → c.promised φ op (exec op pool.state).1 ∧
        inv (φs.set i (c.advance φ op (exec op pool.state).1)) (exec op pool.state).2) :
    (pool.apply exec start e).Joint c Q inv := by
  obtain ⟨φs, hfollows, hinv⟩ := hpool
  cases e with
  | spawn r =>
    obtain ⟨φ, hφ, hinv'⟩ := hspawn r φs rfl hinv
    exact ⟨φs ++ [φ], List.rel_append hfollows (.cons hφ .nil), hinv'⟩
  | step i =>
    show (pool.stepThread exec i).Joint c Q inv
    rcases stepThread_cases exec pool i with hsame | ⟨γ, op, next, hi, hstep⟩
    · rw [hsame]
      exact ⟨φs, hfollows, hinv⟩
    · rw [hstep]
      obtain ⟨φ, hφ, hprog, hset⟩ := forall₂_set hfollows hi
      obtain ⟨hpromised, hinv'⟩ := hcall op next i φs φ rfl hi hinv hφ hprog.1
      exact ⟨_, hset _ _ (hprog.2 _ hpromised), hinv'⟩

end Joint

end Pool

end RouteShield
