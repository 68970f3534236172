import Mathlib.Data.Int.Notation
import Mathlib.Data.List.Basic

/-!
Texts joined by a separator. Two joins `a ++ s :: r` are equal without equal parts only when one
left part goes on past the separator of the other. A part without the separator, on either side, is
read off the join, and so is one of known length.
-/

namespace RouteShield.Separated

variable {α : Type} {s : α} {a b r q : List α}

/-- The left parts agree, or one of them goes on with a separator and the rest of the other. -/
theorem append_cons_eq_iff : a ++ s :: r = b ++ s :: q ↔
    (a = b ∧ r = q) ∨ (∃ x, b = a ++ s :: x ∧ r = x ++ s :: q) ∨
      ∃ x, a = b ++ s :: x ∧ q = x ++ s :: r := by
  constructor
  · intro h
    rcases List.append_eq_append_iff.mp h with ⟨x, hb, hr⟩ | ⟨x, ha, hq⟩
    · cases x with
      | nil =>
        rw [List.append_nil] at hb
        exact .inl ⟨hb.symm, (List.cons.inj hr).2⟩
      | cons c x =>
        obtain ⟨rfl, hrest⟩ := List.cons.inj hr
        exact .inr (.inl ⟨x, hb, hrest⟩)
    · cases x with
      | nil =>
        rw [List.append_nil] at ha
        exact .inl ⟨ha, (List.cons.inj hq).2.symm⟩
      | cons c x =>
        obtain ⟨rfl, hrest⟩ := List.cons.inj hq
        exact .inr (.inr ⟨x, ha, hrest⟩)
  · rintro (⟨rfl, rfl⟩ | ⟨x, rfl, rfl⟩ | ⟨x, rfl, rfl⟩)
    · rfl
    · rw [List.append_assoc, List.cons_append]
    · rw [List.append_assoc, List.cons_append]

/-- A left part without the separator ends where the other one does, or where its first piece
does. -/
theorem append_cons_eq_iff_of_notMem (ha : s ∉ a) : a ++ s :: r = b ++ s :: q ↔
    (a = b ∧ r = q) ∨ ∃ x, b = a ++ s :: x ∧ r = x ++ s :: q := by
  rw [append_cons_eq_iff]
  refine or_congr_right (or_iff_left ?_)
  rintro ⟨x, rfl, -⟩
  exact ha (List.mem_append_right b List.mem_cons_self)

/-- Right parts without the separator are read off the join. -/
theorem append_cons_inj_right (hr : s ∉ r) (hq : s ∉ q) :
    a ++ s :: r = b ++ s :: q ↔ a = b ∧ r = q := by
  rw [append_cons_eq_iff]
  refine or_iff_left ?_
  rintro (⟨x, -, rfl⟩ | ⟨x, -, rfl⟩)
  · exact hr (List.mem_append_right x List.mem_cons_self)
  · exact hq (List.mem_append_right x List.mem_cons_self)

/-- A part, and then others, each after a separator. -/
def joined (s : α) (a : List α) (parts : List (List α)) : List α :=
  parts.foldl (fun text part => text ++ s :: part) a

/-- Last parts without the separator are read off the join, as many as there are of them. -/
theorem joined_inj {parts parts' : List (List α)} (hlength : parts.length = parts'.length)
    (hparts : ∀ part ∈ parts, s ∉ part) (hparts' : ∀ part ∈ parts', s ∉ part) :
    joined s a parts = joined s b parts' ↔ a = b ∧ parts = parts' := by
  induction parts generalizing a b parts' with
  | nil =>
    rw [List.length_nil, eq_comm, List.length_eq_zero_iff] at hlength
    subst hlength
    simp [joined]
  | cons part parts ih =>
    cases parts' with
    | nil => simp at hlength
    | cons part' parts' =>
      rw [List.forall_mem_cons] at hparts hparts'
      refine (ih (Nat.succ.inj hlength) hparts.2 hparts'.2).trans ?_
      rw [append_cons_inj_right hparts.1 hparts'.1, List.cons.injEq, and_assoc]

/-! ### Texts joined by colons -/

variable {t u v w : String}

theorem toList_colon (t v : String) : (t ++ ":" ++ v).toList = t.toList ++ ':' :: v.toList := by
  rw [String.toList_append, String.toList_append, List.append_assoc]
  rfl

theorem toList_surjective : Function.Surjective String.toList :=
  fun l => ⟨String.ofList l, String.toList_ofList⟩

theorem colon_eq_iff : t ++ ":" ++ v = u ++ ":" ++ w ↔
    (t = u ∧ v = w) ∨ (∃ x, u = t ++ ":" ++ x ∧ v = x ++ ":" ++ w) ∨
      ∃ x, t = u ++ ":" ++ x ∧ w = x ++ ":" ++ v := by
  simp only [← String.toList_inj, toList_colon]
  rw [append_cons_eq_iff, toList_surjective.exists, toList_surjective.exists]

theorem colon_eq_iff_of_notMem (ht : ':' ∉ t.toList) : t ++ ":" ++ v = u ++ ":" ++ w ↔
    (t = u ∧ v = w) ∨ ∃ x, u = t ++ ":" ++ x ∧ v = x ++ ":" ++ w := by
  simp only [← String.toList_inj, toList_colon]
  rw [append_cons_eq_iff_of_notMem ht, toList_surjective.exists]

/-- Texts without a colon are read off at the right. -/
theorem colon_inj_right (hv : ':' ∉ v.toList) (hw : ':' ∉ w.toList) :
    t ++ ":" ++ v = u ++ ":" ++ w ↔ t = u ∧ v = w := by
  simp only [← String.toList_inj, toList_colon]
  exact append_cons_inj_right hv hw

end RouteShield.Separated

/-! ### Numbers as texts -/

namespace RouteShield

theorem notMem_repr {c : Char} (hc : c.isDigit = false) (n : ℕ) : c ∉ n.repr.toList := by
  rw [Nat.toList_repr]
  intro hmem
  have hdigit : c.isDigit = true := Nat.isDigit_of_mem_toDigits (by decide) (Nat.le_refl 10) hmem
  rw [hc] at hdigit
  cases hdigit

theorem repr_injective : Function.Injective Nat.repr := by
  intro m n h
  have hdigits := congrArg String.toList h
  rw [Nat.toList_repr, Nat.toList_repr] at hdigits
  rw [← @Nat.ofDigitChars_ten_toDigits m, hdigits, Nat.ofDigitChars_ten_toDigits]

theorem colon_notMem_toString (n : ℤ) : ':' ∉ (toString n).toList := by
  rw [Int.toString_eq_repr, Int.repr_eq_if]
  split_ifs
  · exact notMem_repr rfl _
  · rw [String.toList_append, List.mem_append, not_or]
    exact ⟨by decide, notMem_repr rfl _⟩

theorem toString_injective : Function.Injective (toString : ℤ → String) := by
  have hminus : ∀ m n : ℕ, m.repr ≠ "-" ++ n.repr := by
    intro m n h
    refine notMem_repr (c := '-') rfl m ?_
    rw [h]
    simp
  intro m n h
  rw [Int.toString_eq_repr, Int.toString_eq_repr, Int.repr_eq_if, Int.repr_eq_if] at h
  split_ifs at h with hm hn hn
  · have hnat := repr_injective h
    omega
  · exact absurd h (hminus _ _)
  · exact absurd h.symm (hminus _ _)
  · have hnat := repr_injective ((String.append_right_inj _).mp h)
    omega

end RouteShield
