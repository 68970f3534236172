import Mathlib.Data.List.Induction
import Mathlib.Data.List.Nodup
import Mathlib.Data.List.Sort
import Mathlib.Order.Defs.LinearOrder

/-! Sorting by a comparison that tells apart whatever differs in its key. A list of distinct keys
has one sorted order, in whatever order it comes. Its last element is its greatest, which is also
what a fold that keeps the greater of two finds. -/

namespace RouteShield

variable {α κ : Type*}

/-- A comparison to sort by. What it holds equal has one key. -/
structure SortOrder (le : α → α → Bool) (key : α → κ) : Prop where
  trans : ∀ a b c, le a b = true → le b c = true → le a c = true
  total : ∀ a b, (le a b || le b a) = true
  key_eq : ∀ a b, le a b = true → le b a = true → key a = key b

namespace SortOrder

variable {le : α → α → Bool} {key : α → κ} {l l' : List α} {a b : α} {p : α → Bool}

/-- One component decides, and where it ties the key. -/
theorem lex {β : Type*} [LinearOrder β] [LinearOrder κ] (first : α → β)
    (h : ∀ a b, le a b = true ↔ first a < first b ∨ (first a = first b ∧ key a ≤ key b)) :
    SortOrder le key where
  trans a b c hab hbc := by
    rw [h] at hab hbc ⊢
    rcases hab with hab | ⟨hab, hab'⟩ <;> rcases hbc with hbc | ⟨hbc, hbc'⟩
    · exact .inl (hab.trans hbc)
    · exact .inl (hbc ▸ hab)
    · exact .inl (hab ▸ hbc)
    · exact .inr ⟨hab.trans hbc, hab'.trans hbc'⟩
  total a b := by
    rw [Bool.or_eq_true, h, h]
    rcases lt_trichotomy (first a) (first b) with hlt | heq | hlt
    · exact .inl (.inl hlt)
    · rcases le_total (key a) (key b) with hle | hle
      · exact .inl (.inr ⟨heq, hle⟩)
      · exact .inr (.inr ⟨heq.symm, hle⟩)
    · exact .inr (.inl hlt)
  key_eq a b hab hba := by
    rw [h] at hab hba
    rcases hab with hab | ⟨hab, hab'⟩ <;> rcases hba with hba | ⟨hba, hba'⟩
    · exact absurd hba (lt_asymm hab)
    · exact absurd hab (hba ▸ lt_irrefl _)
    · exact absurd hba (hab ▸ lt_irrefl _)
    · exact le_antisymm hab' hba'

theorem flip (h : SortOrder le key) : SortOrder (fun a b => le b a) key where
  trans a b c hab hbc := h.trans c b a hbc hab
  total a b := h.total b a
  key_eq a b hab hba := h.key_eq a b hba hab

/-- A key may be compared under another name, as long as no two keys share one. -/
theorem of_injective {κ' : Type*} {name : κ → κ'} (h : SortOrder le fun a => name (key a))
    (hname : Function.Injective name) : SortOrder le key where
  trans := h.trans
  total := h.total
  key_eq a b hab hba := hname (h.key_eq a b hab hba)

section Sorting

variable (h : SortOrder le key)
include h

theorem refl (a : α) : le a a = true := by
  have htotal := h.total a a
  rwa [Bool.or_self] at htotal

theorem pairwise (l : List α) : (l.mergeSort le).Pairwise fun a b => le a b = true :=
  List.pairwise_mergeSort h.trans h.total l

theorem antisymm (hdistinct : (l.map key).Nodup) (ha : a ∈ l) (hb : b ∈ l) (hab : le a b = true)
    (hba : le b a = true) : a = b :=
  List.inj_on_of_nodup_map hdistinct ha hb (h.key_eq a b hab hba)

theorem mergeSort_eq_of_perm (hdistinct : (l.map key).Nodup) (hperm : l'.Perm l) :
    l'.mergeSort le = l.mergeSort le := by
  have hsorted : (l'.mergeSort le).Perm l := (List.mergeSort_perm l' le).trans hperm
  refine List.Perm.eq_of_pairwise (fun a b ha hb => ?_) (h.pairwise l') (h.pairwise l)
    (hsorted.trans (List.mergeSort_perm l le).symm)
  exact h.antisymm hdistinct (hsorted.mem_iff.mp ha) (List.mem_mergeSort.mp hb)

/-- The last of some elements in sorted order is the greatest of them. -/
theorem getLast?_filter_mergeSort (hdistinct : (l.map key).Nodup) :
    ((l.mergeSort le).filter p).getLast? = some a ↔
      a ∈ l ∧ p a = true ∧ ∀ b ∈ l, p b = true → le b a = true := by
  have hgreatest : ∀ {c : α}, ((l.mergeSort le).filter p).getLast? = some c →
      c ∈ l ∧ p c = true ∧ ∀ b ∈ l, p b = true → le b c = true := by
    intro c hlast
    obtain ⟨rest, hrest⟩ := List.getLast?_eq_some_iff.mp hlast
    have hmem : ∀ b, b ∈ l ∧ p b = true ↔ b ∈ rest ++ [c] := fun b => by
      rw [← hrest, List.mem_filter, List.mem_mergeSort]
    have hsorted : (rest ++ [c]).Pairwise fun a b => le a b = true :=
      hrest ▸ (h.pairwise l).filter p
    obtain ⟨hc, hpc⟩ := (hmem c).mpr (List.mem_append_right _ List.mem_cons_self)
    refine ⟨hc, hpc, fun b hb hpb => ?_⟩
    rcases List.mem_append.mp ((hmem b).mp ⟨hb, hpb⟩) with hb | hb
    · exact (List.pairwise_append.mp hsorted).2.2 b hb c List.mem_cons_self
    · exact List.mem_singleton.mp hb ▸ h.refl _
  refine ⟨hgreatest, fun ⟨ha, hpa, hle⟩ => ?_⟩
  cases hlast : ((l.mergeSort le).filter p).getLast? with
  | none =>
    have hnone := List.getLast?_eq_none_iff.mp hlast
    have hmem : a ∈ (l.mergeSort le).filter p :=
      List.mem_filter.mpr ⟨List.mem_mergeSort.mpr ha, hpa⟩
    rw [hnone] at hmem
    exact absurd hmem List.not_mem_nil
  | some c =>
    obtain ⟨hc, hpc, hgreater⟩ := hgreatest hlast
    rw [h.antisymm hdistinct ha hc (hgreater a ha hpa) (hle c hc hpc)]

/-- A fold that keeps the greater of two finds a greatest element. -/
theorem foldl_greater {step : Option α → α → Option α} (hfirst : ∀ a, step none a = some a)
    (hnext : ∀ b a, step (some b) a = if le a b = true then some b else some a) (l : List α) :
    l = [] ∧ l.foldl step none = none ∨
      ∃ a ∈ l, l.foldl step none = some a ∧ ∀ b ∈ l, le b a = true := by
  induction l using List.reverseRecOn with
  | nil => exact .inl ⟨rfl, rfl⟩
  | append_singleton l c ih =>
    refine .inr ?_
    rw [List.foldl_append, List.foldl_cons, List.foldl_nil]
    rcases ih with ⟨rfl, hnone⟩ | ⟨a, ha, hsome, hgreatest⟩
    · rw [hnone, hfirst]
      exact ⟨c, List.mem_cons_self, rfl, List.forall_mem_singleton.mpr (h.refl c)⟩
    · rw [hsome, hnext]
      by_cases hle : le c a = true
      · rw [if_pos hle]
        exact ⟨a, List.mem_append_left _ ha, rfl,
          List.forall_mem_append.mpr ⟨hgreatest, List.forall_mem_singleton.mpr hle⟩⟩
      · have hac : le a c = true := by
          have htotal := h.total a c
          rwa [eq_false_of_ne_true hle, Bool.or_false] at htotal
        rw [if_neg hle]
        refine ⟨c, List.mem_append_right _ List.mem_cons_self, rfl,
          List.forall_mem_append.mpr ⟨fun b hb => ?_, List.forall_mem_singleton.mpr (h.refl c)⟩⟩
        exact h.trans b a c (hgreatest b hb) hac

end Sorting

end SortOrder

end RouteShield
