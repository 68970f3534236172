import Mathlib.Data.List.Induction
import Mathlib.Data.List.Pairwise
import Mathlib.Data.List.Sort
import RouteShield.Lib.Table

/-! Histories of keyed writes. A table that is upserted holds the last write under each key, and a
column that an upsert leaves alone holds what the first write put there; a table that refuses taken
keys holds the writes whose key was new. Two sorted listings of a history are equal when they show
the same rows and their orders agree. -/

namespace RouteShield

/-- A component of the state that only some inputs of a run write. -/
theorem foldl_component {σ τ ι α : Type} {step : σ → ι → σ} (get : σ → τ) (pick : ι → Option α)
    (put : τ → α → τ) (h : ∀ s i, get (step s i) = (pick i).elim (get s) (put (get s)))
    (inputs : List ι) (s : σ) :
    get (inputs.foldl step s) = (inputs.filterMap pick).foldl put (get s) := by
  induction inputs generalizing s with
  | nil => rfl
  | cons i inputs ih =>
    rw [List.foldl_cons, ih, h, List.filterMap_cons]
    cases pick i <;> rfl

namespace History

variable {α κ : Type} [DecidableEq κ] (key : α → κ)

/-- The first write under a key. -/
def first? (writes : List α) (k : κ) : Option α := (writes.filter (fun a => key a = k)).head?

/-- The last write under a key. -/
def last? (writes : List α) (k : κ) : Option α := (writes.filter (fun a => key a = k)).getLast?

variable {key} {writes : List α} {k : κ}

theorem first?_concat (writes : List α) (a : α) (k : κ) :
    first? key (writes ++ [a]) k = (first? key writes k).or (if key a = k then some a else none) := by
  unfold first?
  rw [List.filter_append, List.head?_append, List.filter_singleton]
  by_cases hk : key a = k <;> simp [hk]

theorem last?_concat (writes : List α) (a : α) (k : κ) :
    last? key (writes ++ [a]) k = if key a = k then some a else last? key writes k := by
  unfold last?
  rw [List.filter_append, List.filter_singleton]
  by_cases hk : key a = k <;> simp [hk]

theorem first?_eq_none : first? key writes k = none ↔ last? key writes k = none := by
  rw [first?, last?, List.head?_eq_none_iff, List.getLast?_eq_none_iff]

theorem key_of_last? {a : α} (h : last? key writes k = some a) : key a = k := by
  have hmem := List.mem_of_getLast? h
  exact of_decide_eq_true (List.mem_filter.mp hmem).2

/-! ### Upserts -/

/-- Upserts that keep a column of the row they replace: the column is the first write's, the rest
the last write's. -/
theorem find?_foldl_upsert {ρ γ : Type} {rowKey : ρ → κ} {column : α → γ} {mk : γ → α → ρ}
    {columnOf : ρ → γ} (hkey : ∀ c a, rowKey (mk c a) = key a)
    (hcolumn : ∀ c a, columnOf (mk c a) = c) (writes : List α) (k : κ) :
    (writes.foldl (fun (t : Table rowKey) a =>
      t.put (mk (((t.find? (key a)).map columnOf).getD (column a)) a)) .empty).find? k =
      (first? key writes k).bind (fun f => (last? key writes k).map (mk (column f))) := by
  induction writes using List.reverseRecOn generalizing k with
  | nil => rfl
  | append_singleton writes a ih =>
    rw [List.foldl_concat, Table.find?_put, hkey, ih, ih, first?_concat, last?_concat]
    by_cases hk : key a = k
    · subst hk
      rw [if_pos rfl, if_pos rfl, if_pos rfl]
      cases hfirst : first? key writes (key a) with
      | none => simp
      | some f =>
        cases hlast : last? key writes (key a) with
        | none => simp [first?_eq_none.mpr hlast] at hfirst
        | some l => simp [hcolumn]
    · rw [if_neg (fun h => hk h.symm), if_neg hk, if_neg hk, Option.or_none]

theorem find?_foldl_put (writes : List α) (k : κ) :
    (writes.foldl Table.put (.empty : Table key)).find? k = last? key writes k := by
  induction writes using List.reverseRecOn with
  | nil => rfl
  | append_singleton writes a ih =>
    rw [List.foldl_concat, Table.find?_put, ih, last?_concat]
    by_cases hk : key a = k
    · rw [if_pos hk.symm, if_pos hk]
    · rw [if_neg (fun h => hk h.symm), if_neg hk]

/-! ### Inserts -/

/-- An insert under a taken key leaves the table. -/
def accept (t : Table key) (a : α) : Table key := (t.insert a).getD t

theorem rows_accept (t : Table key) (a : α) :
    (accept t a).rows = if key a ∈ t.rows.map key then t.rows else t.rows ++ [a] := by
  unfold accept
  by_cases htaken : key a ∈ t.rows.map key
  · obtain ⟨b, hb, hkey⟩ := List.mem_map.mp htaken
    have hfind : t.find? (key a) = some b := t.find?_eq_some.mpr ⟨hb, hkey⟩
    rw [if_pos htaken, Table.insert, hfind]
    rfl
  · have hfind : t.find? (key a) = none :=
      t.find?_eq_none.mpr fun b hb hkey => htaken (List.mem_map.mpr ⟨b, hb, hkey⟩)
    rw [if_neg htaken, Table.insert, hfind]
    exact t.rows_put hfind

/-- The writes whose key was new. -/
def accepted (key : α → κ) (writes : List α) : List α :=
  (writes.foldl accept (.empty : Table key)).rows

theorem keys_accepted (writes : List α) (k : κ) :
    k ∈ (accepted key writes).map key ↔ k ∈ writes.map key := by
  induction writes using List.reverseRecOn generalizing k with
  | nil => rfl
  | append_singleton writes a ih =>
    have ih' := ih (key a)
    unfold accepted at ih ih' ⊢
    rw [List.foldl_concat, rows_accept]
    split_ifs with htaken
    · rw [ih, List.map_append, List.mem_append, List.map_singleton, List.mem_singleton]
      constructor
      · exact Or.inl
      · rintro (h | rfl)
        · exact h
        · exact ih'.mp htaken
    · rw [List.map_append, List.map_append, List.mem_append, List.mem_append, ih]

theorem accepted_concat (writes : List α) (a : α) :
    accepted key (writes ++ [a]) =
      if key a ∈ writes.map key then accepted key writes else accepted key writes ++ [a] := by
  rw [accepted, List.foldl_concat, rows_accept]
  exact if_congr (keys_accepted writes (key a)) rfl rfl

theorem accepted_sublist (writes : List α) : (accepted key writes).Sublist writes := by
  induction writes using List.reverseRecOn with
  | nil => exact List.nil_sublist _
  | append_singleton writes a ih =>
    rw [accepted_concat]
    split_ifs
    · exact ih.trans (List.sublist_append_left _ _)
    · exact ih.append (List.Sublist.refl _)

/-- No write that satisfies `p` comes under a key that was written before. -/
def NewKeys (key : α → κ) (p : α → Bool) (writes : List α) : Prop :=
  ∀ before a after, writes = before ++ a :: after → p a = true → key a ∉ before.map key

omit [DecidableEq κ] in
theorem newKeys_concat {p : α → Bool} {a : α} :
    NewKeys key p (writes ++ [a]) ↔
      NewKeys key p writes ∧ (p a = true → key a ∉ writes.map key) := by
  constructor
  · intro h
    refine ⟨fun before b after hwrites => h before b (after ++ [a]) ?_, h writes a [] rfl⟩
    rw [hwrites, List.append_assoc, List.cons_append]
  · rintro ⟨hwrites, ha⟩ before b after heq hp
    rcases List.eq_nil_or_concat after with rfl | ⟨after, c, rfl⟩
    · obtain ⟨rfl, hlast⟩ := List.append_inj' heq rfl
      cases hlast
      exact ha hp
    · rw [List.concat_eq_append, ← List.cons_append, ← List.append_assoc] at heq
      obtain ⟨hinit, -⟩ := List.append_inj' heq rfl
      exact hwrites before b after hinit hp

/-- What a table that refuses taken keys shows is what was written, if each key was new. -/
theorem filter_accepted_iff {p : α → Bool} (writes : List α) :
    (accepted key writes).filter p = writes.filter p ↔ NewKeys key p writes := by
  induction writes using List.reverseRecOn with
  | nil =>
    refine iff_of_true rfl fun before a after h => ?_
    simp at h
  | append_singleton writes a ih =>
    rw [newKeys_concat, ← ih, accepted_concat, List.filter_append, List.filter_singleton]
    by_cases hp : p a = true
    · simp only [hp, forall_const]
      by_cases htaken : key a ∈ writes.map key
      · rw [if_pos htaken]
        refine iff_of_false (fun h => ?_) fun h => h.2 htaken
        have hsublist : (accepted key writes).Sublist writes := accepted_sublist writes
        have hlength := (hsublist.filter p).length_le
        rw [h, List.length_append] at hlength
        exact absurd hlength (Nat.not_succ_le_self _)
      · rw [if_neg htaken, List.filter_append, List.filter_singleton, hp]
        simp [htaken]
    · simp only [hp]
      split_ifs <;> simp [hp]

/-! ### Sorted listings -/

section Sorted

variable {le le' : α → α → Bool}

theorem mergeSort_pair (le : α → α → Bool) (a b : α) :
    [a, b].mergeSort le = if le a b = true then [a, b] else [b, a] := by
  simp [List.mergeSort, List.merge]

/-- Writes in their own order against the accepted rows in sorted order. -/
theorem filter_eq_mergeSort_iff (key : α → κ) {p : α → Bool}
    (htrans : ∀ a b c, le a b = true → le b c = true → le a c = true)
    (htotal : ∀ a b, (le a b || le b a) = true) (writes : List α) :
    ((accepted key writes).filter p).mergeSort le = writes.filter p ↔
      NewKeys key p writes ∧ (writes.filter p).Pairwise (fun a b => le a b = true) := by
  rw [← filter_accepted_iff]
  constructor
  · intro h
    have hlength : ((accepted key writes).filter p).length = (writes.filter p).length := by
      rw [← h, List.length_mergeSort]
    refine ⟨((accepted_sublist writes).filter p).eq_of_length hlength, ?_⟩
    rw [← h]
    exact List.pairwise_mergeSort htrans htotal _
  · rintro ⟨heq, hsorted⟩
    rw [heq]
    exact List.mergeSort_of_pairwise hsorted

/-- Two listings without repetition, each in an order of its own, are equal when they show the same
rows and one order follows the other on them. -/
theorem mergeSort_eq_mergeSort_iff {rows rows' : List α}
    (htrans : ∀ a b c, le a b = true → le b c = true → le a c = true)
    (htotal : ∀ a b, (le a b || le b a) = true)
    (htrans' : ∀ a b c, le' a b = true → le' b c = true → le' a c = true)
    (htotal' : ∀ a b, (le' a b || le' b a) = true)
    (hrows : rows.Nodup) (hrows' : rows'.Nodup)
    (hanti : ∀ a ∈ rows, ∀ b ∈ rows, le a b = true → le b a = true → a = b)
    (hanti' : ∀ a ∈ rows, ∀ b ∈ rows, le' a b = true → le' b a = true → a = b) :
    rows'.mergeSort le' = rows.mergeSort le ↔
      (∀ a, a ∈ rows' ↔ a ∈ rows) ∧
        ∀ a ∈ rows, ∀ b ∈ rows, le' a b = true → le a b = true := by
  have hsorted : (rows.mergeSort le).Pairwise (fun a b => le a b = true) :=
    List.pairwise_mergeSort htrans htotal rows
  have hsorted' : (rows'.mergeSort le').Pairwise (fun a b => le' a b = true) :=
    List.pairwise_mergeSort htrans' htotal' rows'
  constructor
  · intro heq
    have hmem : ∀ a, a ∈ rows' ↔ a ∈ rows := fun a => by
      rw [← (List.mergeSort_perm rows' le').mem_iff, heq, (List.mergeSort_perm rows le).mem_iff]
    refine ⟨hmem, fun a ha b hb hab => ?_⟩
    rw [heq] at hsorted'
    by_cases hsame : a = b
    · have hrefl := htotal a a
      rw [Bool.or_self] at hrefl
      rwa [← hsame]
    · -- in the one listing, one of the two rows stands before the other in both orders
      have hboth : (rows.mergeSort le).Pairwise (fun a b =>
          (le a b = true ∧ le' a b = true) ∨ (le b a = true ∧ le' b a = true)) :=
        (hsorted.and hsorted').imp Or.inl
      have : Std.Symm (fun a b => (le a b = true ∧ le' a b = true) ∨
          (le b a = true ∧ le' b a = true)) := ⟨fun _ _ h => h.symm⟩
      have hcases := hboth.forall ((List.mergeSort_perm rows le).mem_iff.mpr ha)
        ((List.mergeSort_perm rows le).mem_iff.mpr hb) hsame
      rcases hcases with ⟨h, -⟩ | ⟨-, hba⟩
      · exact h
      · exact absurd (hanti' a ha b hb hab hba) hsame
  · rintro ⟨hmem, hle⟩
    have hperm : rows'.Perm rows := (List.perm_ext_iff_of_nodup hrows' hrows).mpr hmem
    have hin : ∀ a ∈ rows'.mergeSort le', a ∈ rows := fun a ha =>
      (hmem a).mp ((List.mergeSort_perm rows' le').mem_iff.mp ha)
    refine List.Perm.eq_of_pairwise (fun a b ha hb => hanti a (hin a ha) b ?_)
      (hsorted'.imp_of_mem fun ha hb => hle _ (hin _ ha) _ (hin _ hb)) hsorted
      (((List.mergeSort_perm rows' le').trans hperm).trans (List.mergeSort_perm rows le).symm)
    exact (List.mergeSort_perm rows le).mem_iff.mp hb

end Sorted

end History

end RouteShield
