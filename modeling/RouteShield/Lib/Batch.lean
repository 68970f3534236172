import Mathlib.Data.List.Basic

/-!
Batches of bounded size from a list in an order nobody promises. A reader that first drops
what does not qualify and then cuts to the limit always gets a full batch. A reader that
cuts what waits and then drops what does not qualify can be starved by the rest: it gets
full batches, whatever the order, only where there is nothing to drop or nothing to cut.
-/

namespace RouteShield

variable {α : Type} (waits qualifies : α → Bool) (limit : ℕ)

def qualifying (rows : List α) : List α := rows.filter (fun a => waits a && qualifies a)

theorem mem_qualifying {waits qualifies : α → Bool} {rows : List α} {a : α} :
    a ∈ qualifying waits qualifies rows ↔ a ∈ rows ∧ waits a = true ∧ qualifies a = true := by
  rw [qualifying, List.mem_filter, Bool.and_eq_true]

/-- Drop, then cut. -/
def batch (rows : List α) : List α := (qualifying waits qualifies rows).take limit

/-- Cut, then drop. -/
def cutBatch (rows : List α) : List α := ((rows.filter waits).take limit).filter qualifies

variable {waits qualifies limit} {rows order : List α}

theorem qualifying_eq : qualifying waits qualifies rows = (rows.filter waits).filter qualifies := by
  rw [List.filter_filter]
  exact List.filter_congr fun a _ => Bool.and_comm _ _

theorem length_qualifying_of_perm (h : order.Perm rows) :
    (qualifying waits qualifies order).length = (qualifying waits qualifies rows).length :=
  (h.filter _).length_eq

theorem cutBatch_subset : cutBatch waits qualifies limit rows ⊆ qualifying waits qualifies rows := by
  rw [qualifying_eq]
  exact ((List.take_sublist _ _).filter _).subset

/-- The waiting rows fit the limit, all of them qualify, or none does. -/
def NothingToCut (waits qualifies : α → Bool) (limit : ℕ) (rows : List α) : Prop :=
  (rows.filter waits).length ≤ limit ∨ (∀ a ∈ rows, waits a → qualifies a) ∨
    ∀ a ∈ rows, waits a → ¬qualifies a

theorem NothingToCut.of_perm (h : NothingToCut waits qualifies limit rows)
    (hperm : order.Perm rows) : NothingToCut waits qualifies limit order := by
  unfold NothingToCut at h ⊢
  simpa only [(hperm.filter waits).length_eq, hperm.mem_iff] using h

theorem length_cutBatch (h : NothingToCut waits qualifies limit rows) :
    (cutBatch waits qualifies limit rows).length =
      min limit (qualifying waits qualifies rows).length := by
  rw [qualifying_eq, cutBatch]
  rcases h with hfit | hall | hnone
  · rw [List.take_of_length_le hfit]
    have hle := List.length_filter_le qualifies (rows.filter waits)
    omega
  · have hself : ∀ a ∈ rows.filter waits, qualifies a = true := by simpa using hall
    rw [List.filter_eq_self.mpr hself,
      List.filter_eq_self.mpr fun a ha => hself a (List.mem_of_mem_take ha), List.length_take]
  · have hnil : ∀ a ∈ rows.filter waits, ¬qualifies a = true := by simpa using hnone
    rw [List.filter_eq_nil_iff.mpr hnil,
      List.filter_eq_nil_iff.mpr fun a ha => hnil a (List.mem_of_mem_take ha)]
    simp

/-- The order that puts what does not qualify first. -/
def worstOrder (qualifies : α → Bool) (rows : List α) : List α :=
  rows.filter (fun a => !qualifies a) ++ rows.filter qualifies

theorem worstOrder_perm : (worstOrder qualifies rows).Perm rows := by
  refine List.perm_append_comm.trans ?_
  exact List.filter_append_perm qualifies rows

/-- In the worst order the cut takes what qualifies only after all the rest. -/
theorem length_cutBatch_worstOrder :
    (cutBatch waits qualifies limit (worstOrder qualifies rows)).length =
      min (limit - ((rows.filter waits).filter (fun a => !qualifies a)).length)
        (qualifying waits qualifies rows).length := by
  have hsplit : (worstOrder qualifies rows).filter waits =
      (rows.filter waits).filter (fun a => !qualifies a) ++ (rows.filter waits).filter qualifies := by
    rw [worstOrder, List.filter_append, List.filter_comm, List.filter_comm waits qualifies]
  have hbad : ∀ a ∈ ((rows.filter waits).filter (fun a => !qualifies a)).take limit,
      ¬qualifies a = true := by
    intro a ha
    simpa using (List.mem_filter.mp (List.mem_of_mem_take ha)).2
  have hgood : ∀ k, ∀ a ∈ ((rows.filter waits).filter qualifies).take k, qualifies a = true :=
    fun k a ha => (List.mem_filter.mp (List.mem_of_mem_take ha)).2
  rw [cutBatch, hsplit, List.take_append, List.filter_append, List.filter_eq_nil_iff.mpr hbad,
    List.filter_eq_self.mpr (hgood _), List.nil_append, List.length_take, qualifying_eq]

/-- Cutting first fills the batch in every order exactly where there is nothing to cut. -/
theorem cutBatch_full_iff (hlimit : 0 < limit) :
    (∀ order : List α, order.Perm rows → (cutBatch waits qualifies limit order).length =
      min limit (qualifying waits qualifies rows).length) ↔
      NothingToCut waits qualifies limit rows := by
  constructor
  · intro h
    have hworst := h (worstOrder qualifies rows) worstOrder_perm
    rw [length_cutBatch_worstOrder, qualifying_eq] at hworst
    have hsum : (rows.filter waits).length = ((rows.filter waits).filter qualifies).length +
        ((rows.filter waits).filter (fun a => !qualifies a)).length :=
      List.length_eq_length_filter_add qualifies
    rcases Nat.eq_zero_or_pos ((rows.filter waits).filter qualifies).length with hz | hpos
    · refine .inr (.inr fun a ha hw hq => ?_)
      rw [List.length_eq_zero_iff, List.filter_eq_nil_iff] at hz
      exact hz a (List.mem_filter.mpr ⟨ha, hw⟩) hq
    · rcases Nat.eq_zero_or_pos ((rows.filter waits).filter (fun a => !qualifies a)).length with
        hb | hb
      · refine .inr (.inl fun a ha hw => ?_)
        rw [List.length_eq_zero_iff, List.filter_eq_nil_iff] at hb
        simpa using hb a (List.mem_filter.mpr ⟨ha, hw⟩)
      · left
        omega
  · intro h order hperm
    rw [length_cutBatch (h.of_perm hperm), length_qualifying_of_perm hperm]

end RouteShield
