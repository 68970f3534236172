import RouteShield.Domain.Recovery
import RouteShield.Lib.Sorted
import Mathlib.Algebra.Order.Field.Rat
import Mathlib.Data.String.Basic

/-!
The order in which recovery candidates are displayed. Candidates with names of their own are ranked
the same in whatever order they come, each eligible one once, and a set that is displayed keeps all
of them.
-/

namespace RouteShield

variable {candidates permuted ranked shown : List EvaluatedCandidate}

/-- A candidate apart from where it is displayed. -/
def EvaluatedCandidate.unplaced (candidate : EvaluatedCandidate) : EvaluatedCandidate :=
  { candidate with displayedPosition := none }

/-- Each eligible candidate once and no other, by descending score, in positions from 1. -/
structure Ranking (candidates ranked : List EvaluatedCandidate) : Prop where
  complete : (ranked.map EvaluatedCandidate.unplaced).Perm
    ((candidates.filter fun c => c.eligible).map EvaluatedCandidate.unplaced)
  scores : ranked.Pairwise fun a b => (rankKey b).1 ≤ (rankKey a).1
  positions : ranked.map EvaluatedCandidate.displayedPosition =
    (List.range ranked.length).map fun i => some (i + 1)

/-- Every candidate in its place, the eligible ones as they are ranked. -/
structure Placement (candidates ranked shown : List EvaluatedCandidate) : Prop where
  kept : shown.map EvaluatedCandidate.unplaced = candidates.map EvaluatedCandidate.unplaced
  eligible : ∀ c ∈ shown, c.eligible = true → c ∈ ranked
  others : ∀ c ∈ shown, c.eligible = false → c.displayedPosition = none

theorem sortOrder_ranksBefore : SortOrder ranksBefore fun c => c.candidateId := by
  have hascending : SortOrder (fun a b => ranksBefore b a) fun c => c.candidateId :=
    SortOrder.lex (fun c => (rankKey c).1) fun _ _ => decide_eq_true_iff
  exact hascending.flip

/-! ### The ranking -/

/-- The eligible candidates in the order of their display. -/
def eligibleInOrder (candidates : List EvaluatedCandidate) : List EvaluatedCandidate :=
  (candidates.filter fun c => c.eligible).mergeSort ranksBefore

theorem mem_eligibleInOrder {c : EvaluatedCandidate} :
    c ∈ eligibleInOrder candidates ↔ c ∈ candidates ∧ c.eligible = true := by
  rw [eligibleInOrder, List.mem_mergeSort, List.mem_filter]

theorem getElem?_rankEligible (candidates : List EvaluatedCandidate) (i : ℕ) :
    (rankEligible candidates)[i]? =
      (eligibleInOrder candidates)[i]?.map fun c => { c with displayedPosition := some (i + 1) } := by
  show (((eligibleInOrder candidates).zipIdx).map _)[i]? = _
  rw [List.getElem?_map, List.getElem?_zipIdx, Option.map_map, Nat.zero_add]
  rfl

theorem mem_rankEligible {r : EvaluatedCandidate} :
    r ∈ rankEligible candidates ↔ ∃ (i : ℕ) (c : EvaluatedCandidate),
      (eligibleInOrder candidates)[i]? = some c ∧
        { c with displayedPosition := some (i + 1) } = r := by
  rw [List.mem_iff_getElem?]
  simp only [getElem?_rankEligible, Option.map_eq_some_iff]

/-- Whatever positions do not play a part in is read off the candidates in order. -/
theorem map_rankEligible {β : Type*} {f : EvaluatedCandidate → β}
    (hf : ∀ c position, f { c with displayedPosition := position } = f c)
    (candidates : List EvaluatedCandidate) :
    (rankEligible candidates).map f = (eligibleInOrder candidates).map f := by
  apply List.ext_getElem?
  intro i
  rw [List.getElem?_map, List.getElem?_map, getElem?_rankEligible, Option.map_map]
  exact congrArg (fun g => (eligibleInOrder candidates)[i]?.map g) (funext fun c => hf c _)

theorem rankEligible_ranking (candidates : List EvaluatedCandidate) :
    Ranking candidates (rankEligible candidates) where
  complete := by
    rw [map_rankEligible fun _ _ => rfl]
    exact (List.mergeSort_perm _ _).map _
  scores := by
    have hsorted : (eligibleInOrder candidates).Pairwise fun a b =>
        (rankKey b).1 ≤ (rankKey a).1 := by
      refine (sortOrder_ranksBefore.pairwise _).imp fun {a b} hab => ?_
      rcases of_decide_eq_true hab with hlt | ⟨heq, -⟩
      · exact hlt.le
      · exact heq.le
    have hkeys : ((rankEligible candidates).map fun c => (rankKey c).1).Pairwise
        fun a b => b ≤ a := by
      rw [map_rankEligible fun _ _ => rfl]
      exact List.pairwise_map.mpr hsorted
    exact List.pairwise_map.mp hkeys
  positions := by
    apply List.ext_getElem?
    intro i
    have hlength : (rankEligible candidates).length = (eligibleInOrder candidates).length := by
      simpa using congrArg List.length (map_rankEligible (f := fun _ => ()) (fun _ _ => rfl) candidates)
    rw [List.getElem?_map, getElem?_rankEligible, List.getElem?_map, hlength]
    by_cases hi : i < (eligibleInOrder candidates).length
    · rw [List.getElem?_eq_getElem hi, List.getElem?_range hi]
      rfl
    · rw [List.getElem?_eq_none (by omega), List.getElem?_eq_none (by simpa using hi)]
      rfl

theorem rankEligible_eq_of_perm (hdistinct : (candidates.map fun c => c.candidateId).Nodup)
    (hperm : permuted.Perm candidates) : rankEligible permuted = rankEligible candidates := by
  have hordered : eligibleInOrder permuted = eligibleInOrder candidates :=
    sortOrder_ranksBefore.mergeSort_eq_of_perm
      (hdistinct.sublist (List.filter_sublist.map _))
      (hperm.filter fun c => c.eligible)
  apply List.ext_getElem?
  intro i
  rw [getElem?_rankEligible, getElem?_rankEligible, hordered]

/-! ### Candidates on display -/

/-- A ranked candidate bears its name alone. -/
theorem eq_of_mem_rankEligible (hdistinct : (candidates.map fun c => c.candidateId).Nodup)
    {c r : EvaluatedCandidate} (hc : c ∈ candidates) (hr : r ∈ rankEligible candidates)
    (hid : r.candidateId = c.candidateId) :
    c.eligible = true ∧ { c with displayedPosition := r.displayedPosition } = r := by
  obtain ⟨i, c', hc', rfl⟩ := mem_rankEligible.mp hr
  obtain ⟨hmem, heligible⟩ := mem_eligibleInOrder.mp (List.mem_of_getElem? hc')
  obtain rfl : c' = c := List.inj_on_of_nodup_map hdistinct hmem hc hid
  exact ⟨heligible, rfl⟩

theorem exists_mem_rankEligible {c : EvaluatedCandidate} (hc : c ∈ candidates)
    (heligible : c.eligible = true) :
    ∃ r ∈ rankEligible candidates, r.candidateId = c.candidateId := by
  obtain ⟨i, hi⟩ := List.mem_iff_getElem?.mp (mem_eligibleInOrder.mpr ⟨hc, heligible⟩)
  exact ⟨_, mem_rankEligible.mpr ⟨i, c, hi, rfl⟩, rfl⟩

theorem mem_of_lookup {c r : EvaluatedCandidate}
    (h : (ranked.reverse.find? fun r => r.candidateId = c.candidateId) = some r) :
    r ∈ ranked ∧ r.candidateId = c.candidateId := by
  have hid := List.find?_some h
  exact ⟨List.mem_reverse.mp (List.mem_of_find?_eq_some h), of_decide_eq_true hid⟩

/-- The positions are looked up under the names of the candidates. -/
theorem placement_lookup (hdistinct : (candidates.map fun c => c.candidateId).Nodup) :
    Placement candidates (rankEligible candidates) (candidates.map fun c =>
      { c with
        displayedPosition := ((rankEligible candidates).reverse.find? fun r =>
          r.candidateId = c.candidateId).bind EvaluatedCandidate.displayedPosition }) where
  kept := by
    rw [List.map_map]
    rfl
  eligible := by
    refine List.forall_mem_map.mpr fun c hc heligible => ?_
    cases hfound : (rankEligible candidates).reverse.find? fun r =>
        r.candidateId = c.candidateId with
    | none =>
      obtain ⟨r, hr, hid⟩ := exists_mem_rankEligible hc heligible
      exact absurd (decide_eq_true hid) (List.find?_eq_none.mp hfound r (List.mem_reverse.mpr hr))
    | some r =>
      obtain ⟨hr, hid⟩ := mem_of_lookup hfound
      have hsame := (eq_of_mem_rankEligible hdistinct hc hr hid).2
      rw [Option.bind_some, hsame]
      exact hr
  others := by
    refine List.forall_mem_map.mpr fun c hc hineligible => ?_
    cases hfound : (rankEligible candidates).reverse.find? fun r =>
        r.candidateId = c.candidateId with
    | none => rfl
    | some r =>
      obtain ⟨hr, hid⟩ := mem_of_lookup hfound
      have heligible := (eq_of_mem_rankEligible hdistinct hc hr hid).1
      exact absurd (heligible.symm.trans hineligible) Bool.noConfusion

end RouteShield
