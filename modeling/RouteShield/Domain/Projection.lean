import RouteShield.Domain.Recovery
import RouteShield.Lib.Sorted
import Mathlib.Data.String.Basic

/-!
The current view of a candidate set. It is read off the outcomes alone: the last one on a candidate
is its state, the last selection is the selection of the set, whatever order the log comes in.
-/

namespace RouteShield

variable {candidateSet : RecoveryCandidateSet} {outcomes permuted : List RecoveryCandidateOutcome}

/-- The last of some outcomes, by their time and then by the text of their identifier. -/
structure IsLast (p : RecoveryCandidateOutcome → Prop) (outcomes : List RecoveryCandidateOutcome)
    (outcome : RecoveryCandidateOutcome) : Prop where
  mem : outcome ∈ outcomes
  holds : p outcome
  last : ∀ o ∈ outcomes, p o → o.occurredAt < outcome.occurredAt ∨
    (o.occurredAt = outcome.occurredAt ∧ o.outcomeId.str ≤ outcome.outcomeId.str)

/-- A candidate in the view. Nothing of it but its state can change, and that only through its last
outcome. -/
structure Views (outcomes : List RecoveryCandidateOutcome) (c view : EvaluatedCandidate) : Prop where
  frame : { c with lifecycleState := view.lifecycleState } = view
  untouched : (∀ o ∈ outcomes, o.candidateId ≠ c.candidateId) → view = c
  state : ∀ o, IsLast (fun o => o.candidateId = c.candidateId) outcomes o →
    view.lifecycleState = o.state.lifecycle

theorem sortOrder_le : SortOrder RecoveryCandidateOutcome.le fun o => o.outcomeId := by
  have hstr : SortOrder RecoveryCandidateOutcome.le fun o => o.outcomeId.str :=
    SortOrder.lex (fun o => o.occurredAt) fun _ _ => decide_eq_true_iff
  exact hstr.of_injective Uuid.str_injective

section Distinct

variable (hdistinct : (outcomes.map fun o => o.outcomeId).Nodup)
include hdistinct

theorem lastOutcome_eq_some_iff {candidateId : String} {o : RecoveryCandidateOutcome} :
    lastOutcome outcomes candidateId = some o ↔
      IsLast (fun o => o.candidateId = candidateId) outcomes o := by
  unfold lastOutcome
  rw [sortOrder_le.getLast?_filter_mergeSort hdistinct]
  constructor
  · rintro ⟨hmem, hp, hlast⟩
    exact ⟨hmem, of_decide_eq_true hp, fun o' ho' hid =>
      of_decide_eq_true (hlast o' ho' (decide_eq_true hid))⟩
  · rintro ⟨hmem, hp, hlast⟩
    exact ⟨hmem, decide_eq_true hp, fun o' ho' hid =>
      decide_eq_true (hlast o' ho' (of_decide_eq_true hid))⟩

theorem IsLast.unique {p : RecoveryCandidateOutcome → Prop} {o o' : RecoveryCandidateOutcome}
    (h : IsLast p outcomes o) (h' : IsLast p outcomes o') : o = o' :=
  sortOrder_le.antisymm hdistinct h.mem h'.mem (decide_eq_true (h'.last o h.mem h.holds))
    (decide_eq_true (h.last o' h'.mem h'.holds))

end Distinct

theorem IsLast.perm {p : RecoveryCandidateOutcome → Prop} {o : RecoveryCandidateOutcome}
    (h : IsLast p permuted o) (hperm : permuted.Perm outcomes) : IsLast p outcomes o :=
  ⟨hperm.mem_iff.mp h.mem, h.holds, fun o' ho' => h.last o' (hperm.mem_iff.mpr ho')⟩

/-- The latest selection is the last of the selections, where there is one. -/
theorem latestSelection_isLast (outcomes : List RecoveryCandidateOutcome) :
    (∀ o ∈ outcomes, o.state ≠ .selected) ∧ latestSelection outcomes = none ∨
      ∃ o, latestSelection outcomes = some o ∧ IsLast (fun o => o.state = .selected) outcomes o := by
  have hgreatest : (outcomes.filter fun o => o.state = .selected) = [] ∧
        latestSelection outcomes = none ∨
      ∃ o ∈ outcomes.filter (fun o => o.state = .selected), latestSelection outcomes = some o ∧
        ∀ o' ∈ outcomes.filter (fun o => o.state = .selected), o'.le o = true :=
    sortOrder_le.foldl_greater (fun _ => rfl) (fun _ _ => rfl) _
  rcases hgreatest with ⟨hnone, hlatest⟩ | ⟨o, ho, hlatest, hlast⟩
  · exact .inl ⟨by simpa using hnone, hlatest⟩
  · obtain ⟨hmem, hselected⟩ := List.mem_filter.mp ho
    refine .inr ⟨o, hlatest, hmem, of_decide_eq_true hselected, fun o' ho' hselected' => ?_⟩
    exact of_decide_eq_true (hlast o' (List.mem_filter.mpr ⟨ho', decide_eq_true hselected'⟩))

/-! ### The view -/

/-- A candidate in the state of its last outcome. -/
def viewedCandidate (outcomes : List RecoveryCandidateOutcome) (c : EvaluatedCandidate) :
    EvaluatedCandidate :=
  match lastOutcome outcomes c.candidateId with
  | some o => { c with lifecycleState := o.state.lifecycle }
  | none => c

theorem projectCandidateSetOutcomes_candidates (candidateSet : RecoveryCandidateSet)
    (outcomes : List RecoveryCandidateOutcome) :
    (projectCandidateSetOutcomes candidateSet outcomes).candidates =
      candidateSet.candidates.map (viewedCandidate outcomes) := rfl

/-- A view of a view shows nothing else. -/
theorem viewedCandidate_viewedCandidate (outcomes : List RecoveryCandidateOutcome)
    (c : EvaluatedCandidate) :
    viewedCandidate outcomes (viewedCandidate outcomes c) = viewedCandidate outcomes c := by
  cases hlast : lastOutcome outcomes c.candidateId with
  | none =>
    have hself : viewedCandidate outcomes c = c := by simp [viewedCandidate, hlast]
    rw [hself, hself]
  | some o => simp [viewedCandidate, hlast]

theorem projectCandidateSetOutcomes_idem (candidateSet : RecoveryCandidateSet)
    (outcomes : List RecoveryCandidateOutcome) :
    projectCandidateSetOutcomes (projectCandidateSetOutcomes candidateSet outcomes) outcomes =
      projectCandidateSetOutcomes candidateSet outcomes := by
  have hcandidates : (candidateSet.candidates.map (viewedCandidate outcomes)).map
      (viewedCandidate outcomes) = candidateSet.candidates.map (viewedCandidate outcomes) := by
    rw [List.map_map]
    exact List.map_congr_left fun c _ => viewedCandidate_viewedCandidate outcomes c
  exact congrArg (fun candidates =>
    { projectCandidateSetOutcomes candidateSet outcomes with candidates }) hcandidates

theorem views_viewedCandidate (hdistinct : (outcomes.map fun o => o.outcomeId).Nodup)
    (c : EvaluatedCandidate) : Views outcomes c (viewedCandidate outcomes c) where
  frame := by
    unfold viewedCandidate
    split <;> rfl
  untouched hnone := by
    cases hlast : lastOutcome outcomes c.candidateId with
    | none => simp [viewedCandidate, hlast]
    | some o =>
      have ho := (lastOutcome_eq_some_iff hdistinct).mp hlast
      exact absurd ho.holds (hnone o ho.mem)
  state o ho := by
    have hlast := (lastOutcome_eq_some_iff hdistinct).mpr ho
    simp [viewedCandidate, hlast]

theorem lastOutcome_eq_of_perm (hdistinct : (outcomes.map fun o => o.outcomeId).Nodup)
    (hperm : permuted.Perm outcomes) (candidateId : String) :
    lastOutcome permuted candidateId = lastOutcome outcomes candidateId := by
  unfold lastOutcome
  rw [sortOrder_le.mergeSort_eq_of_perm hdistinct hperm]

theorem latestSelection_eq_of_perm (hdistinct : (outcomes.map fun o => o.outcomeId).Nodup)
    (hperm : permuted.Perm outcomes) : latestSelection permuted = latestSelection outcomes := by
  rcases latestSelection_isLast permuted with ⟨hnone, hlatest⟩ | ⟨o, hlatest, hlast⟩ <;>
    rcases latestSelection_isLast outcomes with ⟨hnone', hlatest'⟩ | ⟨o', hlatest', hlast'⟩
  · rw [hlatest, hlatest']
  · exact absurd hlast'.holds (hnone o' (hperm.mem_iff.mpr hlast'.mem))
  · exact absurd hlast.holds (hnone' o (hperm.mem_iff.mp hlast.mem))
  · rw [hlatest, hlatest', (hlast.perm hperm).unique hdistinct hlast']

theorem projectCandidateSetOutcomes_eq_of_perm
    (hdistinct : (outcomes.map fun o => o.outcomeId).Nodup) (hperm : permuted.Perm outcomes) :
    projectCandidateSetOutcomes candidateSet permuted =
      projectCandidateSetOutcomes candidateSet outcomes := by
  unfold projectCandidateSetOutcomes
  rw [sortOrder_le.mergeSort_eq_of_perm hdistinct hperm, latestSelection_eq_of_perm hdistinct hperm]
  simp only [lastOutcome_eq_of_perm hdistinct hperm]

/-- The view depends on which outcomes there are and not on their order, changes nothing but the
states of candidates and the selection, and is stable. -/
theorem projectCandidateSetOutcomes_view
    (hdistinct : (outcomes.map fun o => o.outcomeId).Nodup) :
    (∀ permuted, permuted.Perm outcomes → projectCandidateSetOutcomes candidateSet permuted =
      projectCandidateSetOutcomes candidateSet outcomes) ∧
    List.Forall₂ (Views outcomes) candidateSet.candidates
      (projectCandidateSetOutcomes candidateSet outcomes).candidates ∧
    projectCandidateSetOutcomes (projectCandidateSetOutcomes candidateSet outcomes) outcomes =
      projectCandidateSetOutcomes candidateSet outcomes ∧
    ((∀ o ∈ outcomes, o.state ≠ .selected) ∧
        (projectCandidateSetOutcomes candidateSet outcomes).selectedCandidateId = none ∧
        (projectCandidateSetOutcomes candidateSet outcomes).managerOverrideReason = none ∨
      ∃ o, IsLast (fun o => o.state = .selected) outcomes o ∧
        (projectCandidateSetOutcomes candidateSet outcomes).selectedCandidateId =
          some o.candidateId ∧
        (projectCandidateSetOutcomes candidateSet outcomes).managerOverrideReason =
          o.managerOverrideReason) := by
  refine ⟨fun permuted hperm => projectCandidateSetOutcomes_eq_of_perm hdistinct hperm, ?_,
    projectCandidateSetOutcomes_idem candidateSet outcomes, ?_⟩
  · rw [projectCandidateSetOutcomes_candidates]
    exact List.forall₂_map_right_iff.mpr
      (List.forall₂_same.mpr fun c _ => views_viewedCandidate hdistinct c)
  · rcases latestSelection_isLast outcomes with ⟨hnone, hlatest⟩ | ⟨o, hlatest, hlast⟩
    · refine .inl ⟨hnone, ?_, ?_⟩
      · simp [projectCandidateSetOutcomes, hlatest]
      · simp [projectCandidateSetOutcomes, hlatest]
    · refine .inr ⟨o, hlast, ?_, ?_⟩
      · simp [projectCandidateSetOutcomes, hlatest]
      · simp [projectCandidateSetOutcomes, hlatest]

/-- A selection of a candidate, all at one time. -/
def selectionOf (n : ℕ) (candidateId : String) : RecoveryCandidateOutcome :=
  { state := .selected, outcomeId := .v4 n, candidateSetId := .v4 0, incidentId := .v4 0,
    candidateId, occurredAt := 0 }

/-- An option that was offered, on time and for thirty. -/
def offeredOption (candidateId : String) : EvaluatedCandidate where
  candidateId
  available := true
  policyCompliant := true
  accessibilityCompliant := true
  feasible := true
  arrivalDelayMinutes := 0
  incrementalCost := ⟨.finite 30, PyFloat.finite_le_finite.mpr (by norm_num)⟩
  connectionMinutes := 60
  eligible := true
  exclusionReasons := []
  deterministicRecoveryScore := some ⟨97, by decide⟩
  lifecycleState := .offered

/-- Three options, of which two are selected. -/
def threeOffered : RecoveryCandidateSet where
  candidateSetId := .v4 0
  incidentId := .v4 0
  candidates := [offeredOption "a", offeredOption "b", offeredOption "c"]
  createdAt := 0

theorem projectCandidateSetOutcomes_view_swapped :
    projectCandidateSetOutcomes threeOffered [selectionOf 2 "b", selectionOf 1 "a"] =
        projectCandidateSetOutcomes threeOffered [selectionOf 1 "a", selectionOf 2 "b"] ∧
      List.Forall₂ (Views [selectionOf 1 "a", selectionOf 2 "b"]) threeOffered.candidates
        (projectCandidateSetOutcomes threeOffered
          [selectionOf 1 "a", selectionOf 2 "b"]).candidates ∧
      (projectCandidateSetOutcomes threeOffered
        [selectionOf 1 "a", selectionOf 2 "b"]).candidates.map (fun c => c.lifecycleState) =
          [.selected, .selected, .offered] := by
  have hdistinct : ([selectionOf 1 "a", selectionOf 2 "b"].map fun o => o.outcomeId).Nodup := by
    decide
  obtain ⟨hperm, hviews, -⟩ := @projectCandidateSetOutcomes_view threeOffered _ hdistinct
  have hsorted : [selectionOf 1 "a", selectionOf 2 "b"].mergeSort RecoveryCandidateOutcome.le =
      [selectionOf 1 "a", selectionOf 2 "b"] := List.mergeSort_of_pairwise (by decide +kernel)
  have hlast : ∀ candidateId, lastOutcome [selectionOf 1 "a", selectionOf 2 "b"] candidateId =
      ([selectionOf 1 "a", selectionOf 2 "b"].filter
        (fun o => o.candidateId = candidateId)).getLast? := fun _ => by rw [lastOutcome, hsorted]
  refine ⟨hperm _ (List.Perm.swap _ _ []), hviews, ?_⟩
  rw [projectCandidateSetOutcomes_candidates]
  simp only [threeOffered, List.map_cons, List.map_nil, viewedCandidate, hlast]
  decide

end RouteShield
