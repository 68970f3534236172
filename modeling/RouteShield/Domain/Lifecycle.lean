import RouteShield.Domain.Records
import RouteShield.Domain.Projection

/-!
The log of outcomes of one candidate set. Each candidate's outcomes lead through the states that its
last one allows, and one candidate at most is selected. An outcome that was permitted on an earlier
reading of the log keeps this, as long as nothing was recorded since that its permission turns on.
-/

namespace RouteShield

/-! ### Paths of states -/

/-- Each state is entered from the one before, and the first from the given one. -/
def LifecyclePath : RecoveryCandidateState → List RecoveryCandidateOutcomeState → Prop
  | _, [] => True
  | current, next :: rest => transitionAllowed current next = true ∧ LifecyclePath next.lifecycle rest

/-- The state that a path leads to. -/
def lifecycleAfter (current : RecoveryCandidateState) (path : List RecoveryCandidateOutcomeState) :
    RecoveryCandidateState :=
  (path.getLast?.map RecoveryCandidateOutcomeState.lifecycle).getD current

theorem lifecycleAfter_cons (current : RecoveryCandidateState)
    (next : RecoveryCandidateOutcomeState) (path : List RecoveryCandidateOutcomeState) :
    lifecycleAfter current (next :: path) = lifecycleAfter next.lifecycle path := by
  cases path with
  | nil => rfl
  | cons after path =>
    unfold lifecycleAfter
    rw [List.getLast?_cons_cons]
    cases h : (after :: path).getLast? with
    | none => cases List.getLast?_eq_none_iff.mp h
    | some last => rfl

section Path

variable {current : RecoveryCandidateState} {next : RecoveryCandidateOutcomeState}
  {path : List RecoveryCandidateOutcomeState}

theorem lifecyclePath_concat :
    LifecyclePath current (path ++ [next]) ↔
      LifecyclePath current path ∧ transitionAllowed (lifecycleAfter current path) next = true := by
  induction path generalizing current with
  | nil => simp [LifecyclePath, lifecycleAfter]
  | cons first path ih =>
    rw [List.cons_append, LifecyclePath, LifecyclePath, ih, lifecycleAfter_cons, and_assoc]

/-- How far on a candidate is. -/
def RecoveryCandidateState.stage : RecoveryCandidateState → ℕ
  | .offered => 1
  | .viewed => 2
  | .selected | .rejected => 3
  | .completed => 4
  | _ => 0

theorem stage_lt (h : transitionAllowed current next = true) :
    current.stage < next.lifecycle.stage := by
  cases current <;> cases next <;> first | decide | cases h

theorem LifecyclePath.stage_lt (h : LifecyclePath current path) :
    ∀ state ∈ path, current.stage < state.lifecycle.stage := by
  induction path generalizing current with
  | nil => exact fun _ hnone => (by cases hnone)
  | cons first path ih =>
    have hfirst := RouteShield.stage_lt h.1
    exact List.forall_mem_cons.mpr ⟨hfirst, fun state hstate => hfirst.trans (ih h.2 state hstate)⟩

/-- No state is entered twice. -/
theorem LifecyclePath.nodup (h : LifecyclePath current path) : path.Nodup := by
  induction path generalizing current with
  | nil => exact List.nodup_nil
  | cons first path ih =>
    refine List.nodup_cons.mpr ⟨fun hagain => ?_, ih h.2⟩
    exact lt_irrefl _ (h.2.stage_lt first hagain)

/-- From a state that allows no transition there is no path. -/
theorem LifecyclePath.eq_nil (h : LifecyclePath current path)
    (hnone : ∀ next, transitionAllowed current next = false) : path = [] := by
  cases path with
  | nil => rfl
  | cons first path => cases (hnone first).symm.trans h.1

/-- A candidate that was completed was selected before. -/
theorem LifecyclePath.selected_of_completed (h : LifecyclePath current path)
    (hcurrent : current ≠ .selected) (hcompleted : .completed ∈ path) : .selected ∈ path := by
  induction path generalizing current with
  | nil => cases hcompleted
  | cons first path ih =>
    by_cases hfirst : first = .selected
    · exact hfirst ▸ List.mem_cons_self
    · rcases List.mem_cons.mp hcompleted with rfl | hrest
      · cases current <;> first | exact absurd rfl hcurrent | cases h.1
      · refine List.mem_cons_of_mem _ (ih h.2 (fun hselected => hfirst ?_) hrest)
        cases first <;> first | rfl | cases hselected

/-- A state that allows no transition ends the path that enters it. -/
theorem LifecyclePath.final (h : LifecyclePath current path)
    {state : RecoveryCandidateOutcomeState} (hstate : state ∈ path)
    (hnone : ∀ next, transitionAllowed state.lifecycle next = false) :
    path.getLast? = some state := by
  induction path generalizing current with
  | nil => cases hstate
  | cons first path ih =>
    rcases List.mem_cons.mp hstate with rfl | hrest
    · rw [h.2.eq_nil hnone]
      rfl
    · obtain ⟨second, rest, rfl⟩ := List.exists_cons_of_ne_nil (List.ne_nil_of_mem hrest)
      rw [List.getLast?_cons_cons]
      exact ih h.2 hrest

end Path

/-! ### Logs -/

section Log

variable {candidateSet : RecoveryCandidateSet} {log reading : List RecoveryCandidateOutcome}
  {outcome : RecoveryCandidateOutcome}

/-- The states that a log records for a candidate. -/
def statesOf (log : List RecoveryCandidateOutcome) (candidateId : String) :
    List RecoveryCandidateOutcomeState :=
  (log.filter (fun o => o.candidateId = candidateId)).map (fun o => o.state)

theorem mem_statesOf {candidateId : String} {state : RecoveryCandidateOutcomeState} :
    state ∈ statesOf log candidateId ↔
      ∃ o ∈ log, o.candidateId = candidateId ∧ o.state = state := by
  simp [statesOf, and_assoc]

theorem statesOf_append (log log' : List RecoveryCandidateOutcome) (candidateId : String) :
    statesOf (log ++ log') candidateId = statesOf log candidateId ++ statesOf log' candidateId := by
  simp [statesOf]

theorem statesOf_eq_nil {candidateId : String} (h : ∀ o ∈ log, o.candidateId ≠ candidateId) :
    statesOf log candidateId = [] := by
  unfold statesOf
  rw [List.filter_eq_nil_iff.mpr fun o ho => by simpa using h o ho]
  rfl

/-- No two outcomes of a log in the order of its times have one time. -/
theorem eq_of_increasing (h : log.Pairwise (fun a b => a.occurredAt < b.occurredAt))
    {a b : RecoveryCandidateOutcome} (ha : a ∈ log) (hb : b ∈ log)
    (hab : a.occurredAt = b.occurredAt) : a = b := by
  have hnodup : (log.map (fun o => o.occurredAt)).Nodup :=
    List.pairwise_map.mpr (h.imp ne_of_lt)
  exact List.inj_on_of_nodup_map hnodup ha hb hab

/-- A log that gained one outcome, later than all others, gained it at its end. -/
theorem eq_append_of_later {log' : List RecoveryCandidateOutcome}
    (h : log.Pairwise (fun a b => a.occurredAt < b.occurredAt))
    (hsorted : log'.Pairwise (fun a b => a.occurredAt ≤ b.occurredAt))
    (hperm : log'.Perm (outcome :: log)) (hlater : ∀ o ∈ log, o.occurredAt < outcome.occurredAt) :
    log' = log ++ [outcome] := by
  have happended : (log ++ [outcome]).Pairwise (fun a b => a.occurredAt < b.occurredAt) := by
    refine List.pairwise_append.mpr ⟨h, List.pairwise_singleton _ _, fun o ho o' ho' => ?_⟩
    rw [List.mem_singleton.mp ho']
    exact hlater o ho
  have hperm' : log'.Perm (log ++ [outcome]) := hperm.trans (List.perm_append_singleton _ _).symm
  refine List.Perm.eq_of_pairwise (fun a b ha hb hab hba => ?_) hsorted
    (happended.imp le_of_lt) hperm'
  exact eq_of_increasing happended (hperm'.mem_iff.mp ha) hb (le_antisymm hab hba)

/-- What holds of the log of a candidate set, in the order of its times. -/
structure OutcomeLog (candidateSet : RecoveryCandidateSet) (log : List RecoveryCandidateOutcome) :
    Prop where
  increasing : log.Pairwise (fun a b => a.occurredAt < b.occurredAt)
  known : ∀ o ∈ log, ∃ c ∈ candidateSet.candidates, c.candidateId = o.candidateId
  paths : ∀ c ∈ candidateSet.candidates,
    LifecyclePath c.lifecycleState (statesOf log c.candidateId)
  exclusive : ∀ o ∈ log, ∀ o' ∈ log, o.state = .selected → o'.state = .selected →
    o.candidateId = o'.candidateId

theorem outcomeLog_nil : OutcomeLog candidateSet [] where
  increasing := .nil
  known := by simp
  paths _ _ := trivial
  exclusive := by simp

/-- No candidate is recorded in a state twice. -/
theorem OutcomeLog.nodup (h : OutcomeLog candidateSet log) (candidateId : String) :
    (statesOf log candidateId).Nodup := by
  by_cases hknown : ∃ c ∈ candidateSet.candidates, c.candidateId = candidateId
  · obtain ⟨c, hc, rfl⟩ := hknown
    exact (h.paths c hc).nodup
  · have hnone : statesOf log candidateId = [] := by
      refine statesOf_eq_nil ?_
      rintro o ho rfl
      exact hknown (h.known o ho)
    rw [hnone]
    exact List.nodup_nil

/-! ### The current view -/

/-- A log in the order of its times is projected as it is. -/
theorem mergeSort_of_increasing (h : log.Pairwise (fun a b => a.occurredAt < b.occurredAt)) :
    log.mergeSort RecoveryCandidateOutcome.le = log := by
  refine List.mergeSort_of_pairwise (h.imp fun hlt => ?_)
  simp [RecoveryCandidateOutcome.le, hlt]

/-- The view has each candidate in the state that its outcomes led to. -/
theorem project_candidates (h : log.Pairwise (fun a b => a.occurredAt < b.occurredAt)) :
    (projectCandidateSetOutcomes candidateSet log).candidates =
      candidateSet.candidates.map (fun c =>
        { c with lifecycleState := lifecycleAfter c.lifecycleState (statesOf log c.candidateId) }) := by
  refine List.map_congr_left fun c _ => ?_
  unfold lastOutcome lifecycleAfter statesOf
  rw [mergeSort_of_increasing h, List.getLast?_map]
  cases (log.filter (fun o => o.candidateId = c.candidateId)).getLast? <;> rfl

theorem latestSelection_cases (log : List RecoveryCandidateOutcome) :
    (∀ o ∈ log, o.state ≠ .selected) ∧ latestSelection log = none ∨
      ∃ o ∈ log, o.state = .selected ∧ latestSelection log = some o := by
  rcases latestSelection_isLast log with hnone | ⟨o, hlatest, hlast⟩
  · exact .inl hnone
  · exact .inr ⟨o, hlast.mem, hlast.holds, hlatest⟩

/-- The view names the candidate of every selection, where all are of one. -/
theorem selectedCandidateId_eq
    (h : ∀ o ∈ log, ∀ o' ∈ log, o.state = .selected → o'.state = .selected →
      o.candidateId = o'.candidateId)
    {o : RecoveryCandidateOutcome} (ho : o ∈ log) (hselected : o.state = .selected) :
    (projectCandidateSetOutcomes candidateSet log).selectedCandidateId = some o.candidateId := by
  show (latestSelection log).map _ = _
  rcases latestSelection_cases log with ⟨hnone, -⟩ | ⟨o', ho', hselected', hlatest⟩
  · exact absurd hselected (hnone o ho)
  · rw [hlatest, Option.map_some, h o' ho' o ho hselected' hselected]

/-! ### Outcomes that are permitted -/

/-- The candidate's state in the view, and the selection in the view, let the outcome through. -/
structure Permitted (candidateSet : RecoveryCandidateSet) (reading : List RecoveryCandidateOutcome)
    (outcome : RecoveryCandidateOutcome) : Prop where
  transition : ∃ c, (projectCandidateSetOutcomes candidateSet reading).candidates.find?
      (fun c => c.candidateId = outcome.candidateId) = some c ∧
    transitionAllowed c.lifecycleState outcome.state = true
  selection : outcome.state = .selected →
    truthy (projectCandidateSetOutcomes candidateSet reading).selectedCandidateId = true →
      (projectCandidateSetOutcomes candidateSet reading).selectedCandidateId =
        some outcome.candidateId

/-- The candidates of a request: each has a name of its own. -/
structure Named (candidateSet : RecoveryCandidateSet) : Prop where
  nonempty : ∀ c ∈ candidateSet.candidates, c.candidateId ≠ ""
  distinct : (candidateSet.candidates.map (fun c => c.candidateId)).Nodup

/-- Nothing that a permission turns on: another candidate's outcome, and no second selection. -/
def Unrelated (outcome o : RecoveryCandidateOutcome) : Prop :=
  o.candidateId ≠ outcome.candidateId ∧ (outcome.state = .selected → o.state ≠ .selected)

instance (outcome o : RecoveryCandidateOutcome) : Decidable (Unrelated outcome o) :=
  inferInstanceAs (Decidable (_ ∧ _))

/-- A permitted outcome moves on a candidate of the set, from the state it was last recorded in. -/
theorem Permitted.moves (h : Permitted candidateSet reading outcome)
    (hreading : reading.Pairwise (fun a b => a.occurredAt < b.occurredAt)) :
    ∃ c ∈ candidateSet.candidates, c.candidateId = outcome.candidateId ∧
      transitionAllowed (lifecycleAfter c.lifecycleState (statesOf reading c.candidateId))
        outcome.state = true := by
  obtain ⟨c', hfind, hallowed⟩ := h.transition
  have hid : c'.candidateId = outcome.candidateId := by simpa using List.find?_some hfind
  have hmem := List.mem_of_find?_eq_some hfind
  rw [project_candidates hreading] at hmem
  obtain ⟨c, hc, rfl⟩ := List.mem_map.mp hmem
  exact ⟨c, hc, hid, hallowed⟩

/-- A permitted outcome goes after a log that has gained nothing related since the reading. -/
theorem OutcomeLog.append {later : List RecoveryCandidateOutcome} (hnamed : Named candidateSet)
    (h : OutcomeLog candidateSet (reading ++ later))
    (hpermitted : Permitted candidateSet reading outcome) (hunrelated : ∀ o ∈ later, Unrelated outcome o)
    (htimes : ∀ o ∈ reading ++ later, o.occurredAt < outcome.occurredAt) :
    OutcomeLog candidateSet (reading ++ later ++ [outcome]) := by
  have hreading := (List.pairwise_append.mp h.increasing).1
  obtain ⟨c, hc, hid, hallowed⟩ := hpermitted.moves hreading
  constructor
  · refine List.pairwise_append.mpr ⟨h.increasing, List.pairwise_singleton _ _, fun o ho o' ho' => ?_⟩
    rw [List.mem_singleton.mp ho']
    exact htimes o ho
  · intro o ho
    rcases List.mem_append.mp ho with hold | hnew
    · exact h.known o hold
    · rw [List.mem_singleton.mp hnew]
      exact ⟨c, hc, hid⟩
  · intro c' hc'
    by_cases hself : c'.candidateId = outcome.candidateId
    · obtain rfl := List.inj_on_of_nodup_map hnamed.distinct hc' hc (hself.trans hid.symm)
      have hlater : statesOf later c'.candidateId = [] :=
        statesOf_eq_nil fun o ho => hid ▸ (hunrelated o ho).1
      have hlast : statesOf [outcome] c'.candidateId = [outcome.state] := by simp [statesOf, hid]
      rw [statesOf_append, hlast, lifecyclePath_concat]
      refine ⟨h.paths c' hc', ?_⟩
      rw [statesOf_append, hlater, List.append_nil]
      exact hallowed
    · have hlast : statesOf [outcome] c'.candidateId = [] :=
        statesOf_eq_nil fun o ho => List.mem_singleton.mp ho ▸ Ne.symm hself
      rw [statesOf_append, hlast, List.append_nil]
      exact h.paths c' hc'
  · -- an earlier selection was in the view, which then lets only its own candidate be selected
    have hagrees : outcome.state = .selected → ∀ o ∈ reading ++ later, o.state = .selected →
        o.candidateId = outcome.candidateId := by
      intro hselects o ho hselected
      rcases List.mem_append.mp ho with hread | hnew
      · have hview : (projectCandidateSetOutcomes candidateSet reading).selectedCandidateId =
            some o.candidateId :=
          selectedCandidateId_eq (fun o ho o' ho' => h.exclusive o (List.mem_append_left _ ho) o'
            (List.mem_append_left _ ho')) hread hselected
        obtain ⟨known, hknown, hname⟩ := h.known o ho
        have htruthy : truthy (projectCandidateSetOutcomes candidateSet
            reading).selectedCandidateId = true := by
          rw [hview]
          exact decide_eq_true (hname ▸ hnamed.nonempty known hknown)
        exact Option.some.inj (hview.symm.trans (hpermitted.selection hselects htruthy))
      · exact absurd hselected ((hunrelated o hnew).2 hselects)
    intro o ho o' ho' hselected hselected'
    rcases List.mem_append.mp ho with hold | hnew <;> rcases List.mem_append.mp ho' with hold' | hnew'
    · exact h.exclusive o hold o' hold' hselected hselected'
    · rw [List.mem_singleton.mp hnew'] at hselected' ⊢
      exact hagrees hselected' o hold hselected
    · rw [List.mem_singleton.mp hnew] at hselected ⊢
      exact (hagrees hselected o' hold' hselected').symm
    · rw [List.mem_singleton.mp hnew, List.mem_singleton.mp hnew']

end Log

end RouteShield
