import RouteShield.Api.Outcomes
import RouteShield.Lib.Pool

/-!
Requests for outcomes on a candidate set, in any interleaving. A request checks its outcome against
the log that it reads and appends it later, without another look; two requests that read the same
log can both select. As long as every outcome that is appended would still be let through, and comes
after what its candidate has, each candidate keeps to its life cycle and one at most is selected.
-/

namespace RouteShield

/-! ### Logs with several writers -/

/-- What holds of the log of a candidate set, candidate by candidate. -/
structure ExclusiveLog (candidateSet : RecoveryCandidateSet) (log : List RecoveryCandidateOutcome) :
    Prop where
  increasing : ∀ candidateId : String, (log.filter (fun o => o.candidateId = candidateId)).Pairwise
    (fun a b => a.occurredAt < b.occurredAt)
  known : ∀ o ∈ log, ∃ c ∈ candidateSet.candidates, c.candidateId = o.candidateId
  paths : ∀ c ∈ candidateSet.candidates,
    LifecyclePath c.lifecycleState (statesOf log c.candidateId)
  exclusive : ∀ o ∈ log, ∀ o' ∈ log, o.state = .selected → o'.state = .selected →
    o.candidateId = o'.candidateId

section Log

variable {candidateSet : RecoveryCandidateSet} {log log' : List RecoveryCandidateOutcome}
  {outcome : RecoveryCandidateOutcome}

theorem exclusiveLog_nil : ExclusiveLog candidateSet [] where
  increasing _ := .nil
  known := by simp
  paths _ _ := trivial
  exclusive := by simp

/-- No candidate is recorded in a state twice. -/
theorem ExclusiveLog.nodup (h : ExclusiveLog candidateSet log) (candidateId : String) :
    (statesOf log candidateId).Nodup := by
  by_cases hknown : ∃ c ∈ candidateSet.candidates, c.candidateId = candidateId
  · obtain ⟨c, hc, rfl⟩ := hknown
    exact (h.paths c hc).nodup
  · have hnone : statesOf log candidateId = [] := by
      refine statesOf_eq_nil ?_
      rintro o ho rfl
      exact hknown (h.known o ho)
    rw [hnone]
    exact List.nodup_nil

/-- Two orders of outcomes by their times agree where no two have one time. -/
theorem eq_of_perm_of_increasing (h : log.Pairwise (fun a b => a.occurredAt < b.occurredAt))
    (hsorted : log'.Pairwise (fun a b => a.occurredAt ≤ b.occurredAt)) (hperm : log'.Perm log) :
    log' = log := by
  refine List.Perm.eq_of_pairwise (fun a b ha hb hab hba => ?_) hsorted (h.imp le_of_lt) hperm
  exact eq_of_increasing h (hperm.mem_iff.mp ha) hb (le_antisymm hab hba)

/-- The last outcome of a candidate is the last of those that the log has of it. -/
theorem lastOutcome_eq_getLast? {candidateId : String}
    (h : (log.filter (fun o => o.candidateId = candidateId)).Pairwise
      (fun a b => a.occurredAt < b.occurredAt)) :
    lastOutcome log candidateId = (log.filter (fun o => o.candidateId = candidateId)).getLast? := by
  have hsorted : (log.mergeSort RecoveryCandidateOutcome.le).Pairwise
      (fun a b => a.occurredAt ≤ b.occurredAt) := by
    refine (sortOrder_le.pairwise log).imp fun hle => ?_
    rcases of_decide_eq_true hle with hlt | heq
    · exact hlt.le
    · exact heq.1.le
  have hperm := (List.mergeSort_perm log RecoveryCandidateOutcome.le).filter
    (fun o => o.candidateId = candidateId)
  unfold lastOutcome
  rw [eq_of_perm_of_increasing h (hsorted.filter _) hperm]

/-- A permitted outcome moves on a candidate of the set, from the state that the log left it in. -/
theorem ExclusiveLog.moves (h : ExclusiveLog candidateSet log)
    (hpermitted : Permitted candidateSet log outcome) :
    ∃ c ∈ candidateSet.candidates, c.candidateId = outcome.candidateId ∧
      transitionAllowed (lifecycleAfter c.lifecycleState (statesOf log c.candidateId))
        outcome.state = true := by
  obtain ⟨c', hfind, hallowed⟩ := hpermitted.transition
  have hid : c'.candidateId = outcome.candidateId := by simpa using List.find?_some hfind
  have hmem := List.mem_of_find?_eq_some hfind
  rw [projectCandidateSetOutcomes_candidates] at hmem
  obtain ⟨c, hc, rfl⟩ := List.mem_map.mp hmem
  have hview : viewedCandidate log c = { c with
      lifecycleState := lifecycleAfter c.lifecycleState (statesOf log c.candidateId) } := by
    unfold viewedCandidate lifecycleAfter statesOf
    rw [lastOutcome_eq_getLast? (h.increasing _), List.getLast?_map]
    cases (log.filter (fun o => o.candidateId = c.candidateId)).getLast? <;> rfl
  rw [hview] at hid hallowed
  exact ⟨c, hc, hid, hallowed⟩

/-- The log of a candidate that an outcome is about gains it at its end, and no other changes. -/
theorem filter_of_perm (hsorted : log'.Pairwise (fun a b => a.occurredAt ≤ b.occurredAt))
    (hperm : log'.Perm (outcome :: log)) (hlater : ∀ o ∈ log, o.candidateId = outcome.candidateId →
      o.occurredAt < outcome.occurredAt) {candidateId : String}
    (h : (log.filter (fun o => o.candidateId = candidateId)).Pairwise
      (fun a b => a.occurredAt < b.occurredAt)) :
    log'.filter (fun o => o.candidateId = candidateId) =
      log.filter (fun o => o.candidateId = candidateId) ++
        [outcome].filter (fun o => o.candidateId = candidateId) := by
  have hperm' := hperm.filter (fun o => o.candidateId = candidateId)
  by_cases hid : outcome.candidateId = candidateId
  · rw [List.filter_cons_of_pos (by simpa using hid)] at hperm' ⊢
    refine eq_append_of_later h (hsorted.filter _) hperm' fun o ho => ?_
    obtain ⟨hmem, hsame⟩ := List.mem_filter.mp ho
    exact hlater o hmem ((of_decide_eq_true hsame).trans hid.symm)
  · rw [List.filter_cons_of_neg (by simpa using hid)] at hperm' ⊢
    rw [List.filter_nil, List.append_nil]
    exact eq_of_perm_of_increasing h (hsorted.filter _) hperm'

/-- The guards of a request hold on the log as it is, and the outcome comes after what its candidate
has. -/
structure LetThrough (candidateSet : RecoveryCandidateSet) (log : List RecoveryCandidateOutcome)
    (outcome : RecoveryCandidateOutcome) : Prop where
  permitted : Permitted candidateSet log outcome
  later : ∀ o ∈ log, o.candidateId = outcome.candidateId → o.occurredAt < outcome.occurredAt

instance : Decidable (Permitted candidateSet log outcome) :=
  decidable_of_iff
    ((((projectCandidateSetOutcomes candidateSet log).candidates.find?
        (fun c => c.candidateId = outcome.candidateId)).any
          (fun c => transitionAllowed c.lifecycleState outcome.state)) = true ∧
      (outcome.state = .selected →
        truthy (projectCandidateSetOutcomes candidateSet log).selectedCandidateId = true →
          (projectCandidateSetOutcomes candidateSet log).selectedCandidateId =
            some outcome.candidateId))
    ⟨fun h => ⟨(Option.any_eq_true _ _).mp h.1, h.2⟩,
      fun h => ⟨(Option.any_eq_true _ _).mpr h.1, h.2⟩⟩

instance : Decidable (LetThrough candidateSet log outcome) :=
  decidable_of_iff (Permitted candidateSet log outcome ∧
      ∀ o ∈ log, o.candidateId = outcome.candidateId → o.occurredAt < outcome.occurredAt)
    ⟨fun h => ⟨h.1, h.2⟩, fun h => ⟨h.1, h.2⟩⟩

theorem ExclusiveLog.append (hnamed : Named candidateSet) (h : ExclusiveLog candidateSet log)
    (hlet : LetThrough candidateSet log outcome)
    (hsorted : log'.Pairwise (fun a b => a.occurredAt ≤ b.occurredAt))
    (hperm : log'.Perm (outcome :: log)) : ExclusiveLog candidateSet log' := by
  obtain ⟨c, hc, hid, hallowed⟩ := h.moves hlet.permitted
  have hfilter := fun candidateId => filter_of_perm hsorted hperm hlet.later
    (h.increasing candidateId)
  have hstates : ∀ candidateId : String, statesOf log' candidateId =
      statesOf log candidateId ++ statesOf [outcome] candidateId := by
    intro candidateId
    rw [← statesOf_append]
    unfold statesOf
    rw [hfilter, List.filter_append]
  have hmem : ∀ o ∈ log', o = outcome ∨ o ∈ log :=
    fun o ho => List.mem_cons.mp (hperm.mem_iff.mp ho)
  constructor
  · intro candidateId
    rw [hfilter candidateId]
    by_cases hsame : outcome.candidateId = candidateId
    · rw [List.filter_cons_of_pos (by simpa using hsame), List.filter_nil]
      refine List.pairwise_append.mpr ⟨h.increasing _, List.pairwise_singleton _ _, ?_⟩
      intro o ho o' ho'
      obtain ⟨hold, hown⟩ := List.mem_filter.mp ho
      rw [List.mem_singleton.mp ho']
      exact hlet.later o hold ((of_decide_eq_true hown).trans hsame.symm)
    · rw [List.filter_cons_of_neg (by simpa using hsame), List.filter_nil, List.append_nil]
      exact h.increasing _
  · intro o ho
    rcases hmem o ho with rfl | hold
    · exact ⟨c, hc, hid⟩
    · exact h.known o hold
  · intro c' hc'
    rw [hstates]
    by_cases hself : c'.candidateId = outcome.candidateId
    · obtain rfl := List.inj_on_of_nodup_map hnamed.distinct hc' hc (hself.trans hid.symm)
      have hlast : statesOf [outcome] c'.candidateId = [outcome.state] := by simp [statesOf, hid]
      rw [hlast, lifecyclePath_concat]
      exact ⟨h.paths c' hc', hallowed⟩
    · have hlast : statesOf [outcome] c'.candidateId = [] :=
        statesOf_eq_nil fun o ho => List.mem_singleton.mp ho ▸ Ne.symm hself
      rw [hlast, List.append_nil]
      exact h.paths c' hc'
  · -- an earlier selection is in the view, which lets only its own candidate be selected
    have hagrees : outcome.state = .selected → ∀ o ∈ log, o.state = .selected →
        o.candidateId = outcome.candidateId := by
      intro hselects o ho hselected
      have hview : (projectCandidateSetOutcomes candidateSet log).selectedCandidateId =
          some o.candidateId := selectedCandidateId_eq h.exclusive ho hselected
      obtain ⟨known, hknown, hname⟩ := h.known o ho
      have htruthy : truthy (projectCandidateSetOutcomes candidateSet log).selectedCandidateId =
          true := by
        rw [hview]
        exact decide_eq_true (hname ▸ hnamed.nonempty known hknown)
      exact Option.some.inj (hview.symm.trans (hlet.permitted.selection hselects htruthy))
    intro o ho o' ho' hselected hselected'
    rcases hmem o ho with rfl | hold <;> rcases hmem o' ho' with rfl | hold'
    · rfl
    · exact (hagrees hselected o' hold' hselected').symm
    · exact hagrees hselected' o hold hselected
    · exact h.exclusive o hold o' hold' hselected hselected'

end Log

/-! ### Requests side by side -/

/-- The outcome that a call appends, and its tenant. -/
def Effect.recordedOutcome? : {α : Type} → Effect α → Option (String × RecoveryCandidateOutcome)
  | _, .repo (.recordCandidateOutcome tenantId outcome) => some (tenantId, outcome)
  | _, _ => none

/-- The identifier that a request has drawn for its outcome and not used yet. -/
def OutcomePhase.drawnId? : OutcomePhase → Option Uuid
  | .drawn _ _ _ outcomeId => some outcomeId
  | _ => none

section Pool

variable {b : Backend} [Framed b] [CandidateStore b] {env : Env} {svc : Service} {w w' : World b}
  {T : String} {k : Uuid} {candidateSet : RecoveryCandidateSet} {phases : List OutcomePhase}
  {φ φ' : OutcomePhase} {i : ℕ}

/-- What requests side by side keep: the set, its log, and identifiers that are drawn once. -/
structure Racing (T : String) (k : Uuid) (candidateSet : RecoveryCandidateSet)
    (phases : List OutcomePhase) (w : World b) : Prop where
  stored : w.candidateSet T k = some candidateSet
  log : ExclusiveLog candidateSet (w.outcomes T k)
  filed : w.OutcomesDrawn T k
  drawn : ∀ φ ∈ phases, ∀ id ∈ φ.drawnId?, DrawnBefore id w.tick ∧
    ∀ o ∈ w.outcomes T k, o.outcomeId ≠ id
  distinct : ∀ (i j : ℕ) (φ ψ : OutcomePhase) (id : Uuid), phases[i]? = some φ →
    phases[j]? = some ψ → φ.drawnId? = some id → ψ.drawnId? = some id → i = j

theorem eq_of_getElem?_set_self {α : Type} {l : List α} {a a' : α}
    (h : (l.set i a)[i]? = some a') : a' = a := by
  obtain ⟨hlt, hget⟩ := List.getElem?_eq_some_iff.mp h
  rw [List.getElem_set_self] at hget
  exact hget.symm

/-- An identifier that the others have not drawn keeps them distinct. -/
theorem Racing.distinct_set (h : Racing T k candidateSet phases w)
    (hnew : ∀ id ∈ φ'.drawnId?, ∀ (j : ℕ) (ψ : OutcomePhase), j ≠ i → phases[j]? = some ψ →
      ψ.drawnId? ≠ some id) (j j' : ℕ) (ψ ψ' : OutcomePhase) (id : Uuid)
    (hj : (phases.set i φ')[j]? = some ψ) (hj' : (phases.set i φ')[j']? = some ψ')
    (hψ : ψ.drawnId? = some id) (hψ' : ψ'.drawnId? = some id) : j = j' := by
  by_cases hij : i = j <;> by_cases hij' : i = j'
  · exact hij.symm.trans hij'
  · subst hij
    rw [List.getElem?_set_ne hij'] at hj'
    obtain rfl : ψ = φ' := eq_of_getElem?_set_self hj
    exact absurd hψ' (hnew id hψ j' ψ' (Ne.symm hij') hj')
  · subst hij'
    rw [List.getElem?_set_ne hij] at hj
    obtain rfl : ψ' = φ' := eq_of_getElem?_set_self hj'
    exact absurd hψ (hnew id hψ' j ψ (Ne.symm hij) hj)
  · rw [List.getElem?_set_ne hij] at hj
    rw [List.getElem?_set_ne hij'] at hj'
    exact h.distinct j j' ψ ψ' id hj hj' hψ hψ'

/-- A call that writes no candidate, of a request that draws nothing. -/
theorem Racing.keep (h : Racing T k candidateSet phases w) (hi : phases[i]? = some φ)
    (hsets : w'.candidateSet = w.candidateSet) (houtcomes : w'.outcomes = w.outcomes)
    (htick : w.tick ≤ w'.tick) (hsame : φ'.drawnId? = φ.drawnId?) :
    Racing T k candidateSet (phases.set i φ') w' := by
  constructor
  · rw [hsets]
    exact h.stored
  · rw [houtcomes]
    exact h.log
  · intro o ho
    rw [houtcomes] at ho
    exact (h.filed o ho).mono htick
  · intro ψ hψ id hid
    rw [houtcomes]
    have hold : ∃ φ ∈ phases, id ∈ φ.drawnId? := by
      rcases List.mem_or_eq_of_mem_set hψ with hψ | rfl
      · exact ⟨ψ, hψ, hid⟩
      · exact ⟨φ, List.mem_of_getElem? hi, hsame ▸ hid⟩
    obtain ⟨φ, hφ, hid⟩ := hold
    exact ⟨(h.drawn φ hφ id hid).1.mono htick, (h.drawn φ hφ id hid).2⟩
  · refine h.distinct_set fun id hid j ψ hne hψ hagain => ?_
    exact hne (h.distinct j i ψ φ id hψ hi hagain (hsame ▸ hid))

/-- A call that writes no candidate leaves the others what they have. -/
theorem Racing.beside (h : Racing T k candidateSet phases w) (hi : phases[i]? = some φ)
    {α : Type} {op : Effect α} (hwrites : .candidates ∉ op.writes)
    (hsame : φ'.drawnId? = φ.drawnId?) :
    Racing T k candidateSet (phases.set i φ') (env.exec op w).2 := by
  obtain ⟨hsets, houtcomes⟩ := World.candidates_exec env w op hwrites
  exact h.keep hi hsets houtcomes (Nat.le_succ _) hsame

/-- An identifier is drawn for an outcome. -/
theorem Racing.draw (h : Racing T k candidateSet phases w)
    (hid : φ'.drawnId? = some (RouteShield.drawn w.tick 0)) :
    Racing T k candidateSet (phases.set i φ') (env.exec .uuid4 w).2 := by
  obtain ⟨hsets, houtcomes⟩ := World.candidates_exec env w .uuid4 List.not_mem_nil
  have htick : w.tick ≤ (env.exec .uuid4 w).2.tick := Nat.le_succ _
  have hnew : ¬DrawnBefore (RouteShield.drawn w.tick 0) w.tick := not_drawnBefore_drawn le_rfl
  constructor
  · rw [hsets]
    exact h.stored
  · rw [houtcomes]
    exact h.log
  · intro o ho
    rw [houtcomes] at ho
    exact (h.filed o ho).mono htick
  · intro ψ hψ id hψid
    rw [houtcomes]
    rcases List.mem_or_eq_of_mem_set hψ with hψ | rfl
    · exact ⟨(h.drawn ψ hψ id hψid).1.mono htick, (h.drawn ψ hψ id hψid).2⟩
    · obtain rfl : RouteShield.drawn w.tick 0 = id := Option.some.inj (hid.symm.trans hψid)
      exact ⟨drawnBefore_drawn w.tick, fun o ho heq => hnew (heq ▸ h.filed o ho)⟩
  · refine h.distinct_set fun id hφ' j ψ _ hψ hagain => ?_
    obtain rfl : RouteShield.drawn w.tick 0 = id := Option.some.inj (hid.symm.trans hφ')
    exact hnew (h.drawn ψ (List.mem_of_getElem? hψ) _ hagain).1

/-- An outcome is appended that is let through. -/
theorem Racing.record (hnamed : Named candidateSet) (h : Racing T k candidateSet phases w)
    {t : String} {outcome : RecoveryCandidateOutcome} (hi : phases[i]? = some φ)
    (hid : φ.drawnId? = some outcome.outcomeId) (hused : φ'.drawnId? = none)
    (hlet : t = T → outcome.candidateSetId = k →
      LetThrough candidateSet (w.outcomes T k) outcome) :
    Racing T k candidateSet (phases.set i φ')
      (env.exec (.repo (.recordCandidateOutcome t outcome)) w).2 := by
  obtain ⟨hbefore, hnew⟩ := h.drawn φ (List.mem_of_getElem? hi) _ hid
  have htick : w.tick ≤ (env.exec (.repo (.recordCandidateOutcome t outcome)) w).2.tick :=
    Nat.le_succ _
  have hlog : (env.exec (.repo (.recordCandidateOutcome t outcome)) w).2.outcomes T k =
        w.outcomes T k ∨
      (t = T ∧ outcome.candidateSetId = k ∧
        ((env.exec (.repo (.recordCandidateOutcome t outcome)) w).2.outcomes T k).Perm
          (outcome :: w.outcomes T k)) := by
    rcases CandidateStore.outcomes_record t outcome (env.clock w.tick) (RouteShield.drawn w.tick)
      w.store T k hnew with hsame | ⟨ht, hk, hperm⟩
    · exact .inl hsame
    · exact .inr ⟨ht.symm, hk.symm, hperm⟩
  have hmem : ∀ o ∈ (env.exec (.repo (.recordCandidateOutcome t outcome)) w).2.outcomes T k,
      o = outcome ∨ o ∈ w.outcomes T k := by
    intro o ho
    rcases hlog with hsame | ⟨-, -, hperm⟩
    · rw [hsame] at ho
      exact .inr ho
    · exact List.mem_cons.mp (hperm.mem_iff.mp ho)
  have hothers : ∀ ψ ∈ phases.set i φ', ∀ id ∈ ψ.drawnId?,
      ∃ j, j ≠ i ∧ phases[j]? = some ψ := by
    intro ψ hψ id hψid
    obtain ⟨j, hj⟩ := List.mem_iff_getElem?.mp hψ
    by_cases hij : i = j
    · subst hij
      rw [eq_of_getElem?_set_self hj, hused] at hψid
      cases hψid
    · rw [List.getElem?_set_ne hij] at hj
      exact ⟨j, Ne.symm hij, hj⟩
  constructor
  · have hsets := CandidateStore.sets_record t outcome (env.clock w.tick)
      (RouteShield.drawn w.tick) w.store
    exact (congrFun (congrFun hsets T) k).trans h.stored
  · rcases hlog with hsame | ⟨ht, hk, hperm⟩
    · rw [hsame]
      exact h.log
    · exact h.log.append hnamed (hlet ht hk) (CandidateStore.sorted _ T k) hperm
  · intro o ho
    rcases hmem o ho with rfl | hold
    · exact hbefore.mono htick
    · exact (h.filed o hold).mono htick
  · intro ψ hψ id hψid
    obtain ⟨j, hne, hj⟩ := hothers ψ hψ id hψid
    obtain ⟨hearlier, hunused⟩ := h.drawn ψ (List.mem_of_getElem? hj) id hψid
    refine ⟨hearlier.mono htick, fun o ho => ?_⟩
    rcases hmem o ho with rfl | hold
    · rintro rfl
      exact hne (h.distinct j i ψ φ _ hj hi hψid hid)
    · exact hunused o hold
  · refine h.distinct_set fun id hid' => ?_
    rw [hused] at hid'
    cases hid'

/-- Each call of a request, as its contract allows it. -/
theorem Racing.call (hnamed : Named candidateSet) (h : Racing T k candidateSet phases w)
    {α : Type} {op : Effect α} (hi : phases[i]? = some φ) (hop : φ.allowed op)
    (hlet : ∀ appended ∈ op.recordedOutcome?, appended.1 = T → appended.2.candidateSetId = k →
      LetThrough candidateSet (w.outcomes T k) appended.2) :
    OutcomePhase.promised op (env.exec op w).1 ∧
      Racing T k candidateSet (phases.set i (φ.advance op (env.exec op w).1))
        (env.exec op w).2 := by
  cases op with
  | uuid4 =>
    refine ⟨trivial, ?_⟩
    cases φ with
    | read t c reading => exact h.draw rfl
    | _ => exact h.beside hi List.not_mem_nil rfl
  | repo op =>
    cases op with
    | getCandidateSet t incidentId j =>
      have hanswer : (env.exec (.repo (.getCandidateSet t incidentId j)) w).1 =
          .ok ((w.candidateSet t j).filter (fun c => c.incidentId = incidentId)) :=
        congrArg Prod.fst (CandidateStore.get_eq t incidentId j _ _ w.store)
      have hquiet : .candidates ∉ (Effect.repo (.getCandidateSet t incidentId j)).writes :=
        List.not_mem_nil
      rw [hanswer]
      cases hfound : (w.candidateSet t j).filter (fun c => c.incidentId = incidentId) with
      | none => exact ⟨trivial, h.beside hi hquiet (by cases φ <;> rfl)⟩
      | some c =>
        have hstored := (Option.filter_eq_some_iff.mp hfound).1
        exact ⟨CandidateStore.id_of_candidateSet hstored, h.beside hi hquiet (by cases φ <;> rfl)⟩
    | listCandidateOutcomes t j =>
      have hanswer : (env.exec (.repo (.listCandidateOutcomes t j)) w).1 = .ok (w.outcomes t j) :=
        congrArg Prod.fst (CandidateStore.list_eq t j _ _ w.store)
      rw [hanswer]
      exact ⟨trivial, h.beside hi List.not_mem_nil (by cases φ <;> rfl)⟩
    | recordCandidateOutcome t outcome =>
      obtain ⟨c, reading, rfl, -, -⟩ := hop
      exact ⟨trivial, h.record hnamed hi rfl rfl (hlet _ rfl)⟩
    | _ => exact ⟨trivial, h.beside hi hop (by cases φ <;> rfl)⟩
  | _ => exact ⟨trivial, h.beside hi List.not_mem_nil (by cases φ <;> rfl)⟩

/-- An arriving request has drawn nothing. -/
theorem Racing.arrive (h : Racing T k candidateSet phases w) :
    Racing T k candidateSet (phases ++ [.start]) w := by
  have hold : ∀ (j : ℕ) (ψ : OutcomePhase) (id : Uuid), (phases ++ [.start])[j]? = some ψ →
      ψ.drawnId? = some id → phases[j]? = some ψ := by
    intro j ψ id hj hid
    by_cases hlt : j < phases.length
    · rwa [List.getElem?_append_left hlt] at hj
    · rw [List.getElem?_append_right (not_lt.mp hlt)] at hj
      rw [List.mem_singleton.mp (List.mem_of_getElem? hj)] at hid
      cases hid
  refine ⟨h.stored, h.log, h.filed, ?_, ?_⟩
  · intro ψ hψ id hid
    obtain ⟨j, hj⟩ := List.mem_iff_getElem?.mp hψ
    exact h.drawn ψ (List.mem_of_getElem? (hold j ψ id hj hid)) id hid
  · intro i j φ ψ id hi hj hφ hψ
    exact h.distinct i j φ ψ id (hold i φ id hi hφ) (hold j ψ id hj hψ) hφ hψ

/-! ### Runs -/

/-- The program of a request. -/
def OutcomeRequest.start (svc : Service) (r : OutcomeRequest) : Api Unit := Api.handle svc r.request

theorem OutcomeRequest.start_follows (r : OutcomeRequest) :
    (r.start svc).Follows OutcomePhase.contract (fun _ _ => True) .start :=
  Prog.follows_bind Api.recordCandidateOutcome_follows fun _ _ _ => trivial

/-- What the event appends to the set's log is let through on the log as it is. -/
def AppendsLetThrough (T : String) (k : Uuid) (candidateSet : RecoveryCandidateSet)
    (pool : Pool Effect Fault (World b)) (e : PoolEvent OutcomeRequest) : Prop :=
  ∀ appended ∈ pool.next? Effect.recordedOutcome? e, appended.1 = T →
    appended.2.candidateSetId = k →
      LetThrough candidateSet (pool.state.outcomes T k) appended.2

instance (pool : Pool Effect Fault (World b)) (e : PoolEvent OutcomeRequest) :
    Decidable (AppendsLetThrough T k candidateSet pool e) :=
  inferInstanceAs (Decidable (∀ appended ∈ pool.next? Effect.recordedOutcome? e, appended.1 = T →
    appended.2.candidateSetId = k → LetThrough candidateSet (pool.state.outcomes T k) appended.2))

theorem joint_racing_apply (hnamed : Named candidateSet) {pool : Pool Effect Fault (World b)}
    (h : pool.Joint OutcomePhase.contract (fun _ _ => True) (Racing T k candidateSet))
    {e : PoolEvent OutcomeRequest} (he : AppendsLetThrough T k candidateSet pool e) :
    (pool.apply env.exec (OutcomeRequest.start svc) e).Joint OutcomePhase.contract (fun _ _ => True)
      (Racing T k candidateSet) := by
  refine Pool.joint_apply h e ?_ ?_
  · exact fun r phases _ hracing => ⟨.start, r.start_follows, hracing.arrive⟩
  · intro γ op next i phases φ hstep hi hracing hφ hop
    refine hracing.call hnamed hφ hop fun appended happended => he appended ?_
    rw [hstep]
    simp only [Pool.next?, hi]
    exact happended

/-- One candidate at most is selected, and none is recorded in one state twice. -/
structure Exclusive (outcomes : List RecoveryCandidateOutcome) : Prop where
  selected : ∀ o ∈ outcomes, ∀ o' ∈ outcomes, o.state = .selected → o'.state = .selected →
    o.candidateId = o'.candidateId
  once : ∀ candidateId, (statesOf outcomes candidateId).Nodup

/-- In every run of requests side by side in which every outcome that is appended is let through on
the log as it is then, the set stays as it was created and its selection is exclusive. -/
theorem selection_exclusive (svc : Service) (env : Env) (w : World b) (T : String) (k : Uuid)
    (candidateSet : RecoveryCandidateSet) (hcreated : Created candidateSet)
    (hstored : w.candidateSet T k = some candidateSet) (hnone : w.outcomes T k = [])
    (events : List (PoolEvent OutcomeRequest))
    (hevents : Meets (Pool.apply env.exec (OutcomeRequest.start svc))
      (AppendsLetThrough T k candidateSet) ⟨w, []⟩ events) :
    let after := (runFrom (Pool.apply env.exec (OutcomeRequest.start svc)) ⟨w, []⟩ events).state
    after.candidateSet T k = some candidateSet ∧ Exclusive (after.outcomes T k) := by
  intro after
  have hstart : (⟨w, []⟩ : Pool Effect Fault (World b)).Joint OutcomePhase.contract
      (fun _ _ => True) (Racing T k candidateSet) := by
    refine ⟨[], .nil, hstored, ?_, ?_, ?_, ?_⟩
    · rw [hnone]
      exact exclusiveLog_nil
    · intro o ho
      rw [hnone] at ho
      cases ho
    · simp
    · simp
  obtain ⟨phases, -, hracing⟩ := runFrom_inv (Pool.Joint OutcomePhase.contract (fun _ _ => True)
    (Racing T k candidateSet)) (fun _ _ h he => joint_racing_apply hcreated.named h he)
    hstart hevents
  exact ⟨hracing.stored, hracing.log.exclusive, hracing.log.nodup⟩

end Pool

/-! ### Two selections -/

/-- A request of one manager about the option, under a key of its own. -/
def contending (actorId : String) (state : RecoveryCandidateOutcomeState) : OutcomeRequest :=
  { offering (some ("contended-" ++ actorId)) actorId with
    update := { state, managerOverrideReason := some "Traveler asked for it." } }

/-- The option is offered, and then selected. -/
def succession : List (PoolEvent OutcomeRequest) :=
  [.spawn (contending "grace" .offered)] ++ List.replicate 30 (.step 0) ++
    [.spawn (contending "heidi" .selected)] ++ List.replicate 30 (.step 1)

/-- Two managers select the option that a third has offered, call by call in turn. -/
def contest : List (PoolEvent OutcomeRequest) :=
  [.spawn (contending "grace" .offered)] ++ List.replicate 30 (.step 0) ++
    [.spawn (contending "heidi" .selected), .spawn (contending "ivan" .selected)] ++
    (List.replicate 12 [.step 1, .step 2]).flatten

/-- One after the other, the option is offered once and selected once. -/
theorem selection_exclusive_succession :
    let after := (runFrom (Pool.apply Env.ticking.exec (OutcomeRequest.start .switchedOn))
      ⟨offeringWorld, []⟩ succession).state
    Exclusive (after.outcomes "tenant" (.v4 3)) ∧
      after.store.candidateOutcomes.rows.map (fun o => o.2.state) = [.offered, .selected] := by
  obtain ⟨-, hexclusive⟩ := selection_exclusive .switchedOn .ticking offeringWorld "tenant" (.v4 3)
    offeredSet offeredSet_created (by decide +kernel) (by decide +kernel) succession
    (by decide +kernel)
  exact ⟨hexclusive, by decide +kernel⟩

/-- Requests of different users, under different keys. -/
def Separate (events : List (PoolEvent OutcomeRequest)) : Prop :=
  (events.flatMap PoolEvent.arrival).Pairwise (fun r r' =>
    r.caller.actorId ≠ r'.caller.actorId ∧ r.caller.idempotencyKey ≠ r'.caller.idempotencyKey)

instance (events : List (PoolEvent OutcomeRequest)) : Decidable (Separate events) :=
  inferInstanceAs (Decidable ((events.flatMap PoolEvent.arrival).Pairwise _))

/-- The log has the rows of its set, whatever their order. -/
theorem outcomes_perm_rows (w : World .memory) (T : String) (k : Uuid) :
    (w.outcomes T k).Perm ((w.store.candidateOutcomes.rows.filter
      (fun saved => saved.1 = T ∧ saved.2.candidateSetId = k)).map Prod.snd) :=
  sortedBy_perm _ _ _

/-- In turn, each reads the log before the other has appended to it, and both selections are
recorded. -/
theorem option_selected_twice :
    ¬∀ (svc : Service) (env : Env) (w : World .memory) (T : String) (k : Uuid)
      (candidateSet : RecoveryCandidateSet) (events : List (PoolEvent OutcomeRequest)),
      Created candidateSet → w.candidateSet T k = some candidateSet → w.outcomes T k = [] →
        Separate events → Exclusive ((runFrom (Pool.apply env.exec (OutcomeRequest.start svc))
          ⟨w, []⟩ events).state.outcomes T k) := by
  intro h
  have hexclusive := h .switchedOn .ticking offeringWorld "tenant" (.v4 3) offeredSet contest
    offeredSet_created (by decide +kernel) (by decide +kernel) (by decide +kernel)
  have honce := hexclusive.once "fixture-alt-1"
  have hrows := outcomes_perm_rows (runFrom (Pool.apply Env.ticking.exec
    (OutcomeRequest.start .switchedOn)) ⟨offeringWorld, []⟩ contest).state "tenant" (.v4 3)
  have hstates := (hrows.filter (fun o => o.candidateId = "fixture-alt-1")).map (fun o => o.state)
  exact absurd (hstates.nodup_iff.mp honce) (by decide +kernel)

end RouteShield
