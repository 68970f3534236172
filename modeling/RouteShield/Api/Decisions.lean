import RouteShield.Api.Effects

/-!
What decisions are about, seen apart from the way a repository keeps it: the incident and
the approval under an identifier, the outbox of actions, the overrides of runtime controls,
and the identifiers of recorded events. `DecisionStep` says what a repository call does to it, and
each of the two repositories does just that.
-/

namespace RouteShield

structure DecisionView where
  incident : Uuid → Option Incident
  approval : Uuid → Option ApprovalRecord
  outbox : Set ActionDispatchRecord
  override : String → RuntimeControlName → Option RuntimeControlChange
  platform : RuntimeControlName → Option PlatformRuntimeControlChange
  eventIds : Set Uuid

/-- Two records of one decision's action. -/
def ActionDispatchRecord.SameDecision (a b : ActionDispatchRecord) : Prop :=
  a.incidentId = b.incidentId ∧ a.approvalId = b.approvalId

/-- A call at a time, its answer, and the views before and after it. -/
def DecisionStep (v : DecisionView) (now : Time) :
    {α : Type} → RepoOp α → Except Fault α → DecisionView → Prop
  | _, .getIncident _ incidentId, r, v' =>
    v' = v ∧ ∀ incident, r = .ok (some incident) →
      v.incident incidentId = some incident ∧ incident.incidentId = incidentId
  | _, .saveIncident incident, r, v' =>
    r = .ok () ∧
      v' = { v with incident := Function.update v.incident incident.incidentId (some incident) }
  | _, .saveApproval approval, r, v' =>
    r = .ok () ∧
      v' = { v with approval := Function.update v.approval approval.incidentId (some approval) }
  | _, .saveActionDispatch action, r, v' =>
    r = .ok () ∧ v' = { v with outbox := v'.outbox } ∧ action ∈ v'.outbox ∧
      ∀ a ∈ v'.outbox, a = action ∨ a ∈ v.outbox
  | _, .claimDueActionDispatches _, r, v' =>
    v' = { v with outbox := v'.outbox } ∧ (∀ a ∈ v'.outbox, ∃ b ∈ v.outbox, a.SameDecision b) ∧
      ∀ claimed, r = .ok claimed → ∀ a ∈ claimed, ∃ b ∈ v.outbox, a.SameDecision b
  | _, .completeActionDispatch action _ _, _, v' =>
    v' = { v with outbox := v'.outbox } ∧ ∀ a ∈ v'.outbox, a ∈ v.outbox ∨ a = action.released
  | _, .recordEvent event, r, v' =>
    (event.eventId ∉ v.eventIds → r = .ok ()) ∧ v' = { v with eventIds := v'.eventIds } ∧
      ∀ id ∈ v'.eventIds, id = event.eventId ∨ id ∈ v.eventIds
  | _, .getRuntimeControlOverride tenantId controlName, r, v' =>
    v' = v ∧ r = .ok ((v.override tenantId controlName).filter
      (fun record => record.toRuntimeControlUpdate.current now))
  | _, .getPlatformControlOverride controlName, r, v' =>
    v' = v ∧ r = .ok ((v.platform controlName).filter
      (fun record => record.toRuntimeControlUpdate.current now))
  | _, .saveRuntimeControlChange _, _, v' => v' = { v with override := v'.override }
  | _, .savePlatformControlChange _, _, v' => v' = { v with platform := v'.platform }
  -- an erasure or a purge takes rows of every kind
  | _, .eraseTravelerData _ _ _, _, _ => True
  | _, .purgeExpired _, _, _ => True
  | _, _, _, v' => v' = v

/-- A backend whose calls do to the view what `DecisionStep` says. -/
class DecisionStore (b : Backend) where
  view : b.State → DecisionView
  step : ∀ {α : Type} (op : RepoOp α) (now : Time) (fresh : ℕ → Uuid) (s : b.State),
    DecisionStep (view s) now op (b.exec op now fresh s).1 (view (b.exec op now fresh s).2)

theorem Table.mem_foldl_put {α κ : Type} {key : α → κ} [DecidableEq κ] {rows : List α}
    {t : Table key} {a : α} (h : a ∈ rows.foldl Table.put t) : a ∈ rows ∨ a ∈ t := by
  induction rows generalizing t with
  | nil => exact .inr h
  | cons b rows ih =>
    rcases ih h with h | h
    · exact .inl (List.mem_cons_of_mem b h)
    · rcases (Table.mem_put t b a).mp h with rfl | h
      · exact .inl List.mem_cons_self
      · exact .inr h.1

/-! ### In memory -/

namespace InMemoryRepository

variable (s : InMemoryRepository Response)

def decisionView : DecisionView where
  incident := s.incidents.find?
  approval := s.approvals.find?
  outbox := {a | a ∈ s.actionDispatches}
  override := fun tenantId controlName => s.runtimeControlOverrides.find? (tenantId, controlName)
  platform := s.platformControlOverrides.find?
  eventIds := {id | ∃ e ∈ s.events, e.eventId = id}

variable {s}

theorem getIncident_eq_some {tenantId : String} {incidentId : Uuid} {incident : Incident}
    (h : s.getIncident tenantId incidentId = some incident) :
    s.incidents.find? incidentId = some incident ∧ incident.incidentId = incidentId := by
  have hf := (Option.filter_eq_some_iff.mp h).1
  exact ⟨hf, (s.incidents.find?_eq_some.mp hf).2⟩

/-- A leased record was in the outbox before, up to the lease. -/
theorem claimDueActionDispatches_same {request : LeaseRequest} {now : Time} {fresh : ℕ → Uuid}
    {a : ActionDispatchRecord} (h : a ∈ (s.claimDueActionDispatches request now fresh).1) :
    ∃ b ∈ s.actionDispatches, a.SameDecision b := by
  simp only [claimDueActionDispatches, List.mem_map] at h
  obtain ⟨⟨b, i⟩, hb, rfl⟩ := h
  have hb' := List.mem_of_mem_take (List.fst_mem_of_mem_zipIdx hb)
  exact ⟨b, List.mem_of_mem_filter hb', rfl, rfl⟩

end InMemoryRepository

instance : DecisionStore .memory where
  view := InMemoryRepository.decisionView
  step op now fresh s := by
    cases op with
    | getIncident tenantId incidentId =>
      refine ⟨rfl, fun incident h => ?_⟩
      exact InMemoryRepository.getIncident_eq_some (Except.ok.inj h)
    | saveIncident incident =>
      refine ⟨rfl, congrArg (fun f => { s.decisionView with incident := f }) ?_⟩
      funext id
      exact (s.incidents.find?_put incident id).trans (Function.update_apply ..).symm
    | saveApproval approval =>
      refine ⟨rfl, congrArg (fun f => { s.decisionView with approval := f }) ?_⟩
      funext id
      exact (s.approvals.find?_put approval id).trans (Function.update_apply ..).symm
    | saveActionDispatch action =>
      refine ⟨rfl, rfl, s.actionDispatches.mem_put_self action, fun a ha => ?_⟩
      exact ((s.actionDispatches.mem_put action a).mp ha).imp_right And.left
    | claimDueActionDispatches request =>
      refine ⟨rfl, fun a ha => ?_, fun claimed h a ha => ?_⟩
      · rcases Table.mem_foldl_put ha with ha | ha
        · exact InMemoryRepository.claimDueActionDispatches_same ha
        · exact ⟨a, ha, rfl, rfl⟩
      · cases h
        exact InMemoryRepository.claimDueActionDispatches_same ha
    | completeActionDispatch action attempt claimId =>
      simp only [DecisionStep, Backend.memory, InMemoryRepository.completeActionDispatch, answered]
      split
      · exact ⟨rfl, fun a ha => .inl ha⟩
      · split
        · refine ⟨rfl, fun a ha => ?_⟩
          exact ((s.actionDispatches.mem_put action.released a).mp ha).symm.imp_left And.left
        · exact ⟨rfl, fun a ha => .inl ha⟩
    | recordEvent event =>
      refine ⟨fun _ => rfl, rfl, ?_⟩
      rintro id ⟨e, he, rfl⟩
      rcases List.mem_append.mp he with he | he
      · exact .inr ⟨e, he, rfl⟩
      · rw [List.mem_singleton.mp he]
        exact .inl rfl
    | getRuntimeControlOverride | getPlatformControlOverride => exact ⟨rfl, rfl⟩
    | saveEvidence tenantId tripId evidence =>
      simp only [DecisionStep, Backend.memory, InMemoryRepository.saveEvidence]
      split <;> rfl
    | saveAssessment tenantId assessment =>
      simp only [DecisionStep, Backend.memory, InMemoryRepository.saveAssessment]
      split <;> rfl
    | savePlaybook playbook =>
      simp only [DecisionStep, Backend.memory, InMemoryRepository.savePlaybook]
      split <;> rfl
    | completeNotificationDelivery notification attempt claimId =>
      simp only [DecisionStep, Backend.memory, InMemoryRepository.completeNotificationDelivery]
      split
      · rfl
      · split <;> rfl
    | eraseTravelerData | purgeExpired => trivial
    | _ => rfl

/-! ### In the database -/

namespace PostgresRepository

variable (s : PostgresRepository Response)

def decisionView : DecisionView where
  incident := fun id => (s.incidents.find? id).map TenantRow.payload
  approval := s.approvals.find?
  outbox := {a | ∃ row ∈ s.actionDispatches, row.payload = a}
  override := fun tenantId controlName => s.runtimeControlOverrides.find? (tenantId, controlName)
  platform := s.platformControlOverrides.find?
  eventIds := {id | ∃ e ∈ s.events, e.eventId = id}

variable {s}

/-- A write that leaves the view when it succeeds leaves it when it fails. -/
theorem decisionView_committed {r : Except Fault (PostgresRepository Response)}
    (h : ∀ s', r = .ok s' → s'.decisionView = s.decisionView) :
    (committed s r).2.decisionView = s.decisionView := by
  cases r with
  | ok s' => exact h s' rfl
  | error fault => rfl

theorem decisionView_replaceTripSegments {trip : Trip} {s' : PostgresRepository Response}
    (h : s.replaceTripSegments trip = .ok s') : s'.decisionView = s.decisionView := by
  simp only [replaceTripSegments] at h
  split at h
  · cases h; rfl
  · cases h

theorem claimDueActionDispatches_same {request : LeaseRequest} {now : Time} {fresh : ℕ → Uuid}
    {a : ActionDispatchRecord} (h : a ∈ (s.claimDueActionDispatches request now fresh).1) :
    ∃ b ∈ s.decisionView.outbox, a.SameDecision b := by
  simp only [claimDueActionDispatches, leaseActionDispatches, waitingActionDispatches, List.mem_map] at h
  obtain ⟨_, ⟨⟨row, i⟩, hrow, rfl⟩, rfl⟩ := h
  have hrow' := List.mem_of_mem_take (List.mem_of_mem_filter (List.fst_mem_of_mem_zipIdx hrow))
  exact ⟨row.payload, ⟨row, List.mem_of_mem_filter hrow', rfl⟩, rfl, rfl⟩

end PostgresRepository

instance : DecisionStore .postgres where
  view := PostgresRepository.decisionView
  step op now fresh s := by
    cases op with
    | getIncident tenantId incidentId =>
      refine ⟨rfl, fun incident h => ?_⟩
      exact s.incidents.payload?_eq_some (Except.ok.inj h)
    | saveIncident incident =>
      refine ⟨rfl, congrArg (fun f => { s.decisionView with incident := f }) ?_⟩
      funext id
      rw [Function.update_apply]
      exact s.incidents.payload_upsertPayload _ incident id
    | saveApproval approval =>
      refine ⟨rfl, congrArg (fun f => { s.decisionView with approval := f }) ?_⟩
      funext id
      exact (s.approvals.find?_put approval id).trans (Function.update_apply ..).symm
    | saveActionDispatch action =>
      refine ⟨rfl, rfl, ⟨_, s.actionDispatches.mem_put_self _, rfl⟩, ?_⟩
      rintro a ⟨row, hrow, rfl⟩
      rcases (s.actionDispatches.mem_put _ row).mp hrow with rfl | hrow
      · exact .inl rfl
      · exact .inr ⟨row, hrow.1, rfl⟩
    | claimDueActionDispatches request =>
      refine ⟨rfl, ?_, fun claimed h a ha => ?_⟩
      · rintro a ⟨row, hrow, rfl⟩
        rcases Table.mem_foldl_put hrow with hrow | hrow
        · exact PostgresRepository.claimDueActionDispatches_same (List.mem_map_of_mem hrow)
        · exact ⟨row.payload, ⟨row, hrow, rfl⟩, rfl, rfl⟩
      · cases h
        exact PostgresRepository.claimDueActionDispatches_same ha
    | completeActionDispatch action attempt claimId =>
      simp only [DecisionStep, Backend.postgres, PostgresRepository.completeActionDispatch]
      split
      · exact ⟨rfl, fun a ha => .inl ha⟩
      · split
        · split
          · refine ⟨rfl, ?_⟩
            rintro a ⟨row, hrow, rfl⟩
            rcases (s.actionDispatches.mem_put _ row).mp hrow with rfl | hrow
            · exact .inr rfl
            · exact .inl ⟨row, hrow.1, rfl⟩
          · exact ⟨rfl, fun a ha => .inl ha⟩
        · exact ⟨rfl, fun a ha => .inl ha⟩
    | recordEvent event =>
      simp only [DecisionStep, Backend.postgres, PostgresRepository.recordEvent, Table.inserted]
      cases h : s.events.insert { event with details := redactFields event.details } with
      | some rows =>
        obtain ⟨-, rfl⟩ := Table.insert_eq_some.mp h
        refine ⟨fun _ => rfl, rfl, ?_⟩
        rintro id ⟨e, he, rfl⟩
        rcases (Table.mem_put _ _ e).mp he with rfl | he
        · exact .inl rfl
        · exact .inr ⟨e, he.1, rfl⟩
      | none =>
        refine ⟨fun hfresh => absurd h ?_, rfl, fun id hid => .inr hid⟩
        have hnone : s.events.find? event.eventId = none :=
          s.events.find?_eq_none.mpr fun e he hid => hfresh ⟨e, he, hid⟩
        simp [Table.insert, hnone]
    | getRuntimeControlOverride | getPlatformControlOverride => exact ⟨rfl, rfl⟩
    | saveRuntimeControlChange record =>
      simp only [DecisionStep, Backend.postgres, PostgresRepository.saveRuntimeControlChange]
      cases s.runtimeControlChanges.inserted record "runtime_control_changes" <;> rfl
    | savePlatformControlChange record =>
      simp only [DecisionStep, Backend.postgres, PostgresRepository.savePlatformControlChange]
      cases s.platformControlChanges.inserted record "platform_runtime_control_changes" <;> rfl
    | createTrip trip =>
      refine PostgresRepository.decisionView_committed fun s' h => ?_
      obtain ⟨rows, -, hs'⟩ := except_bind_eq_ok.mp h
      exact (PostgresRepository.decisionView_replaceTripSegments hs').trans rfl
    | saveTrip trip =>
      exact PostgresRepository.decisionView_committed fun s' h =>
        (PostgresRepository.decisionView_replaceTripSegments h).trans rfl
    | saveEvidence tenantId tripId evidence =>
      simp only [DecisionStep, Backend.postgres, PostgresRepository.saveEvidence]
      split <;> rfl
    | completeNotificationDelivery notification attempt claimId =>
      simp only [DecisionStep, Backend.postgres, PostgresRepository.completeNotificationDelivery]
      split
      · rfl
      · split
        · split <;> rfl
        · rfl
    | savePlaybook playbook =>
      simp only [DecisionStep, Backend.postgres, PostgresRepository.savePlaybook]
      split <;> rfl
    | saveAssessment | saveCandidateSet | recordCandidateOutcome | saveManagerFeedback
    | recordActionDispatchAttempt | recordMemoryAudit | recordNotificationAttempt
    | saveChangeRecord | saveProviderOnboarding =>
      refine PostgresRepository.decisionView_committed fun s' h => ?_
      obtain ⟨rows, -, hs'⟩ := except_bind_eq_ok.mp h
      cases hs'
      rfl
    | eraseTravelerData | purgeExpired => trivial
    | _ => rfl

end RouteShield
