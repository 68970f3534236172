import RouteShield.Agent.Graph
import RouteShield.Api.Effects

/-!
The graph from the approval gate on. It waits at the gate under its thread; a decision resumes it
there, and it runs to its end through the node that notes the queued action. The gate is given any
JSON value: one that is no decision rejects.
-/

namespace RouteShield

def ApprovalDecision.json (decision : ApprovalDecision) : Json := .str decision.value

/-- The `approval` of a state: a payload that approves or rejects. -/
structure GraphApproval where
  fields : JsonObject
  decides : ∃ decision : ApprovalDecision, Json.get? fields "decision" = some decision.json

/-- What the state keeps of an action in the outbox. -/
structure DispatchedAction where
  actionDispatchId : Json
  idempotencyKey : Json
  status : String := "queued"

/-- The keys that the nodes from the approval gate on set. -/
structure GraphEnd where
  approval : Option GraphApproval := none
  dispatchedActions : List DispatchedAction := []
  finalStatus : String

/-- A thread of the checkpointer: it waits at the gate, or has ended. -/
inductive GraphThread where
  | waiting (s : RouteRiskState)
  | ended (s : RouteRiskState) (final : GraphEnd)

/-- The payload that a decision resumes its graph with. -/
def GraphResume.json (resume : GraphResume) : Json :=
  .obj ([("decision", resume.decision.json), ("reason", .str resume.reason)] ++
    match resume.action with
    | some (actionDispatchId, idempotencyKey) =>
      [("action_dispatch_id", .str actionDispatchId.str),
        ("action_idempotency_key", .str idempotencyKey)]
    | none => [])

namespace Graph

def invalidApproval : GraphApproval where
  fields := [("decision", .str "reject"), ("reason", .str "invalid approval payload")]
  decides := ⟨.reject, rfl⟩

/-- `decision.get("decision") not in {"approve", "reject"}`: a list or a dict has no hash. -/
def approvalGate : Json → Except Fault GraphApproval
  | .obj fields =>
    if hap : Json.get? fields "decision" = some ApprovalDecision.approve.json then
      .ok ⟨fields, .approve, hap⟩
    else if hre : Json.get? fields "decision" = some ApprovalDecision.reject.json then
      .ok ⟨fields, .reject, hre⟩
    else
      match Json.get? fields "decision" with
      | some (.arr _) => .error (.value "unhashable type: 'list'")
      | some (.obj _) => .error (.value "unhashable type: 'dict'")
      | _ => .ok invalidApproval
  | _ => .ok invalidApproval

/-- Note the outbox record of an approved action; no provider is contacted. -/
def queueApprovedAction (approval : GraphApproval) : List DispatchedAction :=
  match Json.get? approval.fields "action_dispatch_id",
    Json.get? approval.fields "action_idempotency_key" with
  | some actionDispatchId, some idempotencyKey =>
    if Json.get? approval.fields "decision" = some ApprovalDecision.approve.json ∧
        actionDispatchId.truthy ∧ idempotencyKey.truthy then
      [{ actionDispatchId, idempotencyKey }]
    else []
  | _, _ => []

/-- `str(approval.get("decision", "rejected"))`, or the status of a run without an approval. -/
def finalize : Option GraphApproval → String
  | some approval =>
    match Json.get? approval.fields "decision" with
    | some (.str decision) => decision
    | _ => "rejected"
  | none => "assessed"

/-- The nodes from the gate to the end. -/
def conclude (decision : Json) : Except Fault GraphEnd := do
  let approval ← approvalGate decision
  return {
    approval := some approval
    dispatchedActions := queueApprovedAction approval
    finalStatus := finalize (some approval) }

/-- The thread that a run leaves: one that stops short of the gate ends without an approval. -/
def GraphThread.of : Node × RouteRiskState → GraphThread
  | (.approvalGate, s) => .waiting s
  | (_, s) => .ended s { finalStatus := finalize none }

end Graph

/-! ### What an end says -/

/-- The action that a state keeps is one of the outbox: it has its identifier and its key. -/
def DispatchedAction.Names (entry : DispatchedAction) (action : ActionDispatchRecord) : Prop :=
  entry.actionDispatchId = .str action.actionDispatchId.str ∧
    entry.idempotencyKey = .str action.idempotencyKey ∧ entry.status = "queued"

namespace Graph

/-- The decision of an approval is its final status. -/
theorem finalize_eq {approval : GraphApproval} {decision : ApprovalDecision}
    (h : Json.get? approval.fields "decision" = some decision.json) :
    finalize (some approval) = decision.value := by
  simp only [finalize, h, ApprovalDecision.json]

/-- A payload that decides goes through the gate as it is. -/
theorem approvalGate_decides {fields : JsonObject} {decision : ApprovalDecision}
    (h : Json.get? fields "decision" = some decision.json) :
    approvalGate (.obj fields) = .ok ⟨fields, decision, h⟩ := by
  cases decision with
  | approve => exact dif_pos h
  | reject =>
    have hne : ¬Json.get? fields "decision" = some ApprovalDecision.approve.json := by
      rw [h]
      decide
    exact (dif_neg hne).trans (dif_pos h)

theorem conclude_decides {fields : JsonObject} {decision : ApprovalDecision}
    (h : Json.get? fields "decision" = some decision.json) :
    conclude (.obj fields) = .ok
      { approval := some ⟨fields, decision, h⟩
        dispatchedActions := queueApprovedAction ⟨fields, decision, h⟩
        finalStatus := decision.value } := by
  unfold conclude
  rw [approvalGate_decides h]
  show Except.ok _ = Except.ok _
  rw [finalize_eq h]

/-- A resumed graph ends with the decision, and notes the action only when it is approved. -/
theorem conclude_resume (resume : GraphResume) (hkey : ∀ action ∈ resume.action, action.2 ≠ "") :
    ∃ final, conclude resume.json = .ok final ∧ final.finalStatus = resume.decision.value ∧
      ∀ entry, entry ∈ final.dispatchedActions ↔ resume.decision = .approve ∧
        ∃ action ∈ resume.action, entry =
          { actionDispatchId := .str action.1.str, idempotencyKey := .str action.2 } := by
  obtain ⟨decision, reason, action⟩ := resume
  refine ⟨_, conclude_decides rfl, rfl, fun entry => ?_⟩
  cases action with
  | none => simp [queueApprovedAction, Json.get?]
  | some action =>
    obtain ⟨id, key⟩ := action
    have hid : (Json.str id.str).truthy = true := by
      cases id <;> simp [Json.truthy, Uuid.str]
    have hkey' : (Json.str key).truthy = true := by simpa [Json.truthy] using hkey (id, key) rfl
    cases decision <;>
      simp [queueApprovedAction, Json.get?, hid, hkey', ApprovalDecision.json,
        ApprovalDecision.value]

end Graph

end RouteShield
