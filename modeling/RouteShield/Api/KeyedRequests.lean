import RouteShield.Api.Deliveries

/-!
Requests under one idempotency key. Every keyed handler only reads until its key is claimed, so of
the requests that arrive under a key, whatever they ask for and however they are interleaved with
each other and with everything else, only the one whose claim is granted acts: it alone writes
anything beside the ledger or calls on a collaborator. This lasts as long as the record of the key
is there when the key is claimed again.
-/

namespace RouteShield

/-- The key of a caller's requests. -/
def Caller.key (caller : Caller) : Option IdempotencyRecord.Key :=
  caller.tenantId.bind fun tenantId =>
    (Api.keyed caller.idempotencyKey).map fun key => (tenantId, key)

/-- The key that a request claims before it acts. The platform's controls are keyed under a tenant
of their own, a booking webhook under its message, and the jobs and the sender have none. -/
def Request.key : Request → Option IdempotencyRecord.Key
  | .validateTripCsv caller _ => caller.key
  | .bookingWebhook delivery =>
    delivery.event.toOption.map fun webhook =>
      (webhook.tenantId, Api.webhookKey webhook.messageId)
  | .createTrip caller _ => caller.key
  | .assignTripManager caller _ _ => caller.key
  | .putEvidence caller _ _ => caller.key
  | .assessTrip caller _ _ => caller.key
  | .refreshIncident caller _ => caller.key
  | .createCandidateSet caller _ _ => caller.key
  | .recordCandidateOutcome caller _ _ _ _ => caller.key
  | .approveIncident caller _ _ => caller.key
  | .rejectIncident caller _ _ => caller.key
  | .updatePreferences caller _ _ => caller.key
  | .createMemoryProposal caller _ => caller.key
  | .confirmMemoryProposal caller _ _ => caller.key
  | .deleteTravelerMemory caller _ _ => caller.key
  | .createLegalHold caller _ => caller.key
  | .releaseLegalHold caller _ _ => caller.key
  | .createDeletionRequest caller _ => caller.key
  | .queueNotification caller _ => caller.key
  | .acknowledgeNotification caller _ _ => caller.key
  | .createChangeRecord caller _ => caller.key
  | .setRuntimeControl caller _ _ => caller.key
  | .setPlatformRuntimeControl caller _ _ =>
    (Api.keyed caller.idempotencyKey).map fun key => (platformTenant, key)
  | .publishTenantPlaybook caller _ => caller.key
  | .createProviderOnboarding caller _ => caller.key
  | .dispatchNotifications _ | .dispatchDueNotifications | .dispatchApprovedActions
  | .processDueAssessments | .processPrivacyDeletionRequests | .runRetention => none

/-- The call goes to a collaborator outside the store. -/
def Effect.outside : {α : Type} → Effect α → Bool
  | _, .now | _, .uuid4 | _, .repo _ => false
  | _, _ => true

/-- The call writes something beside the ledger, or goes outside. -/
def Acts {α : Type} (op : Effect α) : Prop := Applies op ∨ op.outside = true

instance {α : Type} (op : Effect α) : Decidable (Acts op) :=
  inferInstanceAs (Decidable (Applies op ∨ op.outside = true))

/-- The claim of the key was granted, whatever it was made for. -/
def GrantedUnder (key : IdempotencyRecord.Key) {α : Type} (op : Effect α)
    (answer : Except Fault α) : Prop :=
  (granted? op answer).map Claim.key = some key

/-- As long as no claim of the key is granted to it, a program does not act. -/
def waiting (key : IdempotencyRecord.Key) : Prog.Contract Effect Fault Unit where
  allowed _ {_} op := ¬Acts op
  promised _ {_} op answer := ¬GrantedUnder key op answer
  advance _ {_} _ _ := ()
  stop _ := True

def Effect.cutoffs? : {α : Type} → Effect α → Option Cutoffs
  | _, .repo (.purgeExpired cutoffs) => some cutoffs
  | _, _ => none

/-- The call comes too late for the record of the key: it claims the key once the record has
expired, or purges the record. -/
def Effect.Outlives (key : IdempotencyRecord.Key) (record : MutationRecord) (now : Time) {α : Type}
    (op : Effect α) : Prop :=
  (∃ claim ∈ op.claim?, claim.key = key ∧ record.expiresAt ≤ now) ∨
    ∃ cutoffs ∈ op.cutoffs?, record.expiresAt < cutoffs.before

instance (key : IdempotencyRecord.Key) (record : MutationRecord) (now : Time) {α : Type}
    (op : Effect α) : Decidable (op.Outlives key record now) :=
  inferInstanceAs (Decidable ((∃ claim ∈ op.claim?, claim.key = key ∧ record.expiresAt ≤ now) ∨
    ∃ cutoffs ∈ op.cutoffs?, record.expiresAt < cutoffs.before))

namespace Api

open Prog hiding pure

variable {svc : Service} {key : IdempotencyRecord.Key} {α β : Type}

/-! ### Before the claim -/

/-- The handler only reads the store, the clock and fresh identifiers. -/
structure Looks (p : Api α) : Prop where
  only : p.Only fun op => op.writes = [] ∧ op.outside = false

@[grind ←] theorem CallFree.looks {p : Api α} (hp : p.CallFree) : Looks p := ⟨hp.only⟩

@[grind .] theorem looks_pure (a : α) : Looks (pure a : Api α) := ⟨only_pure a⟩

@[grind .] theorem looks_http (status : ℕ) (detail : String) : Looks (http status detail : Api α) :=
  CallFree.looks (callFree_http _ _)

@[grind ←] theorem looks_bind {p : Api α} {f : α → Api β} (hp : Looks p) (hf : ∀ a, Looks (f a)) :
    Looks (p >>= f) := ⟨only_bind hp.only fun a => (hf a).only⟩

@[grind ←] theorem looks_mapM {xs : List β} {f : β → Api α} (hf : ∀ x, Looks (f x)) :
    Looks (xs.mapM f) := ⟨only_mapM fun x => (hf x).only⟩

@[grind ←] theorem looks_repo {op : RepoOp α} (h : op.writes = []) : Looks (repo op) :=
  ⟨only_perform ⟨h, rfl⟩⟩

@[grind .] theorem looks_now : Looks now := ⟨only_perform ⟨rfl, rfl⟩⟩

@[grind .] theorem looks_uuid4 : Looks uuid4 := ⟨only_perform ⟨rfl, rfl⟩⟩

@[grind .] theorem looks_require (condition : Bool) (status : ℕ) (detail : String) :
    Looks (require condition status detail) := CallFree.looks (callFree_require _ _ _)

@[grind .] theorem looks_found (result : Option α) (status : ℕ) (detail : String) :
    Looks (found result status detail) := CallFree.looks (callFree_found _ _ _)

@[grind .] theorem looks_requireRole (role : Option UserRole) (allowed : List UserRole) :
    Looks (requireRole role allowed) := CallFree.looks (callFree_requireRole _ _)

@[grind .] theorem looks_requireActorId (actorId : Option String) :
    Looks (requireActorId svc actorId) := CallFree.looks (callFree_requireActorId _)

@[grind .] theorem looks_requireActorMatchesPayload (actorId : Option String) (payload : String) :
    Looks (requireActorMatchesPayload svc actorId payload) :=
  CallFree.looks (callFree_requireActorMatchesPayload _ _)

@[grind .] theorem looks_requireTripAccess (trip : Trip) (caller : Caller)
    (allowed : List UserRole) : Looks (requireTripAccess svc trip caller allowed) :=
  CallFree.looks (callFree_requireTripAccess _ _ _)

@[grind .] theorem looks_requireIncidentTripAccess (tenantId : String) (incidentId : Uuid)
    (caller : Caller) (allowed : List UserRole) :
    Looks (requireIncidentTripAccess svc tenantId incidentId caller allowed) := by
  unfold requireIncidentTripAccess
  repeat' first | with_reducible apply looks_bind | intro _
  all_goals grind [RepoOp.writes]

@[grind .] theorem looks_controlEnabled (tenantId : String) (controlName : RuntimeControlName) :
    Looks (controlEnabled svc tenantId controlName) := by
  refine looks_bind (looks_repo rfl) fun override => ?_
  cases override with
  | some _ => exact looks_pure _
  | none =>
    refine looks_bind (looks_repo rfl) fun platform => ?_
    cases platform <;> exact looks_pure _

@[grind .] theorem looks_orDrawn (id : Option Uuid) : Looks (orDrawn id) := by
  cases id <;> unfold orDrawn <;> grind

@[grind .] theorem looks_orNow (time : Option Time) : Looks (orNow time) := by
  cases time <;> unfold orNow <;> grind

/-! ### Until the claim is granted -/

/-- The handler does not act as long as no claim of the key is granted to it. -/
structure KeyWaits (key : IdempotencyRecord.Key) (p : Api α) : Prop where
  follows : p.Follows (waiting key) (fun _ _ => True) ()

theorem CallFree.keyWaits {p : Api α} (hp : p.CallFree) : KeyWaits key p :=
  ⟨follows_callFree hp (fun _ _ => trivial) trivial⟩

@[grind .] theorem waits_pure (a : α) : KeyWaits key (pure a : Api α) := ⟨trivial⟩

@[grind .] theorem waits_http (status : ℕ) (detail : String) :
    KeyWaits key (http status detail : Api α) := CallFree.keyWaits (callFree_http _ _)

theorem Looks.follows {p : Api α} (hp : Looks p) :
    p.Follows (waiting key) (fun _ _ => True) () := by
  refine follows_mono (hp.only.keeps (fun op hop hact => ?_) (fun _ _ _ => rfl) trivial)
    fun _ _ _ => trivial
  rcases hact with ⟨c, hc, -⟩ | hout
  · rw [hop.1] at hc
    cases hc
  · cases hop.2.symm.trans hout

@[grind ←] theorem waits_look {p : Api α} {f : α → Api β} (hp : Looks p)
    (hf : ∀ a, KeyWaits key (f a)) : KeyWaits key (p >>= f) := ⟨follows_bind hp.follows fun _ a _ => (hf a).follows⟩

@[grind ←] theorem waits_discard {p : Api α} (hp : KeyWaits key p) : KeyWaits key (discard p) :=
  ⟨follows_bind hp.follows fun _ _ _ => trivial⟩

/-- What comes after the tenant was read claims under it. -/
@[grind ←] theorem waits_tenant {caller : Caller} (hkey : caller.key = some key)
    {f : String → Api β}
    (hf : ∀ tenantId, (keyed caller.idempotencyKey).map (fun k => (tenantId, k)) = some key →
      KeyWaits key (f tenantId)) : KeyWaits key (requireTenant caller.tenantId >>= f) := by
  cases htenant : caller.tenantId with
  | none => exact ⟨trivial⟩
  | some tenantId =>
    have hmap : (keyed caller.idempotencyKey).map (fun k => (tenantId, k)) = some key := by
      simpa [Caller.key, htenant] using hkey
    by_cases hempty : tenantId = ""
    · simp only [requireTenant, hempty, if_true]
      exact ⟨trivial⟩
    · simp only [requireTenant, hempty, if_false]
      exact hf tenantId hmap

/-- A mutation whose claim is not granted replays a response or raises, whatever its body does. -/
@[grind ←] theorem waits_mutation {tenantId scope : String} {idempotencyKey : Option String}
    {payload : Payload} {status : ℕ} {stored : Stored α} {body : Api α}
    (hkey : (keyed idempotencyKey).map (fun k => (tenantId, k)) = some key) :
    KeyWaits key (mutation svc tenantId idempotencyKey scope payload status stored body) := by
  obtain ⟨k, hk, rfl⟩ := Option.map_eq_some_iff.mp hkey
  have hclaimed : (claimOptionalMutation svc tenantId idempotencyKey scope payload).Follows
      (waiting (tenantId, k)) (fun _ claimed => claimed.2.isSome) () := by
    unfold claimOptionalMutation
    rw [hk]
    refine follows_bind (P := fun _ claimed => claimed.2.isSome) ?_ fun _ _ h => follows_pure h
    refine follows_seq (follows_perform (show ¬Acts Effect.now by decide)
      (fun _ _ => ?_) fun _ _ => trivial)
    refine follows_seq (follows_perform ?_ (fun answer hwaits => ?_) fun _ _ => trivial)
    · rintro (⟨c, hc, hne⟩ | hout)
      · exact hne (List.mem_singleton.mp hc)
      · cases hout
    · obtain ⟨disposition, record⟩ := answer
      cases disposition with
      | execute => exact absurd rfl hwaits
      | replay => exact follows_pure rfl
      | conflict | inProgress => exact follows_throw trivial
  refine ⟨follows_bind hclaimed ?_⟩
  rintro ⟨⟩ ⟨requestHash, replay⟩ hreplay
  obtain ⟨record, rfl⟩ := Option.isSome_iff_exists.mp hreplay
  exact (CallFree.keyWaits (callFree_replay stored record)).follows

/-! ### The handlers -/

@[grind .] theorem looks_parseEvidence (body : EvidenceBody) : Looks (parseEvidence body) := by
  unfold parseEvidence
  refine looks_bind (looks_orDrawn _) fun _ => looks_bind (looks_orNow _) fun _ => ?_
  dsimp only
  split
  · exact looks_pure _
  · exact looks_bind looks_now fun _ => looks_pure _

@[grind .] theorem looks_outcomeAllowed (view : RecoveryCandidateSet)
    (candidate : EvaluatedCandidate) (role : Option UserRole)
    (update : RecoveryCandidateOutcomeUpdate) :
    Looks (outcomeAllowed view candidate role update) := by
  unfold outcomeAllowed
  repeat' first | with_reducible apply looks_bind | intro _
  all_goals exact looks_require _ _ _

@[grind .] theorem looks_requireNotificationAccess (tenantId : String) (caller : Caller)
    (payload : NotificationCreate) :
    Looks (requireNotificationAccess svc tenantId caller payload) := by
  unfold requireNotificationAccess
  split
  · exact looks_bind (looks_requireIncidentTripAccess _ _ _ _) fun _ => looks_require _ _ _
  · exact looks_pure _

@[grind .] theorem looks_requireAcknowledgeAccess (tenantId : String) (caller : Caller)
    (notification : NotificationRecord) :
    Looks (requireAcknowledgeAccess svc tenantId caller notification) := by
  unfold requireAcknowledgeAccess
  split
  · exact looks_bind (looks_found _ _ _) fun _ =>
      looks_bind (looks_requireIncidentTripAccess _ _ _ _) fun _ => looks_pure _
  · exact looks_pure _

@[grind .] theorem looks_requireFutureExpiry (update : RuntimeControlUpdate) :
    Looks (requireFutureExpiry update) := by
  unfold requireFutureExpiry
  split
  · exact looks_bind looks_now fun _ => looks_require _ _ _
  · exact looks_pure _

@[grind .] theorem looks_parseMemoryProposal (body : MemoryProposalBody) :
    Looks (parseMemoryProposal body) :=
  looks_bind (looks_orDrawn _) fun _ => looks_bind (looks_orNow _) fun _ => looks_pure _

@[grind .] theorem looks_parseLegalHold (body : LegalHoldBody) : Looks (parseLegalHold body) :=
  looks_bind (looks_orDrawn _) fun _ => looks_bind (looks_orNow _) fun _ => looks_pure _

@[grind .] theorem looks_parseDeletionRequest (body : DeletionRequestBody) :
    Looks (parseDeletionRequest body) :=
  looks_bind (looks_orDrawn _) fun _ => looks_bind (looks_orNow _) fun _ => looks_pure _

@[grind .] theorem looks_parseChangeRecord (body : ChangeRecordBody) :
    Looks (parseChangeRecord body) :=
  looks_bind (looks_orDrawn _) fun _ => looks_bind (looks_orNow _) fun _ => looks_pure _

@[grind .] theorem looks_parseProviderOnboarding (body : ProviderOnboardingBody) :
    Looks (parseProviderOnboarding body) :=
  looks_bind (looks_orDrawn _) fun _ => looks_bind (looks_orNow _) fun _ => looks_pure _

section Keyed

variable {caller : Caller} (hkey : caller.key = some key)

include hkey

theorem waits_validateTripCsv {content : String} :
    KeyWaits key (validateTripCsv svc caller content) := by
  unfold validateTripCsv
  refine waits_look (looks_requireRole _ _) fun _ => waits_tenant hkey fun _ htenant => ?_
  exact waits_mutation htenant

theorem waits_createTrip {body : TripCreate} :
    KeyWaits key (createTrip svc caller body) := by
  unfold createTrip
  grind [RepoOp.writes]

theorem waits_assignTripManager {tripId : Uuid} {managerId : String} :
    KeyWaits key (assignTripManager svc caller tripId managerId) := by
  unfold assignTripManager
  grind [RepoOp.writes]

theorem waits_putEvidence {tripId : Uuid} {bodies : List EvidenceBody} :
    KeyWaits key (putEvidence svc caller tripId bodies) := by
  unfold putEvidence
  grind [RepoOp.writes]

theorem waits_assessTrip {tripId : Uuid} {scenario : Option DemoScenario} :
    KeyWaits key (assessTrip svc caller tripId scenario) := by
  unfold assessTrip
  grind [RepoOp.writes]

theorem waits_refreshIncident {incidentId : Uuid} :
    KeyWaits key (refreshIncident svc caller incidentId) := by
  unfold refreshIncident
  grind [RepoOp.writes]

theorem waits_createCandidateSet {incidentId : Uuid} {candidates : List RecoveryCandidate} :
    KeyWaits key (createCandidateSet svc caller incidentId candidates) := by
  unfold createCandidateSet
  grind [RepoOp.writes]

theorem waits_recordCandidateOutcome {incidentId candidateSetId : Uuid}
    {candidateId : String} {update : RecoveryCandidateOutcomeUpdate} :
    KeyWaits key
      (recordCandidateOutcome svc caller incidentId candidateSetId candidateId update) := by
  unfold recordCandidateOutcome
  refine waits_look (looks_requireRole _ _) fun _ => waits_tenant hkey fun _ htenant => ?_
  refine waits_look (looks_requireIncidentTripAccess _ _ _ _) fun _ => ?_
  grind [RepoOp.writes]

theorem waits_decide {decision : ApprovalDecision} {incidentId : Uuid}
    {payload : ApprovalRequest} :
    KeyWaits key (decide svc decision caller incidentId payload) := by
  unfold decide
  grind [RepoOp.writes]

theorem waits_updatePreferences {travelerId : String} {update : TravelerPreferenceUpdate} :
    KeyWaits key (updatePreferences svc caller travelerId update) := by
  unfold updatePreferences
  grind [RepoOp.writes]

theorem waits_createMemoryProposal {body : MemoryProposalBody} :
    KeyWaits key (createMemoryProposal svc caller body) := by
  unfold createMemoryProposal
  grind [RepoOp.writes]

theorem waits_confirmMemoryProposal {proposalId : Uuid} {actorId : String} :
    KeyWaits key (confirmMemoryProposal svc caller proposalId actorId) := by
  unfold confirmMemoryProposal
  -- longer than the search is deep, so the first check is passed by hand
  refine waits_look (looks_requireRole _ _) fun _ => ?_
  grind [RepoOp.writes]

theorem waits_deleteTravelerMemory {travelerId actorId : String} :
    KeyWaits key (deleteTravelerMemory svc caller travelerId actorId) := by
  unfold deleteTravelerMemory
  grind [RepoOp.writes]

theorem waits_createLegalHold {body : LegalHoldBody} :
    KeyWaits key (createLegalHold svc caller body) := by
  unfold createLegalHold
  grind [RepoOp.writes]

theorem waits_releaseLegalHold {legalHoldId : Uuid} {reason : String} :
    KeyWaits key (releaseLegalHold svc caller legalHoldId reason) := by
  unfold releaseLegalHold
  grind [RepoOp.writes]

theorem waits_createDeletionRequest {body : DeletionRequestBody} :
    KeyWaits key (createDeletionRequest svc caller body) := by
  unfold createDeletionRequest
  grind [RepoOp.writes]

theorem waits_queueNotification {payload : NotificationCreate} :
    KeyWaits key (queueNotification svc caller payload) := by
  unfold queueNotification
  grind [RepoOp.writes]

theorem waits_acknowledgeNotification {notificationId : Uuid} {actorId : String} :
    KeyWaits key (acknowledgeNotification svc caller notificationId actorId) := by
  unfold acknowledgeNotification
  grind [RepoOp.writes]

theorem waits_createChangeRecord {body : ChangeRecordBody} :
    KeyWaits key (createChangeRecord svc caller body) := by
  unfold createChangeRecord
  grind [RepoOp.writes]

theorem waits_setRuntimeControl {controlName : RuntimeControlName}
    {update : RuntimeControlUpdate} :
    KeyWaits key (setRuntimeControl svc caller controlName update) := by
  unfold setRuntimeControl
  grind [RepoOp.writes]

theorem waits_publishTenantPlaybook {payload : TenantPlaybookCreate} :
    KeyWaits key (publishTenantPlaybook svc caller payload) := by
  unfold publishTenantPlaybook
  refine waits_look (looks_requireRole _ _) fun _ => waits_tenant hkey fun _ htenant => ?_
  refine waits_look (looks_requireActorId _) fun _ => waits_look (looks_require _ _ _) fun _ => ?_
  refine waits_look (looks_repo rfl) fun existing => ?_
  cases existing with
  | some existing => exact waits_look (looks_require _ _ _) fun _ => waits_pure _
  | none => exact waits_mutation htenant

theorem waits_createProviderOnboarding {body : ProviderOnboardingBody} :
    KeyWaits key (createProviderOnboarding svc caller body) := by
  unfold createProviderOnboarding
  grind [RepoOp.writes]

end Keyed

theorem waits_setPlatformRuntimeControl {caller : Caller}
    (hkey : (keyed caller.idempotencyKey).map (fun k => (platformTenant, k)) = some key)
    {controlName : RuntimeControlName} {update : RuntimeControlUpdate} :
    KeyWaits key (setPlatformRuntimeControl svc caller controlName update) := by
  unfold setPlatformRuntimeControl
  grind [RepoOp.writes]

@[grind .] theorem looks_webhookTrip (webhook : BookingWebhookEvent) :
    Looks (webhookTrip svc webhook) := by
  unfold webhookTrip
  dsimp only
  split
  · exact looks_bind (looks_pure _) fun _ => looks_bind (looks_found _ _ _) fun _ =>
      looks_bind (looks_require _ _ _) fun _ => looks_pure _
  · exact looks_bind (looks_http _ _) fun _ => looks_bind (looks_found _ _ _) fun _ =>
      looks_bind (looks_require _ _ _) fun _ => looks_pure _

theorem looks_webhookChange (webhook : BookingWebhookEvent) :
    Looks (webhookChange svc webhook) := by
  unfold webhookChange
  repeat' first
    | with_reducible apply looks_bind
    | intro _
    | dsimp only
    | split
  all_goals grind [RepoOp.writes]

theorem parseWebhook_waits (delivery : WebhookDelivery) :
    (parseWebhook delivery).Follows (waiting key) (fun _ webhook => delivery.event = .ok webhook)
      () := by
  unfold parseWebhook
  cases delivery.timestamp with
  | error message => exact follows_throw trivial
  | ok timestamp =>
    refine follows_seq (follows_pure (a := timestamp) ?_)
    refine follows_bind looks_now.follows fun _ time _ => ?_
    refine follows_seq (follows_callFree (callFree_require _ _ _) (fun _ _ => ?_) trivial)
    cases delivery.event with
    | error message => exact follows_throw trivial
    | ok webhook =>
      refine follows_seq (follows_pure (a := webhook) ?_)
      exact follows_seq (follows_callFree (callFree_require _ _ _)
        (fun _ _ => follows_pure rfl) trivial)

/-- A delivery claims the key of the message that it parses to. -/
theorem waits_bookingWebhook {delivery : WebhookDelivery}
    (hkey : (delivery.event.toOption.map fun webhook =>
      (webhook.tenantId, webhookKey webhook.messageId)) = some key) :
    KeyWaits key (bookingWebhook svc delivery) := by
  unfold bookingWebhook
  refine waits_look (looks_require _ _ _) fun _ => waits_look (looks_require _ _ _) fun _ => ?_
  refine ⟨follows_bind (parseWebhook_waits delivery) fun _ webhook hevent => KeyWaits.follows ?_⟩
  refine waits_look (looks_require _ _ _) fun _ => waits_look (looks_webhookChange _) fun _ => ?_
  refine waits_mutation ?_
  simpa [hevent, Except.toOption, keyed, webhookKey] using hkey

theorem waits_handle {req : Request} (hkey : req.key = some key) :
    KeyWaits key (handle svc req) := by
  cases req <;> unfold Request.key at hkey
  case validateTripCsv => exact waits_discard (waits_validateTripCsv hkey)
  case bookingWebhook => exact waits_discard (waits_bookingWebhook hkey)
  case createTrip => exact waits_discard (waits_createTrip hkey)
  case assignTripManager => exact waits_discard (waits_assignTripManager hkey)
  case putEvidence => exact waits_putEvidence hkey
  case assessTrip => exact waits_discard (waits_assessTrip hkey)
  case refreshIncident => exact waits_discard (waits_refreshIncident hkey)
  case createCandidateSet => exact waits_discard (waits_createCandidateSet hkey)
  case recordCandidateOutcome => exact waits_discard (waits_recordCandidateOutcome hkey)
  case approveIncident => exact waits_discard (waits_decide hkey)
  case rejectIncident => exact waits_discard (waits_decide hkey)
  case updatePreferences => exact waits_discard (waits_updatePreferences hkey)
  case createMemoryProposal => exact waits_discard (waits_createMemoryProposal hkey)
  case confirmMemoryProposal => exact waits_discard (waits_confirmMemoryProposal hkey)
  case deleteTravelerMemory => exact waits_deleteTravelerMemory hkey
  case createLegalHold => exact waits_discard (waits_createLegalHold hkey)
  case releaseLegalHold => exact waits_discard (waits_releaseLegalHold hkey)
  case createDeletionRequest => exact waits_discard (waits_createDeletionRequest hkey)
  case queueNotification => exact waits_discard (waits_queueNotification hkey)
  case acknowledgeNotification => exact waits_discard (waits_acknowledgeNotification hkey)
  case createChangeRecord => exact waits_discard (waits_createChangeRecord hkey)
  case setRuntimeControl => exact waits_discard (waits_setRuntimeControl hkey)
  case setPlatformRuntimeControl => exact waits_discard (waits_setPlatformRuntimeControl hkey)
  case publishTenantPlaybook => exact waits_discard (waits_publishTenantPlaybook hkey)
  case createProviderOnboarding => exact waits_discard (waits_createProviderOnboarding hkey)
  all_goals cases hkey

end Api

/-! ### The record of the key -/

/-- A backend whose purge leaves the idempotency records that have not expired before its cutoff. -/
class PurgesLate (b : Backend) [Framed b] [ClaimStore b] : Prop where
  purge : ∀ (cutoffs : Cutoffs) (now : Time) (fresh : ℕ → Uuid) (s : b.State)
    (key : IdempotencyRecord.Key) (record : MutationRecord),
    ClaimStore.ledger s key = some record → cutoffs.before ≤ record.expiresAt →
    ClaimStore.ledger (b.exec (.purgeExpired cutoffs) now fresh s).2 key = some record

instance : PurgesLate .memory where
  purge cutoffs now fresh s key record hrecord hlate := by
    show (s.idempotencyRecords.filter _).find? key = some record
    rw [Table.find?_filter, show s.idempotencyRecords.find? key = some record from hrecord]
    exact Option.filter_some_pos (decide_eq_true hlate)

instance : PurgesLate .postgres where
  purge _ _ _ _ _ _ hrecord _ := hrecord

section Record

variable {b : Backend} [Framed b] [ClaimStore b] {env : Env} {w : World b}
  {key : IdempotencyRecord.Key} {record : MutationRecord} {α : Type} {op : Effect α}

/-- The claim that was granted to a key is that of a request. -/
theorem GrantedUnder.request {answer : Except Fault α} (h : GrantedUnder key op answer) :
    ∃ r : KeyedRequest, r.key = key ∧ r.GrantedBy op answer := by
  obtain ⟨claim, hclaim, hkey⟩ := Option.map_eq_some_iff.mp h
  exact ⟨claim.request, hkey, granted?_iff.mp (by rw [hclaim]; rfl)⟩

/-- A granted claim leaves the key a record. -/
theorem World.record_of_granted (h : GrantedUnder key op (env.exec op w).1) :
    ∃ record, (env.after w op).ledger key = some record := by
  obtain ⟨r, rfl, hr⟩ := h.request
  obtain ⟨record, hholds⟩ := World.holds_of_grantedBy hr
  exact ⟨record, hholds.1⟩

/-- As long as the record of the key is there, no claim of the key is granted. -/
theorem World.not_granted (hrecord : w.ledger key = some record)
    (hintime : ¬op.Outlives key record (env.clock w.tick)) :
    ¬GrantedUnder key op (env.exec op w).1 := by
  intro h
  obtain ⟨r, rfl, hr⟩ := h.request
  obtain ⟨claim, hclaim, rfl, granted, hstep⟩ := hr.step
  refine hstep.refused (r := ⟨claim.request.key, record.scope, record.requestHash⟩)
    ⟨hrecord, rfl, rfl⟩ rfl ?_ granted rfl
  rintro ⟨record', ⟨hrecord', -⟩, hexpired⟩
  obtain rfl : record = record' := Option.some.inj (hrecord.symm.trans hrecord')
  exact hintime (.inl ⟨claim, hclaim, rfl, hexpired⟩)

/-- A call that does not come too late leaves the key a record. -/
theorem World.record_after [PurgesLate b] (hrecord : w.ledger key = some record)
    (hintime : ¬op.Outlives key record (env.clock w.tick)) :
    ∃ record', (env.after w op).ledger key = some record' := by
  cases hpurges : op.purges with
  | true =>
    cases op with
    | repo op =>
      cases op with
      | purgeExpired cutoffs =>
        have hlate : cutoffs.before ≤ record.expiresAt :=
          not_lt.mp fun hlt => hintime (.inr ⟨cutoffs, rfl, hlt⟩)
        exact ⟨record, PurgesLate.purge cutoffs _ _ w.store key record hrecord hlate⟩
      | _ => cases hpurges
    | _ => cases hpurges
  | false =>
    have hholds : w.ledger.Holds ⟨key, record.scope, record.requestHash⟩ record :=
      ⟨hrecord, rfl, rfl⟩
    have hlapsed : ∀ claim ∈ op.claim?, claim.key = key →
        ¬w.ledger.Lapsed ⟨key, record.scope, record.requestHash⟩ (env.clock w.tick) := by
      rintro claim hclaim hkey ⟨record', ⟨hrecord', -⟩, hexpired⟩
      obtain rfl : record = record' := Option.some.inj (hrecord.symm.trans hrecord')
      exact hintime (.inl ⟨claim, hclaim, hkey, hexpired⟩)
    obtain ⟨record', hholds'⟩ := World.holds_after hholds hpurges hlapsed
    exact ⟨record', hholds'.1⟩

end Record

/-! ### Runs -/

section Runs

variable {b : Backend} [Framed b] [ClaimStore b] {env : Env} {svc : Service}
  {key : IdempotencyRecord.Key} {requests : List Request} {owner : Option ℕ}
  {pool : Pool Effect Fault (World b)} {e : PoolEvent Request}

/-- The event makes no call that comes too late for the record of the key. -/
def KeptFor (env : Env) (key : IdempotencyRecord.Key) (pool : Pool Effect Fault (World b))
    (e : PoolEvent Request) : Prop :=
  ∀ record ∈ pool.state.ledger key,
    ¬pool.Calls (fun op => op.Outlives key record (env.clock pool.state.tick)) e

instance (env : Env) (key : IdempotencyRecord.Key) (pool : Pool Effect Fault (World .memory))
    (e : PoolEvent Request) : Decidable (KeptFor env key pool e) :=
  inferInstanceAs (Decidable (∀ record ∈ pool.state.ledger key,
    ¬pool.Calls (fun op => op.Outlives key record (env.clock pool.state.tick)) e))

/-- The event has a request act that came under the key, as the `j`-th of all. -/
def ActsUnder (key : IdempotencyRecord.Key) (requests : List Request)
    (pool : Pool Effect Fault (World b)) (e : PoolEvent Request) (j : ℕ) : Prop :=
  e = .step j ∧ (∃ req ∈ requests[j]?, req.key = some key) ∧ pool.Calls Acts e

/-- The requests under the key wait, but for the program whose claim was granted; since it was, the
key has a record. -/
structure Keying (key : IdempotencyRecord.Key) (requests : List Request) (owner : Option ℕ)
    (pool : Pool Effect Fault (World b)) : Prop where
  arrived : pool.threads.length = requests.length
  waits : ∀ (j : ℕ) (req : Request) (p : Api Unit), requests[j]? = some req →
    req.key = some key → owner ≠ some j → pool.threads[j]? = some p → Api.KeyWaits key p
  record : owner.isSome → ∃ record, pool.state.ledger key = some record

/-- A request that arrives under the key waits. -/
theorem Keying.spawn (h : Keying key requests owner pool) (req : Request) :
    Keying key (requests ++ [req]) owner (pool.apply env.exec (Api.handle svc) (.spawn req)) := by
  refine ⟨by simp [Pool.apply, h.arrived], fun j req' p hreq hkey howner hp => ?_, h.record⟩
  have hp' : (pool.threads ++ [Api.handle svc req])[j]? = some p := hp
  rcases lt_or_ge j requests.length with hlt | hge
  · rw [List.getElem?_append_left hlt] at hreq
    rw [List.getElem?_append_left (h.arrived ▸ hlt)] at hp'
    exact h.waits j req' p hreq hkey howner hp'
  · rw [List.getElem?_append_right hge, List.getElem?_singleton] at hreq
    rw [List.getElem?_append_right (h.arrived ▸ hge), List.getElem?_singleton, h.arrived] at hp'
    split_ifs at hreq hp'
    cases hreq
    cases hp'
    exact Api.waits_handle hkey

/-- A call leaves the programs under the key waiting, unless it is granted a claim of the key:
then it was the first to be. -/
theorem Keying.call [PurgesLate b] (h : Keying key requests owner pool) {γ : Type} {op : Effect γ}
    {next : Except Fault γ → Api Unit} {i : ℕ} (hi : pool.threads[i]? = some (.call op next))
    (hkept : KeptFor env key pool (.step i)) :
    ∃ owner', (∀ j, owner = some j → owner' = some j) ∧ Keying key requests owner'
      ⟨env.after pool.state op, pool.threads.set i (next (env.exec op pool.state).1)⟩ := by
  have hlt : i < pool.threads.length := (List.getElem?_eq_some_iff.mp hi).1
  have hintime : ∀ record, pool.state.ledger key = some record →
      ¬op.Outlives key record (env.clock pool.state.tick) :=
    fun record hrecord hlate => hkept record hrecord ⟨_, hi, hlate⟩
  by_cases hgranted : GrantedUnder key op (env.exec op pool.state).1
  · refine ⟨some i, fun j hj => ?_, by simp [h.arrived], fun j req p hreq hkey hj hp => ?_,
      fun _ => World.record_of_granted hgranted⟩
    · obtain ⟨record, hrecord⟩ := h.record (by rw [hj]; rfl)
      exact absurd hgranted (World.not_granted hrecord (hintime record hrecord))
    · have hne : i ≠ j := fun heq => hj (congrArg some heq)
      rw [List.getElem?_set_ne hne] at hp
      refine h.waits j req p hreq hkey (fun howner => ?_) hp
      obtain ⟨record, hrecord⟩ := h.record (by rw [howner]; rfl)
      exact World.not_granted hrecord (hintime record hrecord) hgranted
  · refine ⟨owner, fun _ hj => hj, by simp [h.arrived], fun j req p hreq hkey hj hp => ?_,
      fun howner => ?_⟩
    · by_cases hij : i = j
      · subst hij
        rw [List.getElem?_set_self hlt] at hp
        cases hp
        exact ⟨(h.waits i req _ hreq hkey hj hi).follows.2 _ hgranted⟩
      · rw [List.getElem?_set_ne hij] at hp
        exact h.waits j req p hreq hkey hj hp
    · obtain ⟨record, hrecord⟩ := h.record howner
      exact World.record_after hrecord (hintime record hrecord)

/-- What one event preserves: the program whose claim was granted stays the one. -/
theorem Keying.apply [PurgesLate b] (h : Keying key requests owner pool)
    (hkept : KeptFor env key pool e) :
    ∃ owner', (∀ j, owner = some j → owner' = some j) ∧ Keying key (requests ++ e.arrival) owner'
      (pool.apply env.exec (Api.handle svc) e) := by
  cases e with
  | spawn req => exact ⟨owner, fun _ hj => hj, h.spawn req⟩
  | step i =>
    show ∃ owner', _ ∧ Keying key (requests ++ []) owner' (pool.stepThread env.exec i)
    rw [List.append_nil]
    rcases Pool.stepThread_cases env.exec pool i with hsame | ⟨γ, op, next, hi, hstep⟩
    · rw [hsame]
      exact ⟨owner, fun _ hj => hj, h⟩
    · rw [hstep]
      exact h.call hi hkept

/-- Only the program whose claim was granted acts under the key. -/
theorem Keying.acts (h : Keying key requests owner pool) {rest : List Request} {j : ℕ}
    (hacts : ActsUnder key (requests ++ rest) pool e j) : owner = some j := by
  obtain ⟨rfl, ⟨req, hreq, hkey⟩, p, hp, hact⟩ := hacts
  have hlt : j < requests.length := h.arrived ▸ (List.getElem?_eq_some_iff.mp hp).1
  rw [Option.mem_def, List.getElem?_append_left hlt] at hreq
  by_contra howner
  cases p with
  | call op next => exact (h.waits j req _ hreq hkey howner hp).follows.1 hact
  | _ => exact hact.elim

theorem Keying.once [PurgesLate b] {events : List (PoolEvent Request)}
    (h : Keying key requests owner pool)
    (hkept : Meets (Pool.apply env.exec (Api.handle svc)) (KeptFor env key) pool events) :
    ∃ i, (∀ j, owner = some j → j = i) ∧ Meets (Pool.apply env.exec (Api.handle svc))
      (fun pool e => ∀ j, ActsUnder key (requests ++ events.flatMap PoolEvent.arrival) pool e j →
        j = i) pool events := by
  induction events generalizing pool requests owner with
  | nil =>
    refine ⟨owner.getD 0, fun j hj => ?_, trivial⟩
    rw [hj]
    rfl
  | cons e events ih =>
    obtain ⟨owner', howner, h'⟩ := h.apply hkept.1
    obtain ⟨i, hi, hmeets⟩ := ih h' hkept.2
    refine ⟨i, fun j hj => hi j (howner j hj), fun j hj => hi j (howner j (h.acts hj)), ?_⟩
    rw [List.flatMap_cons, ← List.append_assoc]
    exact hmeets

/-- In every run of requests and jobs in which no claim of the key comes after its record has
expired and no purge takes the record, one request at most of all that come under the key acts,
whatever each of them asks for. -/
theorem keyed_applied_once [PurgesLate b] (svc : Service) (env : Env) (w : World b)
    (key : IdempotencyRecord.Key) (events : List (PoolEvent Request))
    (h : Meets (Pool.apply env.exec (Api.handle svc)) (KeptFor env key) ⟨w, []⟩ events) :
    ∃ i, Meets (Pool.apply env.exec (Api.handle svc))
      (fun pool e => ∀ j, ActsUnder key (events.flatMap PoolEvent.arrival) pool e j → j = i)
      ⟨w, []⟩ events := by
  have hstart : Keying key [] none (⟨w, []⟩ : Pool Effect Fault (World b)) :=
    ⟨rfl, fun j req p hreq => by simp at hreq, fun howner => by cases howner⟩
  obtain ⟨i, -, hmeets⟩ := hstart.once h
  exact ⟨i, hmeets⟩

end Runs

/-- An administrator whose requests all carry one key. -/
def keyedAdministrator : Caller where
  tenantId := some "acme"
  actorRole := some .tenantAdmin
  actorId := some "root"
  idempotencyKey := some "k1"

/-- A control is switched on, a hold is placed and the control is switched off, all under one key
and side by side, and the retention runs. -/
def oneKey : List (PoolEvent Request) :=
  [.spawn (.setRuntimeControl keyedAdministrator .memoryWritesEnabled
      { enabled := true, reason := "go" }),
    .spawn (.createLegalHold keyedAdministrator
      { tenantId := "acme", scope := .tenant, reason := "audit", createdBy := "root" }),
    .spawn (.setRuntimeControl keyedAdministrator .memoryWritesEnabled
      { enabled := false, reason := "stop" }),
    .spawn .runRetention] ++
  (List.replicate 14 [.step 1, .step 0, .step 2, .step 3]).flatten

theorem keyed_applied_once_oneKey :
    ∃ i, Meets (Pool.apply Env.still.exec (Api.handle .plain))
      (fun pool e => ∀ j,
        ActsUnder ("acme", "k1") (oneKey.flatMap PoolEvent.arrival) pool e j → j = i)
      ⟨World.fresh, []⟩ oneKey :=
  keyed_applied_once .plain .still World.fresh ("acme", "k1") oneKey (by decide +kernel)

end RouteShield
