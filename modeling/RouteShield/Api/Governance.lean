import RouteShield.Api.Access

/-!
Governance: change records, runtime controls of a tenant and of the platform, published
playbooks and provider onboarding.
-/

namespace RouteShield

/-- A change record of a request, in which the fields with a default factory may be left out. -/
structure ChangeRecordBody where
  changeId : Option Uuid := none
  tenantId : String
  changeType : ChangeRecordType
  name : String
  version : String
  summary : String
  riskAssessment : String
  rollbackPlan : String
  evidenceReference : Option String := none
  requestedBy : String
  approvedBy : Option String := none
  approvedAt : Option Time := none
  createdAt : Option Time := none
  deriving DecidableEq

/-- An onboarding record of a request, in which the same fields may be left out. -/
structure ProviderOnboardingBody where
  providerOnboardingId : Option Uuid := none
  tenantId : String
  providerName : String
  purpose : String
  dataClassification : String
  contractReference : Option String := none
  quotaReference : Option String := none
  ownerId : String
  status : ProviderOnboardingStatus := .draft
  approvedBy : Option String := none
  approvedAt : Option Time := none
  createdAt : Option Time := none
  deriving DecidableEq

/-- `isoformat()`, up to the spelling. -/
def isoformat (time : Time) : String := toString time

def jsonTime (time : Option Time) : Json := (time.map (fun t => Json.str (isoformat t))).getD .null

/-- The tenant under which the platform's own requests are keyed. -/
def platformTenant : String := "platform-control-plane"

def playbookId (tenantId : String) (payload : TenantPlaybookCreate) : Uuid :=
  .v5 ("routeshield:playbook:" ++ tenantId ++ ":" ++ payload.name ++ ":" ++ payload.version)

namespace Api

variable (svc : Service)

/-! ### Change records and onboarding -/

def parseChangeRecord (body : ChangeRecordBody) : Api ChangeRecord := do
  let changeId ← orDrawn body.changeId
  let createdAt ← orNow body.createdAt
  return { body with changeId, createdAt }

def createChangeRecord (caller : Caller) (body : ChangeRecordBody) : Api ChangeRecord := do
  let payload ← parseChangeRecord body
  requireRole caller.actorRole [.tenantAdmin]
  let _ ← requireActorMatchesPayload svc caller.actorId payload.requestedBy
  let tenantId ← requireTenant caller.tenantId
  require (payload.tenantId = tenantId) 403 "tenant mismatch"
  mutation svc tenantId caller.idempotencyKey "POST:/v1/governance/changes"
    (.changeRecord payload) 201 Response.ofChangeRecord do
      repo (.saveChangeRecord payload)
      return payload

def parseProviderOnboarding (body : ProviderOnboardingBody) : Api ProviderOnboardingRecord := do
  let providerOnboardingId ← orDrawn body.providerOnboardingId
  let createdAt ← orNow body.createdAt
  return { body with providerOnboardingId, createdAt }

def createProviderOnboarding (caller : Caller) (body : ProviderOnboardingBody) :
    Api ProviderOnboardingRecord := do
  let payload ← parseProviderOnboarding body
  requireRole caller.actorRole [.tenantAdmin]
  let _ ← requireActorMatchesPayload svc caller.actorId payload.ownerId
  let tenantId ← requireTenant caller.tenantId
  require (payload.tenantId = tenantId) 403 "tenant mismatch"
  mutation svc tenantId caller.idempotencyKey "POST:/v1/governance/providers"
    (.onboarding payload) 201 Response.ofOnboarding do
      repo (.saveProviderOnboarding payload)
      return payload

/-! ### Runtime controls -/

/-- The clock is read only for an update that has an expiry. -/
def requireFutureExpiry (update : RuntimeControlUpdate) : Api Unit :=
  match update.expiresAt with
  | some expiresAt => do
    let time ← now
    require (time < expiresAt) 422 "control expiry must be in the future"
  | none => pure ()

/-- The event of a changed control. -/
def emitControlChange (eventType tenantId scope : String) (controlName : RuntimeControlName)
    (update : RuntimeControlUpdate) (previousEnabled : Bool) (actorId : String) : Api Unit := do
  let correlationId ← uuid4
  emitEvent
    { eventType
      tenantId
      tripId := none
      correlationId
      actorId := some actorId
      details :=
        [("scope", .str scope),
          ("control_name", .str controlName.value),
          ("reason", .str update.reason),
          ("previous_enabled", .bool previousEnabled),
          ("enabled", .bool update.enabled),
          ("review_at", jsonTime update.reviewAt),
          ("expires_at", jsonTime update.expiresAt)] }

def applyRuntimeControl (tenantId actorId : String) (controlName : RuntimeControlName)
    (update : RuntimeControlUpdate) (previousEnabled : Bool) : Api RuntimeControlChange := do
  validate "RuntimeControlChange" (named tenantId && named actorId)
  let controlChangeId ← uuid4
  let changedAt ← now
  let record : RuntimeControlChange :=
    { update with controlChangeId, tenantId, controlName, previousEnabled, actorId, changedAt }
  repo (.saveRuntimeControlChange record)
  emitControlChange "runtime_control.changed" tenantId record.scope controlName update
    previousEnabled actorId
  return record

/-- Apply an expiring override of a tenant's control. -/
def setRuntimeControl (caller : Caller) (controlName : RuntimeControlName)
    (update : RuntimeControlUpdate) : Api RuntimeControlChange := do
  requireRole caller.actorRole [.tenantAdmin]
  let tenantId ← requireTenant caller.tenantId
  requireFutureExpiry update
  let actorId := textOr (← requireActorId svc caller.actorId) "local-compat-tenant-admin"
  let previousEnabled ← controlEnabled svc tenantId controlName
  mutation svc tenantId caller.idempotencyKey
    ("PUT:/v1/governance/runtime-controls/" ++ controlName.value) (.control update) 200
    Response.ofControlChange
    (applyRuntimeControl tenantId actorId controlName update previousEnabled)

def applyPlatformControl (actorId : String) (controlName : RuntimeControlName)
    (update : RuntimeControlUpdate) (previousEnabled : Bool) :
    Api PlatformRuntimeControlChange := do
  validate "PlatformRuntimeControlChange" (named actorId)
  let controlChangeId ← uuid4
  let changedAt ← now
  let record : PlatformRuntimeControlChange :=
    { update with controlChangeId, controlName, previousEnabled, actorId, changedAt }
  repo (.savePlatformControlChange record)
  emitControlChange "platform_runtime_control.changed" platformTenant "platform" controlName
    update previousEnabled actorId
  return record

/-- Set a default of the platform, for every tenant without an override. -/
def setPlatformRuntimeControl (caller : Caller) (controlName : RuntimeControlName)
    (update : RuntimeControlUpdate) : Api PlatformRuntimeControlChange := do
  requireRole caller.actorRole [.platformAdmin]
  requireFutureExpiry update
  let actorId := textOr (← requireActorId svc caller.actorId) "local-compat-platform-admin"
  let current ← repo (.getPlatformControlOverride controlName)
  let previousEnabled := (current.map (fun c => c.enabled)).getD
    (svc.defaultControlEnabled controlName)
  mutation svc platformTenant caller.idempotencyKey
    ("PUT:/v1/platform/runtime-controls/" ++ controlName.value) (.control update) 200
    Response.ofPlatformControlChange
    (applyPlatformControl actorId controlName update previousEnabled)

/-! ### Playbooks -/

def immutablePlaybook : String := "an immutable playbook already exists for this name and version"

def savePublished (tenantId : String) (approvedBy : String) (payload : TenantPlaybookCreate) :
    Api TenantPlaybook := do
  validate "TenantPlaybook" (named tenantId && named approvedBy)
  let approvedAt ← now
  let playbook : TenantPlaybook :=
    { payload with playbookId := playbookId tenantId payload, tenantId, approvedBy, approvedAt }
  let stored ← repo (.savePlaybook playbook)
  require (stored.guidance = playbook.guidance) 409 immutablePlaybook
  let correlationId ← uuid4
  emitEvent
    { eventType := "playbook.published"
      tenantId
      tripId := none
      correlationId
      actorId := some approvedBy
      details :=
        [("playbook_id", .str stored.playbookId.str),
          ("name", .str stored.name),
          ("version", .str stored.version)] }
  return stored

/-- Publish a version of a playbook, once: a version that exists is returned as it is. -/
def publishTenantPlaybook (caller : Caller) (payload : TenantPlaybookCreate) :
    Api TenantPlaybook := do
  requireRole caller.actorRole [.tenantAdmin]
  let tenantId ← requireTenant caller.tenantId
  let actorId ← requireActorId svc caller.actorId
  require (truthy actorId) 401 "an administrator actor identity is required"
  match ← repo (.getPlaybook tenantId (playbookId tenantId payload)) with
  | some existing => do
    require (existing.guidance = payload.guidance) 409 immutablePlaybook
    return existing
  | none =>
    mutation svc tenantId caller.idempotencyKey "POST:/v1/governance/playbooks"
      (.playbook payload) 201 Response.ofPlaybook
      (savePublished tenantId (actorId.getD "") payload)

end Api

end RouteShield
