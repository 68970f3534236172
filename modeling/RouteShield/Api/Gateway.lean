import RouteShield.Api.Access
import RouteShield.Api.SharedKeys
import RouteShield.Lib.Counters
import RouteShield.Lib.Pool
import RouteShield.Lib.Utf8

/-!
What stands before every endpoint. The middleware of a replica takes who calls from a bearer token
and puts it in place of the identity headers, counts the request with the limiter that the replicas
share, and then calls the endpoint. The shared store, the clocks, the token's issuer and the
endpoints answer from outside; any of them may raise, and the store may carry a command out and
raise all the same.
-/

namespace RouteShield

/-! ### Requests -/

/-- A header as the server passes it on: a name, in lower case, and the bytes of its value. -/
structure Header where
  name : String
  value : List UInt8
  deriving DecidableEq

/-- `str.encode`. -/
def utf8 (text : String) : List UInt8 := Utf8.encode text.toList

/-- A value's text, as headers are read. -/
def headerText (value : List UInt8) : String := .ofList (Utf8.latin1 value)

def UserRole.value : UserRole → String
  | .traveler => "traveler"
  | .travelManager => "travel_manager"
  | .dutyOfCare => "duty_of_care"
  | .tenantAdmin => "tenant_admin"
  | .platformAdmin => "platform_admin"

/-- `UserRole(value)`. -/
def UserRole.ofValue? (value : String) : Option UserRole :=
  [traveler, travelManager, dutyOfCare, tenantAdmin, platformAdmin].find?
    fun role => role.value = value

structure AuthenticatedActor where
  actorId : String
  tenantId : String
  role : UserRole
  deriving DecidableEq

structure HttpRequest where
  path : String
  headers : List Header
  client : Option String := none
  actor : Option AuthenticatedActor := none
  deriving DecidableEq

structure HttpResponse where
  status : ℕ
  content : String := ""
  headers : List (String × String) := []
  deriving DecidableEq

/-- `headers[name] = value`: in the place of the first of the name, or at the end. -/
def setHeader (headers : List (String × String)) (name value : String) : List (String × String) :=
  let (before, rest) := headers.span fun header => header.1 ≠ name
  match rest with
  | [] => headers ++ [(name, value)]
  | _ :: after => before ++ (name, value) :: after.filter fun header => header.1 ≠ name

def HttpResponse.setHeader (response : HttpResponse) (name value : String) : HttpResponse :=
  { response with headers := RouteShield.setHeader response.headers name value }

def identityHeaders : List String := ["x-tenant-id", "x-actor-id", "x-actor-role"]

namespace HttpRequest

variable (request : HttpRequest)

/-- `request.headers.get`: the first header of the name. -/
def header (name : String) : Option String :=
  (request.headers.find? fun header => header.name = name).map fun header => headerText header.value

def isHealthCheck : Bool := request.path = "/health"

def isSignedWebhook : Bool := request.path = "/v1/webhooks/booking"

def isInternalJob : Bool := "/v1/internal/".toList.isPrefixOf request.path.toList

/-- Paths that are served without a token. -/
def isExempt : Bool := request.isHealthCheck || request.isSignedWebhook || request.isInternalJob

/-- The request with the identity of its token in place of the identity headers. -/
def trusted (actor : AuthenticatedActor) : HttpRequest :=
  { request with
    actor := some actor
    headers := request.headers.filter (fun header => header.name.toLower ∉ identityHeaders) ++
      [⟨"x-tenant-id", utf8 actor.tenantId⟩, ⟨"x-actor-id", utf8 actor.actorId⟩,
        ⟨"x-actor-role", utf8 actor.role.value⟩] }

/-- What the request is counted under. -/
def limitKey : String :=
  match request.actor with
  | some actor =>
    rateLimitKey actor.tenantId (some actor.actorId) (request.client.getD "unknown") request.path
  | none =>
    rateLimitKey ((request.header "x-tenant-id").getD "anonymous") (request.header "x-actor-id")
      (request.client.getD "unknown") request.path

/-- The caller an endpoint reads from the headers; a role that is none of the five is refused. -/
def caller : Except Fault Caller :=
  match request.header "x-actor-role" with
  | none => .ok
    { tenantId := request.header "x-tenant-id"
      actorId := request.header "x-actor-id"
      idempotencyKey := request.header "idempotency-key" }
  | some value =>
    match UserRole.ofValue? value with
    | some role => .ok
      { tenantId := request.header "x-tenant-id"
        actorRole := some role
        actorId := request.header "x-actor-id"
        idempotencyKey := request.header "idempotency-key" }
    | none => .error (.validation "x-actor-role")

end HttpRequest

/-- The token behind `Bearer `, split off at the first blank. -/
def bearerToken (authorization : String) : Option String :=
  let scheme := authorization.toList.takeWhile (· ≠ ' ')
  let token := (authorization.toList.dropWhile (· ≠ ' ')).drop 1
  if scheme.map Char.toLower = "bearer".toList ∧ token ≠ [] then some (.ofList token) else none

/-! ### The shared limiter -/

/-- The key of a counter in the shared store. -/
structure RedisKey where
  windowStart : ℤ
  key : String
  deriving DecidableEq

def RedisKey.str (k : RedisKey) : String :=
  "routeshield:rate-limit:" ++ toString k.windowStart ++ ":" ++ k.key

/-- What the middleware calls on the replica it runs in. -/
inductive GatewayOp : Type → Type 1 where
  | clock (replica : ℕ) : GatewayOp Time
  | incr (key : RedisKey) : GatewayOp ℕ
  | expire (key : RedisKey) (seconds : ℕ) : GatewayOp Unit
  | checkLocal (replica : ℕ) (key : String) : GatewayOp RateLimitResult
  | decodeToken (token issuer audience jwksUrl : String) : GatewayOp JsonObject
  | callNext (request : HttpRequest) : GatewayOp HttpResponse

abbrev Middleware := Prog GatewayOp Fault

structure RedisFixedWindowRateLimiter where
  limit : ℕ
  windowSeconds : ℕ
  limit_pos : 1 ≤ limit
  window_pos : 1 ≤ windowSeconds

namespace RedisFixedWindowRateLimiter

/-- `__init__`. -/
def new (limit : ℤ) (window : Timedelta) : Except Fault RedisFixedWindowRateLimiter :=
  if hinvalid : limit < 1 ∨ window.val ≤ 0 then
    .error (.value "Redis rate limiter requires positive limit and window")
  else .ok
    { limit := limit.toNat
      windowSeconds := (max 1 (truncate (totalSeconds window.val))).toNat
      limit_pos := by omega
      window_pos := by omega }

variable (limiter : RedisFixedWindowRateLimiter)

/-- `int(now.timestamp())`. -/
def epoch (now : Time) : ℤ := truncate (totalSeconds now)

def windowStart (now : Time) : ℤ := epoch now - epoch now % limiter.windowSeconds

def decision (now : Time) (count : ℕ) : RateLimitResult where
  allowed := count ≤ limiter.limit
  limit := limiter.limit
  remaining := limiter.limit - count
  retryAfterSeconds :=
    if limiter.limit < count then
      max 1 (limiter.windowSeconds - (epoch now - limiter.windowStart now))
    else 0

/-- The first count of a window gives its counter a deadline. -/
def expireFirst (redisKey : RedisKey) (count : ℕ) : Middleware Unit :=
  if count = 1 then .perform (.expire redisKey (limiter.windowSeconds + 1)) else pure ()

def check (replica : ℕ) (key : String) : Middleware RateLimitResult := do
  let now ← .perform (.clock replica)
  let count ← .perform (.incr ⟨limiter.windowStart now, key⟩)
  limiter.expireFirst ⟨limiter.windowStart now, key⟩ count
  return limiter.decision now count

end RedisFixedWindowRateLimiter

/-! ### The middleware -/

/-- The configuration of the replicas, and `repr` of a number with a fraction, of a list and of a
mapping, which `str` of a claim comes to. -/
structure Gateway where
  requireOidc : Bool := false
  rateLimitRedisRequired : Bool := false
  sharedRateLimiter : Option RedisFixedWindowRateLimiter := none
  oidcIssuer : Option String := none
  oidcAudience : Option String := none
  oidcJwksUrl : Option String := none
  actorIdClaim : String := "sub"
  tenantIdClaim : String := "tenant_id"
  roleClaim : String := "role"
  reprOf : Json → String

namespace Gateway

variable (gw : Gateway)

/-- `str` of a claim. -/
def claimText : Json → String
  | .str text => text
  | .num (.int n) => toString n
  | .bool true => "True"
  | .bool false => "False"
  | .null => "None"
  | claim => gw.reprOf claim

/-- The identity that the claims of a verified token name. -/
def actorOf (claims : JsonObject) : Except Fault AuthenticatedActor :=
  match Json.get? claims gw.actorIdClaim, Json.get? claims gw.tenantIdClaim,
    Json.get? claims gw.roleClaim with
  | some actorId, some tenantId, some (.str role) =>
    match UserRole.ofValue? role with
    | some role => .ok
      { actorId := gw.claimText actorId
        tenantId := gw.claimText tenantId
        role }
    | none => .error (.value "token is missing RouteShield authorization claims")
  | _, _, _ => .error (.value "token is missing RouteShield authorization claims")

def validateBearerToken (token : String) : Middleware AuthenticatedActor :=
  match gw.oidcIssuer.filter (· ≠ ""), gw.oidcAudience.filter (· ≠ ""),
    gw.oidcJwksUrl.filter (· ≠ "") with
  | some issuer, some audience, some jwksUrl => do
    let claims ← .perform (.decodeToken token issuer audience jwksUrl)
    .ofExcept (gw.actorOf claims)
  | _, _, _ => .throw (.value "OIDC is not configured")

def invalidToken : HttpResponse := { status := 401, content := "invalid bearer token" }

/-- The request to go on with, or the response that refuses it. -/
def authenticate (request : HttpRequest) : Middleware (Except HttpResponse HttpRequest) :=
  match (request.header "authorization").filter (· ≠ "") with
  | some authorization =>
    match bearerToken authorization with
    | none => return .error invalidToken
    | some token => do
      match ← (gw.validateBearerToken token).catching with
      | .error _ => return .error invalidToken
      | .ok actor =>
        if (request.header "x-tenant-id").any fun tenant => tenant ≠ "" && tenant ≠ actor.tenantId
        then return .error { status := 403, content := "tenant claim mismatch" }
        else return .ok (request.trusted actor)
  | none =>
    if gw.requireOidc && !request.isExempt then
      return .error { status := 401, content := "bearer token is required" }
    else return .ok request

/-- The shared limiter decides, and the replica's own when there is none or when it fails and is not
required. -/
def limitRate (replica : ℕ) (key : String) : Middleware (Option RateLimitResult) :=
  match gw.sharedRateLimiter with
  | none => some <$> .perform (.checkLocal replica key)
  | some limiter => do
    match ← (limiter.check replica key).catching with
    | .ok decision => return some decision
    | .error _ =>
      if gw.rateLimitRedisRequired then return none
      else some <$> .perform (.checkLocal replica key)

def tooManyRequests (decision : RateLimitResult) : HttpResponse where
  status := 429
  content := "rate limit exceeded"
  headers :=
    [("retry-after", toString decision.retryAfterSeconds),
      ("x-ratelimit-limit", toString decision.limit), ("x-ratelimit-remaining", "0")]

/-- A response tells what is left of the limit, except that of a health check. -/
def withLimits (request : HttpRequest) (decision : RateLimitResult) (response : HttpResponse) :
    HttpResponse :=
  if request.isHealthCheck then response
  else (response.setHeader "x-ratelimit-limit" (toString decision.limit)).setHeader
    "x-ratelimit-remaining" (toString decision.remaining)

/-- The limiter decides on a request, and the endpoint is called. -/
def limited (replica : ℕ) (request : HttpRequest) : Middleware HttpResponse := do
  match ← gw.limitRate replica request.limitKey with
  | none => return { status := 503, content := "rate limit service unavailable" }
  | some decision =>
    if !request.isHealthCheck && !decision.allowed then return tooManyRequests decision
    else withLimits request decision <$> .perform (.callNext request)

def enforceRateLimit (replica : ℕ) (request : HttpRequest) : Middleware HttpResponse := do
  match ← gw.authenticate request with
  | .error refusal => return refusal
  | .ok request => gw.limited replica request

/-- A request of a replica, run in a pool. -/
def serve (arrival : ℕ × HttpRequest) : Middleware Unit :=
  discard (gw.enforceRateLimit arrival.1 arrival.2)

end Gateway

/-! ### The replicas and what they share -/

/-- How the shared store takes a command: it answers, it refuses it, or its answer is lost. -/
inductive Reply where
  | answered | refused | lost

/-- The clock of the shared store and its counters, the limiters of the replicas, the tokens that
were decoded and the requests that were served. -/
structure Fleet where
  tick : ℕ := 0
  time : Time := 0
  counters : String → Option (Counter Time) := fun _ => none
  limiters : ℕ → FixedWindowRateLimiter
  decoded : List (String × JsonObject) := []
  served : List HttpRequest := []

/-- What the replicas find around them at each tick. -/
structure FleetEnv where
  elapsed : ℕ → ℕ
  clock : ℕ → ℕ → Time
  reply : ℕ → Reply
  claims : ℕ → String → Except Fault JsonObject
  endpoint : ℕ → HttpRequest → Except Fault HttpResponse

namespace Fleet

variable (fleet : Fleet)

/-- Time goes on after a call. -/
def later (env : FleetEnv) : Fleet :=
  { fleet with tick := fleet.tick + 1, time := fleet.time + env.elapsed fleet.tick }

def count (k : RedisKey) : Counter Time :=
  Counter.incremented fleet.time (fleet.counters k.str)

def increment (k : RedisKey) : Fleet :=
  { fleet with counters := Function.update fleet.counters k.str (some (fleet.count k)) }

def setDeadline (k : RedisKey) (after : ℕ) : Fleet :=
  { fleet with
    counters := Function.update fleet.counters k.str
      (Counter.expiring fleet.time (fleet.time + seconds after) (fleet.counters k.str)) }

def checked (replica : ℕ) (limiter : FixedWindowRateLimiter) : Fleet :=
  { fleet with limiters := Function.update fleet.limiters replica limiter }

def decode (token : String) (claims : JsonObject) : Fleet :=
  { fleet with decoded := fleet.decoded ++ [(token, claims)] }

def serve (request : HttpRequest) : Fleet :=
  { fleet with served := fleet.served ++ [request] }

end Fleet

/-- The answer to a command and the fleet once the store has taken it. -/
def Reply.take {α : Type} (reply : Reply) (answer : α) (fleet taken : Fleet) :
    Except Fault α × Fleet :=
  match reply with
  | .answered => (.ok answer, taken)
  | .refused => (.error (.value "redis"), fleet)
  | .lost => (.error (.value "redis"), taken)

/-- One call. -/
def FleetEnv.exec (env : FleetEnv) {α : Type} (op : GatewayOp α) (fleet : Fleet) :
    Except Fault α × Fleet :=
  match op with
  | .clock replica => (.ok (env.clock replica fleet.tick), fleet.later env)
  | .incr k =>
    ((env.reply fleet.tick).take (fleet.count k).count (fleet.later env)
      ((fleet.increment k).later env))
  | .expire k after =>
    ((env.reply fleet.tick).take () (fleet.later env) ((fleet.setDeadline k after).later env))
  | .checkLocal replica key =>
    let (decision, limiter) :=
      (fleet.limiters replica).check key (env.clock replica fleet.tick)
    (.ok decision, (fleet.checked replica limiter).later env)
  | .decodeToken token _ _ _ =>
    match env.claims fleet.tick token with
    | .ok claims => (.ok claims, (fleet.decode token claims).later env)
    | .error fault => (.error fault, fleet.later env)
  | .callNext request => (env.endpoint fleet.tick request, (fleet.serve request).later env)

end RouteShield
