import RouteShield.Api.Gateway
import RouteShield.Api.ReadIsolation

/-!
Who an endpoint takes its caller to be. The identity headers that reach an endpoint are those of the
token that was verified, whatever the client sends, so behind the middleware the answer of a reading
endpoint is decided by the records of the token's tenant.
-/

namespace RouteShield

/-! ### The identity headers -/

theorem headerText_utf8_injective : Function.Injective fun text => headerText (utf8 text) :=
  fun _ _ h => String.toList_injective
    (Utf8.encode_injective (Utf8.latin1_injective (String.ofList_injective h)))

/-- The caller that an endpoint reads for a token's identity. -/
def AuthenticatedActor.caller (actor : AuthenticatedActor) (idempotencyKey : Option String) :
    Caller where
  tenantId := some (headerText (utf8 actor.tenantId))
  actorRole := some actor.role
  actorId := some (headerText (utf8 actor.actorId))
  idempotencyKey

theorem UserRole.ofValue?_value (role : UserRole) :
    ofValue? (headerText (utf8 role.value)) = some role := by
  cases role <;> decide +kernel

namespace HttpRequest

variable (request : HttpRequest) (actor : AuthenticatedActor) {name : String}

/-- Other headers are as the client sent them. -/
theorem header_trusted (hlower : name.toLower ∉ identityHeaders) (hname : name ∉ identityHeaders) :
    (request.trusted actor).header name = request.header name := by
  have hkept : (fun header : Header =>
      decide (decide (header.name.toLower ∉ identityHeaders) = true ∧
        decide (header.name = name) = true)) = fun header => decide (header.name = name) := by
    funext header
    by_cases hheader : header.name = name
    · simp [hheader, hlower]
    · simp [hheader]
  have hnone : ([⟨"x-tenant-id", utf8 actor.tenantId⟩, ⟨"x-actor-id", utf8 actor.actorId⟩,
      ⟨"x-actor-role", utf8 actor.role.value⟩] : List Header).find?
        (fun header => header.name = name) = none := by
    rw [List.find?_eq_none]
    intro header hmem hheader
    refine hname (of_decide_eq_true hheader ▸ ?_)
    simp only [List.mem_cons, List.not_mem_nil, or_false] at hmem
    rcases hmem with rfl | rfl | rfl <;> simp [identityHeaders]
  unfold header trusted
  rw [List.find?_append, List.find?_filter, hkept, hnone, Option.or_none]

/-- No identity header of the client is left. -/
theorem find?_kept (hlower : name.toLower ∈ identityHeaders) :
    (request.headers.filter fun header => header.name.toLower ∉ identityHeaders).find?
      (fun header => header.name = name) = none := by
  rw [List.find?_eq_none]
  intro header hmem hheader
  obtain rfl := of_decide_eq_true hheader
  exact of_decide_eq_true (List.mem_filter.mp hmem).2 hlower

theorem header_tenant :
    (request.trusted actor).header "x-tenant-id" = some (headerText (utf8 actor.tenantId)) := by
  unfold header trusted
  rw [List.find?_append, find?_kept _ (by decide +kernel)]
  rfl

theorem header_actor :
    (request.trusted actor).header "x-actor-id" = some (headerText (utf8 actor.actorId)) := by
  unfold header trusted
  rw [List.find?_append, find?_kept _ (by decide +kernel)]
  rfl

theorem header_role :
    (request.trusted actor).header "x-actor-role" = some (headerText (utf8 actor.role.value)) := by
  unfold header trusted
  rw [List.find?_append, find?_kept _ (by decide +kernel)]
  rfl

theorem caller_trusted :
    (request.trusted actor).caller = .ok (actor.caller (request.header "idempotency-key")) := by
  unfold caller
  rw [header_role]
  dsimp only
  rw [UserRole.ofValue?_value, header_tenant, header_actor,
    header_trusted _ _ (by decide +kernel) (by decide)]
  rfl

end HttpRequest

/-! ### Requests behind a token -/

namespace Gateway

variable (gw : Gateway)

/-- The endpoint is served to those only whom a token names. -/
def NeedsToken (request : HttpRequest) : Prop :=
  (gw.requireOidc = true ∧ request.isExempt = false) ∨
    ∃ authorization, request.header "authorization" = some authorization ∧ authorization ≠ ""

/-- The request bears a token with the claims, and its endpoint is served it with the identity that
they name in place of the identity headers. -/
structure Named (token : String) (claims : JsonObject) (request served : HttpRequest)
    (actor : AuthenticatedActor) : Prop where
  bears : (request.header "authorization").bind bearerToken = some token
  claimed : gw.actorOf claims = .ok actor
  trusted : served = request.trusted actor
  reads : served.caller = .ok (actor.caller (request.header "idempotency-key"))
  others : ∀ name, name ∉ identityHeaders → name.toLower ∉ identityHeaders →
    served.header name = request.header name

theorem named_trusted {token : String} {claims : JsonObject} {request : HttpRequest}
    {actor : AuthenticatedActor}
    (hbears : (request.header "authorization").bind bearerToken = some token)
    (hclaimed : gw.actorOf claims = .ok actor) :
    gw.Named token claims request (request.trusted actor) actor where
  bears := hbears
  claimed := hclaimed
  trusted := rfl
  reads := request.caller_trusted actor
  others _ hname hlower := request.header_trusted actor hlower hname

/-- A request that came is served: as it came where it needs no token, or for a decoded token that
it bears. -/
def Passes (decoded : List (String × JsonObject)) (request served : HttpRequest) : Prop :=
  ¬gw.NeedsToken request ∧ served = request ∨
    ∃ token claims actor, (token, claims) ∈ decoded ∧ gw.Named token claims request served actor

variable {gw} in
theorem Passes.mono {decoded decoded' : List (String × JsonObject)} {request served : HttpRequest}
    (h : gw.Passes decoded request served) (hsub : ∀ x ∈ decoded, x ∈ decoded') :
    gw.Passes decoded' request served := by
  rcases h with hplain | ⟨token, claims, actor, htoken, hnamed⟩
  · exact .inl hplain
  · exact .inr ⟨token, claims, actor, hsub _ htoken, hnamed⟩

/-- A request on its way, with the token it was verified with. -/
structure Transit where
  request : HttpRequest
  verified : Option (String × JsonObject) := none

def verifying : Prog.Contract GatewayOp Fault Transit where
  allowed transit := fun
    | .callNext served => gw.Passes transit.verified.toList transit.request served
    | _ => True
  promised _ := fun _ _ => True
  advance transit := fun op answer =>
    match op, answer with
    | .decodeToken token _ _ _, .ok claims => { transit with verified := some (token, claims) }
    | _, _ => transit
  stop _ := True

/-- The calls of a limiter. -/
def limiting : {α : Type} → GatewayOp α → Prop
  | _, .callNext _ | _, .decodeToken _ _ _ _ => False
  | _, _ => True

open Prog

theorem only_catching {P : ∀ {γ : Type}, GatewayOp γ → Prop} {α : Type} {p : Middleware α}
    (hp : p.Only P) : p.catching.Only P := by
  induction p with
  | pure a => trivial
  | throw e => trivial
  | call op next ih => exact ⟨hp.1, fun r => ih r (hp.2 r)⟩

theorem only_check (limiter : RedisFixedWindowRateLimiter) (replica : ℕ) (key : String) :
    (limiter.check replica key).Only limiting := by
  refine only_bind (only_perform trivial) fun now => ?_
  refine only_bind (only_perform trivial) fun count => ?_
  refine only_bind ?_ fun _ => only_pure _
  unfold RedisFixedWindowRateLimiter.expireFirst
  split_ifs
  · exact only_perform trivial
  · exact only_pure _

theorem only_limitRate (replica : ℕ) (key : String) :
    (gw.limitRate replica key).Only limiting := by
  unfold limitRate
  cases gw.sharedRateLimiter with
  | none => exact only_map (only_perform trivial)
  | some limiter =>
    refine only_bind (only_catching (only_check limiter replica key)) fun decision => ?_
    cases decision with
    | ok decision => exact only_pure _
    | error fault =>
      show Prog.Only _ (ite _ _ _)
      split_ifs
      · exact only_pure _
      · exact only_map (only_perform trivial)

theorem limitRate_verifying (replica : ℕ) (key : String) (transit : Transit) :
    (gw.limitRate replica key).Follows gw.verifying (fun transit' _ => transit' = transit)
      transit := by
  refine (gw.only_limitRate replica key).keeps (fun op hop => ?_) (fun op answer hop => ?_) trivial
  · cases op with
    | callNext => exact hop.elim
    | _ => trivial
  · cases op with
    | decodeToken => exact hop.elim
    | _ => rfl

/-- A token is validated by its claims. -/
theorem validateBearerToken_verifying (request : HttpRequest) (token : String) :
    (gw.validateBearerToken token).catching.Follows gw.verifying
      (fun transit answer => ∀ actor, answer = .ok actor →
        ∃ claims, transit = ⟨request, some (token, claims)⟩ ∧ gw.actorOf claims = .ok actor)
      ⟨request, none⟩ := by
  refine follows_catching ?_
  unfold validateBearerToken
  split
  · refine follows_bind (P := fun transit claims => transit = ⟨request, some (token, claims)⟩)
      (follows_perform trivial (fun _ _ => rfl) fun _ _ _ _ h => by cases h) ?_
    rintro _ claims rfl
    cases hactor : gw.actorOf claims with
    | ok actor =>
      refine follows_pure fun actor' h => ?_
      cases h
      exact ⟨claims, rfl, hactor⟩
    | error fault => exact follows_throw fun _ _ h => by cases h
  · exact follows_throw fun _ _ h => by cases h

theorem authenticate_verifying (request : HttpRequest) :
    (gw.authenticate request).Follows gw.verifying
      (fun transit answer => ∀ served, answer = .ok served →
        gw.Passes transit.verified.toList transit.request served)
      ⟨request, none⟩ := by
  unfold authenticate
  cases hauthorization : (request.header "authorization").filter (· ≠ "") with
  | none =>
    dsimp only
    split_ifs with hrefused
    · exact follows_pure fun _ h => by cases h
    · refine follows_pure fun served h => ?_
      cases h
      refine .inl ⟨fun hneeds => ?_, rfl⟩
      rcases hneeds with ⟨hoidc, hexempt⟩ | ⟨authorization, hheader, hne⟩
      · exact absurd (by simp [hoidc, hexempt]) hrefused
      · rw [hheader] at hauthorization
        simp [hne] at hauthorization
  | some authorization =>
    obtain ⟨hheader, -⟩ := Option.filter_eq_some_iff.mp hauthorization
    dsimp only
    cases htoken : bearerToken authorization with
    | none => exact follows_pure fun _ h => by cases h
    | some token =>
      refine follows_bind (gw.validateBearerToken_verifying request token)
        fun transit answer h => ?_
      cases answer with
      | error fault => exact follows_pure fun _ h => by cases h
      | ok actor =>
        obtain ⟨claims, rfl, hactor⟩ := h actor rfl
        dsimp only
        split_ifs
        · exact follows_pure fun _ h => by cases h
        · refine follows_pure fun served h => ?_
          cases h
          have hbears : (request.header "authorization").bind bearerToken = some token := by
            rw [hheader]
            exact htoken
          exact .inr ⟨token, claims, actor, List.mem_singleton_self _,
            gw.named_trusted hbears hactor⟩

/-- An endpoint is called with a request that passes. -/
theorem enforceRateLimit_verifying (replica : ℕ) (request : HttpRequest) :
    (gw.enforceRateLimit replica request).Follows gw.verifying (fun _ _ => True)
      ⟨request, none⟩ := by
  refine follows_bind (gw.authenticate_verifying request) fun transit answer h => ?_
  cases answer with
  | error refusal => exact follows_pure trivial
  | ok served =>
    refine follows_bind (gw.limitRate_verifying replica served.limitKey transit) ?_
    rintro _ decision rfl
    cases decision with
    | none => exact follows_pure trivial
    | some decision =>
      dsimp only
      split_ifs
      · exact follows_pure trivial
      · exact follows_map (follows_perform (h served rfl) (fun _ _ => trivial) fun _ _ => trivial)

theorem serve_verifying (arrival : ℕ × HttpRequest) :
    (gw.serve arrival).Follows gw.verifying (fun _ _ => True) ⟨arrival.2, none⟩ :=
  follows_bind (gw.enforceRateLimit_verifying _ _) fun _ _ _ => trivial

end Gateway

/-! ### What the replicas serve -/

/-- Every served request is one that came, and if that needs a token it bears one that was decoded,
and its endpoint reads the caller that the token's claims name, and all else as it came; requests
that read as one tenant's bear tokens of one tenant. -/
structure Fleet.Identified (gw : Gateway) (came : HttpRequest → Prop) (fleet : Fleet) : Prop where
  served : ∀ served ∈ fleet.served, ∃ request, came request ∧
    gw.Passes fleet.decoded request served
  apart : ∀ {request request' served served' : HttpRequest} {token token' : String}
    {claims claims' : JsonObject} {actor actor' : AuthenticatedActor} {caller caller' : Caller},
    gw.Named token claims request served actor → gw.Named token' claims' request' served' actor' →
      served.caller = .ok caller → served'.caller = .ok caller' →
      caller.tenantId = caller'.tenantId → actor.tenantId = actor'.tenantId

section Serving

variable {gw : Gateway} {env : FleetEnv} {fleet : Fleet}

@[simp] theorem Fleet.later_decoded : (fleet.later env).decoded = fleet.decoded := rfl

@[simp] theorem Fleet.later_served : (fleet.later env).served = fleet.served := rfl

theorem Gateway.Named.tenant {request request' served served' : HttpRequest}
    {token token' : String} {claims claims' : JsonObject} {actor actor' : AuthenticatedActor}
    {caller caller' : Caller} (h : gw.Named token claims request served actor)
    (h' : gw.Named token' claims' request' served' actor') (hcaller : served.caller = .ok caller)
    (hcaller' : served'.caller = .ok caller') (htenant : caller.tenantId = caller'.tenantId) :
    actor.tenantId = actor'.tenantId := by
  obtain rfl := Except.ok.inj (hcaller.symm.trans h.reads)
  obtain rfl := Except.ok.inj (hcaller'.symm.trans h'.reads)
  exact headerText_utf8_injective (Option.some.inj htenant)

/-- The requests on their way came, the tokens they were verified with are decoded, and the served
passed. -/
structure Verifies (gw : Gateway) (came : HttpRequest → Prop) (transits : List Gateway.Transit)
    (fleet : Fleet) : Prop where
  arrived : ∀ transit ∈ transits, came transit.request
  decoded : ∀ transit ∈ transits, ∀ x ∈ transit.verified, x ∈ fleet.decoded
  served : ∀ served ∈ fleet.served, ∃ request, came request ∧
    gw.Passes fleet.decoded request served

/-- The request that an endpoint is called with. -/
def GatewayOp.called? : {α : Type} → GatewayOp α → Option HttpRequest
  | _, .callNext request => some request
  | _, _ => none

/-- What a call leaves of the decoded tokens and of the served requests. -/
theorem FleetEnv.exec_log (env : FleetEnv) {α : Type} (op : GatewayOp α) (fleet : Fleet) :
    (∀ x ∈ fleet.decoded, x ∈ (env.exec op fleet).2.decoded) ∧
      ∀ request ∈ (env.exec op fleet).2.served,
        request ∈ fleet.served ∨ op.called? = some request := by
  cases op with
  | clock | checkLocal => exact ⟨fun _ hx => hx, fun _ hr => .inl hr⟩
  | incr | expire =>
    unfold FleetEnv.exec Reply.take
    dsimp only
    split <;> exact ⟨fun _ hx => hx, fun _ hr => .inl hr⟩
  | decodeToken token _ _ _ =>
    unfold FleetEnv.exec
    dsimp only
    split
    · exact ⟨fun _ hx => List.mem_append_left _ hx, fun _ hr => .inl hr⟩
    · exact ⟨fun _ hx => hx, fun _ hr => .inl hr⟩
  | callNext request =>
    refine ⟨fun _ hx => hx, fun r hr => ?_⟩
    rcases List.mem_append.mp hr with hr | hr
    · exact .inl hr
    · rw [List.mem_singleton.mp hr]
      exact .inr rfl

/-- A call leaves the request that is on its way. -/
theorem Gateway.advance_request (transit : Gateway.Transit) {α : Type} (op : GatewayOp α)
    (answer : Except Fault α) :
    (gw.verifying.advance transit op answer).request = transit.request := by
  unfold Gateway.verifying
  dsimp only
  split <;> rfl

theorem Verifies.call {came : HttpRequest → Prop} {transits : List Gateway.Transit}
    {transit : Gateway.Transit} {i : ℕ} {α : Type} {op : GatewayOp α}
    (h : Verifies gw came transits fleet) (hi : transits[i]? = some transit)
    (hallowed : gw.verifying.allowed transit op) :
    Verifies gw came (transits.set i (gw.verifying.advance transit op (env.exec op fleet).1))
      (env.exec op fleet).2 := by
  obtain ⟨hdecoded, hserved⟩ := env.exec_log op fleet
  have htransit := List.mem_of_getElem? hi
  refine ⟨fun transit' hmem => ?_, fun transit' hmem x hx => ?_, fun served hmem => ?_⟩
  · rcases List.mem_or_eq_of_mem_set hmem with hmem | rfl
    · exact h.arrived transit' hmem
    · rw [Gateway.advance_request]
      exact h.arrived transit htransit
  · rcases List.mem_or_eq_of_mem_set hmem with hmem | rfl
    · exact hdecoded x (h.decoded transit' hmem x hx)
    · have hkept := h.decoded transit htransit
      cases op with
      | decodeToken token issuer audience jwksUrl =>
        revert hx
        unfold FleetEnv.exec
        dsimp only
        cases env.claims fleet.tick token with
        | ok claims =>
          intro hx
          obtain rfl := Option.some.inj hx
          exact List.mem_append_right _ (List.mem_singleton_self _)
        | error fault => exact fun hx => hkept x hx
      | _ => exact hdecoded x (hkept x hx)
  · rcases hserved served hmem with hmem | hop
    · obtain ⟨request, hcame, hpasses⟩ := h.served served hmem
      exact ⟨request, hcame, hpasses.mono hdecoded⟩
    · cases op with
      | callNext served' =>
        obtain rfl := Option.some.inj hop
        refine ⟨transit.request, h.arrived transit htransit, hallowed.mono fun x hx => ?_⟩
        exact h.decoded transit htransit x (Option.mem_toList.mp hx)
      | _ => cases hop

/-- In every run of requests through the middleware of any replicas, each call one step and any
request stopped at any call, whatever the store, the clocks, the issuer and the endpoints answer. -/
theorem served_identified (gw : Gateway) (env : FleetEnv) (fleet : Fleet)
    (hserved : fleet.served = []) (events : List (PoolEvent (ℕ × HttpRequest))) :
    (runFrom (Pool.apply env.exec gw.serve) ⟨fleet, []⟩ events).state.Identified gw
      fun request => ∃ replica, .spawn (replica, request) ∈ events := by
  let came : HttpRequest → Prop := fun request => ∃ replica, .spawn (replica, request) ∈ events
  have hstart : (⟨fleet, []⟩ : Pool GatewayOp Fault Fleet).Joint gw.verifying (fun _ _ => True)
      (Verifies gw came) := by
    refine ⟨[], .nil, ⟨fun _ h => absurd h List.not_mem_nil, fun _ h => absurd h List.not_mem_nil,
      fun served hmem => ?_⟩⟩
    rw [hserved] at hmem
    exact absurd hmem List.not_mem_nil
  have hstep : ∀ (pool : Pool GatewayOp Fault Fleet) (e : PoolEvent (ℕ × HttpRequest)),
      pool.Joint gw.verifying (fun _ _ => True) (Verifies gw came) → e ∈ events ∧ True →
        (pool.apply env.exec gw.serve e).Joint gw.verifying (fun _ _ => True)
          (Verifies gw came) := by
    intro pool e h he
    refine Pool.joint_apply h e (fun arrival transits hspawn hverifies => ?_) ?_
    · refine ⟨⟨arrival.2, none⟩, gw.serve_verifying arrival, ⟨fun transit hmem => ?_,
        fun transit hmem x hx => ?_, hverifies.served⟩⟩
      · rcases List.mem_append.mp hmem with hmem | hmem
        · exact hverifies.arrived transit hmem
        · rw [List.mem_singleton.mp hmem]
          exact ⟨arrival.1, hspawn ▸ he.1⟩
      · rcases List.mem_append.mp hmem with hmem | hmem
        · exact hverifies.decoded transit hmem x hx
        · rw [List.mem_singleton.mp hmem] at hx
          cases hx
    · exact fun op _ i transits transit _ _ hverifies hi hallowed =>
        ⟨trivial, hverifies.call hi hallowed⟩
  obtain ⟨transits, -, hverifies⟩ := runFrom_inv _ hstep hstart
    ((meets_true _ events).and_forall fun _ he => he)
  exact ⟨hverifies.served, fun h h' => h.tenant h'⟩

/-- A deployment that asks for tokens and shares no limiter. -/
def oidcGateway : Gateway where
  requireOidc := true
  oidcIssuer := some "issuer"
  oidcAudience := some "api"
  oidcJwksUrl := some "keys"
  reprOf _ := ""

/-- A client that claims to be another tenant's administrator. -/
def impostor : HttpRequest where
  path := "/v1/incidents"
  headers :=
    [⟨"authorization", utf8 "Bearer token"⟩, ⟨"x-actor-role", utf8 "tenant_admin"⟩,
      ⟨"x-actor-id", utf8 "root"⟩, ⟨"idempotency-key", utf8 "k1"⟩]

/-- An issuer that names one traveler, and endpoints that answer. -/
def calmEnv : FleetEnv where
  elapsed _ := 1
  clock _ tick := tick
  reply _ := .answered
  claims _ _ := .ok
    [("sub", .str "traveler"), ("tenant_id", .str "acme"), ("role", .str "traveler")]
  endpoint _ _ := .ok { status := 200 }

def quietFleet : Fleet where
  limiters _ := .perMinute 120 (by decide)

theorem served_identified_impostor :
    (runFrom (Pool.apply calmEnv.exec oidcGateway.serve) ⟨quietFleet, []⟩
        (.spawn (0, impostor) :: List.replicate 3 (.step 0))).state.Identified oidcGateway
          (fun request => ∃ replica, .spawn (replica, request) ∈
            (.spawn (0, impostor) :: List.replicate 3 (.step 0) :
              List (PoolEvent (ℕ × HttpRequest)))) ∧
      (runFrom (Pool.apply calmEnv.exec oidcGateway.serve) ⟨quietFleet, []⟩
        (.spawn (0, impostor) :: List.replicate 3 (.step 0))).state.served.map
          HttpRequest.caller = [.ok
            { tenantId := some "acme"
              actorRole := some .traveler
              actorId := some "traveler"
              idempotencyKey := some "k1" }] :=
  ⟨served_identified oidcGateway calmEnv quietFleet rfl _, by decide +kernel⟩

end Serving

/-! ### Reads behind the middleware -/

section Reads

open Prog

variable {α : Type} (gw : Gateway) (svc : Service) (world : Env) (env : FleetEnv)
  (inquiry : Inquiry α) (render : Except Fault α → HttpResponse)

/-- A reading endpoint behind the middleware, with the world that it reads beside the fleet. -/
def readExec {γ : Type} (op : GatewayOp γ) (s : Fleet × World .memory) :
    Except Fault γ × (Fleet × World .memory) :=
  match op with
  | .callNext request =>
    match request.caller with
    | .ok caller =>
      let (answer, w) := (Api.answer svc caller inquiry).run world.read s.2
      (.ok (render answer), (s.1.serve request).later env, w)
    | .error fault => (.ok (render (.error fault)), (s.1.serve request).later env, s.2)
  | op => ((env.exec op s.1).1, (env.exec op s.1).2, s.2)

/-- A token is validated without a look at the world. -/
theorem validateBearerToken_run (token : String) (fleet : Fleet) :
    ∃ answer fleet', (∀ w : World .memory,
      (gw.validateBearerToken token).run (readExec svc world env inquiry render) (fleet, w) =
        (answer, fleet', w)) ∧
      ∀ actor, answer = .ok actor →
        ∃ claims, env.claims fleet.tick token = .ok claims ∧ gw.actorOf claims = .ok actor := by
  unfold Gateway.validateBearerToken
  split
  next issuer audience jwksUrl _ _ _ =>
    cases hclaims : env.claims fleet.tick token with
    | error fault =>
      have hexec : env.exec (.decodeToken token issuer audience jwksUrl) fleet =
          (.error fault, fleet.later env) := by
        unfold FleetEnv.exec
        simp only [hclaims]
      refine ⟨.error fault, fleet.later env, fun w => ?_, fun _ h => by cases h⟩
      rw [run_bind, run_perform]
      simp only [readExec, hexec]
    | ok claims =>
      have hexec : env.exec (.decodeToken token issuer audience jwksUrl) fleet =
          (.ok claims, (fleet.decode token claims).later env) := by
        unfold FleetEnv.exec
        simp only [hclaims]
      refine ⟨gw.actorOf claims, (fleet.decode token claims).later env, fun w => ?_,
        fun actor h => ⟨claims, rfl, h⟩⟩
      rw [run_bind, run_perform]
      simp only [readExec, hexec, run_ofExcept]
  · exact ⟨_, fleet, fun _ => rfl, fun _ h => by cases h⟩

/-- Without a token that names an identity the request is refused, whatever the world. -/
theorem authenticate_run (hoidc : gw.requireOidc = true) (request : HttpRequest)
    (hpath : request.isExempt = false) (fleet : Fleet) :
    (∃ refusal fleet', ∀ w : World .memory,
      (gw.authenticate request).run (readExec svc world env inquiry render) (fleet, w) =
        (.ok (.error refusal), fleet', w)) ∨
    ∃ token claims actor fleet', (request.header "authorization").bind bearerToken = some token ∧
      env.claims fleet.tick token = .ok claims ∧ gw.actorOf claims = .ok actor ∧
      ∀ w : World .memory,
        (gw.authenticate request).run (readExec svc world env inquiry render) (fleet, w) =
          (.ok (.ok (request.trusted actor)), fleet', w) := by
  unfold Gateway.authenticate
  cases hauthorization : (request.header "authorization").filter (· ≠ "") with
  | none =>
    refine .inl ⟨{ status := 401, content := "bearer token is required" }, fleet, fun w => ?_⟩
    dsimp only
    rw [if_pos (by simp [hoidc, hpath])]
    rfl
  | some authorization =>
    obtain ⟨hheader, -⟩ := Option.filter_eq_some_iff.mp hauthorization
    dsimp only
    cases htoken : bearerToken authorization with
    | none => exact .inl ⟨Gateway.invalidToken, fleet, fun _ => rfl⟩
    | some token =>
      obtain ⟨answer, fleet', hrun, hactor⟩ :=
        validateBearerToken_run gw svc world env inquiry render token fleet
      dsimp only
      simp only [run_bind, run_catching, hrun]
      cases answer with
      | error fault => exact .inl ⟨Gateway.invalidToken, fleet', fun _ => rfl⟩
      | ok actor =>
        obtain ⟨claims, hclaims, hclaimed⟩ := hactor actor rfl
        dsimp only
        split_ifs with hmismatch
        · exact .inl ⟨_, fleet', fun _ => rfl⟩
        · refine .inr ⟨token, claims, actor, fleet', ?_, hclaims, hclaimed, fun _ => rfl⟩
          rw [hheader]
          exact htoken

variable {gw svc world env inquiry render}

/-- What a limiter calls looks at no world. -/
theorem readExec_limiting {γ : Type} {op : GatewayOp γ} (hop : Gateway.limiting op) (fleet : Fleet)
    (w : World .memory) :
    readExec svc world env inquiry render op (fleet, w) =
      ((env.exec op fleet).1, (env.exec op fleet).2, w) := by
  cases op with
  | callNext => exact hop.elim
  | _ => rfl

/-- One state of the replicas, and worlds that agree on a tenant's records. -/
def AlikeFor (tenantId : String) (s s' : Fleet × World .memory) : Prop :=
  s.1 = s'.1 ∧ s.2.AgreeOn tenantId s'.2

/-- Behind its token, a request is answered from the records of the token's tenant. -/
theorem limited_alike (replica : ℕ) {request : HttpRequest} {caller : Caller}
    (hcaller : request.caller = .ok caller) :
    Alike (readExec svc world env inquiry render) (AlikeFor caller.tenant) Eq
      (gw.limited replica request) (gw.limited replica request) := by
  refine alike_bind ((gw.only_limitRate replica request.limitKey).alike ?_) ?_
  · rintro γ op hop ⟨fleet, w⟩ ⟨_, w'⟩ ⟨rfl, hw⟩
    rw [readExec_limiting hop, readExec_limiting hop]
    exact ⟨rfl, rfl, hw⟩
  · rintro decision _ rfl
    cases decision with
    | none => exact alike_pure rfl
    | some decision =>
      dsimp only
      split_ifs
      · exact alike_pure rfl
      · rw [map_eq_pure_bind]
        refine alike_bind (alike_perform (Q := Eq) ?_) fun _ _ h => alike_pure (h ▸ rfl)
        rintro ⟨fleet, w⟩ ⟨_, w'⟩ ⟨rfl, hw⟩
        obtain ⟨hanswer, hworld⟩ := answer_alike inquiry w w' hw
        simp only [readExec, hcaller]
        exact ⟨.ok (congrArg render hanswer.eq), rfl, hworld⟩

/-- A call leaves the store that is read. -/
theorem readExec_leaves {γ : Type} (op : GatewayOp γ) (s : Fleet × World .memory) :
    ∃ tick, (readExec svc world env inquiry render op s).2.2 = { s.2 with tick } := by
  cases op with
  | callNext request =>
    unfold readExec
    dsimp only
    split
    · exact answer_leaves inquiry s.2
    · exact ⟨s.2.tick, rfl⟩
  | _ => exact ⟨s.2.tick, rfl⟩

/-- With tokens asked for, a reading endpoint behind the middleware is answered alike in two worlds
that agree on the records of the tenant that the request's token names, whatever else the request
says, and leaves the store. -/
theorem gateway_reads_isolated (hoidc : gw.requireOidc = true) (replica : ℕ)
    (request : HttpRequest) (hpath : request.isExempt = false) (fleet : Fleet)
    (w w' : World .memory)
    (hagree : ∀ token claims actor, (request.header "authorization").bind bearerToken = some token →
      env.claims fleet.tick token = .ok claims → gw.actorOf claims = .ok actor →
        w.AgreeOn (headerText (utf8 actor.tenantId)) w') :
    ((gw.enforceRateLimit replica request).run (readExec svc world env inquiry render)
        (fleet, w)).1 =
      ((gw.enforceRateLimit replica request).run (readExec svc world env inquiry render)
        (fleet, w')).1 ∧
      ∃ tick, ((gw.enforceRateLimit replica request).run (readExec svc world env inquiry render)
        (fleet, w)).2.2 = { w with tick } := by
  constructor
  · unfold Gateway.enforceRateLimit
    rw [run_bind, run_bind]
    rcases authenticate_run gw svc world env inquiry render hoidc request hpath fleet with
      ⟨refusal, fleet', hrun⟩ | ⟨token, claims, actor, fleet', hbears, hclaims, hactor, hrun⟩
    · rw [hrun, hrun]
      rfl
    · rw [hrun, hrun]
      have hw := hagree token claims actor hbears hclaims hactor
      exact (limited_alike replica (request.caller_trusted actor) (fleet', w) (fleet', w')
        ⟨rfl, hw⟩).1.eq
  · have honly : (gw.enforceRateLimit replica request).Only fun _ => True :=
      (gw.enforceRateLimit_verifying replica request).only (fun _ _ _ => trivial)
        fun _ _ _ => trivial
    refine Only.run (R := fun s s' : Fleet × World .memory => ∃ tick, s'.2 = { s.2 with tick })
      (fun s => ⟨s.2.tick, rfl⟩) ?_ (fun op s _ => readExec_leaves op s) honly (fleet, w)
    rintro s t u ⟨tick, ht⟩ ⟨tick', hu⟩
    exact ⟨tick', by rw [hu, ht]⟩

/-- The impostor is told the same whether or not another tenant has an incident. -/
theorem gateway_reads_isolated_impostor :
    ((oidcGateway.enforceRateLimit 0 impostor).run
        (readExec .plain .still calmEnv (.listTravelerIncidents "traveler")
          fun answer => { status := if answer.toBool then 200 else 403 })
        (quietFleet, { store := InMemoryRepository.saveIncident {} foreignIncident })).1 =
      ((oidcGateway.enforceRateLimit 0 impostor).run
        (readExec .plain .still calmEnv (.listTravelerIncidents "traveler")
          fun answer => { status := if answer.toBool then 200 else 403 })
        (quietFleet, { store := ({} : InMemoryRepository Response) })).1 := by
  refine (gateway_reads_isolated rfl 0 impostor (by decide +kernel) quietFleet _ _
    fun token claims actor _ hclaims hactor => ?_).1
  obtain rfl := Except.ok.inj hclaims
  obtain rfl := Except.ok.inj hactor
  have htenant : headerText (utf8 "acme") = "acme" := by decide +kernel
  exact htenant ▸ agreeOn_foreign

end Reads

end RouteShield
