import RouteShield.Api.Grants

/-!
Deliveries of one signed booking webhook. The message's key is claimed before anything is
written, so deliveries that overlap, and redeliveries while the claim's record is live, change
nothing. The signed timestamp lets a delivery in for five minutes before and after it, and the
record lives as long as the configured number of seconds: a redelivery that is still let in
after the record has expired is applied again.
-/

namespace RouteShield

/-- What the deliveries of a body claim, if it parses. -/
def WebhookDelivery.request (svc : Service) (delivery : WebhookDelivery) : Option KeyedRequest :=
  delivery.event.toOption.map fun webhook =>
    { key := (webhook.tenantId, Api.webhookKey webhook.messageId)
      scope := "POST:/v1/webhooks/booking"
      requestHash := svc.fingerprint "POST:/v1/webhooks/booking" (.booking webhook) }

/-- A delivery arrives: the same bytes under the same timestamp, and a tenant header or none. -/
def WebhookDelivery.arrive (svc : Service) (delivery : WebhookDelivery) (tenantId : Option String) :
    Api Unit :=
  Api.handle svc (.bookingWebhook { delivery with tenantId })

/-- The call writes something beside the ledger: the event, the trip, its evidence, the
assessment or what follows from it. -/
def Applies {α : Type} (op : Effect α) : Prop := ∃ c ∈ op.writes, c ≠ .idempotency

instance {α : Type} (op : Effect α) : Decidable (Applies op) :=
  inferInstanceAs (Decidable (∃ c ∈ op.writes, c ≠ .idempotency))

/-- Before its claim is granted a program writes nothing and makes no other claim; it never
purges. The phase says whether the claim was granted. -/
def deliveryContract (request : Option KeyedRequest) : Prog.Contract Effect Fault Bool where
  allowed granted {_} op := op.purges = false ∧ (granted = false → op.writes ≠ [] →
    ∃ claim ∈ op.claim?, some claim.request = request)
  promised _ {_} _ _ := True
  advance granted {_} op answer := granted || decide (∃ r ∈ request, r.GrantedBy op answer)
  stop _ := True

namespace Api

open Prog hiding pure

variable {svc : Service} {request : Option KeyedRequest} {α : Type}

/-- A handler that writes nothing is allowed in both phases, and keeps the one it is in. -/
theorem Writes.follows_unwritten {p : Api α} (hp : Writes [] p) (granted : Bool) :
    p.Follows (deliveryContract request) (fun granted' _ => granted' = granted) granted := by
  have hwrites : ∀ {γ : Type} {op : Effect γ}, (∀ c ∈ op.writes, c ∈ ([] : List Collection)) →
      op.writes = [] := fun h => List.eq_nil_iff_forall_not_mem.mpr fun c hc => by simpa using h c hc
  refine hp.only.keeps (fun op hop => ?_) (fun op answer hop => ?_) trivial
  · exact ⟨purges_eq_false (by simp [hwrites hop]), fun _ hne => absurd (hwrites hop) hne⟩
  · have hnone : ∀ r ∈ request, ¬r.GrantedBy op answer := by
      intro r _ h
      cases op with
      | repo op =>
        cases op with
        | claimIdempotency claim => exact absurd (hwrites hop) (by simp [Effect.writes, RepoOp.writes])
        | _ => exact h
      | _ => exact h
    show (granted || Decidable.decide _) = granted
    rw [decide_eq_false (by simpa using hnone), Bool.or_false]

/-- Once the claim is granted, everything but a purge is allowed. -/
theorem Writes.follows_granted (cs : List Collection) {p : Api α} (hp : Writes cs p)
    (hcs : .uploads ∉ cs) : p.Follows (deliveryContract request) (fun _ _ => True) true := by
  refine follows_mono (hp.only.keeps (fun op hop => ?_) (fun op answer hop => rfl) trivial)
    fun _ _ _ => trivial
  exact ⟨purges_eq_false fun hmem => hcs (hop _ hmem), nofun⟩

/-- A claim of the request: what comes after it without a record to replay was granted. -/
theorem claimMutation_follows {tenantId key scope : String} {payload : Payload}
    (hrequest : request = some
      { key := (tenantId, key), scope, requestHash := svc.fingerprint scope payload }) :
    (claimMutation svc tenantId key scope payload).Follows (deliveryContract request)
      (fun granted claimed => claimed.2 = none → granted = true) false := by
  refine follows_bind (writes_now.follows_unwritten false) ?_
  rintro granted claimedAt rfl
  refine follows_seq (follows_perform ⟨rfl, fun _ _ => ⟨_, rfl, hrequest.symm⟩⟩
    (fun answer _ => ?_) fun _ _ => trivial)
  obtain ⟨disposition, record⟩ := answer
  cases disposition with
  | execute =>
    refine follows_pure fun _ => ?_
    show (false || Decidable.decide _) = true
    exact decide_eq_true ⟨_, hrequest, rfl⟩
  | replay => exact follows_pure nofun
  | conflict => exact follows_throw trivial
  | inProgress => exact follows_throw trivial

theorem mutation_follows (cs : List Collection) {tenantId key scope : String} {payload : Payload}
    {status : ℕ} {stored : Stored α} {body : Api α} (hkey : keyed (some key) = some key)
    (hrequest : request = some
      { key := (tenantId, key), scope, requestHash := svc.fingerprint scope payload })
    (hbody : Writes cs body) (hidempotency : .idempotency ∈ cs) (hcs : .uploads ∉ cs) :
    (mutation svc tenantId (some key) scope payload status stored body).Follows
      (deliveryContract request) (fun _ _ => True) false := by
  have hclaimed : (claimOptionalMutation svc tenantId (some key) scope payload).Follows
      (deliveryContract request) (fun granted claimed => claimed.2 = none → granted = true)
      false := by
    unfold claimOptionalMutation
    rw [hkey]
    exact follows_bind (claimMutation_follows hrequest) fun granted claimed h => follows_pure h
  refine follows_bind hclaimed ?_
  rintro granted ⟨requestHash, replay⟩ hgranted
  cases replay with
  | some record => exact follows_callFree (callFree_replay stored record) (fun _ _ => trivial) trivial
  | none =>
    rw [hgranted rfl]
    exact Writes.follows_granted cs (writes_bind hbody fun a =>
      writes_bind (writes_completeOptionalMutation hidempotency _ _ _ _ _) fun _ => writes_pure _) hcs

theorem parseWebhook_follows (delivery : WebhookDelivery) :
    (parseWebhook delivery).Follows (deliveryContract request)
      (fun granted webhook => granted = false ∧ delivery.event = .ok webhook) false := by
  unfold parseWebhook
  cases delivery.timestamp with
  | error message => exact follows_throw trivial
  | ok timestamp =>
    refine follows_seq (follows_pure (a := timestamp) ?_)
    refine follows_bind (writes_now.follows_unwritten false) ?_
    rintro granted time rfl
    refine follows_seq (follows_callFree (callFree_require _ _ _) (fun _ _ => ?_) trivial)
    cases delivery.event with
    | error message => exact follows_throw trivial
    | ok webhook =>
      refine follows_seq (follows_pure (a := webhook) ?_)
      exact follows_seq (follows_callFree (callFree_require _ _ _)
        (fun _ _ => follows_pure ⟨rfl, rfl⟩) trivial)

theorem bookingWebhook_follows (delivery : WebhookDelivery) :
    (bookingWebhook svc delivery).Follows (deliveryContract (delivery.request svc))
      (fun _ _ => True) false := by
  unfold bookingWebhook
  refine follows_seq (follows_callFree (callFree_require _ _ _) (fun _ _ => ?_) trivial)
  refine follows_seq (follows_callFree (callFree_require _ _ _) (fun _ _ => ?_) trivial)
  refine follows_bind (parseWebhook_follows delivery) ?_
  rintro granted webhook ⟨rfl, hevent⟩
  refine follows_seq (follows_callFree (callFree_require _ _ _) (fun _ _ => ?_) trivial)
  refine follows_bind (writes_webhookChange.follows_unwritten false) ?_
  rintro granted change rfl
  have hrequest : delivery.request svc = some
      { key := (webhook.tenantId, webhookKey webhook.messageId)
        scope := "POST:/v1/webhooks/booking"
        requestHash := svc.fingerprint "POST:/v1/webhooks/booking" (.booking webhook) } := by
    simp [WebhookDelivery.request, hevent, Except.toOption]
  have hkey : keyed (some (webhookKey webhook.messageId)) = some (webhookKey webhook.messageId) := by
    simp [keyed, webhookKey]
  exact mutation_follows (.trips :: assessedCollections) hkey hrequest writes_acceptWebhook
    (by decide) (by decide)

end Api

/-! ### Runs -/

variable {b : Backend} [Framed b] [ClaimStore b] {env : Env} {svc : Service}
  {delivery : WebhookDelivery} {pool : Pool Effect Fault (World b)} {e : PoolEvent (Option String)}

/-- The event has a call of a delivery that writes something beside the ledger, or the grant of
the claim of one. -/
def AppliesBy (svc : Service) (env : Env) (delivery : WebhookDelivery)
    (pool : Pool Effect Fault (World b)) (e : PoolEvent (Option String)) (i : ℕ) : Prop :=
  e = .step i ∧ (pool.Calls Applies e ∨
    ∃ r ∈ delivery.request svc, pool.Answered env.exec r.GrantedBy e)

/-- At most one delivery was granted its claim, and then the ledger has its record. -/
def GrantedOnce (request : Option KeyedRequest) (phases : List Bool) (w : World b) : Prop :=
  (∀ i j : ℕ, phases[i]? = some true → phases[j]? = some true → i = j) ∧
    (true ∈ phases → ∃ r ∈ request, ∃ record, w.ledger.Holds r record)

/-- No claim of the webhook's key comes after the record of an earlier delivery has expired. -/
def DeliveredInTime (svc : Service) (env : Env) (delivery : WebhookDelivery)
    (pool : Pool Effect Fault (World b)) (e : PoolEvent (Option String)) : Prop :=
  ∀ r ∈ delivery.request svc, ClaimsInTime env r pool e

/-- An allowed call keeps the phase of its program, or is granted the first claim. -/
theorem GrantedOnce.call {request : Option KeyedRequest} {phases : List Bool} {α : Type} {i : ℕ}
    {op : Effect α} {next : Except Fault α → Api Unit} {granted : Bool}
    (h : GrantedOnce request phases pool.state) (hphase : phases[i]? = some granted)
    (hallowed : (deliveryContract request).allowed granted op)
    (hintime : ∀ r ∈ request, ClaimsInTime env r pool (.step i : PoolEvent (Option String)))
    (hi : pool.threads[i]? = some (.call op next)) :
    GrantedOnce request
        (phases.set i ((deliveryContract request).advance granted op (env.exec op pool.state).1))
        (env.after pool.state op) ∧
      (true ∈ phases → ¬∃ r ∈ request, r.GrantedBy op (env.exec op pool.state).1) := by
  obtain ⟨huniq, hholds⟩ := h
  have hrefused : true ∈ phases → ¬∃ r ∈ request, r.GrantedBy op (env.exec op pool.state).1 := by
    rintro hmem ⟨r, hr, hgranted⟩
    obtain ⟨r', hr', record, hrecord⟩ := hholds hmem
    obtain rfl : r = r' := Option.mem_unique hr hr'
    exact World.not_grantedBy hrecord ((hintime r hr).claim hi) hgranted
  refine ⟨?_, hrefused⟩
  by_cases hgrant : ∃ r ∈ request, r.GrantedBy op (env.exec op pool.state).1
  · have hnone : true ∉ phases := fun hmem => hrefused hmem hgrant
    obtain ⟨r, hr, hgranted⟩ := hgrant
    have honly : ∀ (granted' : Bool) (j : ℕ), (phases.set i granted')[j]? = some true → j = i := by
      intro granted' j hj
      by_contra hne
      rw [List.getElem?_set_ne (Ne.symm hne)] at hj
      exact hnone (List.mem_of_getElem? hj)
    refine ⟨fun j k hj hk => ?_, fun _ => ⟨r, hr, World.holds_of_grantedBy hgranted⟩⟩
    rw [honly _ j hj, honly _ k hk]
  · have hsame : (deliveryContract request).advance granted op (env.exec op pool.state).1 =
        granted := by
      show (granted || Decidable.decide _) = granted
      rw [decide_eq_false hgrant, Bool.or_false]
    have hset : phases.set i granted = phases := by
      obtain ⟨hlt, rfl⟩ := List.getElem?_eq_some_iff.mp hphase
      exact List.set_getElem_self hlt
    rw [hsame, hset]
    refine ⟨huniq, fun hmem => ?_⟩
    obtain ⟨r, hr, record, hrecord⟩ := hholds hmem
    exact ⟨r, hr, World.holds_after hrecord hallowed.1 ((hintime r hr).claim hi)⟩

/-- The deliveries of a pool follow their contract, in phases that fit the ledger. -/
structure Delivering (svc : Service) (delivery : WebhookDelivery) (phases : List Bool)
    (pool : Pool Effect Fault (World b)) : Prop where
  follows : List.Forall₂ (fun granted p => p.Follows (deliveryContract (delivery.request svc))
    (fun _ _ => True) granted) phases pool.threads
  once : GrantedOnce (delivery.request svc) phases pool.state

/-- What one event preserves: a delivery that was granted its claim stays so, and one that is
granted it now is. -/
theorem Delivering.apply {phases : List Bool} (h : Delivering svc delivery phases pool)
    (hintime : DeliveredInTime svc env delivery pool e) :
    ∃ phases', Delivering svc delivery phases' (pool.apply env.exec (delivery.arrive svc) e) ∧
      ∀ i : ℕ, (phases[i]? = some true ∨ (e = .step i ∧
        ∃ r ∈ delivery.request svc, pool.Answered env.exec r.GrantedBy e)) →
        phases'[i]? = some true := by
  cases e with
  | spawn tenantId =>
    have hstart : (delivery.arrive svc tenantId).Follows
        (deliveryContract (delivery.request svc)) (fun _ _ => True) false :=
      Prog.follows_bind (Api.bookingWebhook_follows { delivery with tenantId }) fun _ _ _ => trivial
    have hkept : ∀ i : ℕ, (phases ++ [false])[i]? = some true ↔ phases[i]? = some true := by
      intro i
      rcases lt_trichotomy i phases.length with hlt | rfl | hgt
      · rw [List.getElem?_append_left hlt]
      · simp
      · simp [List.getElem?_append_right hgt.le, hgt.le, Nat.sub_ne_zero_of_lt hgt]
    refine ⟨phases ++ [false], ⟨List.rel_append h.follows (.cons hstart .nil), ?_⟩, ?_⟩
    · refine ⟨fun i j hi hj => h.once.1 i j ((hkept i).mp hi) ((hkept j).mp hj), fun hmem => ?_⟩
      exact h.once.2 (by simpa using hmem)
    · rintro i (hi | ⟨hstep, -⟩)
      · exact (hkept i).mpr hi
      · cases hstep
  | step i =>
    by_cases hcalls : ∃ (γ : Type) (op : Effect γ) (next : Except Fault γ → Api Unit),
      pool.threads[i]? = some (.call op next)
    · obtain ⟨γ, op, next, hi⟩ := hcalls
      obtain ⟨granted, hphase, hprog, hset⟩ := Pool.forall₂_set h.follows hi
      obtain ⟨honce, -⟩ := h.once.call hphase hprog.1 hintime hi
      have hstep : pool.stepThread env.exec i =
          ⟨env.after pool.state op, pool.threads.set i (next (env.exec op pool.state).1)⟩ := by
        simp only [Pool.stepThread, hi]
        rfl
      have hlt : i < phases.length := (List.getElem?_eq_some_iff.mp hphase).1
      refine ⟨phases.set i ((deliveryContract (delivery.request svc)).advance granted op
        (env.exec op pool.state).1), ⟨?_, ?_⟩, ?_⟩
      · show List.Forall₂ _ _ (pool.stepThread env.exec i).threads
        rw [hstep]
        exact hset _ _ (hprog.2 _ trivial)
      · show GrantedOnce _ _ (pool.stepThread env.exec i).state
        rw [hstep]
        exact honce
      · rintro j (hj | ⟨hji, r, hr, p, hp, hanswered⟩)
        · by_cases hij : i = j
          · subst hij
            obtain rfl : granted = true := Option.some.inj (hphase.symm.trans hj)
            rw [List.getElem?_set_self hlt]
            rfl
          · rw [List.getElem?_set_ne hij]
            exact hj
        · cases hji
          obtain rfl : Prog.call op next = p := Option.some.inj (hi.symm.trans hp)
          rw [List.getElem?_set_self hlt]
          show some (granted || Decidable.decide _) = some true
          rw [decide_eq_true ⟨r, hr, hanswered⟩, Bool.or_true]
    · have hsame : pool.stepThread env.exec i = pool :=
        (Pool.stepThread_cases env.exec pool i).resolve_right fun h =>
          hcalls (h.imp fun _ h => h.imp fun _ h => h.imp fun _ h => h.1)
      refine ⟨phases, ?_, ?_⟩
      · show Delivering svc delivery phases (pool.stepThread env.exec i)
        rw [hsame]
        exact h
      · rintro j (hj | ⟨hji, r, hr, p, hp, hanswered⟩)
        · exact hj
        · cases hji
          cases p with
          | call op next => exact absurd ⟨_, op, next, hp⟩ hcalls
          | _ => exact hanswered.elim

/-- A delivery that writes something beside the ledger was granted its claim, and no claim is
granted after it. -/
theorem Delivering.applies {phases : List Bool} (h : Delivering svc delivery phases pool)
    (hintime : DeliveredInTime svc env delivery pool e) {i : ℕ}
    (happlies : AppliesBy svc env delivery pool e i) :
    phases[i]? = some true ∨ (true ∉ phases ∧
      ∃ r ∈ delivery.request svc, pool.Answered env.exec r.GrantedBy e) := by
  obtain ⟨rfl, ⟨p, hp, hcalls⟩ | ⟨r, hr, p, hp, hanswered⟩⟩ := happlies
  · cases p with
    | call op next =>
      obtain ⟨granted, hphase, hprog, -⟩ := Pool.forall₂_set h.follows hp
      cases granted with
      | true => exact .inl hphase
      | false =>
        obtain ⟨c, hc, hne⟩ := show Applies op from hcalls
        obtain ⟨claim, hclaim, -⟩ := hprog.1.2 rfl (List.ne_nil_of_mem hc)
        cases op with
        | repo op =>
          cases op with
          | claimIdempotency claim' => exact absurd (List.mem_singleton.mp hc) hne
          | _ => cases hclaim
        | _ => cases hclaim
    | _ => exact hcalls.elim
  · cases p with
    | call op next =>
      obtain ⟨granted, hphase, hprog, -⟩ := Pool.forall₂_set h.follows hp
      obtain ⟨-, hrefused⟩ := h.once.call hphase hprog.1 hintime hp
      exact .inr ⟨fun hmem => hrefused hmem ⟨r, hr, hanswered⟩, r, hr, _, hp, hanswered⟩
    | _ => exact hanswered.elim

/-- After a delivery was granted its claim, every delivery that applies the webhook is that one. -/
theorem Delivering.applied_by {phases : List Bool} (h : Delivering svc delivery phases pool) {i : ℕ}
    (hi : phases[i]? = some true) {events : List (PoolEvent (Option String))}
    (hevents : Meets (Pool.apply env.exec (delivery.arrive svc)) (DeliveredInTime svc env delivery)
      pool events) :
    Meets (Pool.apply env.exec (delivery.arrive svc))
      (fun pool e => ∀ j, AppliesBy svc env delivery pool e j → j = i) pool events := by
  induction events generalizing pool phases with
  | nil => trivial
  | cons e events ih =>
    obtain ⟨phases', h', hkept⟩ := h.apply hevents.1
    refine ⟨fun j hj => ?_, ih h' (hkept i (.inl hi)) hevents.2⟩
    rcases h.applies hevents.1 hj with hphase | ⟨hnone, -⟩
    · exact h.once.1 j i hphase hi
    · exact absurd (List.mem_of_getElem? hi) hnone

theorem Delivering.applied_once {phases : List Bool} (h : Delivering svc delivery phases pool)
    {events : List (PoolEvent (Option String))}
    (hevents : Meets (Pool.apply env.exec (delivery.arrive svc)) (DeliveredInTime svc env delivery)
      pool events) :
    ∃ i, Meets (Pool.apply env.exec (delivery.arrive svc))
      (fun pool e => ∀ j, AppliesBy svc env delivery pool e j → j = i) pool events := by
  induction events generalizing pool phases with
  | nil => exact ⟨0, trivial⟩
  | cons e events ih =>
    obtain ⟨phases', h', hkept⟩ := h.apply hevents.1
    by_cases happlies : ∃ i, AppliesBy svc env delivery pool e i
    · obtain ⟨i, hi⟩ := happlies
      have hphase : phases'[i]? = some true := by
        rcases h.applies hevents.1 hi with hphase | ⟨-, hgranted⟩
        · exact hkept i (.inl hphase)
        · exact hkept i (.inr ⟨hi.1, hgranted⟩)
      refine ⟨i, fun j hj => ?_, h'.applied_by hphase hevents.2⟩
      exact PoolEvent.step.inj (hj.1.symm.trans hi.1)
    · obtain ⟨i, hi⟩ := ih h' hevents.2
      exact ⟨i, fun j hj => absurd ⟨j, hj⟩ happlies, hi⟩

/-- In every run of deliveries in which no claim of the webhook's key comes after the record of
an earlier delivery has expired, one delivery at most is granted its claim, and no other one
writes anything but the ledger. -/
theorem webhook_applied_once (svc : Service) (env : Env) (w : World b) (delivery : WebhookDelivery)
    (events : List (PoolEvent (Option String)))
    (h : Meets (Pool.apply env.exec (delivery.arrive svc)) (DeliveredInTime svc env delivery)
      ⟨w, []⟩ events) :
    ∃ i, Meets (Pool.apply env.exec (delivery.arrive svc))
      (fun pool e => ∀ j, AppliesBy svc env delivery pool e j → j = i) ⟨w, []⟩ events := by
  have hstart : Delivering svc delivery [] (⟨w, []⟩ : Pool Effect Fault (World b)) :=
    ⟨.nil, fun i j hi => by simp at hi, fun hmem => absurd hmem List.not_mem_nil⟩
  exact hstart.applied_once h

/-! ### A redelivery within the timestamp's window -/

/-- A service whose records live as long as given; every trip of a webhook is the same one. -/
def Service.bookings (idempotencyTtlSeconds : ℤ) : Service :=
  { Service.plain with
    idempotencyTtlSeconds
    parseTrip := fun _ => some
      { tenantId := "acme"
        travelerId := "ada"
        groundOrigin := "office"
        destinationCountry := "US"
        segments :=
          [{ segmentId := "s1"
             carrierCode := "RS"
             flightNumber := "1"
             departureAirport := "AMS"
             arrivalAirport := "JFK"
             scheduledDepartureAt := minutes 600
             scheduledArrivalAt := minutes 1000 }] } }

/-- A booked itinerary, signed at the start. -/
def bookedDelivery : WebhookDelivery where
  credentials := true
  signed := true
  timestamp := .ok 0
  event := .ok
    { messageId := "m1"
      tenantId := "acme"
      eventType := "itinerary.upsert"
      occurredAt := 0
      data := [("trip", .obj [])] }

/-- Nothing is wrong with any trip, and two minutes go by. -/
def Env.twoMinutesOn : Env :=
  { Env.still with
    clock := fun tick => if tick < 41 then 0 else minutes 2
    collectEvidence := fun _ _ _ => .ok
      [{ evidenceId := .v5 "reading"
         sourceName := "fixture"
         sourceType := "flight_status"
         sourceUrlOrRecordId := "fixture"
         retrievedAt := 0
         expiresAt := minutes 15
         normalizedPayload := [("risk_score", .num (.int 0))] }] }

/-- A redelivery beside the first delivery is refused. -/
theorem webhook_applied_once_overlapping :
    ∃ i, Meets (Pool.apply Env.twoMinutesOn.exec (bookedDelivery.arrive (.bookings 86400)))
      (fun pool e => ∀ j, AppliesBy (.bookings 86400) .twoMinutesOn bookedDelivery pool e j → j = i)
      ⟨World.fresh, []⟩
      ([.spawn none, .spawn none] ++ (List.replicate 12 [.step 0, .step 1]).flatten) := by
  have hlive : Meets (Pool.apply Env.twoMinutesOn.exec (bookedDelivery.arrive (.bookings 86400)))
      (fun pool (_ : PoolEvent (Option String)) => ∀ r ∈ bookedDelivery.request (.bookings 86400),
        ¬pool.state.ledger.Lapsed r (Env.twoMinutesOn.clock pool.state.tick))
      ⟨World.fresh, []⟩
      ([.spawn none, .spawn none] ++ (List.replicate 12 [.step 0, .step 1]).flatten) := by
    decide +kernel
  exact webhook_applied_once _ _ _ _ _ (hlive.mono fun pool e h r hr _ _ _ => h r hr)

/-- A minute is an accepted lifetime, and a redelivery after two is applied again: the trip is
saved by both. -/
theorem webhook_applied_twice :
    ¬∀ (svc : Service) (env : Env) (w : World .memory) (delivery : WebhookDelivery)
      (events : List (PoolEvent (Option String))), 1 ≤ svc.idempotencyTtlSeconds →
      ∃ i, Meets (Pool.apply env.exec (delivery.arrive svc))
        (fun pool e => ∀ j, AppliesBy svc env delivery pool e j → j = i) ⟨w, []⟩ events := by
  intro h
  obtain ⟨i, hi⟩ := h (.bookings 60) .twoMinutesOn .fresh bookedDelivery
    ((.spawn none :: List.replicate 9 (.step 0)) ++ (.step 0 :: (List.replicate 31 (.step 0) ++
      .spawn none :: List.replicate 9 (.step 1)) ++ [.step 1])) (by decide)
  obtain ⟨-, hfirst, hrest⟩ := (meets_append _ _ _).mp hi
  obtain ⟨-, hsecond, -⟩ := (meets_append _ _ _).mp hrest
  have h0 : 0 = i := hfirst 0 ⟨rfl, .inl (by decide +kernel)⟩
  have h1 : 1 = i := hsecond 1 ⟨rfl, .inl (by decide +kernel)⟩
  omega

end RouteShield
