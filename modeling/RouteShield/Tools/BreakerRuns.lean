import RouteShield.Tools.FetchExits
import RouteShield.Tools.SharedCache

/-!
The breakers of the providers over whole runs. A success is recorded only by a fetch that was let
through, and an open breaker lets none through: it can be closed only by the reply to a fetch that
was waiting when it opened. Without one it stays open whatever comes.
-/

namespace RouteShield

variable {providers : List JsonHttpProvider} {run : ProviderRun} {fetch : Fetch} {place : ℕ}
  {provider : JsonHttpProvider}

/-- An object that can be read and that the provider accepts. -/
def JsonHttpProvider.Accepts (provider : JsonHttpProvider) (payload : JsonObject) : Prop :=
  (Json.obj payload).readable = true ∧ ∃ normalized, provider.normalize payload = .ok normalized

/-- Replies that begin with an object the provider accepts. -/
def HealthyReplies (provider : JsonHttpProvider) (replies : ℕ → HttpReply) : Prop :=
  ∃ payload, replies 0 = .json (.obj payload) ∧ provider.Accepts payload

/-- A fetch from a time on, of a provider that is switched on, configured and healthy. -/
structure FetchInput.Healthy (provider : JsonHttpProvider) (t : Time) (input : FetchInput) :
    Prop where
  replies : HealthyReplies provider input.replies
  enabled : input.enabled = some true
  configured : ∃ url, input.environ provider.urlEnv = some url ∧ url ≠ ""
  times : t ≤ input.cacheReadAt ∧ t ≤ input.startedAt ∧ t ≤ input.finishedAt ∧ t ≤ input.builtAt

structure Arrival.Healthy (provider : JsonHttpProvider) (t : Time) (arrival : Arrival) : Prop where
  replies : HealthyReplies provider arrival.replies
  times : t ≤ arrival.finishedAt ∧ t ≤ arrival.builtAt

def FetchEvent.Healthy (provider : JsonHttpProvider) (t : Time) : FetchEvent → Prop
  | .starts _ input => input.Healthy provider t
  | .arrives _ arrival => arrival.Healthy provider t

namespace ProviderRun

/-- From any time on there are events, with the provider healthy, after which a fetch of it reaches
the upstream and returns a fresh envelope. -/
def Recovers (providers : List JsonHttpProvider) (provider : JsonHttpProvider) (place : ℕ)
    (run : ProviderRun) : Prop :=
  ∀ t, ∃ events : List FetchEvent, (∀ event ∈ events, event.Healthy provider t) ∧
    ∃ input url item, input.Healthy provider t ∧
      provider.Asks ((runFrom (step providers) run events).collector.stateOf place) input url ∧
      (provider.fetch ((runFrom (step providers) run events).collector.stateOf place) input).1 =
        .ok item ∧
      item.freshnessStatus = .fresh

/-- A fetch of the provider at a place was let through and has no reply yet. -/
def Waits (run : ProviderRun) (place : ℕ) : Prop :=
  ∃ fetch url, some (fetch, url) ∈ run.slots ∧ fetch.place = place

def IsOpen (run : ProviderRun) (place : ℕ) : Prop := (run.collector.breakers place).isOpen = true

/-! ### No way back -/

/-- An open breaker, and no fetch whose reply could close it. -/
structure Stuck (place : ℕ) (run : ProviderRun) : Prop where
  isOpen : run.IsOpen place
  not_waits : ¬run.Waits place

theorem Stuck.not_asks (h : Stuck place run) {input : FetchInput} {url : String} :
    ¬provider.Asks (run.collector.stateOf place) input url := fun hasks =>
  Bool.false_ne_true (hasks.closed.symm.trans h.isOpen)

theorem Stuck.step (h : Stuck place run) (providers : List JsonHttpProvider) (event : FetchEvent) :
    Stuck place (run.step providers event) := by
  obtain ⟨fetch, -, -, hstep⟩ | ⟨slot, fetch, url, arrival, hslot, -, hstep⟩ | hstep :=
    step_cases providers run event
  · rw [hstep]
    refine ⟨h.isOpen, ?_⟩
    rintro ⟨waiting, url, hmem, rfl⟩
    rcases List.mem_append.mp hmem with hmem | hmem
    · exact h.not_waits ⟨waiting, url, hmem, rfl⟩
    · obtain ⟨url', hurl', hpair⟩ := Option.map_eq_some_iff.mp (List.mem_singleton.mp hmem).symm
      cases hpair
      exact h.not_asks (JsonHttpProvider.lookUp_eq_inr.mp (Sum.getRight?_eq_some_iff.mp hurl'))
  · have hmem := List.mem_of_getElem? hslot
    have hne : place ≠ fetch.place := fun hplace => h.not_waits ⟨fetch, url, hmem, hplace.symm⟩
    rw [hstep]
    constructor
    · unfold IsOpen arrive
      dsimp only
      rw [Function.update_of_ne hne]
      exact h.isOpen
    · rintro ⟨waiting, url', hwaiting, hplace⟩
      rcases List.mem_or_eq_of_mem_set hwaiting with hwaiting | hnone
      · exact h.not_waits ⟨waiting, url', hwaiting, hplace⟩
      · cases hnone
  · exact hstep.symm ▸ h

theorem Stuck.not_recovers (h : Stuck place run) : ¬run.Recovers providers provider place := by
  intro hrecovers
  obtain ⟨events, -, input, url, item, -, hasks, -⟩ := hrecovers 0
  have hstuck := runFrom_inv (Stuck place) (fun _ event hstuck _ => hstuck.step providers event) h
    (meets_true run events)
  exact hstuck.not_asks hasks

/-! ### The way back -/

theorem request_healthy {replies : ℕ → HttpReply} (h : HealthyReplies provider replies) :
    ∃ payload normalized, JsonHttpProvider.request replies 0 provider.retries = .ok (.obj payload) ∧
      provider.normalize payload = .ok normalized := by
  obtain ⟨payload, hreply, hread, normalized, hnormalize⟩ := h
  refine ⟨payload, normalized, ?_, hnormalize⟩
  exact JsonHttpProvider.request_eq_ok.mpr
    ⟨0, Nat.zero_le _, fun j hj => absurd hj j.not_lt_zero, hreply, hread⟩

/-- A reply that is healthy closes the breaker. -/
theorem breakers_arrive {slot : ℕ} {url : String} {arrival : Arrival}
    (h : HealthyReplies fetch.provider arrival.replies) :
    (run.arrive slot fetch url arrival).collector.breakers fetch.place =
      (run.collector.breakers fetch.place).recordSuccess := by
  obtain ⟨payload, normalized, hreply, hnormalize⟩ := request_healthy h
  have hask : (run.ask fetch url arrival).2.breaker =
      (run.collector.breakers fetch.place).recordSuccess := by
    unfold ask JsonHttpProvider.ask
    simp only [Fetch.withArrival, hreply, hnormalize]
    rfl
  unfold arrive
  dsimp only
  rw [Function.update_self]
  exact hask

/-- No operation of a breaker changes its threshold. -/
theorem threshold_step (event : FetchEvent) (i : ℕ) :
    ((run.step providers event).collector.breakers i).threshold =
      (run.collector.breakers i).threshold := by
  obtain ⟨fetch, -, -, hstep⟩ | ⟨slot, fetch, url, arrival, -, -, hstep⟩ | hstep :=
    step_cases providers run event
  · rw [hstep]
    rfl
  · rw [hstep]
    unfold arrive
    dsimp only
    by_cases hi : i = fetch.place
    · subst hi
      rw [Function.update_self]
      unfold ask
      obtain ⟨_, _, -, -, hask⟩ | ⟨_, _, -, -, hask⟩ | ⟨_, -, hask⟩ :=
        JsonHttpProvider.ask_cases fetch.provider (run.collector.stateOf fetch.place)
          (fetch.withArrival arrival) url
      all_goals
        rw [hask]
        rfl
    · rw [Function.update_of_ne hi]
  · rw [hstep]

/-- Every entry expires. -/
theorem exists_get_eq_none (cache : ProviderCache) (key : String) (t : Time) :
    ∃ now, t ≤ now ∧ cache.get key now = none := by
  cases hfind : cache.find? key with
  | none =>
    refine ⟨t, le_rfl, ?_⟩
    simp only [ProviderCache.get, hfind]
  | some row =>
    refine ⟨max t row.2.expiresAt, le_max_left _ _, ?_⟩
    simp only [ProviderCache.get, hfind]
    exact if_neg (not_lt.mpr (le_max_right _ _))

/-- A fetch at a time that the upstream answers with an object. -/
def probe (payload : JsonObject) (now : Time) : FetchInput where
  tenantId := ""
  cacheKey := ""
  correlationId := ""
  enabled := some true
  environ := fun _ => some "https://provider"
  replies := fun _ => .json (.obj payload)
  evidenceId := .v4 0
  cacheReadAt := now
  startedAt := now
  finishedAt := now
  builtAt := now

theorem threshold_run (providers : List JsonHttpProvider) (events : List FetchEvent) (i : ℕ) :
    ((runFrom (step providers) {} events).collector.breakers i).threshold = 3 :=
  runFrom_inv (fun run : ProviderRun => (run.collector.breakers i).threshold = 3)
    (fun _ event h _ => (threshold_step event i).trans h) rfl (meets_true _ events)

/-- Once the breaker is closed, a fetch reaches the upstream when what is cached has expired. -/
theorem recovers_of_closed {payload : JsonObject} (haccepts : provider.Accepts payload)
    (h : ∀ t, ∃ events : List FetchEvent, (∀ event ∈ events, event.Healthy provider t) ∧
      ¬(runFrom (step providers) run events).IsOpen place) :
    run.Recovers providers provider place := by
  intro t
  obtain ⟨events, hevents, hclosed⟩ := h t
  obtain ⟨now, hnow, hget⟩ := exists_get_eq_none (runFrom (step providers) run events).collector.cache
    (provider.cacheKeyOf (probe payload t)) t
  have hreplies : HealthyReplies provider (probe payload now).replies :=
    ⟨payload, rfl, haccepts⟩
  have hasks : provider.Asks ((runFrom (step providers) run events).collector.stateOf place)
      (probe payload now) "https://provider" :=
    ⟨hget, Bool.eq_false_iff.mpr hclosed, .inl rfl, rfl, by decide⟩
  obtain ⟨payload', normalized', hreply, hnormalize⟩ := request_healthy hreplies
  exact ⟨events, hevents, probe payload now, _, _,
    ⟨hreplies, rfl, ⟨_, rfl, by decide⟩, hnow, hnow, hnow, hnow⟩, hasks,
    JsonHttpProvider.fetch_answered hasks hreply hnormalize, rfl⟩

/-- An open breaker is closed again exactly when a fetch of its provider still waits for its reply:
nothing else records a success. -/
theorem recovers_iff_waits {events : List FetchEvent} {payload : JsonObject}
    (hprovider : providers[place]? = some provider) (haccepts : provider.Accepts payload)
    (hopen : (runFrom (step providers) {} events).IsOpen place) :
    (runFrom (step providers) {} events).Recovers providers provider place ↔
      (runFrom (step providers) {} events).Waits place := by
  constructor
  · intro hrecovers
    by_contra hwaits
    exact Stuck.not_recovers ⟨hopen, hwaits⟩ hrecovers
  · rintro ⟨fetch, url, hmem, rfl⟩
    have hwritten : Written providers (runFrom (step providers) {} events) := written_run events
    obtain rfl : provider = fetch.provider :=
      Option.some.inj (hprovider.symm.trans (hwritten.waiting fetch url hmem))
    obtain ⟨slot, hslot⟩ := List.mem_iff_getElem?.mp hmem
    refine recovers_of_closed haccepts fun t =>
      ⟨[.arrives slot ⟨fun _ => .json (.obj payload), .v4 0, t, t⟩], ?_, ?_⟩
    · intro event hevent
      obtain rfl := List.mem_singleton.mp hevent
      exact ⟨⟨payload, rfl, haccepts⟩, le_rfl, le_rfl⟩
    · have hthreshold := threshold_run providers events fetch.place
      rw [runFrom_cons, runFrom_nil, step, hslot]
      dsimp only
      rw [IsOpen, breakers_arrive ⟨payload, rfl, haccepts⟩]
      simp [CircuitBreaker.recordSuccess, CircuitBreaker.isOpen, hthreshold]

/-- Three fetches of the first provider, one after another, that all time out. -/
def outageEvents : List FetchEvent :=
  (List.range 3).flatMap fun slot =>
    [.starts 0 weatherInput, .arrives slot ⟨fun _ => .timeout, .v4 0, 0, 0⟩]

theorem isOpen_outage : (runFrom (step liveProviders) {} outageEvents).IsOpen 0 := rfl

theorem not_waits_outage : ¬(runFrom (step liveProviders) {} outageEvents).Waits 0 := by
  have hslots : (runFrom (step liveProviders) {} outageEvents).slots = [none, none, none] := rfl
  rintro ⟨fetch, url, hmem, -⟩
  rw [hslots] at hmem
  simp at hmem

/-- Four at once, of which the last waits when the others have timed out. -/
def waitingEvents : List FetchEvent :=
  List.replicate 4 (.starts 0 weatherInput) ++
    (List.range 3).map fun slot => .arrives slot ⟨fun _ => .timeout, .v4 0, 0, 0⟩

theorem waits_waiting : (runFrom (step liveProviders) {} waitingEvents).Waits 0 := by
  have hslots : (runFrom (step liveProviders) {} waitingEvents).slots = [none, none, none,
    some (⟨0, amadeusFlightStatus, weatherInput⟩, "https://provider")] := rfl
  refine ⟨⟨0, amadeusFlightStatus, weatherInput⟩, "https://provider", ?_, rfl⟩
  rw [hslots]
  simp

theorem recovers_iff_waits_outage :
    ((runFrom (step liveProviders) {} outageEvents).Recovers liveProviders amadeusFlightStatus 0 ↔
      (runFrom (step liveProviders) {} outageEvents).Waits 0) ∧
    (runFrom (step liveProviders) {} waitingEvents).Recovers liveProviders amadeusFlightStatus 0 := by
  have haccepts : amadeusFlightStatus.Accepts [("risk_score", .null)] := ⟨rfl, _, rfl⟩
  have hopen : (runFrom (step liveProviders) {} waitingEvents).IsOpen 0 := rfl
  exact ⟨recovers_iff_waits rfl haccepts isOpen_outage,
    (recovers_iff_waits rfl haccepts hopen).mpr waits_waiting⟩

/-- After three failures the provider is never asked again. -/
theorem breaker_stays_open :
    ¬∀ (events : List FetchEvent) (place : ℕ) (provider : JsonHttpProvider),
      liveProviders[place]? = some provider →
      (runFrom (step liveProviders) {} events).IsOpen place →
      (runFrom (step liveProviders) {} events).Recovers liveProviders provider place := by
  intro h
  have hrecovers := h outageEvents 0 amadeusFlightStatus rfl isOpen_outage
  exact Stuck.not_recovers ⟨isOpen_outage, not_waits_outage⟩ hrecovers

end ProviderRun

end RouteShield
