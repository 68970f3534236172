import RouteShield.Tools.ProviderRuns

/-!
The cache that all providers share. Its keys name the tenant, the source type and the request, and
not the provider, so a fetch finds whatever was put last under that text. Three providers have the
source type of airport weather: an answer of one of them is returned by all three until it expires.
-/

namespace RouteShield

variable {providers : List JsonHttpProvider} {run : ProviderRun} {fetch : Fetch}
  {item : EvidenceEnvelope} {answer : Fetch × EvidenceEnvelope}

/-- The provider, by its place, and the request whose readings are its own. -/
def Fetch.owner (fetch : Fetch) : ℕ × String × String :=
  (fetch.place, fetch.input.tenantId, fetch.input.cacheKey)

namespace ProviderRun

/-- The last answer under a key, whoever brought it. -/
def lastUnder (run : ProviderRun) (key : String) : Option (Fetch × EvidenceEnvelope) :=
  run.answers.find? (fun answer => answer.1.key = key)

/-- What the provider of a fetch itself last fetched for its tenant and cache key. -/
def lastOf (run : ProviderRun) (fetch : Fetch) : Option (Fetch × EvidenceEnvelope) :=
  run.answers.find? (fun answer => answer.1.owner = fetch.owner)

/-- The envelope bears the provider's name, and from the cache it has the provider's own reading. -/
structure OwnReading (run : ProviderRun) (fetch : Fetch) (item : EvidenceEnvelope) : Prop where
  named : item.sourceName = fetch.provider.name
  cached : item.freshnessStatus = .cached → ∃ answer, run.lastOf fetch = some answer ∧
    item.normalizedPayload = answer.2.normalizedPayload

def ReturnsOwn (providers : List JsonHttpProvider) (run : ProviderRun) (event : FetchEvent) : Prop :=
  ∀ fetch item, run.returns providers event = some (fetch, .ok item) → run.OwnReading fetch item

/-- Unless it has expired, the last answer under the key of a fetch was for the same request of the
same provider. -/
def Undisturbed (run : ProviderRun) (fetch : Fetch) : Prop :=
  ∀ answer, run.lastUnder fetch.key = some answer →
    fetch.input.cacheReadAt < answer.2.expiresAt → answer.1.owner = fetch.owner

def StartsUndisturbed (providers : List JsonHttpProvider) (run : ProviderRun) :
    FetchEvent → Prop
  | .starts place input =>
    ∀ provider, providers[place]? = some provider → run.Undisturbed ⟨place, provider, input⟩
  | .arrives _ _ => True

/-! ### What the cache holds -/

/-- The cache holds under each key what was put last, under the name of who put it. -/
structure Written (providers : List JsonHttpProvider) (run : ProviderRun) : Prop where
  find : ∀ key, run.collector.cache.find? key =
    (run.lastUnder key).map (fun answer => (key, answer.2))
  named : ∀ answer ∈ run.answers, answer.2.sourceName = answer.1.provider.name
  placed : ∀ answer ∈ run.answers, providers[answer.1.place]? = some answer.1.provider
  waiting : ∀ fetch url, some (fetch, url) ∈ run.slots →
    providers[fetch.place]? = some fetch.provider

theorem written_init : Written providers {} where
  find _ := rfl
  named _ h := by cases h
  placed _ h := by cases h
  waiting _ _ h := by cases h

theorem Written.start (h : Written providers run)
    (hfetch : providers[fetch.place]? = some fetch.provider) :
    Written providers (run.start fetch) where
  find := h.find
  named := h.named
  placed := h.placed
  waiting waiting url hmem := by
    rcases List.mem_append.mp hmem with hmem | hmem
    · exact h.waiting waiting url hmem
    · obtain ⟨_, -, hslot⟩ := Option.map_eq_some_iff.mp (List.mem_singleton.mp hmem).symm
      cases hslot
      exact hfetch

theorem Written.arrive (h : Written providers run) {slot : ℕ} {url : String}
    (hslot : run.slots[slot]? = some (some (fetch, url))) (arrival : Arrival) :
    Written providers (run.arrive slot fetch url arrival) := by
  have hfetch := h.waiting fetch url (List.mem_of_getElem? hslot)
  have hwaiting : ∀ fetch' url', some (fetch', url') ∈ (run.arrive slot fetch url arrival).slots →
      providers[fetch'.place]? = some fetch'.provider := by
    intro fetch' url' hmem
    rcases List.mem_or_eq_of_mem_set hmem with hmem | hnone
    · exact h.waiting fetch' url' hmem
    · cases hnone
  obtain ⟨item, -, -, hname, hcache, hanswers⟩ | ⟨-, hcache, hanswers⟩ :=
    arrive_cases run slot fetch url arrival
  · refine ⟨fun key => ?_, ?_, ?_, hwaiting⟩
    · rw [hcache, Table.find?_put, lastUnder, hanswers, List.find?_cons]
      by_cases hkey : fetch.key = key
      · simp [hkey]
      · simp [hkey, Ne.symm hkey, h.find key, lastUnder]
    · rw [hanswers]
      exact List.forall_mem_cons.mpr ⟨hname, h.named⟩
    · rw [hanswers]
      exact List.forall_mem_cons.mpr ⟨hfetch, h.placed⟩
  · refine ⟨fun key => ?_, ?_, ?_, hwaiting⟩
    · rw [hcache, lastUnder, hanswers]
      exact h.find key
    · rw [hanswers]
      exact h.named
    · rw [hanswers]
      exact h.placed

theorem Written.step (h : Written providers run) (event : FetchEvent) :
    Written providers (run.step providers event) := by
  obtain ⟨fetch, hfetch, -, hstep⟩ | ⟨slot, fetch, url, arrival, hslot, -, hstep⟩ | hstep :=
    step_cases providers run event
  · exact hstep ▸ h.start hfetch
  · exact hstep ▸ h.arrive hslot arrival
  · exact hstep.symm ▸ h

/-! ### Whose reading a fetch returns -/

theorem Written.provider_eq (h : Written providers run) (hanswer : answer ∈ run.answers)
    (hfetch : providers[fetch.place]? = some fetch.provider)
    (hplace : answer.1.place = fetch.place) : answer.1.provider = fetch.provider := by
  have hplaced := h.placed answer hanswer
  rw [hplace, hfetch] at hplaced
  exact (Option.some.inj hplaced).symm

/-- Among the answers under a key, the last of an owner who brought the last of all is that one. -/
theorem Written.lastOf_eq (h : Written providers run)
    (hfetch : providers[fetch.place]? = some fetch.provider)
    (hlast : run.lastUnder fetch.key = some answer) (howner : answer.1.owner = fetch.owner) :
    run.lastOf fetch = some answer := by
  obtain ⟨-, newer, older, hanswers, hnewer⟩ := List.find?_eq_some_iff_append.mp hlast
  refine List.find?_eq_some_iff_append.mpr
    ⟨decide_eq_true howner, newer, older, hanswers, fun other hother => ?_⟩
  have hmem : other ∈ run.answers := hanswers ▸ List.mem_append_left _ hother
  -- an owner has one key, so another key means another owner
  have hkey : other.1.owner = fetch.owner → other.1.key = fetch.key := by
    intro hsame
    obtain ⟨hplace, hrequest⟩ := Prod.ext_iff.mp hsame
    obtain ⟨htenant, hcacheKey⟩ := Prod.ext_iff.mp hrequest
    have hprovider := h.provider_eq hmem hfetch hplace
    dsimp only [Fetch.owner] at htenant hcacheKey
    rw [Fetch.key, Fetch.key, JsonHttpProvider.cacheKeyOf, JsonHttpProvider.cacheKeyOf, hprovider,
      htenant, hcacheKey]
  have hother := hnewer other hother
  simp only [Bool.not_eq_true', decide_eq_false_iff_not] at hother ⊢
  exact fun hsame => hother (hkey hsame)

/-- A fetch returns a cached envelope when the last answer under its key has not expired. -/
theorem Written.lookUp_cases (h : Written providers run) (hlookUp : run.lookUp fetch = .inl item) :
    (∃ answer ∈ run.answers, run.lastUnder fetch.key = some answer ∧
      fetch.input.cacheReadAt < answer.2.expiresAt ∧
      item = { answer.2 with freshnessStatus := .cached }) ∨
    (item.freshnessStatus = .unavailable ∧ item.sourceName = fetch.provider.name) := by
  unfold lookUp at hlookUp
  cases hget : (run.collector.stateOf fetch.place).cache.get fetch.key fetch.input.cacheReadAt with
  | some cached =>
    rw [JsonHttpProvider.lookUp_cached hget] at hlookUp
    obtain ⟨row, entry, hfind, hlive, hcached⟩ := ProviderCache.get_eq_some.mp hget
    obtain ⟨answer, hlast, hentry⟩ := Option.map_eq_some_iff.mp ((h.find _).symm.trans hfind)
    cases hentry
    exact .inl ⟨answer, List.mem_of_find?_eq_some hlast, hlast, hlive,
      (Sum.inl.inj hlookUp).symm.trans hcached⟩
  | none =>
    obtain ⟨errorCode, hnone⟩ | ⟨url, hnone⟩ := JsonHttpProvider.lookUp_uncached hget
    · rw [hnone] at hlookUp
      cases hlookUp
      exact .inr ⟨rfl, rfl⟩
    · rw [hnone] at hlookUp
      cases hlookUp

theorem Written.returnsOwn (h : Written providers run) {event : FetchEvent}
    (hundisturbed : run.StartsUndisturbed providers event) : run.ReturnsOwn providers event := by
  intro fetch item hreturns
  obtain ⟨rfl, hfetch, item', hlookUp, hitem⟩ | ⟨slot, url, arrival, rfl, hslot, hask⟩ :=
    returns_cases hreturns
  · cases hitem
    obtain ⟨answer, hanswer, hlast, hlive, rfl⟩ | ⟨hdark, hname⟩ := h.lookUp_cases hlookUp
    · have howner := hundisturbed fetch.provider hfetch answer hlast hlive
      have hprovider := h.provider_eq hanswer hfetch (congrArg Prod.fst howner)
      refine ⟨(h.named answer hanswer).trans (congrArg JsonHttpProvider.name hprovider), fun _ => ?_⟩
      exact ⟨answer, h.lastOf_eq hfetch hlast howner, rfl⟩
    · refine ⟨hname, fun hcached => ?_⟩
      rw [hdark] at hcached
      cases hcached
  · obtain ⟨item', hok, hfresh, hname, -⟩ | ⟨hfailed, -⟩ := arrive_cases run slot fetch url arrival
    · cases hask.trans hok
      refine ⟨hname, fun hcached => ?_⟩
      rw [hfresh] at hcached
      cases hcached
    · obtain ⟨hdark, hname⟩ := hfailed item hask.symm
      refine ⟨hname, fun hcached => ?_⟩
      rw [hdark] at hcached
      cases hcached

theorem name_ne_of_place_ne {i j : ℕ} {provider provider' : JsonHttpProvider}
    (hi : liveProviders[i]? = some provider) (hj : liveProviders[j]? = some provider')
    (hne : i ≠ j) : provider.name ≠ provider'.name := by
  have hnodup : (liveProviders.map JsonHttpProvider.name).Nodup := by decide
  intro hname
  have hi' : (liveProviders.map JsonHttpProvider.name)[i]? = some provider.name := by
    rw [List.getElem?_map, hi, Option.map_some]
  have hj' : (liveProviders.map JsonHttpProvider.name)[j]? = some provider'.name := by
    rw [List.getElem?_map, hj, Option.map_some]
  have hlt := (List.getElem?_eq_some_iff.mp hi').1
  exact hne ((List.getElem?_inj hlt hnodup).mp (hi'.trans (hname ▸ hj'.symm)))

/-- An answer that another provider has put since is returned in the provider's place. -/
theorem Written.returns_other (h : Written liveProviders run)
    (hfetch : liveProviders[fetch.place]? = some fetch.provider)
    (hlast : run.lastUnder fetch.key = some answer)
    (hlive : fetch.input.cacheReadAt < answer.2.expiresAt)
    (hplace : answer.1.place ≠ fetch.place) :
    run.returns liveProviders (.starts fetch.place fetch.input) =
        some (fetch, .ok { answer.2 with freshnessStatus := .cached }) ∧
      answer.2.sourceName ≠ fetch.provider.name := by
  have hanswer := List.mem_of_find?_eq_some hlast
  constructor
  · have hget : (run.collector.stateOf fetch.place).cache.get fetch.key fetch.input.cacheReadAt =
        some { answer.2 with freshnessStatus := .cached } := by
      refine ProviderCache.get_eq_some.mpr ⟨fetch.key, answer.2, ?_, hlive, rfl⟩
      exact (h.find fetch.key).trans (hlast ▸ rfl)
    have hlookUp := JsonHttpProvider.lookUp_cached hget
    simp only [returns, hfetch, Option.bind_some, lookUp]
    rw [hlookUp]
    rfl
  · rw [h.named answer hanswer]
    exact name_ne_of_place_ne (h.placed answer hanswer) hfetch hplace

theorem written_run (events : List FetchEvent) :
    Written providers (runFrom (step providers) {} events) :=
  runFrom_inv (Written providers) (fun _ event h _ => h.step event) written_init
    (meets_true _ events)

/-- In a run in which every fetch starts undisturbed, every fetch returns its provider's reading. A
fetch that another provider has disturbed returns the other's. -/
theorem returnsOwn_of_undisturbed (events : List FetchEvent) :
    (Meets (step liveProviders) (StartsUndisturbed liveProviders) {} events →
      Meets (step liveProviders) (ReturnsOwn liveProviders) {} events) ∧
    ∀ (fetch : Fetch) (answer : Fetch × EvidenceEnvelope),
      liveProviders[fetch.place]? = some fetch.provider →
      (runFrom (step liveProviders) {} events).lastUnder fetch.key = some answer →
      fetch.input.cacheReadAt < answer.2.expiresAt → answer.1.place ≠ fetch.place →
      ¬(runFrom (step liveProviders) {} events).ReturnsOwn liveProviders
        (.starts fetch.place fetch.input) := by
  constructor
  · intro h
    have hinv := h.and_inv (Written liveProviders) (fun _ event hwritten _ => hwritten.step event)
      written_init
    exact hinv.mono fun run event hboth => hboth.1.returnsOwn hboth.2
  · intro fetch answer hfetch hlast hlive hplace hown
    obtain ⟨hreturns, hname⟩ := (written_run events).returns_other hfetch hlast hlive hplace
    exact hname (hown fetch _ hreturns).named

/-! ### Two sources of airport weather -/

def weatherInput : FetchInput where
  tenantId := "acme"
  cacheKey := "UA:123:SFO:US"
  correlationId := "run"
  enabled := some true
  environ := fun _ => some "https://provider"
  replies := fun _ => .timeout
  evidenceId := .v4 0
  cacheReadAt := 0
  startedAt := 0
  finishedAt := 0
  builtAt := 0

def scoring (score : ℚ) : Arrival where
  replies := fun _ => .json (.obj [("risk_score", .num (.float (.finite score)))])
  evidenceId := .v4 0
  finishedAt := 0
  builtAt := 0

/-- One collection: the first source reads 90, and the second, whose reply is the last, 10. -/
def weatherEvents : List FetchEvent :=
  [.starts 1 weatherInput, .starts 2 weatherInput, .arrives 0 (scoring 90), .arrives 1 (scoring 10)]

/-- What a source answers in it. -/
def weatherAnswer (place : ℕ) (provider : JsonHttpProvider) (score : ℚ) : Fetch × EvidenceEnvelope :=
  (⟨place, provider, weatherInput⟩, provider.answered weatherInput "https://provider"
    [("risk_score", .num (.float (.finite score)))])

theorem answers_weatherEvents : (runFrom (step liveProviders) {} weatherEvents).answers =
    [weatherAnswer 2 nwsAlerts 10, weatherAnswer 1 faaNas 90] := rfl

/-- The first source alone, which reads 90 and fetches again. -/
def againEvents : List FetchEvent :=
  [.starts 1 weatherInput, .arrives 0 (scoring 90), .starts 1 weatherInput]

/-- Undisturbed, it returns its own reading from the cache. -/
theorem returnsOwn_of_undisturbed_again :
    Meets (step liveProviders) (ReturnsOwn liveProviders) {} againEvents ∧
      (runFrom (step liveProviders) {} (againEvents.take 2)).returns liveProviders
        (.starts 1 weatherInput) = some (⟨1, faaNas, weatherInput⟩,
          .ok { (weatherAnswer 1 faaNas 90).2 with freshnessStatus := .cached }) := by
  have hanswers : (runFrom (step liveProviders) {} (againEvents.take 2)).answers =
      [weatherAnswer 1 faaNas 90] := rfl
  refine ⟨(returnsOwn_of_undisturbed againEvents).1 ⟨?_, trivial, ?_, trivial⟩, ?_⟩
  · intro provider _ answer hlast
    cases hlast
  · intro provider hprovider answer hlast _
    cases hprovider
    have hmem := List.mem_of_find?_eq_some hlast
    change answer ∈ (runFrom (step liveProviders) {} (againEvents.take 2)).answers at hmem
    rw [hanswers, List.mem_singleton] at hmem
    rw [hmem]
    rfl
  · rfl

/-- The first source then returns the reading of the second. -/
theorem returns_another_reading :
    ¬∀ events : List FetchEvent, Meets (step liveProviders) (ReturnsOwn liveProviders) {} events := by
  intro h
  have hmeets := h (weatherEvents ++ [.starts 1 weatherInput])
  have hown := ((meets_append _ _ _).mp hmeets).2.1
  have hlast : (runFrom (step liveProviders) {} weatherEvents).lastUnder
      (Fetch.key ⟨1, faaNas, weatherInput⟩) = some (weatherAnswer 2 nwsAlerts 10) := by
    rw [lastUnder, answers_weatherEvents]
    exact List.find?_cons_of_pos (decide_eq_true rfl)
  obtain ⟨hreturns, hname⟩ := (written_run weatherEvents).returns_other rfl hlast (by decide)
    (by decide)
  exact hname (hown _ _ hreturns).named

end ProviderRun

end RouteShield
