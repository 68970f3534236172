import RouteShield.Lib.Runs
import RouteShield.Tools.LiveEvidence

/-!
Runs of the providers of a process. A fetch that was let through waits for its reply while others
start and end, and any of them may write the cache that all share. Beside the cache and the breakers
a run keeps what each successful fetch brought, the newest first. A collection is a run that starts
all its fetches before the first reply.
-/

namespace RouteShield

/-- A fetch of the provider at a place. -/
structure Fetch where
  place : ℕ
  provider : JsonHttpProvider
  input : FetchInput

def Fetch.key (fetch : Fetch) : String := fetch.provider.cacheKeyOf fetch.input

/-- What the network gives a waiting fetch, and what is read once it has. -/
structure Arrival where
  replies : ℕ → HttpReply
  evidenceId : Uuid
  finishedAt : Time
  builtAt : Time

def Fetch.withArrival (fetch : Fetch) (arrival : Arrival) : FetchInput :=
  { fetch.input with
    replies := arrival.replies
    evidenceId := arrival.evidenceId
    finishedAt := arrival.finishedAt
    builtAt := arrival.builtAt }

inductive FetchEvent where
  | starts (place : ℕ) (input : FetchInput)
  | arrives (slot : ℕ) (arrival : Arrival)

/-- A slot for each fetch that was started, empty unless it waits for the reply of its URL. -/
structure ProviderRun where
  collector : LiveEvidenceCollector := {}
  slots : List (Option (Fetch × String)) := []
  answers : List (Fetch × EvidenceEnvelope) := []

namespace ProviderRun

variable (providers : List JsonHttpProvider) (run : ProviderRun)

def lookUp (fetch : Fetch) : EvidenceEnvelope ⊕ String :=
  fetch.provider.lookUp (run.collector.stateOf fetch.place) fetch.input

def ask (fetch : Fetch) (url : String) (arrival : Arrival) :
    Except Fault EvidenceEnvelope × ProviderState :=
  fetch.provider.ask (run.collector.stateOf fetch.place) (fetch.withArrival arrival) url

/-- The slot of a fetch that starts. -/
def slotOf (fetch : Fetch) : Option (Fetch × String) := (run.lookUp fetch).getRight?.map (fetch, ·)

def start (fetch : Fetch) : ProviderRun := { run with slots := run.slots ++ [run.slotOf fetch] }

/-- A successful fetch returns a fresh envelope. -/
def record (fetch : Fetch) : Except Fault EvidenceEnvelope → List (Fetch × EvidenceEnvelope)
  | .ok item => if item.freshnessStatus = .fresh then (fetch, item) :: run.answers else run.answers
  | .error _ => run.answers

def arrive (slot : ℕ) (fetch : Fetch) (url : String) (arrival : Arrival) : ProviderRun :=
  let (result, state) := run.ask fetch url arrival
  { collector :=
      { cache := state.cache
        breakers := Function.update run.collector.breakers fetch.place state.breaker }
    slots := run.slots.set slot none
    answers := run.record fetch result }

def step : FetchEvent → ProviderRun
  | .starts place input =>
    match providers[place]? with
    | some provider => run.start ⟨place, provider, input⟩
    | none => run
  | .arrives slot arrival =>
    match run.slots[slot]? with
    | some (some (fetch, url)) => run.arrive slot fetch url arrival
    | _ => run

/-- The fetch that an event ends, with what it returns. -/
def returns : FetchEvent → Option (Fetch × Except Fault EvidenceEnvelope)
  | .starts place input =>
    providers[place]?.bind fun provider =>
      (run.lookUp ⟨place, provider, input⟩).getLeft?.map (⟨place, provider, input⟩, .ok ·)
  | .arrives slot arrival =>
    match run.slots[slot]? with
    | some (some (fetch, url)) => some (fetch, (run.ask fetch url arrival).1)
    | _ => none

variable {providers} {run}

/-- An event starts a fetch, or brings the reply of one that waits, or changes nothing. -/
theorem step_cases (providers : List JsonHttpProvider) (run : ProviderRun) (event : FetchEvent) :
    (∃ fetch, providers[fetch.place]? = some fetch.provider ∧
      event = .starts fetch.place fetch.input ∧ run.step providers event = run.start fetch) ∨
    (∃ slot fetch url arrival, run.slots[slot]? = some (some (fetch, url)) ∧
      event = .arrives slot arrival ∧
      run.step providers event = run.arrive slot fetch url arrival) ∨
    run.step providers event = run := by
  cases event with
  | starts place input =>
    cases hprovider : providers[place]? with
    | none => exact .inr (.inr (by simp only [step, hprovider]))
    | some provider =>
      exact .inl ⟨⟨place, provider, input⟩, hprovider, rfl, by simp only [step, hprovider]⟩
  | arrives slot arrival =>
    simp only [step]
    split
    · rename_i fetch url hslot
      exact .inr (.inl ⟨slot, fetch, url, arrival, hslot, rfl, rfl⟩)
    · exact .inr (.inr rfl)

/-- A fetch ends as it starts, without the network, or with its reply. -/
theorem returns_cases {event : FetchEvent} {fetch : Fetch} {result : Except Fault EvidenceEnvelope}
    (h : run.returns providers event = some (fetch, result)) :
    (event = .starts fetch.place fetch.input ∧ providers[fetch.place]? = some fetch.provider ∧
      ∃ item, run.lookUp fetch = .inl item ∧ result = .ok item) ∨
    ∃ slot url arrival, event = .arrives slot arrival ∧
      run.slots[slot]? = some (some (fetch, url)) ∧ result = (run.ask fetch url arrival).1 := by
  cases event with
  | starts place input =>
    obtain ⟨provider, hprovider, hstarts⟩ := Option.bind_eq_some_iff.mp h
    obtain ⟨item, hitem, hpair⟩ := Option.map_eq_some_iff.mp hstarts
    cases hpair
    exact .inl ⟨rfl, hprovider, item, Sum.getLeft?_eq_some_iff.mp hitem, rfl⟩
  | arrives slot arrival =>
    unfold returns at h
    dsimp only at h
    split at h
    · rename_i fetch' url hslot
      obtain ⟨rfl, rfl⟩ := Prod.mk.inj (Option.some.inj h)
      exact .inr ⟨slot, url, arrival, rfl, hslot, rfl⟩
    · cases h

/-- A reply puts the envelope that it brings, or leaves the cache and the answers as they are. -/
theorem arrive_cases (run : ProviderRun) (slot : ℕ) (fetch : Fetch) (url : String)
    (arrival : Arrival) :
    (∃ item, (run.ask fetch url arrival).1 = .ok item ∧ item.freshnessStatus = .fresh ∧
      item.sourceName = fetch.provider.name ∧
      (run.arrive slot fetch url arrival).collector.cache =
        run.collector.cache.put (fetch.key, item) ∧
      (run.arrive slot fetch url arrival).answers = (fetch, item) :: run.answers) ∨
    ((∀ item, (run.ask fetch url arrival).1 = .ok item →
        item.freshnessStatus = .unavailable ∧ item.sourceName = fetch.provider.name) ∧
      (run.arrive slot fetch url arrival).collector.cache = run.collector.cache ∧
      (run.arrive slot fetch url arrival).answers = run.answers) := by
  unfold arrive ask
  obtain ⟨payload, normalized, -, -, hask⟩ | ⟨payload, fault, -, -, hask⟩ | ⟨errorCode, -, hask⟩ :=
    JsonHttpProvider.ask_cases fetch.provider (run.collector.stateOf fetch.place)
      (fetch.withArrival arrival) url
  · rw [hask]
    exact .inl ⟨_, rfl, rfl, rfl, rfl, rfl⟩
  · rw [hask]
    refine .inr ⟨fun item h => ?_, rfl, rfl⟩
    cases h
  · rw [hask]
    refine .inr ⟨fun item h => ?_, rfl, rfl⟩
    cases h
    exact ⟨rfl, rfl⟩

/-! ### A collection -/

/-- Fetches that start one after another look at the same cache and breakers. -/
theorem runFrom_starts {fetches : List Fetch}
    (h : ∀ fetch ∈ fetches, providers[fetch.place]? = some fetch.provider) :
    runFrom (step providers) run (fetches.map fun fetch => .starts fetch.place fetch.input) =
      { run with slots := run.slots ++ fetches.map run.slotOf } := by
  induction fetches generalizing run with
  | nil => simp
  | cons fetch fetches ih =>
    have hstart : run.step providers (.starts fetch.place fetch.input) = run.start fetch := by
      simp only [step, h fetch List.mem_cons_self]
    rw [List.map_cons, runFrom_cons, hstart, ih fun f hf => h f (List.mem_cons_of_mem _ hf)]
    simp [start, slotOf, lookUp]

section Collect

variable (readings : LiveReadings) (fresh : ℕ → Uuid) (trip : Trip) (firstSegment : FlightSegment)
  (correlationId : String) {collector : LiveEvidenceCollector}

/-- The fetch of a collection at a place. -/
def fetchOf (p : JsonHttpProvider × ℕ) : Fetch where
  place := p.2
  provider := p.1
  input := LiveEvidenceCollector.fetchInput readings fresh trip firstSegment correlationId p.1 p.2

def arrivalOf (i : ℕ) : Arrival where
  replies := readings.replies i
  evidenceId := fresh i
  finishedAt := readings.finishedAt i
  builtAt := readings.builtAt i

/-- All fetches of a collection, and then their replies in the order of the readings. -/
def collectEvents : List FetchEvent :=
  (liveProviders.zipIdx.map (fetchOf readings fresh trip firstSegment correlationId)).map
      (fun fetch => .starts fetch.place fetch.input) ++
    readings.arrivals.map (fun i => .arrives i (arrivalOf readings fresh i))

variable {readings fresh trip firstSegment correlationId}

/-- Replies to slots that still are as the starts left them. -/
theorem runFrom_arrivals {arrivals : List ℕ} (hnodup : arrivals.Nodup)
    (hslots : ∀ i ∈ arrivals, ∃ provider, liveProviders[i]? = some provider ∧
      run.slots[i]? = some (slotOf { collector }
        (fetchOf readings fresh trip firstSegment correlationId (provider, i)))) :
    (runFrom (step liveProviders) run
      (arrivals.map fun i => .arrives i (arrivalOf readings fresh i))).collector =
    arrivals.foldl (collector.settle (LiveEvidenceCollector.fetchInput readings fresh trip
      firstSegment correlationId)) run.collector := by
  induction arrivals generalizing run with
  | nil => rfl
  | cons i arrivals ih =>
    obtain ⟨hnotMem, hnodup⟩ := List.nodup_cons.mp hnodup
    obtain ⟨provider, hprovider, hslot⟩ := hslots i List.mem_cons_self
    have hrest := fun j hj => hslots j (List.mem_cons_of_mem i hj)
    rw [List.map_cons, runFrom_cons, List.foldl_cons]
    cases hlookUp : provider.lookUp (collector.stateOf i)
        (LiveEvidenceCollector.fetchInput readings fresh trip firstSegment correlationId provider
          i) with
    | inl item =>
      have hstep : run.step liveProviders (.arrives i (arrivalOf readings fresh i)) = run := by
        simp [step, hslot, slotOf, lookUp, fetchOf, hlookUp]
      rw [hstep, ih hnodup hrest]
      simp [LiveEvidenceCollector.settle, hprovider, hlookUp]
    | inr url =>
      have hstep : run.step liveProviders (.arrives i (arrivalOf readings fresh i)) =
          run.arrive i (fetchOf readings fresh trip firstSegment correlationId (provider, i)) url
            (arrivalOf readings fresh i) := by
        simp [step, hslot, slotOf, lookUp, fetchOf, hlookUp]
      rw [hstep, ih hnodup]
      · simp only [LiveEvidenceCollector.settle, hprovider, hlookUp]
        rfl
      · intro j hj
        obtain ⟨provider', hprovider', hslot'⟩ := hrest j hj
        refine ⟨provider', hprovider', ?_⟩
        have hne : i ≠ j := fun h => hnotMem (h ▸ hj)
        rw [← hslot']
        exact List.getElem?_set_ne hne

/-- A collection is a run. -/
theorem collect_run (hfirst : trip.segments.head? = some firstSegment) :
    (collector.collect readings fresh trip correlationId).2 =
      (runFrom (step liveProviders) { collector }
        (collectEvents readings fresh trip firstSegment correlationId)).collector := by
  have hplaces : ∀ fetch ∈ liveProviders.zipIdx.map
      (fetchOf readings fresh trip firstSegment correlationId),
      liveProviders[fetch.place]? = some fetch.provider := by
    intro fetch hfetch
    obtain ⟨p, hp, rfl⟩ := List.mem_map.mp hfetch
    exact List.mem_zipIdx_iff_getElem?.mp hp
  have hslots : ∀ i ∈ readings.arrivals, ∃ provider, liveProviders[i]? = some provider ∧
      ([] ++ (liveProviders.zipIdx.map (fetchOf readings fresh trip firstSegment correlationId)).map
        (slotOf { collector }))[i]? = some (slotOf { collector }
          (fetchOf readings fresh trip firstSegment correlationId (provider, i))) := by
    intro i hi
    have hlt := List.mem_range.mp (readings.arrivals_perm.mem_iff.mp hi)
    refine ⟨liveProviders[i], List.getElem?_eq_getElem hlt, ?_⟩
    rw [List.nil_append, List.getElem?_map, List.getElem?_map, List.getElem?_zipIdx,
      List.getElem?_eq_getElem hlt]
    simp
  have hnodup := readings.arrivals_perm.nodup_iff.mpr List.nodup_range
  rw [collectEvents, runFrom_append, runFrom_starts hplaces, runFrom_arrivals hnodup hslots]
  simp only [LiveEvidenceCollector.collect, hfirst]

end Collect

end ProviderRun

end RouteShield
