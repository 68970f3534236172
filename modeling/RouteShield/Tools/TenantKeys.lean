import RouteShield.Api.Assess
import RouteShield.Domain.Itinerary
import RouteShield.Domain.UuidText
import RouteShield.Lib.Separated
import RouteShield.Tools.LiveEvidence

/-!
The keys of checkpoints and of cached evidence. A tenant is any text and may look like the rest of
a key; what comes after it is of known length in a checkpoint's key, and has no colon in a cache
key, so a key names its tenant and all its other parts.
-/

namespace RouteShield

/-! ### Checkpoints -/

/-- `thread_id_for`, on the texts of the identifiers. -/
def threadIdOf (tenantId tripId incidentId : String) : String :=
  "tenant:" ++ tenantId ++ ":trip:" ++ tripId ++ ":incident:" ++ incidentId

theorem threadIdFor_eq (tenantId : String) (tripId incidentId : Uuid) :
    Api.threadIdFor tenantId tripId incidentId =
      threadIdOf tenantId tripId.str incidentId.str := rfl

/-- Last parts of one length are read off. -/
theorem append_inj_of_length {s t u v : String} (h : s ++ t = u ++ v)
    (hlength : t.toList.length = v.toList.length) : s = u ∧ t = v := by
  rw [← String.toList_inj, String.toList_append, String.toList_append] at h
  obtain ⟨hs, ht⟩ := List.append_inj' h hlength
  exact ⟨String.toList_inj.mp hs, String.toList_inj.mp ht⟩

theorem threadIdOf_inj {tenant tenant' : String} {trip trip' incident incident' : UuidInt} :
    threadIdOf tenant trip.text incident.text = threadIdOf tenant' trip'.text incident'.text ↔
      tenant = tenant' ∧ trip = trip' ∧ incident = incident' := by
  constructor
  · intro h
    obtain ⟨h, hincident⟩ := append_inj_of_length h
      (incident.length_text.trans incident'.length_text.symm)
    obtain ⟨h, htrip⟩ := append_inj_of_length (append_inj_of_length h rfl).1
      (trip.length_text.trans trip'.length_text.symm)
    have htenant := (append_inj_of_length h rfl).1
    exact ⟨(String.append_right_inj _).mp htenant, UuidInt.text_injective htrip,
      UuidInt.text_injective hincident⟩
  · rintro ⟨rfl, rfl, rfl⟩
    rfl

/-! ### Cached evidence -/

theorem MatchesClass.notMem {ok : Char → Bool} {lo hi : ℕ} {text : String}
    (h : MatchesClass ok lo hi text) {c : Char} (hc : ok c = false) : c ∉ text.toList :=
  fun hmem => Bool.eq_false_iff.mp hc (List.all_eq_true.mp h.1 c hmem)

/-- No source type has a colon. -/
theorem sourceType_notMem : ∀ provider ∈ liveProviders, ':' ∉ provider.sourceType.toList := by
  decide

/-- The parts of a cache key after the tenant. -/
def cacheParts (provider : JsonHttpProvider) (trip : Trip) (firstSegment : FlightSegment) :
    List String :=
  [provider.sourceType, firstSegment.carrierCode, firstSegment.flightNumber,
    firstSegment.departureAirport, trip.destinationCountry]

theorem toList_cacheKeyOf (provider : JsonHttpProvider) (readings : LiveReadings)
    (fresh : ℕ → Uuid) (trip : Trip) (firstSegment : FlightSegment) (correlationId : String)
    (i : ℕ) :
    (provider.cacheKeyOf (LiveEvidenceCollector.fetchInput readings fresh trip firstSegment
        correlationId provider i)).toList =
      Separated.joined ':' trip.tenantId.toList
        ((cacheParts provider trip firstSegment).map String.toList) := by
  have hkey : LiveEvidenceCollector.cacheKey trip firstSegment = firstSegment.carrierCode ++ ":" ++
      firstSegment.flightNumber ++ ":" ++ firstSegment.departureAirport ++ ":" ++
        trip.destinationCountry := rfl
  rw [JsonHttpProvider.cacheKeyOf, LiveEvidenceCollector.fetchInput, hkey]
  simp only [← String.append_assoc, Separated.toList_colon]
  rfl

theorem notMem_cacheParts {booked : Trip} (hvalid : booked.toTripCreate.Valid)
    {first : FlightSegment} (hfirst : first ∈ booked.segments.head?) {provider : JsonHttpProvider}
    (hprovider : provider ∈ liveProviders) :
    ∀ part ∈ (cacheParts provider booked first).map String.toList, ':' ∉ part := by
  have hsegment : first.Valid := hvalid.segments first (List.mem_of_mem_head? hfirst)
  simp only [cacheParts, List.map_cons, List.map_nil, List.forall_mem_cons, List.not_mem_nil]
  exact ⟨sourceType_notMem provider hprovider, hsegment.carrierCode.notMem rfl,
    hsegment.flightNumber.notMem rfl, hsegment.departureAirport.notMem rfl,
    hvalid.destinationCountry.notMem rfl, fun _ h => h.elim⟩

/-- The collections of two valid trips ask two providers under one key exactly for one tenant,
source type, flight, airport and country. -/
theorem cacheKeyOf_inj {booked booked' : Trip} (hvalid : booked.toTripCreate.Valid)
    (hvalid' : booked'.toTripCreate.Valid) {first first' : FlightSegment}
    (hfirst : first ∈ booked.segments.head?) (hfirst' : first' ∈ booked'.segments.head?)
    {provider provider' : JsonHttpProvider} (hprovider : provider ∈ liveProviders)
    (hprovider' : provider' ∈ liveProviders) (readings readings' : LiveReadings)
    (fresh fresh' : ℕ → Uuid) (correlationId correlationId' : String) (i i' : ℕ) :
    provider.cacheKeyOf (LiveEvidenceCollector.fetchInput readings fresh booked first correlationId
        provider i) =
      provider'.cacheKeyOf (LiveEvidenceCollector.fetchInput readings' fresh' booked' first'
        correlationId' provider' i') ↔
    booked.tenantId = booked'.tenantId ∧ provider.sourceType = provider'.sourceType ∧
      first.carrierCode = first'.carrierCode ∧ first.flightNumber = first'.flightNumber ∧
      first.departureAirport = first'.departureAirport ∧
      booked.destinationCountry = booked'.destinationCountry := by
  have hmap : Function.Injective (List.map String.toList) :=
    List.map_injective_iff.mpr fun _ _ => String.toList_inj.mp
  have hlength : ((cacheParts provider booked first).map String.toList).length =
      ((cacheParts provider' booked' first').map String.toList).length := rfl
  rw [← String.toList_inj, toList_cacheKeyOf, toList_cacheKeyOf,
    Separated.joined_inj hlength (notMem_cacheParts hvalid hfirst hprovider)
      (notMem_cacheParts hvalid' hfirst' hprovider'), String.toList_inj, hmap.eq_iff]
  simp only [cacheParts, List.cons.injEq, and_true]

/-! ### Both -/

/-- A checkpoint's key names its tenant, its trip and its incident, and a cache key its tenant and
what was asked. -/
theorem keys_name_tenant (tenant tenant' : String) (trip trip' incident incident' : UuidInt) :
    (threadIdOf tenant trip.text incident.text = threadIdOf tenant' trip'.text incident'.text →
      tenant = tenant' ∧ trip = trip' ∧ incident = incident') ∧
    ∀ (booked booked' : Trip), booked.toTripCreate.Valid → booked'.toTripCreate.Valid →
      ∀ first ∈ booked.segments.head?, ∀ first' ∈ booked'.segments.head?,
      ∀ provider ∈ liveProviders, ∀ provider' ∈ liveProviders,
      ∀ (readings readings' : LiveReadings) (fresh fresh' : ℕ → Uuid)
        (correlationId correlationId' : String) (i i' : ℕ),
      provider.cacheKeyOf (LiveEvidenceCollector.fetchInput readings fresh booked first
          correlationId provider i) =
        provider'.cacheKeyOf (LiveEvidenceCollector.fetchInput readings' fresh' booked' first'
          correlationId' provider' i') →
      booked.tenantId = booked'.tenantId ∧ provider.sourceType = provider'.sourceType ∧
        first.carrierCode = first'.carrierCode ∧ first.flightNumber = first'.flightNumber ∧
        first.departureAirport = first'.departureAirport ∧
        booked.destinationCountry = booked'.destinationCountry := by
  refine ⟨threadIdOf_inj.mp, ?_⟩
  intro booked booked' hvalid hvalid' first hfirst first' hfirst' provider hprovider provider'
    hprovider' readings readings' fresh fresh' correlationId correlationId' i i' hkey
  exact (cacheKeyOf_inj hvalid hvalid' hfirst hfirst' hprovider hprovider' readings readings' fresh
    fresh' correlationId correlationId' i i').mp hkey

def osloTrip (tenantId : String) : Trip where
  tenantId
  travelerId := "ada"
  groundOrigin := "Oslo"
  destinationCountry := "SE"
  segments := [⟨"1", "SK", "865", "OSL", "ARN", 0, minutes 60⟩]
  tripId := .v5 "trip"
  createdAt := 0

def offline : LiveReadings where
  enabled _ := false
  environ _ := none
  replies _ _ := .timeout
  cacheReadAt _ := 0
  startedAt _ := 0
  finishedAt _ := 0
  builtAt _ := 0
  calculatedAt := 0
  arrivals := (List.range liveProviders.length).reverse
  arrivals_perm := List.reverse_perm _

/-- A tenant whose name goes on like a key has keys of its own. -/
theorem keys_name_tenant_sample :
    threadIdOf "acme" (7 : UuidInt).text (8 : UuidInt).text ≠
        threadIdOf "acme:trip:7" (7 : UuidInt).text (8 : UuidInt).text ∧
      amadeusFlightStatus.cacheKeyOf (LiveEvidenceCollector.fetchInput offline .v4
          (osloTrip "acme") ⟨"1", "SK", "865", "OSL", "ARN", 0, minutes 60⟩ "c"
          amadeusFlightStatus 0) ≠
        amadeusFlightStatus.cacheKeyOf (LiveEvidenceCollector.fetchInput offline .v4
          (osloTrip "acme:flight_status") ⟨"1", "SK", "865", "OSL", "ARN", 0, minutes 60⟩ "c"
          amadeusFlightStatus 0) := by
  have hkeys := keys_name_tenant "acme" "acme:trip:7" 7 7 8 8
  have hvalid : (osloTrip "acme").toTripCreate.Valid := by decide +kernel
  have hvalid' : (osloTrip "acme:flight_status").toTripCreate.Valid := by decide +kernel
  refine ⟨fun h => absurd (hkeys.1 h).1 (by decide), fun h => ?_⟩
  have htenant := (hkeys.2 _ _ hvalid hvalid' _ rfl _ rfl _ List.mem_cons_self _
    List.mem_cons_self _ _ _ _ _ _ _ _ h).1
  exact absurd htenant (by decide)

end RouteShield
