import RouteShield.Domain.Itinerary
import RouteShield.Store.Postgres

/-!
Which itineraries the database takes. A segment is stored under its trip and its own identifier,
and validation does not compare the identifiers of one trip: an itinerary is stored exactly when
they differ. What is stored is read back in the order of departure as it was written. The texts of
an itinerary are taken to hold no U+0000, which PostgreSQL refuses to store.
-/

namespace RouteShield

open FlightSegment

/-- The rows that `_replace_trip_segments` inserts. -/
def Trip.segmentRows (trip : Trip) : List TripSegmentRow :=
  trip.segments.map fun segment => ⟨trip.tripId, trip.tenantId, segment⟩

/-- The segments of a trip have identifiers of their own. -/
def Trip.DistinctSegments (trip : Trip) : Prop :=
  (trip.segments.map FlightSegment.segmentId).Nodup

instance (trip : Trip) : Decidable trip.DistinctSegments :=
  inferInstanceAs (Decidable (List.Nodup _))

theorem Trip.nodup_segmentKeys (trip : Trip) :
    (trip.segmentRows.map fun row => (row.tripId, row.segment.segmentId)).Nodup ↔
      trip.DistinctSegments := by
  have hkeys : (trip.segmentRows.map fun row => (row.tripId, row.segment.segmentId)) =
      (trip.segments.map FlightSegment.segmentId).map (Prod.mk trip.tripId) := by
    rw [segmentRows, List.map_map, List.map_map]
    rfl
  rw [hkeys, List.nodup_map_iff (Prod.mk_right_injective trip.tripId)]
  exact Iff.rfl

namespace PostgresRepository

variable {β : Type} {repo repo' : PostgresRepository β} {trip : Trip}

/-- The rows of a trip, in any order that `ORDER BY scheduled_departure_at` may give. -/
def ListsByDeparture (repo : PostgresRepository β) (tripId : Uuid) (listed : List TripSegmentRow) :
    Prop :=
  listed.Perm (repo.tripSegments.rows.filter fun row => row.tripId = tripId) ∧
    listed.Pairwise fun a b => a.segment.scheduledDepartureAt ≤ b.segment.scheduledDepartureAt

/-- The rows of the other trips are in nobody's way. -/
theorem nodup_others_append (repo : PostgresRepository β) (trip : Trip) :
    (((repo.tripSegments.filter fun row => row.tripId ≠ trip.tripId).rows ++
      trip.segmentRows).map fun row => (row.tripId, row.segment.segmentId)).Nodup ↔
        trip.DistinctSegments := by
  rw [List.map_append, List.nodup_append, trip.nodup_segmentKeys]
  refine ⟨fun h => h.2.1, fun h => ⟨Table.nodup _, h, ?_⟩⟩
  rintro a ha b hb rfl
  obtain ⟨row, hrow, rfl⟩ := List.mem_map.mp ha
  obtain ⟨own, hown, heq⟩ := List.mem_map.mp hb
  obtain ⟨segment, -, rfl⟩ := List.mem_map.mp hown
  have hother : row.tripId ≠ trip.tripId :=
    of_decide_eq_true ((repo.tripSegments.mem_filter _ row).mp hrow).2
  exact hother (congrArg Prod.fst heq).symm

theorem replaceTripSegments_eq_ok :
    repo.replaceTripSegments trip = .ok repo' ↔ ∃ rows,
      (repo.tripSegments.filter fun row => row.tripId ≠ trip.tripId).insertAll trip.segmentRows =
        some rows ∧ repo' = { repo with tripSegments := rows } := by
  unfold replaceTripSegments Trip.segmentRows
  dsimp only
  split
  · next rows hrows =>
    rw [hrows]
    simp [eq_comm]
  · next hrows =>
    rw [hrows]
    simp

theorem exists_replaceTripSegments :
    (∃ repo', repo.replaceTripSegments trip = .ok repo') ↔ trip.DistinctSegments := by
  rw [← repo.nodup_others_append trip]
  constructor
  · rintro ⟨repo', h⟩
    obtain ⟨rows, hrows, -⟩ := replaceTripSegments_eq_ok.mp h
    exact (Table.insertAll_eq_some.mp hrows).1
  · intro h
    obtain ⟨rows, hrows, -⟩ := Table.insertAll_of_nodup _ h
    exact ⟨_, replaceTripSegments_eq_ok.mpr ⟨rows, hrows, rfl⟩⟩

/-- Afterwards the rows of the trip are those of its segments. -/
theorem segmentRows_of_replaceTripSegments (h : repo.replaceTripSegments trip = .ok repo') :
    repo'.tripSegments.rows.filter (fun row => row.tripId = trip.tripId) = trip.segmentRows := by
  obtain ⟨rows, hinsert, rfl⟩ := replaceTripSegments_eq_ok.mp h
  obtain ⟨-, hrows⟩ := Table.insertAll_eq_some.mp hinsert
  have hothers : (repo.tripSegments.filter fun row => row.tripId ≠ trip.tripId).rows.filter
      (fun row => row.tripId = trip.tripId) = [] := by
    rw [List.filter_eq_nil_iff]
    intro row hrow
    simpa using ((repo.tripSegments.mem_filter _ row).mp hrow).2
  have hown : trip.segmentRows.filter (fun row => row.tripId = trip.tripId) =
      trip.segmentRows := by
    rw [List.filter_eq_self]
    intro row hrow
    obtain ⟨segment, -, rfl⟩ := List.mem_map.mp hrow
    exact decide_eq_true rfl
  show rows.rows.filter _ = _
  rw [hrows, List.filter_append, hothers, List.nil_append]
  exact hown

/-- Read back by departure, a valid itinerary is as it was written. -/
theorem listsByDeparture_eq (hvalid : trip.toTripCreate.Valid)
    (h : repo.replaceTripSegments trip = .ok repo') {listed : List TripSegmentRow}
    (hlisted : repo'.ListsByDeparture trip.tripId listed) :
    listed.map TripSegmentRow.segment = trip.segments := by
  obtain ⟨hperm, hsorted⟩ := hlisted
  rw [segmentRows_of_replaceTripSegments h] at hperm
  have hstrict : trip.segmentRows.Pairwise fun a b =>
      a.segment.scheduledDepartureAt < b.segment.scheduledDepartureAt :=
    List.pairwise_map.mpr (pairwise_departures hvalid.segments
      (validateSegmentOrder_eq_ok.mp hvalid.segmentOrder))
  have hinj : ∀ a b, a ∈ listed → b ∈ trip.segmentRows →
      a.segment.scheduledDepartureAt ≤ b.segment.scheduledDepartureAt →
      b.segment.scheduledDepartureAt ≤ a.segment.scheduledDepartureAt → a = b := by
    intro a b ha hb hab hba
    have hnodup : (trip.segmentRows.map fun row => row.segment.scheduledDepartureAt).Nodup :=
      List.pairwise_map.mpr (hstrict.imp fun hlt => hlt.ne)
    exact List.inj_on_of_nodup_map hnodup (hperm.subset ha) hb (le_antisymm hab hba)
  have heq : listed = trip.segmentRows :=
    List.Perm.eq_of_pairwise hinj hsorted (hstrict.imp fun hlt => hlt.le) hperm
  rw [heq, Trip.segmentRows, List.map_map]
  exact List.map_id _

theorem exists_saveTrip : (∃ repo', repo.saveTrip trip = .ok repo') ↔ trip.DistinctSegments :=
  exists_replaceTripSegments

theorem createTrip_eq_ok :
    repo.createTrip trip = .ok repo' ↔ repo.trips.find? trip.tripId = none ∧
      replaceTripSegments { repo with trips := repo.trips.put ⟨trip.tenantId, trip⟩ } trip =
        .ok repo' := by
  unfold createTrip Table.inserted
  rw [except_bind_eq_ok]
  cases hinsert : repo.trips.insert ⟨trip.tenantId, trip⟩ with
  | none =>
    have htaken : repo.trips.find? trip.tripId ≠ none := fun h => by
      rw [Table.insert_eq_some.mpr ⟨h, rfl⟩] at hinsert
      cases hinsert
    simp [htaken]
  | some rows =>
    obtain ⟨hnew, rfl⟩ := Table.insert_eq_some.mp hinsert
    have hnew' : repo.trips.find? trip.tripId = none := hnew
    simp [hnew']

theorem exists_createTrip :
    (∃ repo', repo.createTrip trip = .ok repo') ↔
      repo.trips.find? trip.tripId = none ∧ trip.DistinctSegments := by
  simp only [createTrip_eq_ok, exists_and_left]
  exact and_congr_right fun _ => exists_replaceTripSegments

end PostgresRepository

/-- Of the trips that validation accepts, those are stored whose segments differ in their
identifiers, and a created one has to be new. What is stored is read back in order, each segment
from where the one before it has landed. -/
theorem itinerary_stored_iff {β : Type} (repo : PostgresRepository β) {trip : Trip}
    (hvalid : trip.toTripCreate.Valid) :
    ((trip.segmentRows.map fun row => (row.tripId, row.segment.segmentId)).Nodup ↔
      trip.DistinctSegments) ∧
    ((∃ repo', repo.saveTrip trip = .ok repo') ↔ trip.DistinctSegments) ∧
    ((∃ repo', repo.createTrip trip = .ok repo') ↔
      repo.trips.find? trip.tripId = none ∧ trip.DistinctSegments) ∧
    (∀ repo', repo.saveTrip trip = .ok repo' ∨ repo.createTrip trip = .ok repo' →
      ∀ listed, repo'.ListsByDeparture trip.tripId listed →
        listed.map TripSegmentRow.segment = trip.segments) ∧
    trip.segments.IsChain Follows := by
  refine ⟨trip.nodup_segmentKeys, PostgresRepository.exists_saveTrip,
    PostgresRepository.exists_createTrip, fun repo' h listed hlisted => ?_,
    validateSegmentOrder_eq_ok.mp hvalid.segmentOrder⟩
  rcases h with hsaved | hcreated
  · exact PostgresRepository.listsByDeparture_eq hvalid hsaved hlisted
  · exact PostgresRepository.listsByDeparture_eq hvalid
      (PostgresRepository.createTrip_eq_ok.mp hcreated).2 hlisted

/-- Two flights in order under the identifiers given. -/
def connectedTrip (first second : String) : Trip where
  tenantId := "acme"
  travelerId := "ada"
  groundOrigin := "Oslo"
  destinationCountry := "DE"
  segments :=
    [⟨first, "SK", "865", "OSL", "ARN", 0, minutes 60⟩,
      ⟨second, "SK", "673", "ARN", "FRA", minutes 60, minutes 180⟩]
  tripId := .v5 "trip"
  createdAt := 0

theorem itinerary_stored_iff_sample :
    ∃ repo', ({} : PostgresRepository Unit).createTrip (connectedTrip "1" "2") = .ok repo' := by
  have hvalid : (connectedTrip "1" "2").toTripCreate.Valid := by
    decide +kernel
  exact (itinerary_stored_iff ({} : PostgresRepository Unit) hvalid).2.2.1.mpr
    ⟨by decide +kernel, by decide +kernel⟩

/-- Validation takes two segments of one identifier, and so does the memory. -/
theorem repeated_segment_refused :
    (connectedTrip "1" "1").toTripCreate.Valid ∧
      (({} : InMemoryRepository Unit).createTrip (connectedTrip "1" "1")).getTrip "acme"
        (.v5 "trip") = some (connectedTrip "1" "1") ∧
      ({} : PostgresRepository Unit).createTrip (connectedTrip "1" "1") =
        .error (.integrity "trip_segments") ∧
      ({} : PostgresRepository Unit).saveTrip (connectedTrip "1" "1") =
        .error (.integrity "trip_segments") :=
  ⟨by decide +kernel, by decide +kernel, by rfl, by rfl⟩

end RouteShield
