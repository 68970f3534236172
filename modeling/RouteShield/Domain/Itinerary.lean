import RouteShield.Domain.Models
import RouteShield.Lib.Prog

/-!
What validation accepts as an itinerary: one to three segments, each of them a flight that lands
after it takes off, and each from where the one before it has landed, and not before. The times
of the segments then strictly increase.
-/

namespace RouteShield

/-- `^[...]{lo,hi}$` over one class of characters. -/
def MatchesClass (ok : Char → Bool) (lo hi : ℕ) (text : String) : Prop :=
  text.toList.all ok = true ∧ lo ≤ text.length ∧ text.length ≤ hi

instance (ok : Char → Bool) (lo hi : ℕ) (text : String) : Decidable (MatchesClass ok lo hi text) :=
  inferInstanceAs (Decidable (_ ∧ _ ∧ _))

/-- A text from which white space was stripped, with its bounds. -/
def StrippedWithin (lo hi : ℕ) (text : String) : Prop :=
  lo ≤ text.length ∧ text.length ≤ hi ∧ stripWhitespace text = text

instance (lo hi : ℕ) (text : String) : Decidable (StrippedWithin lo hi text) :=
  inferInstanceAs (Decidable (_ ∧ _ ∧ _))

/-- The class `[A-Z0-9]`. -/
def isCodeChar (c : Char) : Bool := c.isUpper || c.isDigit

namespace FlightSegment

/-- The times that a segment is built with have a UTC offset: they are instants. -/
def validateSchedule (segment : FlightSegment) : Except Fault FlightSegment :=
  if segment.scheduledArrivalAt ≤ segment.scheduledDepartureAt then
    .error (.value "scheduled arrival must be after departure")
  else .ok segment

/-- What `FlightSegmentCreate` accepts. -/
structure Valid (segment : FlightSegment) : Prop where
  segmentId : StrippedWithin 1 64 segment.segmentId
  carrierCode : MatchesClass isCodeChar 2 3 segment.carrierCode
  flightNumber : MatchesClass Char.isDigit 1 4 segment.flightNumber
  departureAirport : MatchesClass Char.isUpper 3 3 segment.departureAirport
  arrivalAirport : MatchesClass Char.isUpper 3 3 segment.arrivalAirport
  schedule : segment.validateSchedule = .ok segment

instance (segment : FlightSegment) : Decidable segment.Valid :=
  decidable_of_iff (StrippedWithin 1 64 segment.segmentId ∧
      MatchesClass isCodeChar 2 3 segment.carrierCode ∧
      MatchesClass Char.isDigit 1 4 segment.flightNumber ∧
      MatchesClass Char.isUpper 3 3 segment.departureAirport ∧
      MatchesClass Char.isUpper 3 3 segment.arrivalAirport ∧
      segment.validateSchedule = .ok segment)
    ⟨fun h => ⟨h.1, h.2.1, h.2.2.1, h.2.2.2.1, h.2.2.2.2.1, h.2.2.2.2.2⟩,
      fun h => ⟨h.segmentId, h.carrierCode, h.flightNumber, h.departureAirport, h.arrivalAirport,
        h.schedule⟩⟩

theorem Valid.departs_before {segment : FlightSegment} (h : segment.Valid) :
    segment.scheduledDepartureAt < segment.scheduledArrivalAt := by
  have hschedule := h.schedule
  unfold validateSchedule at hschedule
  split_ifs at hschedule with hle
  exact not_le.mp hle

/-- A segment departs from where the previous one has landed. -/
def Follows (previous current : FlightSegment) : Prop :=
  previous.arrivalAirport = current.departureAirport ∧
    previous.scheduledArrivalAt ≤ current.scheduledDepartureAt

end FlightSegment

open FlightSegment

def validateSegmentPair (previous current : FlightSegment) : Except Fault Unit :=
  if previous.arrivalAirport ≠ current.departureAirport then
    .error (.value "each segment must depart from the prior segment's arrival airport")
  else if current.scheduledDepartureAt < previous.scheduledArrivalAt then
    .error (.value "segments must be in chronological order")
  else .ok ()

def validateSegmentOrder (segments : List FlightSegment) : Except Fault (List FlightSegment) := do
  (segments.zip segments.tail).forM (fun pair => validateSegmentPair pair.1 pair.2)
  return segments

/-- What `TripCreate` accepts. -/
structure TripCreate.Valid (payload : TripCreate) : Prop where
  tenantId : StrippedWithin 1 128 payload.tenantId
  travelerId : StrippedWithin 1 128 payload.travelerId
  assignedManagerId : ∀ manager ∈ payload.assignedManagerId, StrippedWithin 0 128 manager
  groundOrigin : StrippedWithin 1 256 payload.groundOrigin
  destinationCountry : MatchesClass Char.isUpper 2 2 payload.destinationCountry
  segmentCount : 1 ≤ payload.segments.length ∧ payload.segments.length ≤ 3
  segments : ∀ segment ∈ payload.segments, segment.Valid
  segmentOrder : validateSegmentOrder payload.segments = .ok payload.segments

instance (payload : TripCreate) : Decidable payload.Valid :=
  decidable_of_iff (StrippedWithin 1 128 payload.tenantId ∧
      StrippedWithin 1 128 payload.travelerId ∧
      (∀ manager ∈ payload.assignedManagerId, StrippedWithin 0 128 manager) ∧
      StrippedWithin 1 256 payload.groundOrigin ∧
      MatchesClass Char.isUpper 2 2 payload.destinationCountry ∧
      (1 ≤ payload.segments.length ∧ payload.segments.length ≤ 3) ∧
      (∀ segment ∈ payload.segments, segment.Valid) ∧
      validateSegmentOrder payload.segments = .ok payload.segments)
    ⟨fun h => ⟨h.1, h.2.1, h.2.2.1, h.2.2.2.1, h.2.2.2.2.1, h.2.2.2.2.2.1, h.2.2.2.2.2.2.1,
        h.2.2.2.2.2.2.2⟩,
      fun h => ⟨h.tenantId, h.travelerId, h.assignedManagerId, h.groundOrigin,
        h.destinationCountry, h.segmentCount, h.segments, h.segmentOrder⟩⟩

theorem validateSegmentPair_eq_ok {previous current : FlightSegment} :
    validateSegmentPair previous current = .ok () ↔ previous.Follows current := by
  unfold validateSegmentPair Follows
  split_ifs with hairport htime
  · exact iff_of_false (fun h => by cases h) fun h => hairport h.1
  · exact iff_of_false (fun h => by cases h) fun h => absurd htime (not_lt.mpr h.2)
  · exact iff_of_true rfl ⟨not_not.mp hairport, not_lt.mp htime⟩

theorem validateSegmentOrder_eq_ok {segments : List FlightSegment} :
    validateSegmentOrder segments = .ok segments ↔ segments.IsChain Follows := by
  have hloop : ∀ segments : List FlightSegment,
      (segments.zip segments.tail).forM (fun pair => validateSegmentPair pair.1 pair.2) = .ok () ↔
        segments.IsChain Follows := by
    intro segments
    induction segments with
    | nil => exact iff_of_true rfl .nil
    | cons previous rest ih =>
      cases rest with
      | nil => exact iff_of_true rfl (.singleton _)
      | cons current rest =>
        rw [List.isChain_cons_cons, ← ih, ← validateSegmentPair_eq_ok]
        change (validateSegmentPair previous current >>= fun _ => _) = _ ↔ _
        rw [except_bind_eq_ok]
        constructor
        · rintro ⟨_, hpair, hrest⟩
          exact ⟨hpair, hrest⟩
        · rintro ⟨hpair, hrest⟩
          exact ⟨(), hpair, hrest⟩
  rw [← hloop, validateSegmentOrder, except_bind_eq_ok]
  constructor
  · rintro ⟨_, h, -⟩
    exact h
  · intro h
    exact ⟨(), h, rfl⟩

/-- Segments in order depart strictly one after the other. -/
theorem pairwise_departures {segments : List FlightSegment}
    (hvalid : ∀ segment ∈ segments, segment.Valid) (horder : segments.IsChain Follows) :
    segments.Pairwise fun a b => a.scheduledDepartureAt < b.scheduledDepartureAt := by
  have hstep : segments.IsChain fun a b => a.scheduledDepartureAt < b.scheduledDepartureAt := by
    refine horder.imp_of_mem_imp ?_
    intro a b ha _ hfollows
    exact (hvalid a ha).departs_before.trans_le hfollows.2
  exact List.isChain_iff_pairwise.mp hstep

end RouteShield
