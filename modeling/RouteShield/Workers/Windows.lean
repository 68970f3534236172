import RouteShield.Workers.Monitor

/-!
The monitoring windows of a departure. A window opens a number of hours before the departure
and is reached by the runs of the grace period; no time reaches two of them.
-/

namespace RouteShield

/-- The window of a number of hours before a departure is reached at a time. -/
def Reaches (departure timestamp : Time) (hours : ℤ) : Prop :=
  0 ≤ timestamp - (departure - minutes (60 * hours)) ∧
    timestamp - (departure - minutes (60 * hours)) < monitoringGracePeriod

instance (departure timestamp : Time) (hours : ℤ) : Decidable (Reaches departure timestamp hours) :=
  inferInstanceAs (Decidable (_ ∧ _))

def windowName (departure : Time) (hours : ℤ) : String :=
  "T-" ++ toString hours ++ ":" ++ isoformat departure

theorem dueMonitoringWindows_eq (departure timestamp : Time) :
    dueMonitoringWindows departure timestamp =
      (([24, 6, 2] : List ℤ).filter (fun hours => Reaches departure timestamp hours)).map
        (windowName departure) := rfl

/-- Windows that start an hour or more apart are not both open at one time. -/
theorem hours_eq_of_late {departure timestamp hours hours' : ℤ}
    (h : 0 ≤ timestamp - (departure - 60 * hours * 60 * 1000000) ∧
      timestamp - (departure - 60 * hours * 60 * 1000000) < 20 * 60 * 1000000)
    (h' : 0 ≤ timestamp - (departure - 60 * hours' * 60 * 1000000) ∧
      timestamp - (departure - 60 * hours' * 60 * 1000000) < 20 * 60 * 1000000) :
    hours = hours' := by omega

theorem Reaches.eq {departure timestamp : Time} {hours hours' : ℤ}
    (h : Reaches departure timestamp hours) (h' : Reaches departure timestamp hours') :
    hours = hours' := hours_eq_of_late h h'

theorem dueMonitoringWindows_cases (departure timestamp : Time) :
    dueMonitoringWindows departure timestamp = [] ∨
      ∃ window, dueMonitoringWindows departure timestamp = [window] := by
  rw [dueMonitoringWindows_eq]
  by_cases h24 : Reaches departure timestamp 24
  · have h6 : ¬Reaches departure timestamp 6 := fun h => absurd (h24.eq h) (by decide)
    have h2 : ¬Reaches departure timestamp 2 := fun h => absurd (h24.eq h) (by decide)
    simp [h24, h6, h2]
  · by_cases h6 : Reaches departure timestamp 6
    · have h2 : ¬Reaches departure timestamp 2 := fun h => absurd (h6.eq h) (by decide)
      simp [h24, h6, h2]
    · by_cases h2 : Reaches departure timestamp 2 <;> simp [h24, h6, h2]

/-- The names of a departure's windows differ. -/
theorem windowName_inj {departure : Time} {hours hours' : ℤ} (h : hours ∈ ([24, 6, 2] : List ℤ))
    (h' : hours' ∈ ([24, 6, 2] : List ℤ))
    (hname : windowName departure hours = windowName departure hours') : hours = hours' := by
  have htext := congrArg String.toList hname
  simp only [windowName, String.toList_append, List.append_assoc, List.append_cancel_left_eq,
    List.append_cancel_right_eq] at htext
  have hdigits : toString hours = toString hours' := String.toList_injective htext
  simp only [List.mem_cons, List.not_mem_nil, or_false] at h h'
  rcases h with rfl | rfl | rfl <;> rcases h' with rfl | rfl | rfl <;>
    first | rfl | exact absurd hdigits (by decide)

theorem mem_dueMonitoringWindows_iff {departure timestamp : Time} {hours : ℤ}
    (h : hours ∈ ([24, 6, 2] : List ℤ)) :
    windowName departure hours ∈ dueMonitoringWindows departure timestamp ↔
      Reaches departure timestamp hours := by
  rw [dueMonitoringWindows_eq, List.mem_map]
  constructor
  · rintro ⟨hours', hmem, hname⟩
    obtain ⟨h', hreaches⟩ := List.mem_filter.mp hmem
    rw [windowName_inj h h' hname.symm]
    exact of_decide_eq_true hreaches
  · intro hreaches
    exact ⟨hours, List.mem_filter.mpr ⟨h, decide_eq_true hreaches⟩, rfl⟩

/-! ### Schedules -/

/-- Of times that come at most a period one after the other, from an instant or before it to an
instant or after it, one lies within the period from the instant on. -/
theorem exists_within_of_isChain {period instant : ℤ} (hperiod : 0 < period) {times : List ℤ}
    (hdrift : times.IsChain fun earlier later => later ≤ earlier + period)
    (hbefore : ∀ first ∈ times.head?, first ≤ instant) (hafter : ∃ last ∈ times, instant ≤ last) :
    ∃ t ∈ times, 0 ≤ t - instant ∧ t - instant < period := by
  induction times with
  | nil => simp at hafter
  | cons s times ih =>
    have hs : s ≤ instant := hbefore s rfl
    by_cases heq : s = instant
    · refine ⟨s, List.mem_cons_self, ?_⟩
      omega
    · cases times with
      | nil =>
        obtain ⟨last, hlast, hle⟩ := hafter
        rw [List.mem_singleton.mp hlast] at hle
        omega
      | cons t times =>
        obtain ⟨hst, hrest⟩ := List.isChain_cons_cons.mp hdrift
        by_cases ht : t ≤ instant
        · have hlater : ∃ last ∈ t :: times, instant ≤ last := by
            obtain ⟨last, hlast, hle⟩ := hafter
            rcases List.mem_cons.mp hlast with rfl | hlast
            · omega
            · exact ⟨last, hlast, hle⟩
          obtain ⟨u, hu, hwithin⟩ := ih hrest (by simpa using ht) hlater
          exact ⟨u, List.mem_cons_of_mem s hu, hwithin⟩
        · refine ⟨t, by simp, ?_⟩
          omega

/-- The times come at most the grace period one after the other, from the start of a window or
before it to its start or after it. -/
structure Spans (times : List Time) (start : Time) : Prop where
  drift : times.IsChain fun earlier later => later ≤ earlier + monitoringGracePeriod
  before : ∀ first ∈ times.head?, first ≤ start
  after : ∃ last ∈ times, start ≤ last

/-- A schedule that spans the start of a window reaches it. -/
theorem Spans.exists_reaches {times : List Time} {departure : Time} {hours : ℤ}
    (h : Spans times (departure - minutes (60 * hours))) :
    ∃ t ∈ times, Reaches departure t hours :=
  exists_within_of_isChain (by decide) h.drift h.before h.after

end RouteShield
