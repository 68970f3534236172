import RouteShield.Api.HandlerFootprints

/-!
Runs of requests, one after the other. A request leaves every collection that it does not
write, and every recorded event has an identifier of an earlier tick, so that recording one
more event never fails.
-/

namespace RouteShield

/-- The event as it is stored. -/
def EventRecord.redacted (event : EventRecord) : EventRecord :=
  { event with details := redactFields event.details }

/-- A backend with the events it has recorded. -/
class EventLog (b : Backend) [Framed b] where
  events : b.State → List EventRecord
  events_congr : ∀ {s s' : b.State},
    Framed.only s' .events = Framed.only s .events → events s' = events s
  recorded : ∀ (event : EventRecord) (now : Time) (fresh : ℕ → Uuid) (s : b.State),
    (∀ e ∈ events s, e.eventId ≠ event.eventId) →
      (b.exec (.recordEvent event) now fresh s).1 = .ok () ∧
        event.redacted ∈ events (b.exec (.recordEvent event) now fresh s).2
  events_recordEvent : ∀ (event : EventRecord) (now : Time) (fresh : ℕ → Uuid) (s : b.State),
    ∀ e ∈ events (b.exec (.recordEvent event) now fresh s).2,
      e ∈ events s ∨ e.eventId = event.eventId
  events_purgeExpired : ∀ (cutoffs : Cutoffs) (now : Time) (fresh : ℕ → Uuid) (s : b.State),
    events (b.exec (.purgeExpired cutoffs) now fresh s).2 ⊆ events s

instance : EventLog .memory where
  events := InMemoryRepository.events
  events_congr h := by
    have h' := congrArg InMemoryRepository.events h
    exact h'
  recorded event now fresh s _ := ⟨rfl, List.mem_append_right _ List.mem_cons_self⟩
  events_recordEvent event now fresh s e he := by
    rcases List.mem_append.mp he with he | he
    · exact .inl he
    · rw [List.mem_singleton.mp he]
      exact .inr rfl
  events_purgeExpired _ _ _ _ _ he := (List.mem_filter.mp he).1

instance : EventLog .postgres where
  events s := s.events.rows
  events_congr h := by
    have h' := congrArg (fun s : PostgresRepository Response => s.events.rows) h
    exact h'
  recorded event now fresh s hnew := by
    have hnone : s.events.find? event.eventId = none := s.events.find?_eq_none.mpr hnew
    have hins : s.events.insert event.redacted = some (s.events.put event.redacted) :=
      Table.insert_eq_some.mpr ⟨hnone, rfl⟩
    have hrun : Backend.postgres.exec (.recordEvent event) now fresh s =
        (.ok (), { s with events := s.events.put event.redacted }) := by
      show committed s (s.recordEvent event) = _
      simp only [PostgresRepository.recordEvent, Table.inserted]
      rw [show ({ event with details := redactFields event.details } : EventRecord) =
        event.redacted from rfl, hins]
      rfl
    rw [hrun]
    exact ⟨rfl, s.events.mem_put_self _⟩
  events_recordEvent event now fresh s e he := by
    change e ∈ (committed s (s.recordEvent event)).2.events at he
    simp only [PostgresRepository.recordEvent, Table.inserted] at he
    cases h : s.events.insert { event with details := redactFields event.details } with
    | none =>
      rw [h] at he
      exact .inl he
    | some rows =>
      rw [h] at he
      obtain ⟨-, rfl⟩ := Table.insert_eq_some.mp h
      rcases (Table.mem_put _ _ e).mp he with rfl | he
      · exact .inr rfl
      · exact .inl he.1
  events_purgeExpired _ _ _ s e he := ((s.events.mem_filter _ e).mp he).1

variable {b : Backend} [Framed b]

/-- One collection of a world's store. -/
def World.only (w : World b) (c : Collection) : b.State := Framed.only w.store c

/-- An effect leaves the collections that it does not write. -/
theorem Env.exec_only (env : Env) {α : Type} (op : Effect α) (w : World b) {c : Collection}
    (hc : c ∉ op.writes) : (env.exec op w).2.only c = w.only c := by
  cases op with
  | repo op => exact Framed.frame op _ _ _ hc
  | _ => rfl

theorem Api.Writes.only_run {cs : List Collection} {α : Type} {p : Api α} (hp : Api.Writes cs p)
    (env : Env) {c : Collection} (hc : c ∉ cs) (w : World b) :
    (p.run env.exec w).2.only c = w.only c := by
  refine hp.only.run (R := fun s t : World b => t.only c = s.only c) (fun _ => rfl) ?_ ?_ w
  · intro s t u hst htu
    exact htu.trans hst
  · intro γ op s hop
    exact env.exec_only op s fun hw => hc (hop c hw)

/-- A part that returned has left the collections that it does not write. -/
theorem Api.Writes.only_of_run {cs : List Collection} {α : Type} {p : Api α}
    (hp : Api.Writes cs p) {env : Env} {w w' : World b} {a : α} {c : Collection} (hc : c ∉ cs)
    (h : p.run env.exec w = (.ok a, w')) : w'.only c = w.only c := by
  have hkept := hp.only_run env hc w
  rwa [h] at hkept

theorem Api.only_run_of_writes (cs : List Collection) {α : Type} {p : Api α}
    (hp : Api.Writes cs p) {env : Env} {c : Collection} (hc : c ∉ cs) (w : World b) :
    (p.run env.exec w).2.only c = w.only c := hp.only_run env hc w

/-- A part of a sequence that leaves a collection ends it there, or the rest goes on. -/
theorem Api.Writes.run_bind {cs : List Collection} {α β : Type} {p : Api α}
    (hp : Api.Writes cs p) {c : Collection} (hc : c ∉ cs) {f : α → Api β} {env : Env} {w : World b}
    {Q : World b → Prop} (hstop : ∀ w', w'.only c = w.only c → Q w')
    (hok : ∀ a w', p.run env.exec w = (.ok a, w') → w'.only c = w.only c →
      Q ((f a).run env.exec w').2) : Q ((p >>= f).run env.exec w).2 := by
  have honly := hp.only_run env hc w
  rw [Prog.run_bind]
  rcases hrun : p.run env.exec w with ⟨fault | a, w'⟩
  · rw [hrun] at honly
    exact hstop w' honly
  · rw [hrun] at honly
    exact hok a w' hrun honly

/-- What comes after a part leaves the collections that it does not write as the part left them. -/
theorem Api.only_run_bind {cs : List Collection} {α β : Type} {p : Api α} {f : α → Api β}
    (hf : ∀ a, Api.Writes cs (f a)) {c : Collection} (hc : c ∉ cs) (env : Env) (w : World b) :
    ((p >>= f).run env.exec w).2.only c = (p.run env.exec w).2.only c := by
  rw [Prog.run_bind]
  rcases p.run env.exec w with ⟨fault | a, w'⟩
  · rfl
  · exact (hf a).only_run env hc w'

variable [EventLog b]

def World.events (w : World b) : List EventRecord := EventLog.events w.store

/-- Every recorded event has an identifier drawn before. -/
def World.EventsDrawn (w : World b) : Prop := ∀ e ∈ w.events, DrawnBefore e.eventId w.tick

variable {env : Env} {w w' : World b}

theorem World.events_congr (h : w'.only .events = w.only .events) : w'.events = w.events :=
  EventLog.events_congr h

theorem World.EventsDrawn.of_same (h : w.EventsDrawn) (hevents : w'.events = w.events)
    (htick : w.tick ≤ w'.tick) : w'.EventsDrawn := by
  intro e he
  rw [hevents] at he
  exact (h e he).mono htick

/-- The event identifier that a handler is about to use is new. -/
theorem World.EventsDrawn.ne_drawn (h : w.EventsDrawn) {tick : ℕ} (htick : w.tick ≤ tick) :
    ∀ e ∈ w.events, e.eventId ≠ drawn tick 0 := by
  intro e he heq
  have hlt := (h e he) _ heq
  simp only [Nat.unpair_pair] at hlt
  omega

/-- What a handler's calls keep: the events' identifiers are drawn, and the collections that it
does not write stay. -/
structure Conducted (cs : List Collection) (w₀ : World b) (drawn : Option Uuid) (w : World b) :
    Prop where
  events : w.EventsDrawn
  drawn : ∀ id ∈ drawn, DrawnBefore id w.tick
  tick : w₀.tick ≤ w.tick
  only : ∀ c ∉ cs, w.only c = w₀.only c

theorem conducted_exec {cs : List Collection} {w₀ : World b} {α : Type} (drawn : Option Uuid)
    (op : Effect α) (w : World b) (h : Conducted cs w₀ drawn w)
    (hop : (conduct cs).allowed drawn op) :
    Conducted cs w₀ ((conduct cs).advance drawn op (env.exec op w).1) (env.exec op w).2 where
  events := by
    by_cases hev : .events ∈ op.writes
    · cases op with
      | repo op =>
        cases op with
        | recordEvent event =>
          intro e he
          rcases EventLog.events_recordEvent event _ _ _ e he with he | he
          · exact (h.events e he).mono (Nat.le_succ _)
          · rw [he]
            exact (h.drawn _ hop.2).mono (Nat.le_succ _)
        | purgeExpired cutoffs =>
          exact fun e he => (h.events e (EventLog.events_purgeExpired cutoffs _ _ _ he)).mono
            (Nat.le_succ _)
        | _ => exact absurd hev (by simp [Effect.writes, RepoOp.writes, erasedCollections])
      | _ => exact absurd hev (by simp [Effect.writes])
    · exact h.events.of_same (World.events_congr (env.exec_only op w hev)) (Nat.le_succ _)
  drawn := by
    intro id hid
    have hold : ∀ id ∈ drawn, DrawnBefore id (env.exec op w).2.tick :=
      fun id hid => (h.drawn id hid).mono (Nat.le_succ _)
    cases op with
    | uuid4 =>
      cases hid
      exact drawnBefore_drawn w.tick
    | repo op =>
      cases op with
      | recordEvent event => cases hid
      | _ => exact hold id hid
    | _ => exact hold id hid
  tick := h.tick.trans (Nat.le_succ _)
  only c hc := (env.exec_only op w fun hw => hc (hop.1 c hw)).trans (h.only c hc)

/-- A handler leaves the collections that it does not write, and its events are drawn. -/
theorem Api.Writes.run {cs : List Collection} {α : Type} {p : Api α} (hp : Api.Writes cs p)
    (env : Env) (hw : w.EventsDrawn) :
    (p.run env.exec w).2.EventsDrawn ∧ w.tick ≤ (p.run env.exec w).2.tick ∧
      ∀ c ∉ cs, (p.run env.exec w).2.only c = w.only c := by
  have hstart : Conducted cs w none w := ⟨hw, nofun, le_rfl, fun _ _ => rfl⟩
  obtain ⟨d, hd, -⟩ := (hp.follows none).run
    (fun d op w' h hop => ⟨trivial, conducted_exec d op w' h hop⟩) hstart
  exact ⟨hd.events, hd.tick, hd.only⟩

namespace Api

open Prog hiding pure

/-- An event is recorded under the identifier it draws. -/
theorem emitEvent_run (fields : EventFields) (hw : w.EventsDrawn) :
    ∃ event w', (emitEvent fields).run env.exec w = (.ok (), w') ∧
      (∀ c ≠ .events, w'.only c = w.only c) ∧ event ∈ w'.events ∧
      event.eventType = fields.eventType ∧ event.tenantId = fields.tenantId ∧
      event.tripId = fields.tripId ∧ event.actorId = fields.actorId ∧
      event.details = redactFields (redactFields fields.details) := by
  let event : EventRecord :=
    { eventId := drawn w.tick 0
      eventType := fields.eventType
      tenantId := fields.tenantId
      tripId := fields.tripId
      correlationId := fields.correlationId
      idempotencyKey := fields.eventType ++ ":" ++ fields.correlationId.str
      emittedAt := env.clock (w.tick + 1)
      actorId := fields.actorId
      details := redactFields fields.details }
  have hrecorded := EventLog.recorded event (env.clock (w.tick + 2)) (RouteShield.drawn (w.tick + 2))
    w.store (hw.ne_drawn le_rfl)
  let w₂ := env.after (env.after w .uuid4) .now
  refine ⟨event.redacted, env.after w₂ (.repo (.recordEvent event)), ?_, fun c hc => ?_,
    hrecorded.2, rfl, rfl, rfl, rfl, rfl⟩
  case refine_2 =>
    exact env.exec_only (.repo (.recordEvent event)) w₂ (by simpa [Effect.writes, RepoOp.writes])
  have hcall : env.exec (.repo (.recordEvent event)) w₂ =
      (.ok (), env.after w₂ (.repo (.recordEvent event))) := congrArg (·, _) hrecorded.1
  show ((repo (.recordEvent event) >>= fun _ => pure event.eventId) >>= fun _ =>
    pure () : Api Unit).run env.exec w₂ = _
  rw [run_bind, run_bind, repo, run_perform, hcall]
  rfl

/-- A correlation identifier is drawn, and an event recorded with it. -/
theorem announce_run (env : Env) (fields : Uuid → EventFields) (hw : w.EventsDrawn) :
    ∃ event w', (uuid4 >>= fun id => emitEvent (fields id)).run env.exec w = (.ok (), w') ∧
      (∀ c ≠ .events, w'.only c = w.only c) ∧ event ∈ w'.events ∧
      event.eventType = (fields (RouteShield.drawn w.tick 0)).eventType ∧
      event.tenantId = (fields (RouteShield.drawn w.tick 0)).tenantId ∧
      event.tripId = (fields (RouteShield.drawn w.tick 0)).tripId ∧
      event.actorId = (fields (RouteShield.drawn w.tick 0)).actorId ∧
      event.details = redactFields (redactFields (fields (RouteShield.drawn w.tick 0)).details) := by
  have hdrawn : (env.after w .uuid4).EventsDrawn := hw.of_same rfl (Nat.le_succ _)
  have huuid : (uuid4 : Api Uuid).run env.exec w =
      (.ok (RouteShield.drawn w.tick 0), env.after w .uuid4) := rfl
  rw [run_bind_ok huuid]
  exact emitEvent_run (fields (RouteShield.drawn w.tick 0)) hdrawn

end Api

/-- The world after a request is served. -/
def World.serve (svc : Service) (env : Env) (w : World b) (req : Request) : World b :=
  ((Api.handle svc req).run env.exec w).2

theorem World.serve_run (svc : Service) (env : Env) (hw : w.EventsDrawn) (req : Request) :
    (w.serve svc env req).EventsDrawn ∧ w.tick ≤ (w.serve svc env req).tick ∧
      ∀ c ∉ req.writes, (w.serve svc env req).only c = w.only c :=
  (Api.writes_handle req).run env hw

/-- A service in memory that has not served anything. -/
def World.fresh : World .memory where
  store := {}

theorem World.fresh_drawn : World.fresh.EventsDrawn := fun _ he => absurd he List.not_mem_nil

end RouteShield
