import RouteShield.Api.Events

/-!
What redaction hides. Two payloads agree when they differ only in the values stored under
sensitive keys; agreement is exactly what redaction cannot tell apart, and a payload agrees
with its redaction. An event is therefore stored alike whatever those values are, however
often it was redacted before.
-/

namespace RouteShield

mutual

/-- Payloads of one shape that differ only in values stored under sensitive keys. -/
inductive Json.Agree : Json → Json → Prop
  | null : Agree .null .null
  | bool (b : Bool) : Agree (.bool b) (.bool b)
  | num (n : JsonNumber) : Agree (.num n) (.num n)
  | str (s : String) : Agree (.str s) (.str s)
  | arr {xs ys : List Json} (items : AgreeItems xs ys) : Agree (.arr xs) (.arr ys)
  | obj {fs gs : JsonObject} (fields : AgreeFields fs gs) : Agree (.obj fs) (.obj gs)

inductive Json.AgreeItems : List Json → List Json → Prop
  | nil : AgreeItems [] []
  | cons {x y : Json} {xs ys : List Json} (item : Json.Agree x y) (items : AgreeItems xs ys) :
    AgreeItems (x :: xs) (y :: ys)

inductive Json.AgreeFields : JsonObject → JsonObject → Prop
  | nil : AgreeFields [] []
  | secret {key : String} (v w : Json) {fs gs : JsonObject} (hkey : sensitiveKey key = true)
    (fields : AgreeFields fs gs) : AgreeFields ((key, v) :: fs) ((key, w) :: gs)
  | plain (key : String) {v w : Json} {fs gs : JsonObject} (value : Json.Agree v w)
    (fields : AgreeFields fs gs) : AgreeFields ((key, v) :: fs) ((key, w) :: gs)

end

open Json

mutual

theorem redact_eq_of_agree {a b : Json} (h : a.Agree b) : redact a = redact b := by
  cases h with
  | null | bool | num | str => rfl
  | arr items => rw [redact, redact, redactItems_eq_of_agree items]
  | obj fields => rw [redact, redact, redactFields_eq_of_agree fields]

theorem redactItems_eq_of_agree {xs ys : List Json} (h : AgreeItems xs ys) :
    redactItems xs = redactItems ys := by
  cases h with
  | nil => rfl
  | cons item items =>
    rw [redactItems, redactItems, redact_eq_of_agree item, redactItems_eq_of_agree items]

theorem redactFields_eq_of_agree {fs gs : JsonObject} (h : AgreeFields fs gs) :
    redactFields fs = redactFields gs := by
  cases h with
  | nil => rfl
  | secret v w hkey fields =>
    rw [redactFields, redactFields, if_pos hkey, if_pos hkey, redactFields_eq_of_agree fields]
  | plain key value fields =>
    rw [redactFields, redactFields, redact_eq_of_agree value, redactFields_eq_of_agree fields]

end

mutual

theorem agree_redact : (a : Json) → a.Agree (redact a)
  | .null => .null
  | .bool b => .bool b
  | .num n => .num n
  | .str s => .str s
  | .arr items => .arr (agreeItems_redact items)
  | .obj fields => .obj (agreeFields_redact fields)

theorem agreeItems_redact : (items : List Json) → AgreeItems items (redactItems items)
  | [] => .nil
  | value :: items => .cons (agree_redact value) (agreeItems_redact items)

theorem agreeFields_redact : (fields : JsonObject) → AgreeFields fields (redactFields fields)
  | [] => .nil
  | (key, value) :: fields => by
    rw [redactFields]
    by_cases hkey : sensitiveKey key
    · rw [if_pos hkey]
      exact .secret value _ hkey (agreeFields_redact fields)
    · rw [if_neg hkey]
      exact .plain key (agree_redact value) (agreeFields_redact fields)

end

theorem redact_redact (a : Json) : redact (redact a) = redact a :=
  (redact_eq_of_agree (agree_redact a)).symm

theorem redactFields_redactFields (fields : JsonObject) :
    redactFields (redactFields fields) = redactFields fields :=
  (redactFields_eq_of_agree (agreeFields_redact fields)).symm

/-! ### Paths that avoid the sensitive keys -/

/-- A step into a payload: a key of an object, a place in an array. -/
inductive Json.Step where
  | key (key : String)
  | item (i : ℕ)
  deriving DecidableEq

def Json.at? : Json → List Json.Step → Option Json
  | payload, [] => some payload
  | .obj fields, .key key :: path => (get? fields key).bind (·.at? path)
  | .arr items, .item i :: path => items[i]?.bind (·.at? path)
  | _, _ :: _ => none

theorem redactItems_eq_map (items : List Json) : redactItems items = items.map redact := by
  induction items with
  | nil => rfl
  | cons value items ih => rw [redactItems, ih, List.map_cons]

theorem get?_redactFields {key : String} (hkey : sensitiveKey key = false) (fields : JsonObject) :
    get? (redactFields fields) key = (get? fields key).map redact := by
  induction fields with
  | nil => rfl
  | cons field fields ih =>
    obtain ⟨k, value⟩ := field
    rw [redactFields]
    by_cases hk : k = key
    · subst hk
      simp [get?, hkey]
    · simpa [get?, hk] using ih

theorem at?_redact (path : List Json.Step)
    (hpath : ∀ key, .key key ∈ path → sensitiveKey key = false) (payload : Json) :
    (redact payload).at? path = (payload.at? path).map redact := by
  induction path generalizing payload with
  | nil => cases payload <;> rfl
  | cons step path ih =>
    have htail : ∀ key, .key key ∈ path → sensitiveKey key = false :=
      fun key hkey => hpath key (List.mem_cons_of_mem _ hkey)
    cases step with
    | key key =>
      have hkey := hpath key List.mem_cons_self
      cases payload with
      | obj fields =>
        rw [redact, at?, at?, get?_redactFields hkey]
        cases get? fields key with
        | none => rfl
        | some value => exact ih htail value
      | _ => rfl
    | item i =>
      cases payload with
      | arr items =>
        rw [redact, at?, at?, redactItems_eq_map, List.getElem?_map]
        cases items[i]? with
        | none => rfl
        | some value => exact ih htail value
      | _ => rfl

/-! ### The stored event -/

theorem EventRecord.redacted_congr {event : EventRecord} {details : JsonObject}
    (h : AgreeFields event.details details) :
    event.redacted = { event with details }.redacted :=
  congrArg (fun details => { event with details }) (redactFields_eq_of_agree h)

/-- Either repository sees only the redacted event. -/
theorem exec_recordEvent_congr {backend : Backend}
    (hbackend : backend = .memory ∨ backend = .postgres) {event other : EventRecord}
    (h : event.redacted = other.redacted) (now : Time) (fresh : ℕ → Uuid) (s : backend.State) :
    backend.exec (.recordEvent event) now fresh s =
      backend.exec (.recordEvent other) now fresh s := by
  rcases hbackend with rfl | rfl
  · change (Except.ok (), { s with events := s.events ++ [event.redacted] }) =
      (Except.ok (), { s with events := s.events ++ [other.redacted] })
    rw [h]
  · change committed s (s.recordEvent event) = committed s (s.recordEvent other)
    have hrow : s.recordEvent event = s.recordEvent other :=
      congrArg (fun row => do
        let rows ← s.events.inserted row "audit_events"
        return { s with events := rows }) h
    rw [hrow]

namespace Api

theorem emitEvent_congr {fields : EventFields} {details : JsonObject}
    (h : AgreeFields fields.details details) :
    emitEvent fields = emitEvent { fields with details } := by
  unfold emitEvent
  rw [redactFields_eq_of_agree h]

end Api

/-- Redaction cannot tell payloads apart that differ only under sensitive keys, keeps all the
rest, and need not be repeated; what either repository stores of an event, redacted before or
not, is the same for all of them. -/
theorem redaction_hides {a b : Json} (hab : a.Agree b) {path : List Json.Step}
    (hpath : ∀ key, .key key ∈ path → sensitiveKey key = false)
    {event : EventRecord} {details : JsonObject} (hevent : AgreeFields event.details details)
    {fields : Api.EventFields} {others : JsonObject} (hfields : AgreeFields fields.details others)
    {backend : Backend} (hbackend : backend = .memory ∨ backend = .postgres) (now : Time)
    (fresh : ℕ → Uuid) (s : backend.State) :
    redact a = redact b ∧ redact (redact a) = redact a ∧ a.Agree (redact a) ∧
      (redact a).at? path = (a.at? path).map redact ∧
      backend.exec (.recordEvent event) now fresh s =
        backend.exec (.recordEvent { event with details }) now fresh s ∧
      backend.exec (.recordEvent event) now fresh s =
        backend.exec (.recordEvent event.redacted) now fresh s ∧
      Api.emitEvent fields = Api.emitEvent { fields with details := others } := by
  have hagain : event.redacted = event.redacted.redacted :=
    EventRecord.redacted_congr (agreeFields_redact event.details)
  exact ⟨redact_eq_of_agree hab, redact_redact a, agree_redact a, at?_redact path hpath a,
    exec_recordEvent_congr hbackend (EventRecord.redacted_congr hevent) now fresh s,
    exec_recordEvent_congr hbackend hagain now fresh s, Api.emitEvent_congr hfields⟩

/-- What a provider answered, with the cookie it set. -/
def providerAnswer (cookie : Json) : JsonObject :=
  [("provider", .obj [(" Set_Cookie", cookie), ("carrier", .str "UA")])]

def providerEvent (cookie : Json) : EventRecord :=
  { eventId := .v4 0
    eventType := "provider.answered"
    tenantId := "acme"
    correlationId := .v4 1
    idempotencyKey := "provider.answered:1"
    emittedAt := 0
    details := providerAnswer cookie }

theorem providerAnswer_agree (v w : Json) : AgreeFields (providerAnswer v) (providerAnswer w) :=
  .plain _ (.obj (.secret v w (by decide +kernel) (.plain _ (.str _) .nil))) .nil

theorem redaction_hides_cookie :
    redact (.obj (providerAnswer (.str "s=1"))) = redact (.obj (providerAnswer (.arr []))) ∧
      (redact (.obj (providerAnswer (.str "s=1")))).at? [.key "provider", .key "carrier"] =
        some (.str "UA") ∧
      Backend.postgres.exec (.recordEvent (providerEvent (.str "s=1"))) 0 Uuid.v4 {} =
        Backend.postgres.exec (.recordEvent (providerEvent (.arr []))) 0 Uuid.v4 {} := by
  have hpath : ∀ key, Step.key key ∈ [Step.key "provider", Step.key "carrier"] →
      sensitiveKey key = false := by
    intro key hkey
    simp only [List.mem_cons, List.not_mem_nil, or_false, Step.key.injEq] at hkey
    rcases hkey with rfl | rfl <;> decide +kernel
  have hevent : AgreeFields (providerEvent (.str "s=1")).details (providerAnswer (.arr [])) :=
    providerAnswer_agree _ _
  have hfields : AgreeFields (Api.EventFields.mk "provider.answered" "acme" none (.v4 1) none
      (providerAnswer (.str "s=1"))).details (providerAnswer (.arr [])) := providerAnswer_agree _ _
  have hhides := redaction_hides (.obj (providerAnswer_agree (.str "s=1") (.arr []))) hpath hevent
    hfields (.inr rfl) 0 Uuid.v4 {}
  exact ⟨hhides.1, hhides.2.2.2.1, hhides.2.2.2.2.1⟩

end RouteShield
