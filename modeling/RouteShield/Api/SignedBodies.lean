import RouteShield.Api.Events
import RouteShield.Lib.Separated
import RouteShield.Lib.Utf8

/-!
What a webhook's signature fixes. The signed bytes are the timestamp, a dot and the body, and both
may have dots of their own. In a timestamp that is accepted a digit follows every dot, and the bytes
of a body that is accepted, whatever their encoding, begin with no digit: so the dot between them
is the only one where an accepted pair can be parted.
-/

namespace RouteShield

/-! ### The body -/

/-- The encodings that `json.loads` takes bytes in. -/
inductive Encoding where
  | utf8 | utf8Sig | utf16 | utf16le | utf16be | utf32 | utf32le | utf32be
  deriving DecidableEq

/-- `json.detect_encoding`. -/
def detectEncoding (b : List UInt8) : Encoding :=
  if [0, 0, 0xFE, 0xFF] <+: b ∨ [0xFF, 0xFE, 0, 0] <+: b then .utf32
  else if [0xFE, 0xFF] <+: b ∨ [0xFF, 0xFE] <+: b then .utf16
  else if [0xEF, 0xBB, 0xBF] <+: b then .utf8Sig
  else
    match b with
    | [b0, b1] => if b0 = 0 then .utf16be else if b1 = 0 then .utf16le else .utf8
    | b0 :: b1 :: b2 :: b3 :: _ =>
      if b0 = 0 then if b1 ≠ 0 then .utf16be else .utf32be
      else if b1 = 0 then if b2 ≠ 0 ∨ b3 ≠ 0 then .utf16le else .utf32le
      else .utf8
    | _ => .utf8

/-- The six bits of a continuation byte. -/
def continued (b : UInt8) : Option ℕ :=
  if 0x80 ≤ b.toNat ∧ b.toNat < 0xC0 then some (b.toNat - 0x80) else none

/-- Code points of UTF-8, in the shortest form; surrogates pass. -/
def decodeUtf8 : List UInt8 → Option (List ℕ)
  | [] => some []
  | a :: rest =>
    if a.toNat < 0x80 then (decodeUtf8 rest).map (a.toNat :: ·)
    else
      match rest with
      | [] => none
      | b :: rest =>
        if 0xC2 ≤ a.toNat ∧ a.toNat < 0xE0 then do
          let b ← continued b
          (decodeUtf8 rest).map (((a.toNat - 0xC0) * 64 + b) :: ·)
        else
          match rest with
          | [] => none
          | c :: rest =>
            if 0xE0 ≤ a.toNat ∧ a.toNat < 0xF0 then do
              let point := (a.toNat - 0xE0) * 4096 + (← continued b) * 64 + (← continued c)
              if point < 0x800 then none else (decodeUtf8 rest).map (point :: ·)
            else
              match rest with
              | [] => none
              | d :: rest => do
                let point := (a.toNat - 0xF0) * 262144 + (← continued b) * 4096 +
                  (← continued c) * 64 + (← continued d)
                if a.toNat < 0xF0 ∨ point < 0x10000 ∨ 0x110000 ≤ point then none
                else (decodeUtf8 rest).map (point :: ·)

/-- Numbers of two bytes each, the low one first or last. -/
def units16 (low : Bool) : List UInt8 → Option (List ℕ)
  | [] => some []
  | [_] => none
  | a :: b :: rest => (units16 low rest).map
    ((if low then a.toNat + 256 * b.toNat else 256 * a.toNat + b.toNat) :: ·)

/-- A high surrogate and a low one are one code point; another surrogate passes. -/
def joinSurrogates : List ℕ → List ℕ
  | hi :: lo :: rest =>
    if 0xD800 ≤ hi ∧ hi < 0xDC00 ∧ 0xDC00 ≤ lo ∧ lo < 0xE000 then
      (0x10000 + (hi - 0xD800) * 1024 + (lo - 0xDC00)) :: joinSurrogates rest
    else hi :: joinSurrogates (lo :: rest)
  | units => units

/-- Code points of four bytes each, the low one first or last. -/
def units32 (low : Bool) : List UInt8 → Option (List ℕ)
  | [] => some []
  | a :: b :: c :: d :: rest =>
    let point := if low then a.toNat + 256 * b.toNat + 65536 * c.toNat + 16777216 * d.toNat
      else 16777216 * a.toNat + 65536 * b.toNat + 256 * c.toNat + d.toNat
    if point < 0x110000 then (units32 low rest).map (point :: ·) else none
  | _ => none

/-- `b.decode(encoding, "surrogatepass")`, as code points; a byte order mark is dropped. -/
def decodeBytes (encoding : Encoding) (b : List UInt8) : Option (List ℕ) :=
  match encoding with
  | .utf8 => decodeUtf8 b
  | .utf8Sig => decodeUtf8 (b.drop 3)
  | .utf16 => (units16 ([0xFF, 0xFE] <+: b) (b.drop 2)).map joinSurrogates
  | .utf16le => (units16 true b).map joinSurrogates
  | .utf16be => (units16 false b).map joinSurrogates
  | .utf32 => units32 ([0xFF, 0xFE, 0, 0] <+: b) (b.drop 4)
  | .utf32le => units32 true b
  | .utf32be => units32 false b

/-- Bytes that begin with a digit are taken for UTF-8, or begin with a code point of two or four
bytes, the low one first. -/
theorem detectEncoding_of_digit {d : UInt8} (hlo : 0x30 ≤ d.toNat) (hhi : d.toNat ≤ 0x39)
    (rest : List UInt8) :
    detectEncoding (d :: rest) = .utf8 ∨
      (∃ more, rest = 0 :: more ∧ detectEncoding (d :: rest) = .utf16le) ∨
      ∃ more, rest = 0 :: 0 :: 0 :: more ∧ detectEncoding (d :: rest) = .utf32le := by
  have hne : ∀ mark : UInt8, mark.toNat < 0x30 ∨ 0x39 < mark.toNat → mark ≠ d := by
    rintro mark hmark rfl
    omega
  have hzero : d ≠ 0 := (hne 0 (by decide)).symm
  unfold detectEncoding
  simp only [List.cons_prefix_cons, hne 0 (by decide), hne 0xFF (by decide), hne 0xFE (by decide),
    hne 0xEF (by decide), false_and, or_self, if_false]
  match rest with
  | [] => exact .inl rfl
  | [b1] =>
    by_cases h1 : b1 = 0
    · subst h1
      exact .inr (.inl ⟨[], rfl, by simp [hzero]⟩)
    · exact .inl (by simp [hzero, h1])
  | [b1, b2] => exact .inl rfl
  | b1 :: b2 :: b3 :: more =>
    by_cases h1 : b1 = 0
    · subst h1
      by_cases h23 : b2 ≠ 0 ∨ b3 ≠ 0
      · exact .inr (.inl ⟨_, rfl, by simp [hzero, h23]⟩)
      · obtain ⟨rfl, rfl⟩ : b2 = 0 ∧ b3 = 0 := by simpa using h23
        exact .inr (.inr ⟨more, rfl, by simp [hzero]⟩)
    · exact .inl (by simp [hzero, h1])

theorem decodeUtf8_cons_of_lt {a : UInt8} (h : a.toNat < 0x80) (rest : List UInt8) :
    decodeUtf8 (a :: rest) = (decodeUtf8 rest).map (a.toNat :: ·) := by
  rw [decodeUtf8.eq_def]
  exact if_pos h

theorem joinSurrogates_cons_of_lt {unit : ℕ} (h : unit < 0xD800) (units : List ℕ) :
    joinSurrogates (unit :: units) = unit :: joinSurrogates units := by
  cases units with
  | nil => rfl
  | cons lo units =>
    rw [joinSurrogates, if_neg]
    omega

/-- A text decoded from bytes that begin with a digit begins with it. -/
theorem decodeBytes_of_digit {d : UInt8} (hlo : 0x30 ≤ d.toNat) (hhi : d.toNat ≤ 0x39)
    {rest : List UInt8} {text : List ℕ}
    (h : decodeBytes (detectEncoding (d :: rest)) (d :: rest) = some text) :
    ∃ more, text = d.toNat :: more := by
  obtain hutf8 | ⟨tail, rfl, hutf16⟩ | ⟨tail, rfl, hutf32⟩ := detectEncoding_of_digit hlo hhi rest
  · rw [hutf8] at h
    change decodeUtf8 (d :: rest) = some text at h
    rw [decodeUtf8_cons_of_lt (by omega)] at h
    obtain ⟨more, -, rfl⟩ := Option.map_eq_some_iff.mp h
    exact ⟨more, rfl⟩
  · rw [hutf16] at h
    change (units16 true (d :: 0 :: tail)).map joinSurrogates = some text at h
    obtain ⟨units, hunits, rfl⟩ := Option.map_eq_some_iff.mp h
    obtain ⟨more, -, rfl⟩ := Option.map_eq_some_iff.mp hunits
    exact ⟨_, joinSurrogates_cons_of_lt (by simp; omega) more⟩
  · rw [hutf32] at h
    change units32 true (d :: 0 :: 0 :: 0 :: tail) = some text at h
    simp only [units32, if_true] at h
    split_ifs at h
    obtain ⟨more, -, rfl⟩ := Option.map_eq_some_iff.mp h
    exact ⟨more, by simp⟩
/-! ### The parts of a delivery -/

/-- What `datetime.fromisoformat` builds. -/
inductive Datetime where
  | naive (time : ℤ)
  | aware (time : Time)

/-- A delivery with its header texts and the bytes of its body. -/
structure SignedDelivery where
  secret : Option String
  signature : Option String
  timestamp : Option String
  body : List UInt8
  tenantId : Option String := none

/-- `value.replace("Z", "+00:00")`. -/
def replaceZ (text : List Char) : List Char :=
  text.flatMap (fun c => if c = 'Z' then "+00:00".toList else [c])

section Parsers

variable (fromisoformat : String → Option Datetime) (loads : List ℕ → Option Json)
  (validateEvent : JsonObject → Option BookingWebhookEvent)
  (hmacSha256 : List UInt8 → List UInt8 → String)

/-- `parse_webhook_timestamp`, before its window. -/
def webhookTimestamp (value : String) : Except String Time :=
  match fromisoformat (.ofList (replaceZ value.toList)) with
  | none => .error "webhook timestamp must be ISO-8601"
  | some (.naive _) => .error "webhook timestamp must include a UTC offset"
  | some (.aware time) => .ok time

/-- `parse_booking_webhook`, before its skew; an event is validated from an object alone. -/
def webhookEvent (body : List UInt8) : Except String BookingWebhookEvent :=
  match (decodeBytes (detectEncoding body) body).bind loads with
  | none => .error "webhook payload must be valid JSON"
  | some (.obj fields) =>
    match validateEvent fields with
    | some event => .ok event
    | none => .error "webhook payload does not match the booking event schema"
  | some _ => .error "webhook payload does not match the booking event schema"

/-- The bytes that are signed. -/
def signedBody (timestamp : Option String) (body : List UInt8) : List UInt8 :=
  if truthy timestamp then Utf8.encode ((timestamp.getD "").toList ++ ['.']) ++ body else body

def verifyWebhookSignature (body : List UInt8) (signature secret : String)
    (timestamp : Option String) : Bool :=
  hmacSha256 (Utf8.encode secret.toList) (signedBody timestamp body) = signature

/-- A delivery with its parts parsed. -/
def SignedDelivery.parsed (delivery : SignedDelivery) : WebhookDelivery where
  credentials := truthy delivery.secret && truthy delivery.signature && truthy delivery.timestamp
  signed := verifyWebhookSignature hmacSha256 delivery.body (delivery.signature.getD "")
    (delivery.secret.getD "") delivery.timestamp
  timestamp := webhookTimestamp fromisoformat (delivery.timestamp.getD "")
  event := webhookEvent loads validateEvent delivery.body
  tenantId := delivery.tenantId

end Parsers

/-! ### Dots and digits -/

/-- A digit follows every dot. -/
def dotsBeforeDigits : List Char → Bool
  | [] => true
  | c :: rest => (c ≠ '.' || rest.head?.any Char.isDigit) && dotsBeforeDigits rest

/-- The white space of JSON. -/
def isJsonSpace (point : ℕ) : Bool := point ∈ [0x20, 0x09, 0x0A, 0x0D]

theorem exists_digit_of_dot {text rest : List Char}
    (h : dotsBeforeDigits (text ++ '.' :: rest) = true) :
    ∃ d more, rest = d :: more ∧ d.isDigit = true := by
  induction text with
  | nil =>
    have hdigit : rest.head?.any Char.isDigit = true := by
      simpa [dotsBeforeDigits] using (Bool.and_eq_true_iff.mp h).1
    cases rest with
    | nil => simp at hdigit
    | cons d more => exact ⟨d, more, rfl, by simpa using hdigit⟩
  | cons c text ih => exact ih (Bool.and_eq_true_iff.mp h).2

theorem replaceZ_cons (c : Char) (text : List Char) :
    replaceZ (c :: text) = (if c = 'Z' then "+00:00".toList else [c]) ++ replaceZ text := rfl

theorem isDigit_head_of_replaceZ {text : List Char}
    (h : (replaceZ text).head?.any Char.isDigit = true) : text.head?.any Char.isDigit = true := by
  cases text with
  | nil => exact h
  | cons c text =>
    rw [replaceZ_cons] at h
    split_ifs at h
    · have hplus : Char.isDigit '+' = true := h
      exact absurd hplus (by decide)
    · exact h

/-- Where a digit follows every dot once each `Z` is replaced, it does before. -/
theorem dotsBeforeDigits_of_replaceZ {text : List Char}
    (h : dotsBeforeDigits (replaceZ text) = true) : dotsBeforeDigits text = true := by
  induction text with
  | nil => rfl
  | cons c text ih =>
    rw [replaceZ_cons] at h
    split_ifs at h with hz
    · subst hz
      exact ih h
    · obtain ⟨hhead, hrest⟩ := Bool.and_eq_true_iff.mp h
      refine Bool.and_eq_true_iff.mpr ⟨?_, ih hrest⟩
      rcases Bool.or_eq_true_iff.mp hhead with hdot | hdigit
      · exact Bool.or_eq_true_iff.mpr (.inl hdot)
      · exact Bool.or_eq_true_iff.mpr (.inr (isDigit_head_of_replaceZ hdigit))

/-! ### Accepted deliveries -/

section Accepted

variable {fromisoformat : String → Option Datetime} {loads : List ℕ → Option Json}
  {validateEvent : JsonObject → Option BookingWebhookEvent}
  {hmacSha256 : List UInt8 → List UInt8 → String} {b : Backend}

/-- The credentials are there, and the timestamp and the body are accepted. -/
def SignedDelivery.Accepted (delivery : SignedDelivery)
    (fromisoformat : String → Option Datetime) (loads : List ℕ → Option Json)
    (validateEvent : JsonObject → Option BookingWebhookEvent)
    (hmacSha256 : List UInt8 → List UInt8 → String) (env : Env) (w : World b) : Prop :=
  let parsed := delivery.parsed fromisoformat loads validateEvent hmacSha256
  parsed.credentials = true ∧
    ∃ event w', (Api.parseWebhook parsed).run env.exec w = (.ok event, w')

/-- A digit follows every dot of a timestamp that is taken. -/
theorem dotsBeforeDigits_of_webhookTimestamp
    (hdot : ∀ value datetime, fromisoformat value = some datetime →
      dotsBeforeDigits value.toList = true)
    {value : String} {time : Time} (h : webhookTimestamp fromisoformat value = .ok time) :
    dotsBeforeDigits value.toList = true := by
  unfold webhookTimestamp at h
  split at h
  · cases h
  · cases h
  · rename_i hparsed
    have hreplaced := hdot _ _ hparsed
    rw [String.toList_ofList] at hreplaced
    exact dotsBeforeDigits_of_replaceZ hreplaced

/-- The bytes of a body that is taken begin with no digit. -/
theorem not_digit_of_webhookEvent
    (hbrace : ∀ text fields, loads text = some (.obj fields) →
      (text.dropWhile isJsonSpace).head? = some 0x7B)
    {d : UInt8} {rest : List UInt8} {event : BookingWebhookEvent}
    (h : webhookEvent loads validateEvent (d :: rest) = .ok event) :
    ¬(0x30 ≤ d.toNat ∧ d.toNat ≤ 0x39) := by
  rintro ⟨hlo, hhi⟩
  unfold webhookEvent at h
  split at h
  · cases h
  · rename_i fields hloads
    obtain ⟨text, hdecode, hloads⟩ := Option.bind_eq_some_iff.mp hloads
    obtain ⟨more, rfl⟩ := decodeBytes_of_digit hlo hhi hdecode
    have hhead := hbrace _ _ hloads
    have hspace : isJsonSpace d.toNat = false := by
      simp [isJsonSpace]
      omega
    rw [List.dropWhile_cons_of_neg (by simp [hspace])] at hhead
    simp at hhead
    omega
  · cases h

/-- The parts of an accepted delivery: a timestamp and a body that are taken. -/
theorem SignedDelivery.Accepted.parts {delivery : SignedDelivery} {env : Env} {w : World b}
    (h : delivery.Accepted fromisoformat loads validateEvent hmacSha256 env w) :
    ∃ value, delivery.timestamp = some value ∧
      signedBody delivery.timestamp delivery.body =
        Utf8.encode value.toList ++ 0x2E :: delivery.body ∧
      (∃ time, webhookTimestamp fromisoformat value = .ok time) ∧
      ∃ event, webhookEvent loads validateEvent delivery.body = .ok event := by
  obtain ⟨hcredentials, event, w', hrun⟩ := h
  obtain ⟨htime, hevent⟩ := Api.parseWebhook_run hrun
  have htruthy : truthy delivery.timestamp = true := (Bool.and_eq_true_iff.mp hcredentials).2
  cases hvalue : delivery.timestamp with
  | none =>
    rw [hvalue] at htruthy
    cases htruthy
  | some value =>
    refine ⟨value, rfl, ?_, ?_, event, hevent⟩
    · rw [hvalue] at htruthy
      unfold signedBody
      rw [if_pos htruthy, Option.getD_some, Utf8.encode_append, List.append_assoc]
      rfl
    · simpa only [parsed, hvalue, Option.getD_some] using htime

/-- What a longer timestamp and a shorter body share is a dot that no digit follows. -/
theorem not_continues
    (hdot : ∀ value datetime, fromisoformat value = some datetime →
      dotsBeforeDigits value.toList = true)
    (hbrace : ∀ text fields, loads text = some (.obj fields) →
      (text.dropWhile isJsonSpace).head? = some 0x7B)
    {value value' : String} {body body' more : List UInt8} {time : Time}
    {event : BookingWebhookEvent} (htime : webhookTimestamp fromisoformat value' = .ok time)
    (hevent : webhookEvent loads validateEvent body = .ok event)
    (hvalue : Utf8.encode value'.toList = Utf8.encode value.toList ++ 0x2E :: more)
    (hbody : body = more ++ 0x2E :: body') : False := by
  have hdotted : Utf8.encode (value.toList ++ ['.']) ++ more = Utf8.encode value'.toList := by
    rw [hvalue, Utf8.encode_append, List.append_assoc]
    rfl
  obtain ⟨rest, hrest, rfl⟩ := Utf8.exists_of_encode_append hdotted
  have hdigits := dotsBeforeDigits_of_webhookTimestamp hdot htime
  rw [hrest, List.append_assoc] at hdigits
  obtain ⟨d, rest, rfl, hd⟩ := exists_digit_of_dot hdigits
  have hrange : 0x30 ≤ d.toNat ∧ d.toNat ≤ 0x39 := by
    simpa [Char.isDigit, UInt32.le_iff_toNat_le] using hd
  rw [Utf8.encode_cons, Utf8.utf8EncodeChar_of_le (by omega)] at hbody
  rw [hbody] at hevent
  refine not_digit_of_webhookEvent hbrace hevent ?_
  rw [UInt8.toNat_ofNat', Nat.mod_eq_of_lt (by omega)]
  exact hrange

/-- Two accepted deliveries with the same signed bytes have the same timestamp and body. -/
theorem signed_bytes_fix_parts
    (hdot : ∀ value datetime, fromisoformat value = some datetime →
      dotsBeforeDigits value.toList = true)
    (hbrace : ∀ text fields, loads text = some (.obj fields) →
      (text.dropWhile isJsonSpace).head? = some 0x7B)
    {one two : SignedDelivery} {env env' : Env} {w w' : World b}
    (hone : one.Accepted fromisoformat loads validateEvent hmacSha256 env w)
    (htwo : two.Accepted fromisoformat loads validateEvent hmacSha256 env' w')
    (hsigned : signedBody one.timestamp one.body = signedBody two.timestamp two.body) :
    one.timestamp = two.timestamp ∧ one.body = two.body := by
  obtain ⟨value, hvalue, hbytes, ⟨time, htime⟩, event, hevent⟩ := hone.parts
  obtain ⟨value', hvalue', hbytes', ⟨time', htime'⟩, event', hevent'⟩ := htwo.parts
  rw [hbytes, hbytes', Separated.append_cons_eq_iff] at hsigned
  rw [hvalue, hvalue']
  obtain ⟨hencoded, hbody⟩ | ⟨more, hlonger, hbody⟩ | ⟨more, hlonger, hbody⟩ := hsigned
  · exact ⟨congrArg some (String.toList_inj.mp (Utf8.encode_injective hencoded)), hbody⟩
  · exact (not_continues hdot hbrace htime' hevent hlonger hbody).elim
  · exact (not_continues hdot hbrace htime hevent' hlonger hbody).elim

end Accepted

/-! ### Two deliveries -/

/-- Half a second into the epoch, and a second later. -/
def pingIso (value : String) : Option Datetime :=
  if value = "1970-01-01T00:00:00.500+00:00" then some (.aware 500000)
  else if value = "1970-01-01T00:00:01.500+00:00" then some (.aware 1500000)
  else none

def pingText : List Char :=
  ("\x7b\"message_id\":\"m\",\"tenant_id\":\"acme\",\"event_type\":\"ping\"," ++
    "\"occurred_at\":\"1970-01-01T00:00:00+00:00\"\x7d").toList

def pingFields : JsonObject :=
  [("message_id", .str "m"), ("tenant_id", .str "acme"), ("event_type", .str "ping"),
    ("occurred_at", .str "1970-01-01T00:00:00+00:00")]

def pingLoads (text : List ℕ) : Option Json :=
  if text = pingText.map Char.toNat then some (.obj pingFields) else none

def pingEvent (fields : JsonObject) : Option BookingWebhookEvent :=
  if fields.map Prod.fst = pingFields.map Prod.fst then
    some { messageId := "m", tenantId := "acme", eventType := "ping", occurredAt := 0 }
  else none

def pingAt (timestamp : String) (body : List UInt8) : SignedDelivery where
  secret := some "secret"
  signature := some "signature"
  timestamp := some timestamp
  body

theorem parseWebhook_run_of {b : Backend} {delivery : WebhookDelivery} {env : Env} {w : World b}
    {time : Time} {event : BookingWebhookEvent} (htime : delivery.timestamp = .ok time)
    (hevent : delivery.event = .ok event) (hwindow : |env.clock w.tick - time| ≤ webhookWindow)
    (hskew : |event.occurredAt - time| ≤ webhookWindow) :
    (Api.parseWebhook delivery).run env.exec w = (.ok event, env.after w .now) := by
  unfold Api.parseWebhook
  rw [htime, hevent]
  refine Prog.run_bind_eq_ok.mpr ⟨time, w, rfl, ?_⟩
  refine Prog.run_bind_eq_ok.mpr ⟨env.clock w.tick, env.after w .now, rfl, ?_⟩
  refine Prog.run_bind_eq_ok.mpr ⟨(), env.after w .now, ?_, ?_⟩
  · rw [Api.require, decide_eq_true hwindow]
    rfl
  refine Prog.run_bind_eq_ok.mpr ⟨event, env.after w .now, rfl, ?_⟩
  refine Prog.run_bind_eq_ok.mpr ⟨(), env.after w .now, ?_, rfl⟩
  rw [Api.require, decide_eq_true hskew]
  rfl

theorem pingAt_accepted {timestamp : String} {body : List UInt8} {time : Time}
    {event : BookingWebhookEvent}
    (hcredentials : (truthy (some "secret") && truthy (some "signature") &&
      truthy (some timestamp)) = true)
    (htime : webhookTimestamp pingIso timestamp = .ok time)
    (hevent : webhookEvent pingLoads pingEvent body = .ok event)
    (hwindow : |(0 : Time) - time| ≤ webhookWindow)
    (hskew : |event.occurredAt - time| ≤ webhookWindow) :
    (pingAt timestamp body).Accepted pingIso pingLoads pingEvent (fun _ _ => "signature") Env.still
      World.fresh :=
  ⟨hcredentials, event, _, parseWebhook_run_of htime hevent hwindow hskew⟩

/-- Deliveries of one body at two times have different signed bytes. -/
theorem signed_bytes_fix_parts_sample :
    signedBody (some "1970-01-01T00:00:00.500Z") (Utf8.encode pingText) ≠
      signedBody (some "1970-01-01T00:00:01.500Z") (Utf8.encode pingText) := by
  have hdot : ∀ value datetime, pingIso value = some datetime →
      dotsBeforeDigits value.toList = true := by
    intro value datetime h
    unfold pingIso at h
    split_ifs at h with hfirst hsecond
    · rw [hfirst]
      decide
    · rw [hsecond]
      decide
  have hbrace : ∀ text fields, pingLoads text = some (.obj fields) →
      (text.dropWhile isJsonSpace).head? = some 0x7B := by
    intro text fields h
    unfold pingLoads at h
    split_ifs at h with htext
    rw [htext]
    decide +kernel
  intro hsigned
  have hfirst : webhookTimestamp pingIso "1970-01-01T00:00:00.500Z" = .ok 500000 := by decide +kernel
  have hsecond : webhookTimestamp pingIso "1970-01-01T00:00:01.500Z" = .ok 1500000 := by
    decide +kernel
  have hevent : webhookEvent pingLoads pingEvent (Utf8.encode pingText) =
      .ok { messageId := "m", tenantId := "acme", eventType := "ping", occurredAt := 0 } := by
    decide +kernel
  generalize Utf8.encode pingText = body at hevent hsigned
  have hparts := signed_bytes_fix_parts hdot hbrace
    (pingAt_accepted (by decide) hfirst hevent (by decide) (by decide))
    (pingAt_accepted (by decide) hsecond hevent (by decide) (by decide)) hsigned
  exact absurd (Option.some.inj hparts.1) (by decide)

end RouteShield
