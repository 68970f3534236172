import RouteShield.Domain.Json

/-!
Redaction of audit payloads: a value under a key that names a credential is replaced,
at any depth. The comparison of keys ignores case, surrounding blanks and `-` against `_`.
-/

namespace RouteShield

def sensitiveFields : List String :=
  ["authorization", "cookie", "set-cookie", "openai_api_key", "password", "passwd", "secret",
    "token", "access_token", "refresh_token", "id_token", "api_key", "x-api-key",
    "client_secret", "private_key", "signature"]

/-- The characters that `str.strip` removes. -/
def isBlank (c : Char) : Bool :=
  (9 ≤ c.val ∧ c.val ≤ 13) ∨ (28 ≤ c.val ∧ c.val ≤ 32) ∨ c.val = 0x85 ∨ c.val = 0xa0 ∨
    c.val = 0x1680 ∨ (0x2000 ≤ c.val ∧ c.val ≤ 0x200a) ∨ c.val = 0x2028 ∨ c.val = 0x2029 ∨
    c.val = 0x202f ∨ c.val = 0x205f ∨ c.val = 0x3000

/-- `str.lower` on the characters whose lower case is a letter of a field's name: the Latin
capitals and the Kelvin sign. The others keep away from every field's name either way. -/
def lower (c : Char) : Char := if c.val = 0x212a then 'k' else c.toLower

def dashed (c : Char) : Char := if c = '-' then '_' else c

def normalizedKey (key : String) : List Char :=
  ((key.toList.dropWhile isBlank).reverse.dropWhile isBlank).reverse.map (fun c => dashed (lower c))

def sensitiveKey (key : String) : Bool :=
  normalizedKey key ∈ sensitiveFields.map (fun item => item.toList.map dashed)

mutual

def redact : Json → Json
  | .obj fields => .obj (redactFields fields)
  | .arr items => .arr (redactItems items)
  | payload => payload

def redactItems : List Json → List Json
  | [] => []
  | value :: items => redact value :: redactItems items

def redactFields : List (String × Json) → List (String × Json)
  | [] => []
  | (key, value) :: fields =>
    (key, if sensitiveKey key then .str "[REDACTED]" else redact value) :: redactFields fields

end

example : redactFields [("Token ", .num (.int 1)), ("actor", .str "m")] =
    [("Token ", .str "[REDACTED]"), ("actor", .str "m")] := by decide +kernel

end RouteShield
