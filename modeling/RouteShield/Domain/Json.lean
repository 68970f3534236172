import Mathlib.Order.WithBot
import RouteShield.Lib.Binary64

/-!
JSON values as the service decodes them. An integer literal stays an integer of any
size; a literal with a fraction or an exponent becomes a float, which overflows to an
infinity. The decoder's extension to `NaN` is not JSON and has no value here.
-/

namespace RouteShield

/-- A float that is not `NaN`: a finite double or an infinity. -/
abbrev PyFloat := WithBot (WithTop ℚ)

namespace PyFloat

def finite (q : ℚ) : PyFloat := ((q : WithTop ℚ) : WithBot (WithTop ℚ))

theorem finite_le_finite {a b : ℚ} : finite a ≤ finite b ↔ a ≤ b :=
  WithBot.coe_le_coe.trans WithTop.coe_le_coe

theorem finite_injective : Function.Injective finite :=
  WithBot.coe_injective.comp WithTop.coe_injective

/-- The rational a finite float denotes. -/
def rat? : PyFloat → Option ℚ
  | .some (.some q) => some q
  | _ => none

theorem rat?_eq_some {x : PyFloat} {q : ℚ} : x.rat? = some q ↔ x = finite q := by
  rcases x with _ | _ | r
  · exact iff_of_false (fun h => by cases h) (WithBot.bot_ne_coe (a := (q : WithTop ℚ)))
  · exact iff_of_false (fun h => by cases h) (fun h => by cases WithBot.coe_injective h)
  · constructor
    · intro h
      cases h
      rfl
    · intro h
      exact congrArg some (finite_injective h)

@[simp] theorem rat?_finite (q : ℚ) : (finite q).rat? = some q := rfl

/-- Between two finite bounds there are only finite floats. -/
theorem exists_eq_finite {x : PyFloat} {a b : ℚ} (ha : finite a ≤ x) (hb : x ≤ finite b) :
    ∃ q, x = finite q := by
  rcases x with _ | _ | q
  · exact absurd ha (WithBot.not_coe_le_bot _)
  · exact absurd (WithBot.coe_le_coe.mp hb) (WithTop.not_top_le_coe b)
  · exact ⟨q, rfl⟩

end PyFloat

inductive JsonNumber where
  | int (n : ℤ)
  | float (x : PyFloat)
  deriving DecidableEq

/-- `float(value)`: an integer is rounded, and raises `OverflowError` beyond the largest double. -/
def JsonNumber.toFloat? : JsonNumber → Option PyFloat
  | .int n => if |Binary64.round n| < 2 ^ 1024 then some (.finite (Binary64.round n)) else none
  | .float x => some x

theorem JsonNumber.toFloat?_int {n : ℤ} (h : |n| ≤ 128) : (int n).toFloat? = some (.finite n) := by
  have hn : |(n : ℚ)| ≤ 128 := by exact_mod_cast h
  have hlt : |(n : ℚ)| < 2 ^ 1024 :=
    calc |(n : ℚ)| ≤ 2 ^ 7 := by linarith
      _ < 2 ^ 1024 := pow_lt_pow_right₀ one_lt_two (by norm_num)
  rw [toFloat?, Binary64.round_intCast h, if_pos hlt]

inductive Json where
  | null
  | bool (b : Bool)
  | num (n : JsonNumber)
  | str (s : String)
  | arr (items : List Json)
  | obj (fields : List (String × Json))

/-- A `dict[str, object]`. -/
abbrev JsonObject := List (String × Json)

namespace Json

mutual

def decEq : (a b : Json) → Decidable (a = b)
  | .null, .null => isTrue rfl
  | .bool a, .bool b => decidable_of_iff (a = b) (by simp)
  | .num a, .num b => decidable_of_iff (a = b) (by simp)
  | .str a, .str b => decidable_of_iff (a = b) (by simp)
  | .arr a, .arr b =>
    match decEqItems a b with
    | isTrue h => isTrue (by rw [h])
    | isFalse h => isFalse (by simpa using h)
  | .obj a, .obj b =>
    match decEqFields a b with
    | isTrue h => isTrue (by rw [h])
    | isFalse h => isFalse (by simpa using h)
  | .null, .bool _ | .null, .num _ | .null, .str _ | .null, .arr _ | .null, .obj _
  | .bool _, .null | .bool _, .num _ | .bool _, .str _ | .bool _, .arr _ | .bool _, .obj _
  | .num _, .null | .num _, .bool _ | .num _, .str _ | .num _, .arr _ | .num _, .obj _
  | .str _, .null | .str _, .bool _ | .str _, .num _ | .str _, .arr _ | .str _, .obj _
  | .arr _, .null | .arr _, .bool _ | .arr _, .num _ | .arr _, .str _ | .arr _, .obj _
  | .obj _, .null | .obj _, .bool _ | .obj _, .num _ | .obj _, .str _ | .obj _, .arr _ =>
    isFalse (by simp)

def decEqItems : (a b : List Json) → Decidable (a = b)
  | [], [] => isTrue rfl
  | [], _ :: _ => isFalse (by simp)
  | _ :: _, [] => isFalse (by simp)
  | a :: as, b :: bs =>
    match decEq a b, decEqItems as bs with
    | isTrue h, isTrue hs => isTrue (by rw [h, hs])
    | isFalse h, _ => isFalse (by simp [h])
    | _, isFalse hs => isFalse (by simp [hs])

def decEqFields : (a b : List (String × Json)) → Decidable (a = b)
  | [], [] => isTrue rfl
  | [], _ :: _ => isFalse (by simp)
  | _ :: _, [] => isFalse (by simp)
  | (j, a) :: as, (k, b) :: bs =>
    match decEq a b, decEqFields as bs with
    | isTrue h, isTrue hs => decidable_of_iff (j = k) (by simp [h, hs])
    | isFalse h, _ => isFalse (by simp [h])
    | _, isFalse hs => isFalse (by simp [hs])

end

instance : DecidableEq Json := decEq

/-- `payload.get(key)`: the value stored under a key. -/
def get? (payload : JsonObject) (key : String) : Option Json :=
  (payload.find? (fun field => field.1 = key)).map Prod.snd

/-- The number behind `isinstance(value, (int, float))`, under which a boolean is an integer. -/
def number? : Json → Option JsonNumber
  | .num n => some n
  | .bool b => some (.int b.toNat)
  | _ => none

/-- A JSON number literal, which a boolean is not. -/
def IsNumber : Json → Prop
  | .num _ => True
  | _ => False

instance : DecidablePred IsNumber := fun j => by
  cases j <;> unfold IsNumber <;> infer_instance

mutual

/-- Every number in the value passes a test. -/
def numbersPass (test : JsonNumber → Bool) : Json → Bool
  | .num n => test n
  | .arr items => itemsPass test items
  | .obj fields => fieldsPass test fields
  | .null | .bool _ | .str _ => true

def itemsPass (test : JsonNumber → Bool) : List Json → Bool
  | [] => true
  | item :: items => item.numbersPass test && itemsPass test items

def fieldsPass (test : JsonNumber → Bool) : JsonObject → Bool
  | [] => true
  | (_, value) :: fields => value.numbersPass test && fieldsPass test fields

end

end Json

end RouteShield
