import Mathlib.Algebra.Ring.Nat
import Mathlib.Data.List.Basic

/-!
The text of a UUID: its 128 bits in hexadecimal digits, in five groups with hyphens between them. It
is 36 characters long and names the UUID.
-/

namespace RouteShield

/-- The last hexadecimal digits of a number, as many as asked for. -/
def hexOf : ℕ → ℕ → List Char
  | 0, _ => []
  | k + 1, n => hexOf k (n / 16) ++ [Nat.digitChar (n % 16)]

theorem length_hexOf (k n : ℕ) : (hexOf k n).length = k := by
  induction k generalizing n with
  | zero => rfl
  | succ k ih => rw [hexOf, List.length_append, ih, List.length_singleton]

theorem digitChar_inj : ∀ a < 16, ∀ b < 16, Nat.digitChar a = Nat.digitChar b → a = b := by decide

/-- So many digits name a number that has no more of them. -/
theorem hexOf_inj {k n m : ℕ} (hn : n < 16 ^ k) (hm : m < 16 ^ k)
    (h : hexOf k n = hexOf k m) : n = m := by
  induction k generalizing n m with
  | zero => omega
  | succ k ih =>
    obtain ⟨hrest, hlast⟩ := List.append_inj' h rfl
    have hmod : n % 16 = m % 16 := digitChar_inj _ (by omega) _ (by omega) (List.cons.inj hlast).1
    have hdiv : n / 16 = m / 16 := ih (by omega) (by omega) hrest
    omega

/-- Five groups, of eight, four, four, four and the other characters. -/
def hyphenated (hex : List Char) : List Char :=
  hex.take 8 ++ '-' :: ((hex.drop 8).take 4 ++ '-' :: ((hex.drop 12).take 4 ++
    '-' :: ((hex.drop 16).take 4 ++ '-' :: hex.drop 20)))

theorem length_hyphenated {hex : List Char} (h : hex.length = 32) : (hyphenated hex).length = 36 := by
  simp [hyphenated, h]

theorem hyphenated_inj {hex hex' : List Char} (hlength : hex.length = 32) (hlength' : hex'.length = 32)
    (h : hyphenated hex = hyphenated hex') : hex = hex' := by
  obtain ⟨h₁, h⟩ := List.append_inj h (by simp [hlength, hlength'])
  obtain ⟨h₂, h⟩ := List.append_inj (List.cons.inj h).2 (by simp [hlength, hlength'])
  obtain ⟨h₃, h⟩ := List.append_inj (List.cons.inj h).2 (by simp [hlength, hlength'])
  obtain ⟨h₄, h⟩ := List.append_inj (List.cons.inj h).2 (by simp [hlength, hlength'])
  have h₅ : hex.drop 20 = hex'.drop 20 := (List.cons.inj h).2
  have hgroup (l : List Char) (i : ℕ) : (l.drop i).take 4 ++ l.drop (i + 4) = l.drop i := by
    rw [← List.drop_drop, List.take_append_drop]
  have hsplit (l : List Char) : l = l.take 8 ++ ((l.drop 8).take 4 ++ ((l.drop 12).take 4 ++
      ((l.drop 16).take 4 ++ l.drop 20))) := by
    rw [hgroup l 16, hgroup l 12, hgroup l 8, List.take_append_drop]
  rw [hsplit hex, hsplit hex', h₁, h₂, h₃, h₄, h₅]

/-- The number of a UUID. -/
abbrev UuidInt := Fin (16 ^ 32)

/-- `str(uuid)`. -/
def UuidInt.text (u : UuidInt) : String := .ofList (hyphenated (hexOf 32 u.val))

example : (0x123e4567e89b12d3a456426614174000 : UuidInt).text =
    "123e4567-e89b-12d3-a456-426614174000" := by decide +kernel

theorem UuidInt.length_text (u : UuidInt) : u.text.toList.length = 36 := by
  rw [text, String.toList_ofList, length_hyphenated (length_hexOf 32 u.val)]

theorem UuidInt.text_injective : Function.Injective UuidInt.text := by
  intro u u' h
  have hdigits := hyphenated_inj (length_hexOf 32 u.val) (length_hexOf 32 u'.val)
    (String.ofList_injective h)
  exact Fin.ext (hexOf_inj u.isLt u'.isLt hdigits)

end RouteShield
