import Mathlib.Data.List.Basic

/-!
UTF-8 as a list of bytes. The bytes of one text begin another's exactly when the text does: the
first character is read off the bytes, whatever follows them.
-/

namespace RouteShield.Utf8

/-- `str.encode`. -/
def encode (text : List Char) : List UInt8 := text.flatMap String.utf8EncodeChar

@[simp] theorem encode_nil : encode [] = [] := rfl

@[simp] theorem encode_cons (c : Char) (text : List Char) :
    encode (c :: text) = String.utf8EncodeChar c ++ encode text := rfl

@[simp] theorem encode_append (text text' : List Char) :
    encode (text ++ text') = encode text ++ encode text' := List.flatMap_append

/-- The first character is read off the bytes. -/
theorem utf8EncodeChar_append_inj {c d : Char} {bytes bytes' : List UInt8}
    (h : String.utf8EncodeChar c ++ bytes = String.utf8EncodeChar d ++ bytes') :
    c = d ∧ bytes = bytes' := by
  have hdecode := congrArg (fun l => l.toByteArray.utf8DecodeChar? 0) h
  simp only [List.toByteArray_append, ByteArray.utf8DecodeChar?_utf8EncodeChar_append] at hdecode
  obtain rfl := Option.some.inj hdecode
  exact ⟨rfl, List.append_cancel_left h⟩

/-- A text whose bytes go on from those of another goes on from the other. -/
theorem exists_of_encode_append {text text' : List Char} {bytes : List UInt8}
    (h : encode text ++ bytes = encode text') :
    ∃ rest, text' = text ++ rest ∧ bytes = encode rest := by
  induction text generalizing text' with
  | nil => exact ⟨text', rfl, h⟩
  | cons c text ih =>
    cases text' with
    | nil =>
      have hempty := (List.append_eq_nil_iff.mp (List.append_eq_nil_iff.mp h).1).1
      exact absurd hempty String.utf8EncodeChar_ne_nil
    | cons d text' =>
      rw [encode_cons, encode_cons, List.append_assoc] at h
      obtain ⟨rfl, htail⟩ := utf8EncodeChar_append_inj h
      obtain ⟨rest, rfl, hbytes⟩ := ih htail
      exact ⟨rest, rfl, hbytes⟩

theorem encode_injective : Function.Injective encode := by
  intro text text' h
  obtain ⟨rest, rfl, hrest⟩ := exists_of_encode_append ((List.append_nil _).trans h)
  cases rest with
  | nil => exact (List.append_nil _).symm
  | cons c rest => exact absurd (List.append_eq_nil_iff.mp hrest.symm).1 String.utf8EncodeChar_ne_nil

/-- `bytes.decode("latin-1")`: each byte is a character. -/
def latin1 (bytes : List UInt8) : List Char := bytes.map fun b => .ofNat b.toNat

theorem latin1_injective : Function.Injective latin1 := by
  refine List.map_injective_iff.mpr fun b c h => ?_
  have hvalid : ∀ x : UInt8, (Char.ofNat x.toNat).toNat = x.toNat := by
    intro x
    have hchar : x.toNat.isValidChar := .inl (Nat.lt_trans x.toNat_lt (by decide))
    rw [Char.ofNat, dif_pos hchar]
    rfl
  have hnat := congrArg Char.toNat h
  rw [hvalid, hvalid] at hnat
  exact UInt8.toNat_inj.mp hnat

/-- An ASCII character is one byte. -/
theorem utf8EncodeChar_of_le {c : Char} (h : c.toNat ≤ 127) :
    String.utf8EncodeChar c = [UInt8.ofNat c.toNat] := by
  simp [String.utf8EncodeChar, h]

end RouteShield.Utf8
