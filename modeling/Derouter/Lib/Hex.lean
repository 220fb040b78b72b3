import Mathlib.Data.List.Basic

-- Strings as byte sequences, and their lower-case hexadecimal rendering.

namespace Hex

def bytes (s : String) : List UInt8 :=
  s.toUTF8.data.toList

theorem bytes_inj (h : bytes s₁ = bytes s₂) : s₁ = s₂ := by
  simp only [bytes, String.toUTF8_eq_toByteArray] at h
  exact String.toByteArray_inj.mp <| ByteArray.ext <| Array.toList_inj.mp h

theorem bytes_ofList (l : List Char) : bytes (String.ofList l) = l.flatMap String.utf8EncodeChar := by
  simp [bytes, List.utf8Encode]

theorem length_le_length_bytes (s : String) : s.toList.length ≤ (bytes s).length := by
  conv => rhs; rw [← String.ofList_toList (s := s), bytes_ofList]
  induction s.toList
  case nil => simp
  case cons c l hi =>
    have hc : 0 < (String.utf8EncodeChar c).length := by
      rw [String.length_utf8EncodeChar]
      exact c.utf8Size_pos
    simp only [List.length_cons, List.flatMap_cons, List.length_append]
    omega

def digit (n : Nat) : Char :=
  if n < 10 then Char.ofNat ('0'.toNat + n) else Char.ofNat ('a'.toNat + (n - 10))

def digits (b : UInt8) : List Char :=
  [digit (b.toNat / 16), digit (b.toNat % 16)]

def encode (l : List UInt8) : String :=
  String.ofList <| l.flatMap digits

def encodeString (s : String) : String :=
  encode (bytes s)

theorem length_encode (l : List UInt8) : (encode l).toList.length = 2 * l.length := by
  simp only [encode, String.toList_ofList]
  induction l
  case nil          => rfl
  case cons b l hi  =>
    simp only [List.flatMap_cons, List.length_append, hi, digits, List.length_cons, List.length_nil]
    omega

-- Every byte becomes two digits, so only the empty string is its own rendering.
theorem encodeString_eq_self_iff : encodeString s = s ↔ s = "" := by
  constructor
  case mp =>
    intro h
    have hl := length_encode (bytes s)
    have hb := length_le_length_bytes s
    rw [show encode (bytes s) = s from h] at hl
    exact String.toList_eq_nil_iff.mp <| List.eq_nil_of_length_eq_zero (by omega)
  case mpr =>
    rintro rfl
    rfl

example : encodeString "10" = "3130" := by decide +kernel

end Hex
