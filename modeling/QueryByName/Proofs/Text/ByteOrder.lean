import Mathlib.Data.List.Basic

/-! # Texts compared by their bytes

Comparing texts letter by letter by code point is the same as comparing their UTF-8 forms byte by byte
(`lt_iff_utf8Bytes_lt`).  Longer forms begin with larger bytes and belong to larger code points, and
forms of one length are the digits of the code point to the base 64, so the first letters that differ
decide on both sides, whatever follows them (`utf8EncodeChar_append_lt`).
-/

namespace QueryByName.Text

/-- The bytes of a text in UTF-8. -/
def utf8Bytes (text : String) : List UInt8 :=
  text.toByteArray.data.toList

theorem utf8Bytes_eq_flatMap (text : String) : utf8Bytes text = text.toList.flatMap String.utf8EncodeChar := by
  rw [utf8Bytes, ← String.utf8Encode_toList, List.utf8Encode, List.toList_data_toByteArray]

/-! ## One letter -/

section Bytes

variable {left right : Nat} (leftSmall : left < 256) (rightSmall : right < 256)

include leftSmall rightSmall

theorem ofNat_lt_ofNat_iff : UInt8.ofNat left < UInt8.ofNat right ↔ left < right := by
  rw [UInt8.lt_iff_toNat_lt, UInt8.toNat_ofNat_of_lt' leftSmall, UInt8.toNat_ofNat_of_lt' rightSmall]

theorem ofNat_eq_ofNat_iff : UInt8.ofNat left = UInt8.ofNat right ↔ left = right := by
  rw [← UInt8.toNat_inj, UInt8.toNat_ofNat_of_lt' leftSmall, UInt8.toNat_ofNat_of_lt' rightSmall]

end Bytes

theorem utf8EncodeChar_append_lt {left right : Char} (before : left < right) (leftRest rightRest : List UInt8) :
    String.utf8EncodeChar left ++ leftRest < String.utf8EncodeChar right ++ rightRest := by
  have points : left.val.toNat < right.val.toNat := before
  have bounded : right.val.toNat < 0x110000 := by
    have valid := right.valid
    cases valid with
    | inl low => omega
    | inr high => omega
  -- every byte after the first holds one digit to the base 64
  have twice (point : Nat) : point / 4096 = point / 64 / 64 := by omega
  have thrice (point : Nat) : point / 262144 = point / 64 / 64 / 64 := by omega
  -- one case for each pair of lengths; a longer form on the left contradicts the order of the points
  fun_cases String.utf8EncodeChar left <;> fun_cases String.utf8EncodeChar right <;>
    simp (disch := omega) only [List.cons_append, List.nil_append, List.cons_lt_cons_iff, ofNat_lt_ofNat_iff,
      ofNat_eq_ofNat_iff, twice, thrice] <;>
    omega

/-! ## Whole texts -/

theorem flatMap_utf8EncodeChar_lt {left right : List Char} (before : left < right) :
    left.flatMap String.utf8EncodeChar < right.flatMap String.utf8EncodeChar := by
  induction before with
  | @nil letter rest =>
    rw [List.flatMap_nil, List.flatMap_cons]
    cases encoded : String.utf8EncodeChar letter with
    | nil => exact absurd encoded String.utf8EncodeChar_ne_nil
    | cons first further => exact List.nil_lt_cons _ _
  | rel smaller =>
    rw [List.flatMap_cons, List.flatMap_cons]
    exact utf8EncodeChar_append_lt smaller _ _
  | cons _ inductionHypothesis =>
    rw [List.flatMap_cons, List.flatMap_cons]
    exact List.append_left_lt inductionHypothesis

theorem lt_iff_utf8Bytes_lt {left right : String} : left < right ↔ utf8Bytes left < utf8Bytes right := by
  rw [utf8Bytes_eq_flatMap, utf8Bytes_eq_flatMap]
  refine ⟨flatMap_utf8EncodeChar_lt, fun bytesBefore => ?_⟩
  -- texts are in a total order, so the other two cases contradict the order of the bytes
  by_contra notBefore
  have after : right ≤ left := String.not_lt.mp notBefore
  by_cases strictly : right < left
  · exact List.lt_asymm bytesBefore (flatMap_utf8EncodeChar_lt strictly)
  · have same : left = right := String.le_antisymm (String.not_lt.mp strictly) after
    rw [same] at bytesBefore
    exact List.lt_irrefl _ bytesBefore

end QueryByName.Text
