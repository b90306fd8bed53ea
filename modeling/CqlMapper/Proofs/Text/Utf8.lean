import CqlMapper.Text.Basic
import Mathlib.Data.List.Basic

/-!
Texts as bytes can be read back. In a stream a text ends where no further character can begin.
-/

namespace CqlMapper.Text

theorem utf8Bytes_toByteArray (text : String) :
    (⟨(utf8Bytes text).toArray⟩ : ByteArray) = text.toByteArray := by
  have data := List.data_toByteArray (l := utf8Bytes text)
  rw [← String.utf8Encode_toList, List.utf8Encode, ← data]
  rfl

theorem ofUtf8?_utf8Bytes (text : String) : ofUtf8? (utf8Bytes text) = some text := by
  unfold ofUtf8? String.fromUTF8?
  rw [utf8Bytes_toByteArray, dif_pos text.isValidUTF8]
  rfl

theorem utf8Bytes_of_ofUtf8? {bytes : List UInt8} {text : String}
    (decoded : ofUtf8? bytes = some text) : utf8Bytes text = bytes := by
  unfold ofUtf8? String.fromUTF8? at decoded
  split at decoded
  · cases decoded
    have same := utf8Bytes_toByteArray (String.fromUTF8 ⟨bytes.toArray⟩ ‹_›)
    simpa [String.fromUTF8] using same
  · cases decoded

theorem encodeChar_append_inj {first second : Char} {left right : List UInt8}
    (same : String.utf8EncodeChar first ++ left = String.utf8EncodeChar second ++ right) :
    first = second ∧ left = right := by
  have decoded (c : Char) (rest : List UInt8) :
      (String.utf8EncodeChar c ++ rest).toByteArray.utf8DecodeChar? 0 = some c := by
    rw [List.toByteArray_append]
    exact ByteArray.utf8DecodeChar?_utf8EncodeChar_append
  have chars := decoded first left
  rw [same, decoded second right] at chars
  cases chars
  exact ⟨rfl, List.append_cancel_left same⟩

/-- A character of one byte has a small one; any other has a great one first, then one that only
continues a character. -/
theorem encodeChar_cases (c : Char) :
    (∃ byte, String.utf8EncodeChar c = [byte] ∧ byte.toNat < 0x80) ∨
      ∃ opening next rest, String.utf8EncodeChar c = opening :: next :: rest ∧
        0xc0 ≤ opening.toNat ∧ 0x80 ≤ next.toNat := by
  unfold String.utf8EncodeChar
  generalize c.val.toNat = value
  dsimp only
  split
  · refine Or.inl ⟨_, rfl, ?_⟩
    simp only [UInt8.toNat_ofNat']
    omega
  · right
    split
    · refine ⟨_, _, _, rfl, ?_, ?_⟩ <;> simp only [UInt8.toNat_ofNat'] <;> omega
    · split <;> refine ⟨_, _, _, rfl, ?_, ?_⟩ <;> simp only [UInt8.toNat_ofNat'] <;> omega

def Breaks (bytes : List UInt8) : Prop :=
  ∀ (c : Char) (rest : List UInt8), bytes ≠ String.utf8EncodeChar c ++ rest

theorem breaks_continuation {byte : UInt8} (low : 0x80 ≤ byte.toNat) (high : byte.toNat < 0xc0)
    (bytes : List UInt8) : Breaks (byte :: bytes) := by
  intro c rest same
  rcases encodeChar_cases c with ⟨only, encoded, small⟩ | ⟨opening, next, more, encoded, great, _⟩
  · simp only [encoded, List.cons_append, List.cons.injEq] at same
    rw [same.1] at low
    omega
  · simp only [encoded, List.cons_append, List.cons.injEq] at same
    rw [same.1] at high
    omega

theorem breaks_unfinished {opening next : UInt8} (great : 0x80 ≤ opening.toNat)
    (small : next.toNat < 0x80) (bytes : List UInt8) : Breaks (opening :: next :: bytes) := by
  intro c rest same
  rcases encodeChar_cases c with ⟨only, encoded, low⟩ | ⟨first, second, more, encoded, _, high⟩
  · simp only [encoded, List.cons_append, List.cons.injEq] at same
    rw [same.1] at great
    omega
  · simp only [encoded, List.cons_append, List.cons.injEq] at same
    rw [same.2.1] at small
    omega

theorem encodeChars_append_inj {first second : List Char} {left right : List UInt8}
    (leftBreaks : Breaks left) (rightBreaks : Breaks right)
    (same : first.flatMap String.utf8EncodeChar ++ left =
      second.flatMap String.utf8EncodeChar ++ right) : first = second ∧ left = right := by
  induction first generalizing second with
  | nil =>
      cases second with
      | nil => exact ⟨rfl, same⟩
      | cons c second =>
          rw [List.flatMap_cons, List.append_assoc] at same
          exact absurd same (leftBreaks c _)
  | cons c first ih =>
      cases second with
      | nil =>
          rw [List.flatMap_cons, List.append_assoc] at same
          exact absurd same.symm (rightBreaks c _)
      | cons other second =>
          rw [List.flatMap_cons, List.flatMap_cons, List.append_assoc, List.append_assoc] at same
          obtain ⟨rfl, later⟩ := encodeChar_append_inj same
          obtain ⟨rfl, rest⟩ := ih later
          exact ⟨rfl, rest⟩

theorem utf8Bytes_append_inj {first second : String} {left right : List UInt8}
    (leftBreaks : Breaks left) (rightBreaks : Breaks right)
    (same : utf8Bytes first ++ left = utf8Bytes second ++ right) :
    first = second ∧ left = right := by
  obtain ⟨chars, rest⟩ := encodeChars_append_inj leftBreaks rightBreaks same
  exact ⟨String.toList_inj.mp chars, rest⟩

end CqlMapper.Text
