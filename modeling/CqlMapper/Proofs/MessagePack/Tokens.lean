import CqlMapper.MessagePack.Reader
import CqlMapper.MessagePack.Writer
import Mathlib.Tactic.Ring

/-! What has been written begins with the token that was written, whatever bytes follow. -/

namespace CqlMapper.MessagePack

theorem length_bigEndian (count value : Nat) : (bigEndian count value).length = count := by
  induction count generalizing value with
  | zero => rfl
  | succ count ih => simp [bigEndian, ih]

theorem naturalOf_append (bytes : List UInt8) (byte : UInt8) :
    naturalOf (bytes ++ [byte]) = naturalOf bytes * 256 + byte.toNat := by
  simp [naturalOf]

theorem naturalOf_bigEndian {count value : Nat} (fits : value < 256 ^ count) :
    naturalOf (bigEndian count value) = value := by
  induction count generalizing value with
  | zero =>
      have zero : value = 0 := by simpa using fits
      subst value
      rfl
  | succ count ih =>
      have high : value / 256 < 256 ^ count := by
        rw [pow_succ] at fits
        exact Nat.div_lt_of_lt_mul (by rwa [mul_comm] at fits)
      rw [bigEndian, naturalOf_append, ih high, UInt8.toNat_ofNat']
      omega

theorem take?_append (bytes rest : List UInt8) :
    take? bytes.length (bytes ++ rest) = some (bytes, rest) := by
  simp [take?]

theorem takeNatural?_bigEndian {count value : Nat} (fits : value < 256 ^ count)
    (rest : List UInt8) :
    takeNatural? count (bigEndian count value ++ rest) = some (value, rest) := by
  have taken := take?_append (bigEndian count value) rest
  rw [length_bigEndian] at taken
  rw [takeNatural?, taken]
  simp [naturalOf_bigEndian fits]

/-- A negative number as the one that is greater by the whole range. -/
theorem takeSigned?_bigEndian {count distance : Nat} (positive : 0 < distance)
    (fits : distance ≤ 256 ^ count / 2) (rest : List UInt8) :
    takeSigned? count (bigEndian count (256 ^ count - distance) ++ rest) =
      some (-(distance : Int), rest) := by
  have range : 1 <<< (8 * count) = 256 ^ count := by
    rw [Nat.one_shiftLeft, pow_mul]
    norm_num
  have within : 256 ^ count - distance < 256 ^ count := by omega
  rw [takeSigned?, takeNatural?_bigEndian within]
  simp only [Option.map_some, range]
  rw [if_neg (by omega)]
  congr 2
  omega

/-- A marker that is followed by a number of so many bytes. -/
theorem token?_natural {marker : UInt8} {count value : Nat} (make : Nat → Token)
    (opens : ∀ bytes, token? (marker :: bytes) =
      (takeNatural? count bytes).map fun (value, rest) => (make value, rest))
    (fits : value < 256 ^ count) (rest : List UInt8) :
    token? (marker :: bigEndian count value ++ rest) = some (make value, rest) := by
  rw [List.cons_append, opens, takeNatural?_bigEndian fits]
  rfl

theorem token?_negative {marker : UInt8} {count distance : Nat}
    (opens : ∀ bytes, token? (marker :: bytes) =
      (takeSigned? count bytes).map fun (value, rest) => (.signed value, rest))
    (positive : 0 < distance) (fits : distance ≤ 256 ^ count / 2) (rest : List UInt8) :
    token? (marker :: bigEndian count (256 ^ count - distance) ++ rest) =
      some (.signed (-(distance : Int)), rest) := by
  rw [List.cons_append, opens, takeSigned?_bigEndian positive fits]
  rfl

theorem token?_text {marker : UInt8} {count : Nat}
    (opens : ∀ bytes, token? (marker :: bytes) = takeString? count bytes) {content : List UInt8}
    (fits : content.length < 256 ^ count) (rest : List UInt8) :
    token? (marker :: bigEndian count content.length ++ (content ++ rest)) =
      some (.string content, rest) := by
  rw [List.cons_append, opens, takeString?, takeNatural?_bigEndian fits]
  simp [take?_append]

theorem token?_unsignedBytes {value : Nat} (fits : value < UInt64.size) (rest : List UInt8) :
    token? (unsignedBytes value ++ rest) = some (.unsigned value, rest) := by
  unfold unsignedBytes
  split
  · rename_i small
    have same : (UInt8.ofNat value).toNat = value := by
      rw [UInt8.toNat_ofNat']
      omega
    simp [token?, same, small]
  · split
    · rename_i small
      exact token?_natural .unsigned (fun _ => rfl) small rest
    · split
      · rename_i small
        exact token?_natural .unsigned (fun _ => rfl) small rest
      · split
        · rename_i small
          exact token?_natural .unsigned (fun _ => rfl) small rest
        · exact token?_natural .unsigned (fun _ => rfl) fits rest

theorem token?_negativeBytes {distance : Nat} (positive : 0 < distance)
    (fits : distance ≤ UInt64.size / 2) (rest : List UInt8) :
    token? (negativeBytes distance ++ rest) = some (.signed (-(distance : Int)), rest) := by
  unfold negativeBytes
  split
  · rename_i small
    have same : (UInt8.ofNat (256 - distance)).toNat = 256 - distance := by
      rw [UInt8.toNat_ofNat']
      omega
    simp only [token?, List.singleton_append, same]
    rw [if_neg (by omega), if_neg (by omega), if_neg (by omega), if_neg (by omega),
      if_pos (by omega)]
    congr 3
    omega
  · split
    · rename_i small
      exact token?_negative (fun _ => rfl) positive small rest
    · split
      · rename_i small
        exact token?_negative (fun _ => rfl) positive small rest
      · split
        · rename_i small
          exact token?_negative (fun _ => rfl) positive small rest
        · exact token?_negative (fun _ => rfl) positive fits rest

theorem token?_arrayHeader {count : Nat} (fits : count < UInt32.size) (rest : List UInt8) :
    token? (arrayHeader count ++ rest) = some (.array count, rest) := by
  unfold arrayHeader
  split
  · rename_i small
    have same : (UInt8.ofNat (0x90 + count)).toNat = 0x90 + count := by
      rw [UInt8.toNat_ofNat']
      omega
    simp only [token?, List.singleton_append, same]
    rw [if_neg (by omega), if_neg (by omega), if_pos (by omega), Nat.add_sub_cancel_left]
  · split
    · rename_i small
      exact token?_natural .array (fun _ => rfl) small rest
    · exact token?_natural .array (fun _ => rfl) fits rest

theorem token?_stringHeader {content : List UInt8} (fits : content.length < UInt32.size)
    (rest : List UInt8) :
    token? (stringHeader content.length ++ content ++ rest) = some (.string content, rest) := by
  rw [List.append_assoc]
  unfold stringHeader
  split
  · rename_i small
    have same : (UInt8.ofNat (0xa0 + content.length)).toNat = 0xa0 + content.length := by
      rw [UInt8.toNat_ofNat']
      omega
    simp only [token?, List.singleton_append, same]
    rw [if_neg (by omega), if_neg (by omega), if_neg (by omega), if_pos (by omega),
      Nat.add_sub_cancel_left, take?_append]
    rfl
  · split
    · rename_i small
      exact token?_text (fun _ => rfl) small rest
    · split
      · rename_i small
        exact token?_text (fun _ => rfl) small rest
      · exact token?_text (fun _ => rfl) fits rest

end CqlMapper.MessagePack
