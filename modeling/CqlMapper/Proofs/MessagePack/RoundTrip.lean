import CqlMapper.Proofs.CqlValue.Nesting
import CqlMapper.Proofs.MessagePack.Tokens
import CqlMapper.Proofs.Text.Utf8

/-!
Values read back from what has been written of them, whatever bytes follow. A written value is thus
the beginning of no other.
-/

namespace CqlMapper.MessagePack

theorem readInteger_integerBytes {low high value : Int} (above : low ≤ value)
    (below : value ≤ high) (least : -2 ^ 63 ≤ value) (greatest : value < 2 ^ 63)
    (rest : List UInt8) :
    readInteger low high (integerBytes value ++ rest) = some (value, rest) := by
  unfold readInteger integerBytes
  by_cases positive : 0 ≤ value
  · have fits : value.toNat < UInt64.size := by
      change value.toNat < 2 ^ 64
      omega
    have same : (value.toNat : Int) = value := Int.toNat_of_nonneg positive
    simp [positive, token?_unsignedBytes fits, same, above, below]
  · have fits : value.natAbs ≤ UInt64.size / 2 := by
      change value.natAbs ≤ 2 ^ 63
      omega
    have same : -(value.natAbs : Int) = value := by omega
    simp only [positive, if_false, token?_negativeBytes (by omega) fits, same]
    simp [above, below]

theorem readInt8_integerBytes (value : Int8) (rest : List UInt8) :
    readInt8 (integerBytes value.toInt ++ rest) = some (value, rest) := by
  have lower := value.le_toInt
  have upper := value.toInt_lt
  have read := readInteger_integerBytes (Int8.minValue_le_toInt value) (Int8.toInt_le value)
    (by omega) (by omega) rest
  rw [readInt8, read]
  simp

theorem readInt32_integerBytes (value : Int32) (rest : List UInt8) :
    readInt32 (integerBytes value.toInt ++ rest) = some (value, rest) := by
  have lower := value.le_toInt
  have upper := value.toInt_lt
  have read := readInteger_integerBytes (Int32.minValue_le_toInt value) (Int32.toInt_le value)
    (by omega) (by omega) rest
  rw [readInt32, read]
  simp

theorem readInt64_integerBytes (value : Int64) (rest : List UInt8) :
    readInt64 (integerBytes value.toInt ++ rest) = some (value, rest) := by
  have read := readInteger_integerBytes (Int64.minValue_le_toInt value) (Int64.toInt_le value)
    value.le_toInt value.toInt_lt rest
  rw [readInt64, read]
  simp

theorem readByte_unsignedBytes (byte : UInt8) (rest : List UInt8) :
    readByte (unsignedBytes byte.toNat ++ rest) = some (byte, rest) := by
  have bound := byte.toNat_lt
  have fits : byte.toNat < UInt64.size := by
    change byte.toNat < 2 ^ 64
    omega
  have within : (byte.toNat : Int) ≤ 255 := by omega
  simp [readByte, readInteger, token?_unsignedBytes fits, within]

theorem readBool_booleanBytes (value : Bool) (rest : List UInt8) :
    readBool (booleanBytes value ++ rest) = some (value, rest) := by
  cases value <;> rfl

theorem readDouble_doubleBytes (value : Double) (rest : List UInt8) :
    readDouble (doubleBytes value ++ rest) = some (value, rest) := by
  have token : token? (doubleBytes value ++ rest) = _ :=
    token?_natural (fun bits => .double ⟨UInt64.ofNat bits⟩) (fun _ => rfl)
      value.bits.toNat_lt rest
  unfold readDouble
  rw [token]
  simp

theorem readString_stringBytes {text : String}
    (fits : (Text.utf8Bytes text).length < UInt32.size) (rest : List UInt8) :
    readString (stringBytes text ++ rest) = some (text, rest) := by
  rw [readString, stringBytes, token?_stringHeader fits]
  simp [Text.ofUtf8?_utf8Bytes]

theorem ofList?_toList (id : Uuid) : Uuid.ofList? id.toList = some id := by
  have sized : id.toList.length = 16 := by simp [Uuid.toList]
  rw [Uuid.ofList?, dif_pos sized]
  rfl

theorem readUuid_uuidBytes (id : Uuid) (rest : List UInt8) :
    readUuid (uuidBytes id ++ rest) = some (id, rest) := by
  have length : id.toList.length = 16 := by simp [Uuid.toList]
  have taken := take?_append id.toList rest
  rw [length] at taken
  have sized : takeNatural? 1 (16 :: (id.toList ++ rest)) = some (16, id.toList ++ rest) :=
    takeNatural?_bigEndian (show 16 < 256 ^ 1 by decide) _
  have token : token? (uuidBytes id ++ rest) = some (.binary id.toList, rest) := by
    change takeBinary? 1 (16 :: (id.toList ++ rest)) = _
    simp [takeBinary?, sized, taken]
  unfold readUuid
  rw [token]
  simp [ofList?_toList]

theorem readMany_append {α : Type} {read : Reader α} {bytes : α → List UInt8} {items : List α}
    (reads : ∀ item ∈ items, ∀ rest, read (bytes item ++ rest) = some (item, rest))
    (rest : List UInt8) :
    readMany read items.length (items.flatMap bytes ++ rest) = some (items, rest) := by
  induction items with
  | nil => rfl
  | cons item items ih =>
      obtain ⟨first, others⟩ := List.forall_mem_cons.mp reads
      rw [List.flatMap_cons, List.append_assoc, List.length_cons, readMany, first]
      simp [ih others]

theorem readArray_append {α : Type} {read : Reader α} {bytes : α → List UInt8} {items : List α}
    (fits : items.length < UInt32.size)
    (reads : ∀ item ∈ items, ∀ rest, read (bytes item ++ rest) = some (item, rest))
    (rest : List UInt8) :
    readArray (some read) (arrayHeader items.length ++ items.flatMap bytes ++ rest) =
      some (items, rest) := by
  unfold readArray
  rw [List.append_assoc, token?_arrayHeader fits]
  exact readMany_append reads rest

theorem readBlob_byteArrayBytes {bytes : List UInt8} (fits : bytes.length < UInt32.size)
    (rest : List UInt8) :
    readBlob (some readByte) (byteArrayBytes bytes ++ rest) = some (bytes, rest) := by
  unfold readBlob byteArrayBytes
  rw [List.append_assoc, token?_arrayHeader fits]
  exact readMany_append (fun byte _ => readByte_unsignedBytes byte) rest

theorem readTagged_taggedBytes (value : Inside CqlValue) (pair : Inside (CqlValue × CqlValue))
    {tag : String} (known : tag ∈ tags) (payload rest : List UInt8) :
    readTagged value pair (taggedBytes tag payload ++ rest) =
      readPayload value pair tag (payload ++ rest) := by
  have short : (Text.utf8Bytes tag).length < UInt32.size := by
    revert tag
    decide
  have named : tagOfToken? (.string (Text.utf8Bytes tag)) = some tag := by
    simp [tagOfToken?, Text.ofUtf8?_utf8Bytes, known]
  have inner : token? (stringBytes tag ++ (payload ++ rest)) =
      some (.string (Text.utf8Bytes tag), payload ++ rest) := token?_stringHeader short _
  have outer : token? (taggedBytes tag payload ++ rest) =
      some (.map 1, stringBytes tag ++ payload ++ rest) := rfl
  rw [readTagged, outer, List.append_assoc]
  simp [inner, named]

/-- What may stand inside an array when so many more may be opened. -/
def valuesInside : Nat → Inside CqlValue
  | 0 => none
  | depth + 1 => some (readValue depth)

def pairsInside : Nat → Inside (CqlValue × CqlValue)
  | 0 => none
  | depth + 1 => some (readPair (valuesInside depth))

theorem readValue_eq (depth : Nat) :
    readValue depth = readTagged (valuesInside depth) (pairsInside depth) := by
  funext bytes
  match depth with
  | 0 => rfl
  | 1 => rfl
  | depth + 2 => rfl

theorem itemsBytes_eq (items : List CqlValue) : itemsBytes items = items.flatMap valueBytes := by
  induction items with
  | nil => rfl
  | cons item rest ih => rw [itemsBytes, ih, List.flatMap_cons]

def entryBytes (entry : CqlValue × CqlValue) : List UInt8 :=
  arrayHeader 2 ++ valueBytes entry.1 ++ valueBytes entry.2

theorem entriesBytes_eq (entries : List (CqlValue × CqlValue)) :
    entriesBytes entries = entries.flatMap entryBytes := by
  induction entries with
  | nil => rfl
  | cons entry rest ih =>
      rw [entriesBytes, ih, List.flatMap_cons]
      rfl

def ReadsBack (value : CqlValue) : Prop :=
  ∀ depth, value.depth ≤ depth → value.Expressible →
    ∀ rest, readValue depth (valueBytes value ++ rest) = some (value, rest)

theorem readsBack_null : ReadsBack .null := by
  intro depth _ _ rest
  rw [readValue_eq]
  have token : token? (stringBytes "Null" ++ rest) = some (.string (Text.utf8Bytes "Null"), rest) :=
    token?_stringHeader (by decide) rest
  have named : tagOfToken? (.string (Text.utf8Bytes "Null")) = some "Null" := by
    simp [tagOfToken?, Text.ofUtf8?_utf8Bytes, tags]
  rw [readTagged, valueBytes, token]
  simp [named]

theorem readsBack_single {value : CqlValue} (single : value.isSingle = true) :
    ReadsBack value := by
  intro depth deep expressible rest
  cases value with
  | null => exact readsBack_null depth deep expressible rest
  | blob bytes =>
      -- A blob is an array of its own, so one must be allowed.
      obtain _ | depth := depth
      · simp [CqlValue.depth] at deep
      · rw [readValue_eq, valueBytes, readTagged_taggedBytes _ _ (by decide)]
        simp [readPayload, mapped, valuesInside, readBlob_byteArrayBytes expressible]
  | text text =>
      rw [readValue_eq, valueBytes, readTagged_taggedBytes _ _ (by decide)]
      simp [readPayload, mapped, readString_stringBytes expressible]
  | list items => cases single
  | set items => cases single
  | map entries => cases single
  | _ =>
      rw [readValue_eq, valueBytes, readTagged_taggedBytes _ _ (by decide)]
      simp [readPayload, mapped, readBool_booleanBytes, readInt8_integerBytes,
        readInt32_integerBytes, readInt64_integerBytes, readDouble_doubleBytes,
        readUuid_uuidBytes]

theorem readArray_items {items : List CqlValue} {depth : Nat}
    (back : ∀ item ∈ items, ReadsBack item) (fits : items.length < UInt32.size)
    (deep : CqlValue.itemsDepth items ≤ depth) (expressible : CqlValue.AllExpressible items)
    (rest : List UInt8) :
    readArray (some (readValue depth)) (arrayHeader items.length ++ itemsBytes items ++ rest) =
      some (items, rest) := by
  rw [itemsBytes_eq]
  apply readArray_append fits
  intro item member
  exact back item member depth (CqlValue.itemsDepth_le.mp deep item member)
    (CqlValue.allExpressible_iff.mp expressible item member)

theorem readPair_entryBytes {entry : CqlValue × CqlValue} {depth : Nat}
    (back : ReadsBack entry.1 ∧ ReadsBack entry.2)
    (deep : entry.1.depth < depth ∧ entry.2.depth < depth)
    (expressible : entry.1.Expressible ∧ entry.2.Expressible) (rest : List UInt8) :
    readPair (valuesInside depth) (entryBytes entry ++ rest) = some (entry, rest) := by
  obtain _ | depth := depth
  · exact absurd deep.1 (Nat.not_lt_zero _)
  · obtain ⟨key, value⟩ := entry
    have first := back.1 depth (Nat.le_of_lt_succ deep.1) expressible.1
    have second := back.2 depth (Nat.le_of_lt_succ deep.2) expressible.2
    have opened : token? (entryBytes (key, value) ++ rest) =
        some (.array 2, valueBytes key ++ (valueBytes value ++ rest)) := by
      rw [show entryBytes (key, value) =
            arrayHeader 2 ++ valueBytes key ++ valueBytes value from rfl,
        List.append_assoc, List.append_assoc, token?_arrayHeader (by decide)]
    simp only [readPair, opened, valuesInside]
    simp [first, second]

theorem readsBack (value : CqlValue) : ReadsBack value := by
  induction value using CqlValue.nested_induction with
  | single value single => exact readsBack_single single
  | list items back | set items back =>
      intro depth deep expressible rest
      obtain _ | depth := depth
      · simp [CqlValue.depth] at deep
      · have read := readArray_items back expressible.1 (Nat.le_of_succ_le_succ deep) expressible.2
        rw [readValue_eq, valueBytes, readTagged_taggedBytes _ _ (by decide)]
        simp only [readPayload, mapped, valuesInside, read, Option.map_some]
  | map entries back =>
      intro depth deep expressible rest
      obtain _ | depth := depth
      · simp [CqlValue.depth] at deep
      · have within := CqlValue.entriesDepth_le.mp (Nat.le_of_succ_le_succ deep)
        have known := CqlValue.entriesExpressible_iff.mp expressible.2
        have reads := fun entry member =>
          readPair_entryBytes (back entry member) (within entry member) (known entry member)
        have read := readArray_append expressible.1 reads
        rw [readValue_eq, valueBytes, readTagged_taggedBytes _ _ (by decide), entriesBytes_eq]
        simp only [readPayload, mapped, pairsInside, read, Option.map_some]

def Writable (values : List CqlValue) : Prop :=
  values.length < UInt32.size ∧ CqlValue.AllExpressible values

theorem readArray_write {values : List CqlValue} (writable : Writable values) {depth : Nat}
    (deep : CqlValue.itemsDepth values ≤ depth) (rest : List UInt8) :
    readArray (some (readValue depth)) (write values ++ rest) = some (values, rest) :=
  readArray_items (fun item _ => readsBack item) writable.1 deep writable.2 rest

theorem read?_write {values : List CqlValue} (writable : Writable values)
    (deep : CqlValue.itemsDepth values < greatestDepth) : read? (write values) = some values := by
  have read := readArray_write writable (Nat.le_pred_of_lt deep) []
  rw [List.append_nil] at read
  rw [read?, Nat.sub_one, read]
  rfl

/-- No list is written as the beginning of another. -/
theorem write_append_inj {first second : List CqlValue} (writable : Writable first)
    (otherWritable : Writable second) {left right : List UInt8}
    (same : write first ++ left = write second ++ right) : first = second ∧ left = right := by
  let depth := max (CqlValue.itemsDepth first) (CqlValue.itemsDepth second)
  have read := readArray_write writable (Nat.le_max_left _ _ : _ ≤ depth) left
  have other := readArray_write otherWritable (Nat.le_max_right _ _ : _ ≤ depth) right
  rw [same, other] at read
  cases read
  exact ⟨rfl, rfl⟩

end CqlMapper.MessagePack
