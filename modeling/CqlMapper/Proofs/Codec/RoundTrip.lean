import CqlMapper.Codec.Basic
import CqlMapper.Proofs.CqlValue.Conformance
import CqlMapper.Proofs.Outcome

/-!
Codecs lose nothing: what a codec accepts is what its declared type admits, what it writes fits the
column type that it names, and what it wrote it reads back.
-/

namespace CqlMapper

namespace FieldType

/-- Whether a property of a type can hold a value. A mapper decides which objects there are. -/
def Admits (mapper : ObjectMapper) : FieldType → FieldValue → Prop
  | _, .null => True
  | .boolean, .boolean _ | .byte, .byte _ | .bytes, .bytes _ | .int, .int _ | .bigInt, .bigInt _
  | .double, .double _ | .text, .text _ | .uuid, .uuid _ | .timestamp, .timestamp _
  | .counter, .counter _ | .counter, .bigInt _ => True
  | .enum _ constants, .enum constant => constant ∈ constants
  | .object typeName, .object json => ∃ written, mapper.encode typeName json = .ok written
  | .list element, .list items | .set element, .set items =>
    ∀ item ∈ items, element.Admits mapper item
  | .map key value, .map entries =>
    ∀ entry ∈ entries, key.Admits mapper entry.1 ∧ value.Admits mapper entry.2
  | _, _ => False

def Numbered : FieldType → Prop
  | .enum _ constants => constants.length < 2147483648
  | .list element | .set element => element.Numbered
  | .map key value => key.Numbered ∧ value.Numbered
  | _ => True

end FieldType

/-- A value as it is read back. A plain number added to a counter is read as a counter. -/
def FieldValue.readBack (type : FieldType) (value : FieldValue) : FieldValue :=
  match type, value with
  | .counter, .bigInt amount => .counter amount
  | _, value => value

def FieldValue.Holds (value : FieldValue) (json : Json) : Prop :=
  match value with
  | .object held => held = json
  | .list items | .set items => .object json ∈ items
  | .map entries => ∃ entry ∈ entries, entry.1 = .object json ∨ entry.2 = .object json
  | _ => False

def ObjectMapper.Restores (mapper : ObjectMapper) (json : Json) : Prop :=
  ∀ typeName text, mapper.encode typeName json = .ok text → mapper.decode typeName text = .ok json

theorem FieldValue.eq_null {value : FieldValue} (isNull : value.isNull = true) : value = .null := by
  cases value <;> first | rfl | cases isNull

theorem unlessNull_eq_ok {value : FieldValue} {present : Except MappingError CqlValue}
    {encoded : CqlValue} (encodes : (if value.isNull then .ok .null else present) = .ok encoded) :
    value = .null ∧ encoded = .null ∨ value.isNull = false ∧ present = .ok encoded := by
  split at encodes
  · rename_i isNull
    cases encodes
    exact Or.inl ⟨FieldValue.eq_null isNull, rfl⟩
  · rename_i notNull
    exact Or.inr ⟨by simpa using notNull, encodes⟩

namespace ElementCodec

variable {mapper : ObjectMapper} {type : FieldType} {codec : ElementCodec} {value : FieldValue}
  {encoded : CqlValue}

theorem encodePresent_native {kind : NativeKind} :
    (native kind).encodePresent value = .ok encoded ↔ kind.encode? value = some encoded := by
  simp only [encodePresent]
  cases kind.encode? value <;> simp [refuse]

/-- Whatever it is for, a codec makes values of its own column type. -/
theorem encodePresent_typed (made : codec.encodePresent value = .ok encoded) :
    encoded.isNull = false ∧ encoded.conformsTo codec.target = true := by
  cases codec with
  | native kind =>
      rw [encodePresent_native] at made
      cases kind <;> cases value <;> cases made <;> exact ⟨rfl, rfl⟩
  | enumName constants | enumOrdinal constants =>
      cases value with
      | enum constant =>
          simp only [encodePresent] at made
          split at made <;> cases made
          exact ⟨rfl, rfl⟩
      | _ => cases made
  | json typeName mapper =>
      cases value with
      | object json =>
          obtain ⟨text, _, rfl⟩ := Outcome.map_eq_ok.mp made
          exact ⟨rfl, rfl⟩
      | _ => cases made
  | _ => cases value <;> cases made <;> exact ⟨rfl, rfl⟩

theorem encode_eq_ok (encodes : codec.encode value = .ok encoded) :
    value = .null ∧ encoded = .null ∨
      value.isNull = false ∧ codec.encodePresent value = .ok encoded :=
  unlessNull_eq_ok encodes

theorem encode_isNull (encodes : codec.encode value = .ok encoded) :
    encoded.isNull = value.isNull := by
  rcases encode_eq_ok encodes with ⟨rfl, rfl⟩ | ⟨present, made⟩
  · rfl
  · rw [present, (encodePresent_typed made).1]

theorem encode_conforms (encodes : codec.encode value = .ok encoded) :
    encoded.conformsTo codec.target = true := by
  rcases encode_eq_ok encodes with ⟨_, rfl⟩ | ⟨_, made⟩
  · simp [CqlValue.conformsTo]
  · exact (encodePresent_typed made).2

structure Faithful (mapper : ObjectMapper) (type : FieldType) (codec : ElementCodec) : Prop where
  accepts : ∀ value, (∃ encoded, codec.encode value = .ok encoded) ↔ type.Admits mapper value
  conforms : ∀ {value encoded}, codec.encode value = .ok encoded →
    encoded.conformsTo codec.target = true
  decodes : ∀ {value encoded}, (∀ json, value = .object json → mapper.Restores json) →
    codec.encode value = .ok encoded → codec.decode encoded = .ok (value.readBack type)

theorem readBack_null : FieldValue.null.readBack type = .null := by
  cases type <;> rfl

theorem admits_null : type.Admits mapper .null := by
  cases type <;> simp [FieldType.Admits]

theorem Faithful.of_present
    (accepts : ∀ value, value.isNull = false →
      ((∃ encoded, codec.encodePresent value = .ok encoded) ↔ type.Admits mapper value))
    (made : ∀ value encoded, codec.encodePresent value = .ok encoded →
      encoded.conformsTo codec.target = true ∧
        ((∀ json, value = .object json → mapper.Restores json) →
          codec.decodePresent encoded = .ok (value.readBack type))) :
    Faithful mapper type codec := by
  refine ⟨?_, ?_, ?_⟩
  · intro value
    by_cases isNull : value.isNull = true
    · simp [FieldValue.eq_null isNull, encode, FieldValue.isNull, admits_null]
    · simpa [encode, isNull] using accepts value (by simpa using isNull)
  · intro value encoded encodes
    rcases encode_eq_ok encodes with ⟨_, rfl⟩ | ⟨_, present⟩
    · simp [CqlValue.conformsTo]
    · exact (made value encoded present).1
  · intro value encoded restores encodes
    rcases encode_eq_ok encodes with ⟨rfl, rfl⟩ | ⟨_, present⟩
    · simp [decode, CqlValue.isNull, readBack_null]
    · simp [decode, (encodePresent_typed present).1, (made value encoded present).2 restores]

-- The equations of `Admits` are many: they are made here, once for all the codecs below.
attribute [local simp] FieldType.Admits

theorem faithful_byte : Faithful mapper .byte .byte := by
  apply Faithful.of_present
  · intro value present
    cases value <;> simp_all [encodePresent, refuse, FieldValue.isNull]
  · intro value encoded made
    cases value with
    | byte octet =>
        cases made
        exact ⟨rfl, fun _ => rfl⟩
    | _ => cases made

theorem faithful_byteArray : Faithful mapper .bytes .byteArray := by
  apply Faithful.of_present
  · intro value present
    cases value <;> simp_all [encodePresent, refuse, FieldValue.isNull]
  · intro value encoded made
    cases value with
    | bytes bytes =>
        cases made
        exact ⟨rfl, fun _ => rfl⟩
    | _ => cases made

theorem faithful_counter : Faithful mapper .counter .counter := by
  apply Faithful.of_present
  · intro value present
    cases value <;> simp_all [encodePresent, refuse, FieldValue.isNull]
  · intro value encoded made
    cases value with
    | counter amount | bigInt amount =>
        cases made
        exact ⟨rfl, fun _ => rfl⟩
    | _ => cases made

def nativeSource : NativeKind → FieldType
  | .boolean => .boolean
  | .int => .int
  | .bigInt => .bigInt
  | .double => .double
  | .text => .text
  | .uuid | .timeUuid => .uuid
  | .timestamp => .timestamp

theorem faithful_native (kind : NativeKind) (source : nativeSource kind = type) :
    Faithful mapper type (.native kind) := by
  subst type
  apply Faithful.of_present
  · intro value present
    simp only [encodePresent_native]
    cases kind <;> cases value <;>
      simp_all [NativeKind.encode?, nativeSource, FieldValue.isNull]
  · intro value encoded made
    rw [encodePresent_native] at made
    cases kind <;> cases value <;> cases made <;> exact ⟨rfl, fun _ => rfl⟩

theorem faithful_enumName (name : String) (constants : List String) :
    Faithful mapper (.enum name constants) (.enumName constants) := by
  apply Faithful.of_present
  · intro value present
    cases value with
    | enum constant =>
        by_cases known : constant ∈ constants <;>
          simp [encodePresent, refuse, known]
    | _ => simp_all [encodePresent, refuse, FieldValue.isNull]
  · intro value encoded made
    cases value with
    | enum constant =>
        by_cases known : constant ∈ constants
        · simp only [encodePresent, known, if_true] at made
          cases made
          exact ⟨rfl, fun _ => by simp [decodePresent, known, FieldValue.readBack]⟩
        · simp [encodePresent, refuse, known] at made
    | _ => cases made

/-- The number of a constant is that of its first appearance, which holds the same name. -/
theorem faithful_enumOrdinal (name : String) {constants : List String}
    (numbered : constants.length < 2147483648) :
    Faithful mapper (.enum name constants) (.enumOrdinal constants) := by
  apply Faithful.of_present
  · intro value present
    cases value with
    | enum constant =>
        cases found : constants.idxOf? constant with
        | none =>
            have unknown : constant ∉ constants := List.idxOf?_eq_none_iff.mp found
            simp [encodePresent, refuse, found, unknown]
        | some ordinal =>
            obtain ⟨bound, here, _⟩ := List.idxOf?_eq_some_iff.mp found
            have known : constant ∈ constants := here ▸ List.getElem_mem bound
            simp [encodePresent, found, known]
    | _ => simp_all [encodePresent, refuse, FieldValue.isNull]
  · intro value encoded made
    cases value with
    | enum constant =>
        cases found : constants.idxOf? constant with
        | none => simp [encodePresent, refuse, found] at made
        | some ordinal =>
            obtain ⟨bound, here, _⟩ := List.idxOf?_eq_some_iff.mp found
            simp only [encodePresent, found] at made
            cases made
            -- An ordinal beyond the integers of the store would wrap round to another constant.
            have number : (Int32.ofNat ordinal).toInt = ordinal :=
              Int32.toInt_ofNat_of_lt (by omega)
            refine ⟨rfl, fun _ => ?_⟩
            simp [decodePresent, number, List.getElem?_eq_getElem bound, here, FieldValue.readBack]
    | _ => cases made

theorem faithful_json (typeName : String) :
    Faithful mapper (.object typeName) (.json typeName mapper) := by
  apply Faithful.of_present
  · intro value present
    cases value with
    | object json => simp [encodePresent, Outcome.map_eq_ok]
    | _ => simp_all [encodePresent, refuse, FieldValue.isNull]
  · intro value encoded made
    cases value with
    | object json =>
        obtain ⟨text, written, rfl⟩ := Outcome.map_eq_ok.mp made
        refine ⟨rfl, fun restores => ?_⟩
        simp only [decodePresent, restores json rfl typeName text written]
        rfl
    | _ => cases made

theorem faithful_elementFor {owner : String}
    {encoding : Option EnumEncoding} {timeUuid : Bool} (numbered : type.Numbered)
    (chosen : Codec.elementFor mapper owner type encoding timeUuid = .ok codec) :
    Faithful mapper type codec := by
  cases type with
  | byte =>
      cases chosen
      exact faithful_byte
  | bytes =>
      cases chosen
      exact faithful_byteArray
  | boolean | int | bigInt | double | text | timestamp =>
      cases chosen
      exact faithful_native _ rfl
  | uuid =>
      cases chosen
      cases timeUuid <;> exact faithful_native _ rfl
  | counter =>
      cases chosen
      exact faithful_counter
  | enum name constants =>
      simp only [Codec.elementFor] at chosen
      split at chosen
      · cases chosen
      · split at chosen
        · cases chosen
          exact faithful_enumOrdinal name numbered
        · cases chosen
          exact faithful_enumName name constants
  | object typeName =>
      cases chosen
      exact faithful_json typeName
  | list _ | set _ | map _ _ => cases chosen

end ElementCodec

namespace ElementCodec

variable {mapper : ObjectMapper} {type keyType valueType : FieldType}
  {codec key value : ElementCodec}

/-- What a codec owes to the type of what a collection holds: counters are not among it. -/
structure Exact (mapper : ObjectMapper) (type : FieldType) (codec : ElementCodec) : Prop where
  faithful : Faithful mapper type codec
  plain : type ≠ .counter

theorem Exact.decodes (exact : Exact mapper type codec) {value : FieldValue} {encoded : CqlValue}
    (restores : ∀ json, value = .object json → mapper.Restores json)
    (encodes : codec.encode value = .ok encoded) : codec.decode encoded = .ok value := by
  have same : value.readBack type = value := by
    unfold FieldValue.readBack
    split
    · exact absurd rfl exact.plain
    · rfl
  rw [exact.faithful.decodes restores encodes, same]

theorem encodeAll_accepts (exact : Exact mapper type codec) (items : List FieldValue) :
    (∃ encoded, codec.encodeAll items = .ok encoded) ↔
      ∀ item ∈ items, type.Admits mapper item := by
  rw [encodeAll, Outcome.mapM_succeeds]
  simp only [exact.faithful.accepts]

theorem encodeAll_conforms {items : List FieldValue} {encoded : List CqlValue}
    (encodes : codec.encodeAll items = .ok encoded) :
    CqlValue.allConformTo encoded codec.target = true := by
  rw [CqlValue.allConformTo_iff]
  intro output member
  obtain ⟨item, _, itemEncodes⟩ := Outcome.exists_of_mem_mapM encodes member
  exact encode_conforms itemEncodes

theorem encodeAll_decodes (exact : Exact mapper type codec) {items : List FieldValue}
    {encoded : List CqlValue} (restores : ∀ json, .object json ∈ items → mapper.Restores json)
    (encodes : codec.encodeAll items = .ok encoded) : codec.decodeAll encoded = .ok items :=
  Outcome.mapM_back (fun _ member _ => exact.decodes fun json same => restores json (same ▸ member))
    encodes

theorem encodeEntries_accepts (exactKey : Exact mapper keyType key)
    (exactValue : Exact mapper valueType value) (entries : List (FieldValue × FieldValue)) :
    (∃ encoded, key.encodeEntries value entries = .ok encoded) ↔
      ∀ entry ∈ entries,
        keyType.Admits mapper entry.1 ∧ valueType.Admits mapper entry.2 := by
  rw [encodeEntries, Outcome.mapM_succeeds]
  simp only [Outcome.bind_eq_ok, Outcome.pure_eq_ok, ← exactKey.faithful.accepts,
    ← exactValue.faithful.accepts]
  constructor
  · intro each entry member
    obtain ⟨_, encodedKey, keyEncodes, encodedValue, valueEncodes, _⟩ := each entry member
    exact ⟨⟨encodedKey, keyEncodes⟩, encodedValue, valueEncodes⟩
  · intro each entry member
    obtain ⟨⟨encodedKey, keyEncodes⟩, encodedValue, valueEncodes⟩ := each entry member
    exact ⟨_, encodedKey, keyEncodes, encodedValue, valueEncodes, rfl⟩

theorem encodeEntries_conforms {entries : List (FieldValue × FieldValue)}
    {encoded : List (CqlValue × CqlValue)}
    (encodes : key.encodeEntries value entries = .ok encoded) :
    CqlValue.entriesConformTo encoded key.target value.target = true := by
  rw [CqlValue.entriesConformTo_iff]
  intro encodedEntry member
  obtain ⟨entry, _, entryEncodes⟩ := Outcome.exists_of_mem_mapM encodes member
  simp only [Outcome.bind_eq_ok, Outcome.pure_eq_ok] at entryEncodes
  obtain ⟨encodedKey, keyEncodes, encodedValue, valueEncodes, rfl⟩ := entryEncodes
  exact ⟨encode_conforms keyEncodes, encode_conforms valueEncodes⟩

theorem encodeEntries_decodes (exactKey : Exact mapper keyType key)
    (exactValue : Exact mapper valueType value) {entries : List (FieldValue × FieldValue)}
    {encoded : List (CqlValue × CqlValue)}
    (restores : ∀ json, (FieldValue.map entries).Holds json → mapper.Restores json)
    (encodes : key.encodeEntries value entries = .ok encoded) :
    key.decodeEntries value encoded = .ok entries := by
  refine Outcome.mapM_back (fun entry member encodedEntry entryEncodes => ?_) encodes
  simp only [Outcome.bind_eq_ok, Outcome.pure_eq_ok] at entryEncodes ⊢
  obtain ⟨encodedKey, keyEncodes, encodedValue, valueEncodes, rfl⟩ := entryEncodes
  have keyDecodes := exactKey.decodes
    (fun json same => restores json ⟨entry, member, Or.inl same⟩) keyEncodes
  have valueDecodes := exactValue.decodes
    (fun json same => restores json ⟨entry, member, Or.inr same⟩) valueEncodes
  exact ⟨entry.1, keyDecodes, entry.2, valueDecodes, rfl⟩

end ElementCodec

namespace Codec

open ElementCodec

variable {mapper : ObjectMapper} {type : FieldType} {shape : CodecShape}

inductive Serves (mapper : ObjectMapper) : FieldType → CodecShape → Prop
  | simple {type : FieldType} {codec : ElementCodec} (single : type.isCollection = false)
      (faithful : Faithful mapper type codec) : Serves mapper type (.simple codec)
  | list {element : FieldType} {codec : ElementCodec} (exact : Exact mapper element codec) :
      Serves mapper (.list element) (.list codec)
  | set {element : FieldType} {codec : ElementCodec} (exact : Exact mapper element codec) :
      Serves mapper (.set element) (.set codec)
  | map {keyType valueType : FieldType} {key value : ElementCodec}
      (exactKey : Exact mapper keyType key) (exactValue : Exact mapper valueType value) :
      Serves mapper (.map keyType valueType) (.map key value)

theorem exact_memberFor {owner : String} {encoding : Option EnumEncoding} {timeUuid : Bool}
    {codec : ElementCodec} (numbered : type.Numbered)
    (chosen : memberFor mapper owner type encoding timeUuid = .ok codec) :
    Exact mapper type codec := by
  unfold memberFor at chosen
  split at chosen
  · cases chosen
  · split at chosen
    · cases chosen
    · rename_i plain
      exact ⟨faithful_elementFor numbered chosen, plain⟩

theorem serves_shapeFor {owner : String} {hints : CodecHints}
    (numbered : type.Numbered) (chosen : shapeFor mapper owner type hints = .ok shape) :
    Serves mapper type shape := by
  cases type with
  | list element =>
      obtain ⟨codec, found, rfl⟩ := Outcome.map_eq_ok.mp chosen
      exact .list (exact_memberFor numbered found)
  | set element =>
      obtain ⟨codec, found, rfl⟩ := Outcome.map_eq_ok.mp chosen
      exact .set (exact_memberFor numbered found)
  | map keyType valueType =>
      obtain ⟨key, foundKey, rest⟩ := Outcome.bind_eq_ok.mp chosen
      obtain ⟨value, foundValue, made⟩ := Outcome.bind_eq_ok.mp rest
      cases made
      exact .map (exact_memberFor numbered.1 foundKey)
        (exact_memberFor numbered.2 foundValue)
  | _ =>
      simp only [shapeFor, Outcome.map_eq_ok] at chosen
      obtain ⟨codec, found, rfl⟩ := chosen
      exact .simple rfl (faithful_elementFor numbered found)

variable {codec : Codec} {value : FieldValue} {encoded : CqlValue}

theorem encodePresent_accepts (serves : Serves mapper type codec.shape)
    (present : value.isNull = false) :
    (∃ encoded, codec.encodePresent value = .ok encoded) ↔ type.Admits mapper value := by
  obtain ⟨source, shape⟩ := codec
  cases serves with
  | simple single faithful => exact faithful.accepts value
  | list exact =>
      cases value with
      | null => cases present
      | list items => exact Outcome.map_succeeds.trans (encodeAll_accepts exact items)
      | _ => simp [encodePresent, FieldType.Admits]
  | set exact =>
      cases value with
      | null => cases present
      | set items => exact Outcome.map_succeeds.trans (encodeAll_accepts exact items)
      | _ => simp [encodePresent, FieldType.Admits]
  | map exactKey exactValue =>
      cases value with
      | null => cases present
      | map entries =>
          exact Outcome.map_succeeds.trans (encodeEntries_accepts exactKey exactValue entries)
      | _ => simp [encodePresent, FieldType.Admits]

theorem encodePresent_conforms (encodes : codec.encodePresent value = .ok encoded) :
    encoded.conformsTo codec.target = true := by
  obtain ⟨source, shape⟩ := codec
  cases shape with
  | simple element => exact ElementCodec.encode_conforms encodes
  | list element =>
      cases value with
      | list items =>
          obtain ⟨found, made, rfl⟩ := Outcome.map_eq_ok.mp encodes
          exact encodeAll_conforms made
      | _ => cases encodes
  | set element =>
      cases value with
      | set items =>
          obtain ⟨found, made, rfl⟩ := Outcome.map_eq_ok.mp encodes
          exact encodeAll_conforms made
      | _ => cases encodes
  | map key element =>
      cases value with
      | map entries =>
          obtain ⟨found, made, rfl⟩ := Outcome.map_eq_ok.mp encodes
          exact encodeEntries_conforms made
      | _ => cases encodes

theorem encodePresent_sound (serves : Serves mapper type codec.shape)
    (encodes : codec.encodePresent value = .ok encoded) :
    encoded.conformsTo codec.target = true ∧
      ((∀ json, value.Holds json → mapper.Restores json) →
        codec.decodePresent encoded = .ok (value.readBack type)) := by
  refine ⟨encodePresent_conforms encodes, fun restores => ?_⟩
  obtain ⟨source, shape⟩ := codec
  cases serves with
  | simple single faithful =>
      exact faithful.decodes (fun json same => restores json (same ▸ rfl)) encodes
  | list exact =>
      cases value with
      | list items =>
          obtain ⟨found, made, rfl⟩ := Outcome.map_eq_ok.mp encodes
          exact Outcome.map_eq_ok.mpr ⟨items, encodeAll_decodes exact restores made, rfl⟩
      | _ => cases encodes
  | set exact =>
      cases value with
      | set items =>
          obtain ⟨found, made, rfl⟩ := Outcome.map_eq_ok.mp encodes
          exact Outcome.map_eq_ok.mpr ⟨items, encodeAll_decodes exact restores made, rfl⟩
      | _ => cases encodes
  | map exactKey exactValue =>
      cases value with
      | map entries =>
          obtain ⟨found, made, rfl⟩ := Outcome.map_eq_ok.mp encodes
          exact Outcome.map_eq_ok.mpr
            ⟨entries, encodeEntries_decodes exactKey exactValue restores made, rfl⟩
      | _ => cases encodes

theorem encode_eq_ok (encodes : codec.encode value = .ok encoded) :
    value = .null ∧ encoded = .null ∨
      value.isNull = false ∧ codec.encodePresent value = .ok encoded :=
  unlessNull_eq_ok encodes

theorem encode_conforms (encodes : codec.encode value = .ok encoded) :
    encoded.conformsTo codec.target = true := by
  rcases encode_eq_ok encodes with ⟨_, rfl⟩ | ⟨_, made⟩
  · simp [CqlValue.conformsTo]
  · exact encodePresent_conforms made

theorem encode_isNull (encodes : codec.encode value = .ok encoded) :
    encoded.isNull = value.isNull := by
  rcases encode_eq_ok encodes with ⟨rfl, rfl⟩ | ⟨present, made⟩
  · rfl
  · rw [present]
    unfold encodePresent at made
    split at made
    · exact (ElementCodec.encode_isNull made).trans present
    · obtain ⟨items, _, rfl⟩ := Outcome.map_eq_ok.mp made
      rfl
    · obtain ⟨items, _, rfl⟩ := Outcome.map_eq_ok.mp made
      rfl
    · obtain ⟨entries, _, rfl⟩ := Outcome.map_eq_ok.mp made
      rfl
    · cases made

theorem counter_of_elementFor {owner : String} {encoding : Option EnumEncoding} {timeUuid : Bool}
    {codec : ElementCodec} {amount : Int64}
    (chosen : elementFor mapper owner type encoding timeUuid = .ok codec)
    (encodes : codec.encode (.counter amount) = .ok encoded) : type = .counter := by
  cases type with
  | counter => rfl
  | list element | set element | map keyType valueType => cases chosen
  | uuid => cases timeUuid <;> cases chosen <;> cases encodes
  | enum name constants =>
      simp only [elementFor] at chosen
      split at chosen
      · cases chosen
      · split at chosen <;> cases chosen <;> cases encodes
  | _ =>
      cases chosen
      cases encodes

/-- Amounts of counters are for counters only, whatever mapper is used. -/
theorem counter_of_encode {owner : String} {hints : CodecHints} {amount : Int64}
    (chosen : forType mapper owner type hints = .ok codec)
    (encodes : codec.encode (.counter amount) = .ok encoded) : type = .counter := by
  obtain ⟨shape, found, rfl⟩ := Outcome.map_eq_ok.mp chosen
  unfold shapeFor at found
  split at found
  · obtain ⟨element, _, rfl⟩ := Outcome.map_eq_ok.mp found
    cases encodes
  · obtain ⟨element, _, rfl⟩ := Outcome.map_eq_ok.mp found
    cases encodes
  · obtain ⟨key, _, rest⟩ := Outcome.bind_eq_ok.mp found
    obtain ⟨value, _, made⟩ := Outcome.bind_eq_ok.mp rest
    cases made
    cases encodes
  · obtain ⟨element, single, rfl⟩ := Outcome.map_eq_ok.mp found
    exact counter_of_elementFor single encodes

/-- The codec of a declared type accepts exactly the values that the type admits. What it makes of
one fits its column, is null for null only, and is read back as the value. -/
theorem encode_faithful {owner : String} {hints : CodecHints} (numbered : type.Numbered)
    (chosen : forType mapper owner type hints = .ok codec) (value : FieldValue)
    (restores : ∀ json, value.Holds json → mapper.Restores json) :
    ((∃ encoded, codec.encode value = .ok encoded) ↔ type.Admits mapper value) ∧
    ∀ encoded, codec.encode value = .ok encoded →
      encoded.conformsTo codec.target = true ∧
      (encoded.isNull = true → value.isNull = true) ∧
      codec.decode encoded = .ok (value.readBack type) := by
  have serves : Serves mapper type codec.shape := by
    obtain ⟨shape, found, rfl⟩ := Outcome.map_eq_ok.mp chosen
    exact serves_shapeFor numbered found
  refine ⟨?_, ?_⟩
  · by_cases isNull : value.isNull = true
    · simp [FieldValue.eq_null isNull, encode, FieldValue.isNull, admits_null]
    · have present : value.isNull = false := by simpa using isNull
      simpa [encode, present] using encodePresent_accepts serves present
  · intro encoded encodes
    have isNull := encode_isNull encodes
    rcases encode_eq_ok encodes with ⟨rfl, rfl⟩ | ⟨present, made⟩
    · refine ⟨?_, fun _ => rfl, ?_⟩
      · simp [CqlValue.conformsTo]
      · simp [decode, CqlValue.isNull, readBack_null]
    · obtain ⟨conforms, decodes⟩ := encodePresent_sound serves made
      refine ⟨conforms, fun absent => isNull.symm.trans absent, ?_⟩
      rw [present] at isNull
      simpa [decode, isNull] using decodes restores

def flagsByRank : FieldType :=
  .map (.enum "Rank" ["low", "high", "low"]) (.object "Flag")

def rankCodec : Codec :=
  ⟨flagsByRank, .map (.enumOrdinal ["low", "high", "low"]) (.json "Flag" .json)⟩

def someFlags : FieldValue :=
  .map [(.enum "high", .object (.bool true)), (.enum "low", .null)]

theorem encode_faithful_flags :
    ((∃ encoded, rankCodec.encode someFlags = .ok encoded) ↔
      flagsByRank.Admits .json someFlags) ∧
    ∀ encoded, rankCodec.encode someFlags = .ok encoded →
      encoded.conformsTo rankCodec.target = true ∧
      (encoded.isNull = true → someFlags.isNull = true) ∧
      rankCodec.decode encoded = .ok (someFlags.readBack flagsByRank) := by
  have numbered : flagsByRank.Numbered := ⟨show 3 < 2147483648 by decide, trivial⟩
  have chosen :
      forType .json "flags" flagsByRank ⟨none, some .ordinal, false⟩ = .ok rankCodec := rfl
  have only (json : Json) (held : someFlags.Holds json) : json = .bool true := by
    simpa [FieldValue.Holds, someFlags, eq_comm] using held
  have restores (json : Json) (held : someFlags.Holds json) : ObjectMapper.json.Restores json := by
    intro typeName text written
    rw [only json held] at written ⊢
    cases written
    rfl
  exact encode_faithful numbered chosen someFlags restores

end Codec

end CqlMapper
