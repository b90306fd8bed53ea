import CqlMapper.Proofs.Codec.RoundTrip

/-!
Reading a column and writing back what was read. A codec reads more than it writes: either kind of
identifier, counters as counters or as plain numbers, a constant by any of its ordinals, an object
in any layout of its text. Writing brings all of these to one form, which reads as the same value.
-/

namespace CqlMapper

/-- Whether a mapper can write an object that it has read, such that it reads the object again. -/
def ObjectMapper.Rewrites (mapper : ObjectMapper) (json : Json) : Prop :=
  ∀ typeName text, mapper.decode typeName text = .ok json →
    ∃ written, mapper.encode typeName json = .ok written ∧
      mapper.decode typeName written = .ok json

namespace NativeKind

/-- Only identifiers are read from two kinds of values; either is written in the kind asked for. -/
theorem encode?_of_decode? {kind : NativeKind} {wire : CqlValue} {value : FieldValue}
    (reads : kind.decode? wire = some value) :
    ∃ encoded, kind.encode? value = some encoded ∧ kind.decode? encoded = some value ∧
      value.isNull = false := by
  cases kind <;> cases wire <;> cases reads <;> exact ⟨_, rfl, rfl, rfl⟩

end NativeKind

namespace ElementCodec

variable {codec key element : ElementCodec} {value : FieldValue} {wire : CqlValue}

def Rewritten (codec : ElementCodec) (value : FieldValue) : Prop :=
  ∃ encoded, codec.encode value = .ok encoded ∧ codec.decode encoded = .ok value

def Rewrites (codec : ElementCodec) (value : FieldValue) : Prop :=
  ∀ typeName mapper json, codec = .json typeName mapper → value = .object json →
    mapper.Rewrites json

theorem rewritten_null (codec : ElementCodec) : codec.Rewritten .null :=
  ⟨.null, rfl, rfl⟩

theorem rewritten_present (encoded : CqlValue) (present : value.isNull = false)
    (encodes : codec.encodePresent value = .ok encoded)
    (decodes : codec.decodePresent encoded = .ok value) : codec.Rewritten value := by
  have notNull := (encodePresent_typed encodes).1
  exact ⟨encoded, by simpa [encode, present] using encodes,
    by simpa [decode, notNull] using decodes⟩

theorem rewritten_native {kind : NativeKind}
    (reads : (native kind).decodePresent wire = .ok value) : (native kind).Rewritten value := by
  have read : kind.decode? wire = some value := by
    unfold decodePresent at reads
    cases found : kind.decode? wire <;> simp_all [refuseWire]
  obtain ⟨encoded, encodes, decodes, present⟩ := NativeKind.encode?_of_decode? read
  refine rewritten_present encoded present (encodePresent_native.mpr encodes) ?_
  simp [decodePresent, decodes]

theorem rewritten_enumName {constants : List String}
    (reads : (enumName constants).decodePresent wire = .ok value) :
    (enumName constants).Rewritten value := by
  cases wire with
  | text constant =>
      simp only [decodePresent] at reads
      split at reads
      · rename_i known
        cases reads
        exact rewritten_present (.text constant) rfl (by simp [encodePresent, known])
          (by simp [decodePresent, known])
      · cases reads
  | _ => cases reads

/-- The ordinal written is that of the first appearance, which is no greater than the one read and
so is an integer of the store too. -/
theorem rewritten_enumOrdinal {constants : List String}
    (reads : (enumOrdinal constants).decodePresent wire = .ok value) :
    (enumOrdinal constants).Rewritten value := by
  cases wire with
  | int ordinal =>
      simp only [decodePresent] at reads
      split at reads
      · split at reads
        · rename_i constant found
          cases reads
          obtain ⟨bound, here⟩ := List.getElem?_eq_some_iff.mp found
          obtain ⟨first, isFirst⟩ : ∃ first, constants.idxOf? constant = some first := by
            apply Option.ne_none_iff_exists'.mp
            intro absent
            exact List.idxOf?_eq_none_iff.mp absent (here ▸ List.getElem_mem bound)
          obtain ⟨firstBound, firstHere, minimal⟩ := List.idxOf?_eq_some_iff.mp isFirst
          have noLater : first ≤ ordinal.toInt.toNat := by
            apply Nat.le_of_not_lt
            intro earlier
            exact minimal _ earlier here
          have number : (Int32.ofNat first).toInt = first := by
            apply Int32.toInt_ofNat_of_lt
            have := ordinal.toInt_lt
            omega
          refine rewritten_present (.int (Int32.ofNat first)) rfl
            (by simp [encodePresent, isFirst]) ?_
          simp [decodePresent, number, List.getElem?_eq_getElem firstBound, firstHere]
        · cases reads
      · cases reads
  | _ => cases reads

theorem rewritten_json {typeName : String} {mapper : ObjectMapper}
    (rewrites : (json typeName mapper).Rewrites value)
    (reads : (json typeName mapper).decodePresent wire = .ok value) :
    (json typeName mapper).Rewritten value := by
  cases wire with
  | text text =>
      obtain ⟨object, decodes, rfl⟩ := Outcome.map_eq_ok.mp reads
      obtain ⟨written, encodes, again⟩ :=
        rewrites typeName mapper object rfl rfl typeName text decodes
      refine rewritten_present (.text written) rfl ?_ ?_
      · exact Outcome.map_eq_ok.mpr ⟨written, encodes, rfl⟩
      · exact Outcome.map_eq_ok.mpr ⟨object, again, rfl⟩
  | _ => cases reads

theorem rewritten_of_decode (rewrites : codec.Rewrites value)
    (reads : codec.decode wire = .ok value) : codec.Rewritten value := by
  unfold decode at reads
  split at reads
  · cases reads
    exact rewritten_null codec
  · cases codec with
    | byte =>
        cases wire with
        | blob bytes =>
            simp only [decodePresent] at reads
            split at reads
            · cases reads
              exact rewritten_present _ rfl rfl (by simp [decodePresent])
            · cases reads
        | _ => cases reads
    | byteArray =>
        cases wire with
        | blob bytes =>
            cases reads
            exact rewritten_present _ rfl rfl rfl
        | _ => cases reads
    | counter =>
        cases wire with
        | bigInt amount | counter amount =>
            cases reads
            exact rewritten_present _ rfl rfl rfl
        | _ => cases reads
    | native kind => exact rewritten_native reads
    | enumName constants => exact rewritten_enumName reads
    | enumOrdinal constants => exact rewritten_enumOrdinal reads
    | json typeName mapper => exact rewritten_json rewrites reads

theorem decodeAll_rewritten {wires : List CqlValue} {items : List FieldValue}
    (rewrites : ∀ item ∈ items, codec.Rewrites item) (reads : codec.decodeAll wires = .ok items) :
    ∃ encoded, codec.encodeAll items = .ok encoded ∧ codec.decodeAll encoded = .ok items :=
  Outcome.mapM_again (fun _ item member => rewritten_of_decode (rewrites item member)) reads

theorem decodeEntries_rewritten {wires : List (CqlValue × CqlValue)}
    {entries : List (FieldValue × FieldValue)}
    (rewrites : ∀ entry ∈ entries, key.Rewrites entry.1 ∧ element.Rewrites entry.2)
    (reads : key.decodeEntries element wires = .ok entries) :
    ∃ encoded, key.encodeEntries element entries = .ok encoded ∧
      key.decodeEntries element encoded = .ok entries := by
  refine Outcome.mapM_again (fun wire entry member readsEntry => ?_) reads
  simp only [Outcome.bind_eq_ok, Outcome.pure_eq_ok] at readsEntry ⊢
  obtain ⟨_, readsKey, _, readsValue, rfl⟩ := readsEntry
  obtain ⟨keyRewrites, valueRewrites⟩ := rewrites _ member
  obtain ⟨encodedKey, keyEncodes, keyDecodes⟩ := rewritten_of_decode keyRewrites readsKey
  obtain ⟨encodedValue, valueEncodes, valueDecodes⟩ :=
    rewritten_of_decode valueRewrites readsValue
  exact ⟨(encodedKey, encodedValue), ⟨encodedKey, keyEncodes, encodedValue, valueEncodes, rfl⟩,
    _, keyDecodes, _, valueDecodes, rfl⟩

end ElementCodec

namespace Codec

open ElementCodec

variable {mapper : ObjectMapper} {owner : String} {type : FieldType} {hints : CodecHints}
  {codec : Codec} {element : ElementCodec} {value : FieldValue} {wire : CqlValue}

/-- Objects are mapped by the mapper that a codec was chosen for. -/
theorem rewrites_of_elementFor {encoding : Option EnumEncoding} {timeUuid : Bool}
    (chosen : elementFor mapper owner type encoding timeUuid = .ok element)
    (rewrites : ∀ json, value = .object json → mapper.Rewrites json) : element.Rewrites value := by
  rintro typeName other json rfl same
  have own : other = mapper := by
    cases type with
    | enum name constants =>
        simp only [elementFor] at chosen
        split at chosen
        · cases chosen
        · split at chosen <;> cases chosen
    | object typeName =>
        cases chosen
        rfl
    | _ => cases chosen
  rw [own]
  exact rewrites json same

theorem rewrites_of_memberFor {encoding : Option EnumEncoding} {timeUuid : Bool}
    (chosen : memberFor mapper owner type encoding timeUuid = .ok element)
    (rewrites : ∀ json, value = .object json → mapper.Rewrites json) : element.Rewrites value := by
  unfold memberFor at chosen
  split at chosen
  · cases chosen
  · split at chosen
    · cases chosen
    · exact rewrites_of_elementFor chosen rewrites

def RewritesIn : CodecShape → FieldValue → Prop
  | .simple element, value => element.Rewrites value
  | .list element, .list items | .set element, .set items => ∀ item ∈ items, element.Rewrites item
  | .map key element, .map entries =>
    ∀ entry ∈ entries, key.Rewrites entry.1 ∧ element.Rewrites entry.2
  | _, _ => True

theorem rewritesIn_of_forType (chosen : forType mapper owner type hints = .ok codec)
    (rewrites : ∀ json, value.Holds json → mapper.Rewrites json) :
    RewritesIn codec.shape value := by
  obtain ⟨shape, found, rfl⟩ := Outcome.map_eq_ok.mp chosen
  unfold shapeFor at found
  split at found
  · obtain ⟨element, member, rfl⟩ := Outcome.map_eq_ok.mp found
    cases value with
    | list items =>
        intro item among
        refine rewrites_of_memberFor member fun json same => ?_
        subst same
        exact rewrites json among
    | _ => trivial
  · obtain ⟨element, member, rfl⟩ := Outcome.map_eq_ok.mp found
    cases value with
    | set items =>
        intro item among
        refine rewrites_of_memberFor member fun json same => ?_
        subst same
        exact rewrites json among
    | _ => trivial
  · obtain ⟨key, keyMember, rest⟩ := Outcome.bind_eq_ok.mp found
    obtain ⟨element, member, made⟩ := Outcome.bind_eq_ok.mp rest
    cases made
    cases value with
    | map entries =>
        intro entry among
        exact ⟨rewrites_of_memberFor keyMember fun json same =>
            rewrites json ⟨entry, among, Or.inl same⟩,
          rewrites_of_memberFor member fun json same => rewrites json ⟨entry, among, Or.inr same⟩⟩
    | _ => trivial
  · obtain ⟨element, single, rfl⟩ := Outcome.map_eq_ok.mp found
    exact rewrites_of_elementFor single fun json same => rewrites json (same ▸ rfl)

theorem encode_simple (source : FieldType) (element : ElementCodec) (value : FieldValue) :
    encode ⟨source, .simple element⟩ value = element.encode value := by
  unfold encode ElementCodec.encode
  split
  · rfl
  · rename_i present
    simp [encodePresent, ElementCodec.encode, present]

theorem decode_simple (source : FieldType) (element : ElementCodec) (wire : CqlValue) :
    decode ⟨source, .simple element⟩ wire = element.decode wire := by
  unfold decode ElementCodec.decode
  split
  · rfl
  · rename_i present
    simp [decodePresent, ElementCodec.decode, present]

theorem decode_rewritten (rewrites : RewritesIn codec.shape value)
    (reads : codec.decode wire = .ok value) :
    ∃ encoded, codec.encode value = .ok encoded ∧ codec.decode encoded = .ok value := by
  obtain ⟨source, shape⟩ := codec
  cases shape with
  | simple element =>
      rw [decode_simple] at reads
      simp only [encode_simple, decode_simple]
      exact rewritten_of_decode rewrites reads
  | list element =>
      cases wire with
      | null =>
          cases reads
          exact ⟨.null, rfl, rfl⟩
      | list wires =>
          obtain ⟨items, readsAll, rfl⟩ := Outcome.map_eq_ok.mp reads
          obtain ⟨encoded, encodes, decodes⟩ := decodeAll_rewritten rewrites readsAll
          exact ⟨.list encoded, Outcome.map_eq_ok.mpr ⟨encoded, encodes, rfl⟩,
            Outcome.map_eq_ok.mpr ⟨items, decodes, rfl⟩⟩
      | _ => cases reads
  | set element =>
      cases wire with
      | null =>
          cases reads
          exact ⟨.null, rfl, rfl⟩
      | set wires =>
          obtain ⟨items, readsAll, rfl⟩ := Outcome.map_eq_ok.mp reads
          obtain ⟨encoded, encodes, decodes⟩ := decodeAll_rewritten rewrites readsAll
          exact ⟨.set encoded, Outcome.map_eq_ok.mpr ⟨encoded, encodes, rfl⟩,
            Outcome.map_eq_ok.mpr ⟨items, decodes, rfl⟩⟩
      | _ => cases reads
  | map key element =>
      cases wire with
      | null =>
          cases reads
          exact ⟨.null, rfl, rfl⟩
      | map wires =>
          obtain ⟨entries, readsAll, rfl⟩ := Outcome.map_eq_ok.mp reads
          obtain ⟨encoded, encodes, decodes⟩ := decodeEntries_rewritten rewrites readsAll
          exact ⟨.map encoded, Outcome.map_eq_ok.mpr ⟨encoded, encodes, rfl⟩,
            Outcome.map_eq_ok.mpr ⟨entries, decodes, rfl⟩⟩
      | _ => cases reads

/-- Whatever value a column is read as, that value can be written back: it fits the column, and it
is read as the same value again. -/
theorem encode_of_decode (chosen : forType mapper owner type hints = .ok codec)
    (reads : codec.decode wire = .ok value)
    (rewrites : ∀ json, value.Holds json → mapper.Rewrites json) :
    ∃ encoded, codec.encode value = .ok encoded ∧ encoded.conformsTo codec.target = true ∧
      codec.decode encoded = .ok value := by
  obtain ⟨encoded, encodes, decodes⟩ :=
    decode_rewritten (rewritesIn_of_forType chosen rewrites) reads
  exact ⟨encoded, encodes, encode_conforms encodes, decodes⟩

def flagsAsStored : CqlValue :=
  .map [(.int 1, .text " true "), (.int 2, .null)]

theorem encode_of_decode_flags :
    rankCodec.decode flagsAsStored = .ok someFlags ∧
    ∃ encoded, rankCodec.encode someFlags = .ok encoded ∧
      encoded.conformsTo rankCodec.target = true ∧ rankCodec.decode encoded = .ok someFlags := by
  have chosen :
      forType .json "flags" flagsByRank ⟨none, some .ordinal, false⟩ = .ok rankCodec := rfl
  have reads : rankCodec.decode flagsAsStored = .ok someFlags := rfl
  have only (json : Json) (held : someFlags.Holds json) : json = .bool true := by
    simpa [FieldValue.Holds, someFlags, eq_comm] using held
  refine ⟨reads, encode_of_decode chosen reads fun json held typeName text _ => ?_⟩
  rw [only json held]
  exact ⟨"true", rfl, rfl⟩

end Codec

end CqlMapper
