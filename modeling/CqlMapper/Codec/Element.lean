import CqlMapper.CqlValue.Shown
import CqlMapper.FieldValue.Shown
import CqlMapper.Json.Reading
import CqlMapper.MappingError

/-! Codecs of single values, between a property in memory and a column of the store. -/

namespace CqlMapper

/-- Turns structured values of a named type into text and back. -/
structure ObjectMapper where
  encode : String → Json → Except MappingError String
  decode : String → String → Except MappingError Json

/-- The mapper that writes compact JSON and reads any JSON. -/
def ObjectMapper.json : ObjectMapper where
  encode _ value := .ok value.text
  decode typeName text :=
    match Json.read? text with
    | some value => .ok value
    | none => .error (.unmappable (typeName ++ ": not a JSON value"))

inductive NativeKind where
  | boolean | int | bigInt | double | text | uuid | timeUuid | timestamp
  deriving DecidableEq, Inhabited

namespace NativeKind

def target : NativeKind → CqlType
  | .boolean => .boolean
  | .int => .int
  | .bigInt => .bigInt
  | .double => .double
  | .text => .text
  | .uuid => .uuid
  | .timeUuid => .timeUuid
  | .timestamp => .timestamp

def encode? : NativeKind → FieldValue → Option CqlValue
  | .boolean, .boolean value => some (.boolean value)
  | .int, .int value => some (.int value)
  | .bigInt, .bigInt value => some (.bigInt value)
  | .double, .double value => some (.double value)
  | .text, .text value => some (.text value)
  | .uuid, .uuid value => some (.uuid value)
  | .timeUuid, .uuid value => some (.timeUuid value)
  | .timestamp, .timestamp value => some (.timestamp value)
  | _, _ => none

/-- Both kinds of identifier are read for either column type. -/
def decode? : NativeKind → CqlValue → Option FieldValue
  | .boolean, .boolean value => some (.boolean value)
  | .int, .int value => some (.int value)
  | .bigInt, .bigInt value => some (.bigInt value)
  | .double, .double value => some (.double value)
  | .text, .text value => some (.text value)
  | .uuid, .uuid value => some (.uuid value)
  | .uuid, .timeUuid value => some (.uuid value)
  | .timeUuid, .uuid value => some (.uuid value)
  | .timeUuid, .timeUuid value => some (.uuid value)
  | .timestamp, .timestamp value => some (.timestamp value)
  | _, _ => none

end NativeKind

inductive ElementCodec where
  | byte
  | byteArray
  | native (kind : NativeKind)
  | counter
  | enumName (constants : List String)
  | enumOrdinal (constants : List String)
  | json (typeName : String) (mapper : ObjectMapper)

namespace ElementCodec

def name : ElementCodec → String
  | .byte => "byte"
  | .byteArray => "byte-array"
  | .native _ => "native"
  | .counter => "counter"
  | .enumName _ => "enum-name"
  | .enumOrdinal _ => "enum-ordinal"
  | .json _ _ => "json"

def target : ElementCodec → CqlType
  | .byte | .byteArray => .blob
  | .native kind => kind.target
  | .counter => .bigInt
  | .enumName _ | .json _ _ => .text
  | .enumOrdinal _ => .int

def refuse {α : Type} (codec : ElementCodec) (value : FieldValue) (fault : TranscodingFault) :
    Except MappingError α :=
  .error (.transcoding codec.name value.shown fault)

def refuseWire {α : Type} (codec : ElementCodec) (value : CqlValue) (fault : TranscodingFault) :
    Except MappingError α :=
  .error (.transcoding codec.name value.shown fault)

def encodePresent (codec : ElementCodec) (value : FieldValue) : Except MappingError CqlValue :=
  match codec, value with
  | .byte, .byte octet => .ok (.blob [octet.toUInt8])
  | .byteArray, .bytes bytes => .ok (.blob bytes)
  | .native kind, value =>
    match kind.encode? value with
    | some encoded => .ok encoded
    | none => codec.refuse value (.expected kind.target)
  | .counter, .counter amount => .ok (.bigInt amount)
  | .counter, .bigInt amount => .ok (.bigInt amount)
  | .enumName constants, .enum constant =>
    if constant ∈ constants then .ok (.text constant) else codec.refuse value .unknownConstant
  | .enumOrdinal constants, .enum constant =>
    match constants.idxOf? constant with
    | some ordinal => .ok (.int (Int32.ofNat ordinal))
    | none => codec.refuse value .unknownConstant
  | .json typeName mapper, .object object => (mapper.encode typeName object).map .text
  | codec, value => codec.refuse value (.unexpectedKind value.kindName)

def encode (codec : ElementCodec) (value : FieldValue) : Except MappingError CqlValue :=
  if value.isNull then .ok .null else codec.encodePresent value

def decodePresent (codec : ElementCodec) (value : CqlValue) : Except MappingError FieldValue :=
  match codec, value with
  | .byte, .blob bytes =>
    match bytes with
    | [octet] => .ok (.byte octet.toInt8)
    | _ => codec.refuseWire value .notOneByte
  | .byteArray, .blob bytes => .ok (.bytes bytes)
  | .native kind, value =>
    match kind.decode? value with
    | some decoded => .ok decoded
    | none => codec.refuseWire value (.expected kind.target)
  | .counter, .bigInt amount => .ok (.counter amount)
  | .counter, .counter amount => .ok (.counter amount)
  | .enumName constants, .text constant =>
    if constant ∈ constants then .ok (.enum constant) else codec.refuseWire value .unknownConstant
  | .enumOrdinal constants, .int ordinal =>
    if 0 ≤ ordinal.toInt then
      match constants[ordinal.toInt.toNat]? with
      | some constant => .ok (.enum constant)
      | none => codec.refuseWire value .ordinalOutOfRange
    else codec.refuseWire value .ordinalOutOfRange
  | .json typeName mapper, .text text => (mapper.decode typeName text).map .object
  | codec, value => codec.refuseWire value .unexpectedWire

def decode (codec : ElementCodec) (value : CqlValue) : Except MappingError FieldValue :=
  if value.isNull then .ok .null else codec.decodePresent value

def encodeAll (codec : ElementCodec) (items : List FieldValue) :
    Except MappingError (List CqlValue) :=
  items.mapM codec.encode

def decodeAll (codec : ElementCodec) (items : List CqlValue) :
    Except MappingError (List FieldValue) :=
  items.mapM codec.decode

def encodeEntries (key value : ElementCodec) (entries : List (FieldValue × FieldValue)) :
    Except MappingError (List (CqlValue × CqlValue)) :=
  entries.mapM fun entry => do
    let encodedKey ← key.encode entry.1
    let encodedValue ← value.encode entry.2
    return (encodedKey, encodedValue)

def decodeEntries (key value : ElementCodec) (entries : List (CqlValue × CqlValue)) :
    Except MappingError (List (FieldValue × FieldValue)) :=
  entries.mapM fun entry => do
    let decodedKey ← key.decode entry.1
    let decodedValue ← value.decode entry.2
    return (decodedKey, decodedValue)

end ElementCodec

end CqlMapper
