import CqlMapper.Codec.Element

/-!
Codecs of whole properties: a codec of single values, or one that applies such codecs to the
elements of a list or set or to the entries of a map. A codec is chosen from the declared type.
-/

namespace CqlMapper

inductive CodecShape where
  | simple (codec : ElementCodec)
  | list (element : ElementCodec)
  | set (element : ElementCodec)
  | map (key value : ElementCodec)

structure Codec where
  source : FieldType
  shape : CodecShape

namespace Codec

def target (codec : Codec) : CqlType :=
  match codec.shape with
  | .simple element => element.target
  | .list element => .list element.target
  | .set element => .set element.target
  | .map key value => .map key.target value.target

def element (codec : Codec) : ElementCodec :=
  match codec.shape with
  | .simple element | .list element | .set element | .map _ element => element

def key? (codec : Codec) : Option ElementCodec :=
  match codec.shape with
  | .map key _ => some key
  | _ => none

def encodePresent (codec : Codec) (value : FieldValue) : Except MappingError CqlValue :=
  match codec.shape, value with
  | .simple element, value => element.encode value
  | .list element, .list items => (element.encodeAll items).map .list
  | .set element, .set items => (element.encodeAll items).map .set
  | .map key element, .map entries => (key.encodeEntries element entries).map .map
  | _, value => .error (.transcoding "collection" value.shown (.shapeMismatch codec.source))

def encode (codec : Codec) (value : FieldValue) : Except MappingError CqlValue :=
  if value.isNull then .ok .null else codec.encodePresent value

def decodePresent (codec : Codec) (value : CqlValue) : Except MappingError FieldValue :=
  match codec.shape, value with
  | .simple element, value => element.decode value
  | .list element, .list items => (element.decodeAll items).map .list
  | .set element, .set items => (element.decodeAll items).map .set
  | .map key element, .map entries => (key.decodeEntries element entries).map .map
  | _, value => .error (.transcoding "collection" value.shown (.shapeMismatch codec.source))

def decode (codec : Codec) (value : CqlValue) : Except MappingError FieldValue :=
  if value.isNull then .ok .null else codec.decodePresent value

def elementFor (mapper : ObjectMapper) (owner : String) (type : FieldType)
    (encoding : Option EnumEncoding) (timeUuid : Bool) : Except MappingError ElementCodec :=
  match type with
  | .byte => .ok .byte
  | .bytes => .ok .byteArray
  | .boolean => .ok (.native .boolean)
  | .int => .ok (.native .int)
  | .bigInt => .ok (.native .bigInt)
  | .double => .ok (.native .double)
  | .text => .ok (.native .text)
  | .timestamp => .ok (.native .timestamp)
  | .uuid => .ok (.native (if timeUuid then .timeUuid else .uuid))
  | .counter => .ok .counter
  | .enum name constants =>
    if constants.isEmpty then .error (.schema owner (.emptyEnum name))
    else if encoding = some .ordinal then .ok (.enumOrdinal constants)
    else .ok (.enumName constants)
  | .object typeName => .ok (.json typeName mapper)
  | .list _ | .set _ | .map _ _ => .error (.schema owner .nestedCollection)

/-- The codec of what a collection holds: neither collections nor counters. -/
def memberFor (mapper : ObjectMapper) (owner : String) (type : FieldType)
    (encoding : Option EnumEncoding) (timeUuid : Bool) : Except MappingError ElementCodec :=
  if type.isCollection then .error (.schema owner .nestedCollection)
  else if type = .counter then .error (.schema owner .counterElement)
  else elementFor mapper owner type encoding timeUuid

def shapeFor (mapper : ObjectMapper) (owner : String) (type : FieldType) (hints : CodecHints) :
    Except MappingError CodecShape :=
  match type with
  | .list element =>
    (memberFor mapper owner element hints.enumEncoding hints.timeUuid).map .list
  | .set element =>
    (memberFor mapper owner element hints.enumEncoding hints.timeUuid).map .set
  | .map key value => do
    let keyCodec ← memberFor mapper owner key hints.keyEnumEncoding hints.timeUuid
    let valueCodec ← memberFor mapper owner value hints.enumEncoding hints.timeUuid
    return .map keyCodec valueCodec
  | simple => (elementFor mapper owner simple hints.enumEncoding hints.timeUuid).map .simple

/-- The codec for a declared type; `owner` only names the property in an error. -/
def forType (mapper : ObjectMapper) (owner : String) (type : FieldType) (hints : CodecHints) :
    Except MappingError Codec :=
  (shapeFor mapper owner type hints).map fun shape => ⟨type, shape⟩

end Codec

end CqlMapper
