import CqlMapper.FieldValue.Basic
import CqlMapper.Json.Form

/-! Property values in their JSON form: an object with the kind as its only key. -/

namespace CqlMapper.FieldValue

mutual

def toJson (form : ScalarForm) : FieldValue → Json
  | .null => .string "Null"
  | .boolean value => .tagged "Boolean" (.bool value)
  | .byte value => .tagged "Byte" (.integer value.toInt)
  | .int value => .tagged "Int" (.integer value.toInt)
  | .bigInt value => .tagged "BigInt" (.integer value.toInt)
  | .double value => .tagged "Double" (form.ofDouble value)
  | .text value => .tagged "Text" (.string value)
  | .bytes value => .tagged "Bytes" (form.ofBytes value)
  | .uuid value => .tagged "Uuid" (.string value.text)
  | .timestamp value => .tagged "Timestamp" (.integer value.toInt)
  | .enum constant => .tagged "Enum" (.string constant)
  | .object value => .tagged "Object" value
  | .counter delta => .tagged "Counter" (.integer delta.toInt)
  | .list items => .tagged "List" (.array (itemsToJson form items))
  | .set items => .tagged "Set" (.array (itemsToJson form items))
  | .map entries => .tagged "Map" (.array (entriesToJson form entries))
termination_by structural value => value

def itemsToJson (form : ScalarForm) : List FieldValue → List Json
  | [] => []
  | item :: rest => toJson form item :: itemsToJson form rest
termination_by structural items => items

def entriesToJson (form : ScalarForm) : List (FieldValue × FieldValue) → List Json
  | [] => []
  | (key, value) :: rest => .array [toJson form key, toJson form value] :: entriesToJson form rest
termination_by structural entries => entries

end

mutual

def ofJson? (form : ScalarForm) : Json → Option FieldValue
  | .string "Null" => some .null
  | .object [("Boolean", payload)] => payload.bool?.map .boolean
  | .object [("Byte", payload)] => payload.int8?.map .byte
  | .object [("Int", payload)] => payload.int32?.map .int
  | .object [("BigInt", payload)] => payload.int64?.map .bigInt
  | .object [("Double", payload)] => (form.double? payload).map .double
  | .object [("Text", payload)] => payload.string?.map .text
  | .object [("Bytes", payload)] => (form.bytes? payload).map .bytes
  | .object [("Uuid", payload)] => (payload.string?.bind Uuid.read?).map .uuid
  | .object [("Timestamp", payload)] => payload.int64?.map .timestamp
  | .object [("Enum", payload)] => payload.string?.map .enum
  | .object [("Object", payload)] => some (.object payload)
  | .object [("Counter", payload)] => payload.int64?.map .counter
  | .object [("List", .array items)] => (itemsOfJson? form items).map .list
  | .object [("Set", .array items)] => (itemsOfJson? form items).map .set
  | .object [("Map", .array entries)] => (entriesOfJson? form entries).map .map
  | _ => none

def itemsOfJson? (form : ScalarForm) : List Json → Option (List FieldValue)
  | [] => some []
  | item :: rest => do
    let item ← ofJson? form item
    let rest ← itemsOfJson? form rest
    return item :: rest

def entriesOfJson? (form : ScalarForm) : List Json → Option (List (FieldValue × FieldValue))
  | [] => some []
  | .array [key, value] :: rest => do
    let key ← ofJson? form key
    let value ← ofJson? form value
    let rest ← entriesOfJson? form rest
    return (key, value) :: rest
  | _ => none

end

def exactJson : FieldValue → Json :=
  toJson .exact

def read? : Json → Option FieldValue :=
  ofJson? .exact

def readEntries? : Json → Option (List (FieldValue × FieldValue)) :=
  Json.list? (Json.pair? read? read?)

def readNamed? : Json → Option (String × FieldValue) :=
  Json.pair? Json.string? read?

end CqlMapper.FieldValue
