import CqlMapper.CqlValue.Basic
import CqlMapper.Json.Form

/-! Store values in their JSON form: an object with the type as its only key. -/

namespace CqlMapper.CqlValue

mutual

def toJson (form : ScalarForm) : CqlValue → Json
  | .null => .string "Null"
  | .boolean value => .tagged "Boolean" (.bool value)
  | .tinyInt value => .tagged "TinyInt" (.integer value.toInt)
  | .int value => .tagged "Int" (.integer value.toInt)
  | .bigInt value => .tagged "BigInt" (.integer value.toInt)
  | .counter value => .tagged "Counter" (.integer value.toInt)
  | .double value => .tagged "Double" (form.ofDouble value)
  | .text value => .tagged "Text" (.string value)
  | .blob value => .tagged "Blob" (form.ofBytes value)
  | .uuid value => .tagged "Uuid" (.string value.text)
  | .timeUuid value => .tagged "TimeUuid" (.string value.text)
  | .timestamp value => .tagged "Timestamp" (.integer value.toInt)
  | .list items => .tagged "List" (.array (itemsToJson form items))
  | .set items => .tagged "Set" (.array (itemsToJson form items))
  | .map entries => .tagged "Map" (.array (entriesToJson form entries))
termination_by structural value => value

def itemsToJson (form : ScalarForm) : List CqlValue → List Json
  | [] => []
  | item :: rest => toJson form item :: itemsToJson form rest
termination_by structural items => items

def entriesToJson (form : ScalarForm) : List (CqlValue × CqlValue) → List Json
  | [] => []
  | (key, value) :: rest => .array [toJson form key, toJson form value] :: entriesToJson form rest
termination_by structural entries => entries

end

mutual

def ofJson? (form : ScalarForm) : Json → Option CqlValue
  | .string "Null" => some .null
  | .object [("Boolean", payload)] => payload.bool?.map .boolean
  | .object [("TinyInt", payload)] => payload.int8?.map .tinyInt
  | .object [("Int", payload)] => payload.int32?.map .int
  | .object [("BigInt", payload)] => payload.int64?.map .bigInt
  | .object [("Counter", payload)] => payload.int64?.map .counter
  | .object [("Double", payload)] => (form.double? payload).map .double
  | .object [("Text", payload)] => payload.string?.map .text
  | .object [("Blob", payload)] => (form.bytes? payload).map .blob
  | .object [("Uuid", payload)] => (payload.string?.bind Uuid.read?).map .uuid
  | .object [("TimeUuid", payload)] => (payload.string?.bind Uuid.read?).map .timeUuid
  | .object [("Timestamp", payload)] => payload.int64?.map .timestamp
  | .object [("List", .array items)] => (itemsOfJson? form items).map .list
  | .object [("Set", .array items)] => (itemsOfJson? form items).map .set
  | .object [("Map", .array entries)] => (entriesOfJson? form entries).map .map
  | _ => none

def itemsOfJson? (form : ScalarForm) : List Json → Option (List CqlValue)
  | [] => some []
  | item :: rest => do
    let item ← ofJson? form item
    let rest ← itemsOfJson? form rest
    return item :: rest

def entriesOfJson? (form : ScalarForm) : List Json → Option (List (CqlValue × CqlValue))
  | [] => some []
  | .array [key, value] :: rest => do
    let key ← ofJson? form key
    let value ← ofJson? form value
    let rest ← entriesOfJson? form rest
    return (key, value) :: rest
  | _ => none

end

def exactJson : CqlValue → Json :=
  toJson .exact

def read? : Json → Option CqlValue :=
  ofJson? .exact

end CqlMapper.CqlValue
