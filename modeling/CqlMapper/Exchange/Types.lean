import CqlMapper.Codec.FieldType
import CqlMapper.CqlType
import CqlMapper.Json.Fields

/-! Column types and property types in their JSON form: a name, or the kind of a collection with
the types of its contents. -/

namespace CqlMapper

def CqlType.simpleOf? : String → Option CqlType
  | "Boolean" => some .boolean
  | "TinyInt" => some .tinyInt
  | "Int" => some .int
  | "BigInt" => some .bigInt
  | "Counter" => some .counter
  | "Double" => some .double
  | "Text" => some .text
  | "Blob" => some .blob
  | "Uuid" => some .uuid
  | "TimeUuid" => some .timeUuid
  | "Timestamp" => some .timestamp
  | _ => none

def CqlType.read? : Json → Option CqlType
  | .string name => simpleOf? name
  | .object [("List", element)] => (read? element).map .list
  | .object [("Set", element)] => (read? element).map .set
  | .object [("Map", .array [key, value])] => do
    let key ← read? key
    let value ← read? value
    return .map key value
  | _ => none

namespace FieldType

def simpleOf? : String → Option FieldType
  | "Boolean" => some .boolean
  | "Byte" => some .byte
  | "Bytes" => some .bytes
  | "Int" => some .int
  | "BigInt" => some .bigInt
  | "Double" => some .double
  | "Text" => some .text
  | "Uuid" => some .uuid
  | "Timestamp" => some .timestamp
  | "Counter" => some .counter
  | _ => none

def read? : Json → Option FieldType
  | .string name => simpleOf? name
  | .object [("Enum", declared)] => do
    let name ← declared.required? "name" Json.string?
    let constants ← declared.listMember? "variants" Json.string?
    return .enum name constants
  | .object [("Object", declared)] => (declared.required? "type_name" Json.string?).map .object
  | .object [("List", element)] => (read? element).map .list
  | .object [("Set", element)] => (read? element).map .set
  | .object [("Map", .array [key, value])] => do
    let key ← read? key
    let value ← read? value
    return .map key value
  | _ => none

def toJson : FieldType → Json
  | .enum name constants => .tagged "Enum"
      (.object [("name", .string name), ("variants", .ofStrings constants)])
  | .object typeName => .tagged "Object" (.object [("type_name", .string typeName)])
  | .list element => .tagged "List" (toJson element)
  | .set element => .tagged "Set" (toJson element)
  | .map key value => .tagged "Map" (.array [toJson key, toJson value])
  | simple => .string simple.shown

end FieldType

end CqlMapper
