import CqlMapper.Text.Shown

/-! Declared types of entity properties, and the hints that steer the choice of a codec. -/

namespace CqlMapper

inductive FieldType where
  | boolean | byte | bytes | int | bigInt | double | text | uuid | timestamp | counter
  | enum (name : String) (constants : List String)
  | object (typeName : String)
  | list (element : FieldType)
  | set (element : FieldType)
  | map (key value : FieldType)
  deriving DecidableEq, Inhabited

namespace FieldType

def isCollection : FieldType → Bool
  | .list _ | .set _ | .map _ _ => true
  | _ => false

def isList : FieldType → Bool
  | .list _ => true
  | _ => false

def isSet : FieldType → Bool
  | .set _ => true
  | _ => false

def isMap : FieldType → Bool
  | .map _ _ => true
  | _ => false

def shown : FieldType → String
  | .boolean => "Boolean"
  | .byte => "Byte"
  | .bytes => "Bytes"
  | .int => "Int"
  | .bigInt => "BigInt"
  | .double => "Double"
  | .text => "Text"
  | .uuid => "Uuid"
  | .timestamp => "Timestamp"
  | .counter => "Counter"
  | .enum name constants => Text.shownRecord "Enum" [("name", Text.quoted name),
      ("variants", Text.shownList (constants.map Text.quoted))]
  | .object typeName => Text.shownRecord "Object" [("type_name", Text.quoted typeName)]
  | .list element => Text.applied "List" [shown element]
  | .set element => Text.applied "Set" [shown element]
  | .map key value => Text.applied "Map" [shown key, shown value]

end FieldType

inductive EnumEncoding where
  | name | ordinal
  deriving DecidableEq, Inhabited

structure CodecHints where
  /-- For the value, or for the elements or values of a collection. -/
  enumEncoding : Option EnumEncoding
  /-- For the keys of a map. -/
  keyEnumEncoding : Option EnumEncoding
  timeUuid : Bool
  deriving DecidableEq, Inhabited

def CodecHints.standard : CodecHints := ⟨none, none, false⟩

end CqlMapper
