import CqlMapper.FieldValue.Basic
import CqlMapper.Json.Printer
import CqlMapper.Text.Number

/-! Property values as they are shown in messages. -/

namespace CqlMapper.FieldValue

mutual

def shown : FieldValue → String
  | .null => "Null"
  | .boolean value => Text.applied "Boolean" [Text.shownBool value]
  | .byte value => Text.applied "Byte" [Text.shownInt value.toInt]
  | .int value => Text.applied "Int" [Text.shownInt value.toInt]
  | .bigInt value => Text.applied "BigInt" [Text.shownInt value.toInt]
  | .double value => Text.applied "Double" [Text.shownDouble value]
  | .text value => Text.applied "Text" [Text.quoted value]
  | .bytes value => Text.applied "Bytes" [Text.shownBytes value]
  | .uuid value => Text.applied "Uuid" [value.text]
  | .timestamp value => Text.applied "Timestamp" [Text.shownInt value.toInt]
  | .enum constant => Text.applied "Enum" [Text.quoted constant]
  | .object value => Text.applied "Object" [value.shown]
  | .counter delta => Text.applied "Counter" [Text.shownInt delta.toInt]
  | .list items => Text.applied "List" [Text.shownList (shownItems items)]
  | .set items => Text.applied "Set" [Text.shownList (shownItems items)]
  | .map entries => Text.applied "Map" [Text.shownList (shownPairs entries)]
termination_by structural value => value

def shownItems : List FieldValue → List String
  | [] => []
  | item :: rest => shown item :: shownItems rest
termination_by structural items => items

def shownPairs : List (FieldValue × FieldValue) → List String
  | [] => []
  | (key, value) :: rest => Text.shownPair (shown key) (shown value) :: shownPairs rest
termination_by structural entries => entries

end

end CqlMapper.FieldValue
