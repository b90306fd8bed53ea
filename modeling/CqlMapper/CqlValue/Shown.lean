import CqlMapper.CqlValue.Basic
import CqlMapper.Text.Number

/-! Store values as they are shown in messages and logs. -/

namespace CqlMapper.CqlValue

mutual

def shown : CqlValue → String
  | .null => "Null"
  | .boolean value => Text.applied "Boolean" [Text.shownBool value]
  | .tinyInt value => Text.applied "TinyInt" [Text.shownInt value.toInt]
  | .int value => Text.applied "Int" [Text.shownInt value.toInt]
  | .bigInt value => Text.applied "BigInt" [Text.shownInt value.toInt]
  | .counter value => Text.applied "Counter" [Text.shownInt value.toInt]
  | .double value => Text.applied "Double" [Text.shownDouble value]
  | .text value => Text.applied "Text" [Text.quoted value]
  | .blob value => Text.applied "Blob" [Text.shownBytes value]
  | .uuid value => Text.applied "Uuid" [value.text]
  | .timeUuid value => Text.applied "TimeUuid" [value.text]
  | .timestamp value => Text.applied "Timestamp" [Text.shownInt value.toInt]
  | .list items => Text.applied "List" [Text.shownList (shownItems items)]
  | .set items => Text.applied "Set" [Text.shownList (shownItems items)]
  | .map entries => Text.applied "Map" [Text.shownList (shownPairs entries)]
termination_by structural value => value

def shownItems : List CqlValue → List String
  | [] => []
  | item :: rest => shown item :: shownItems rest
termination_by structural items => items

def shownPairs : List (CqlValue × CqlValue) → List String
  | [] => []
  | (key, value) :: rest => Text.shownPair (shown key) (shown value) :: shownPairs rest
termination_by structural entries => entries

end

def shownAll (values : List CqlValue) : String :=
  Text.shownList (shownItems values)

end CqlMapper.CqlValue
