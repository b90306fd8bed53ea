import CqlMapper.Codec.Element
import CqlMapper.Json.Printer

/-! A mapper of structured values whose texts begin with the name of their type. -/

namespace CqlMapper

def untagged? (typeName text : String) : Option String :=
  let tag := typeName.toList ++ ['|']
  let chars := text.toList
  if chars.take tag.length = tag then some (String.ofList (chars.drop tag.length)) else none

/-- Reading gives what follows the tag as a JSON string, whatever was written. -/
def ObjectMapper.tagged : ObjectMapper where
  encode typeName value :=
    match value with
    | .null => .error (.unmappable (typeName ++ " refuses null"))
    | value => .ok (typeName ++ "|" ++ value.text)
  decode typeName text :=
    match untagged? typeName text with
    | some content => .ok (.string content)
    | none => .error (.unmappable (typeName ++ " tag missing"))

end CqlMapper
