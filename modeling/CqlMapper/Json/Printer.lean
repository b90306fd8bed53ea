import CqlMapper.Decimal.Style
import CqlMapper.Json.Basic
import CqlMapper.Text.Shown

/-! JSON values as compact JSON text, and as they are shown in messages. -/

namespace CqlMapper

/-- Positional from 1e-5 to below 1e16, and an exponent always has a sign. -/
def JsonNumber.style : Decimal.Style :=
  ⟨-5, 16, "e+", .even, "null", "null"⟩

def JsonNumber.text : JsonNumber → String
  | .integer value => toString value
  | .double value => JsonNumber.style.text value

namespace Json

def escapedChar (c : Char) : List Char :=
  match c with
  | '"' => ['\\', '"']
  | '\\' => ['\\', '\\']
  | '\n' => ['\\', 'n']
  | '\r' => ['\\', 'r']
  | '\t' => ['\\', 't']
  | c =>
    if c.toNat = 8 then ['\\', 'b']
    else if c.toNat = 12 then ['\\', 'f']
    else if c.toNat < 32 then '\\' :: 'u' :: Text.hexDigits 4 c.toNat
    else [c]

def stringText (text : String) : String :=
  String.ofList ('"' :: text.toList.flatMap escapedChar ++ ['"'])

mutual

def text : Json → String
  | .null => "null"
  | .bool value => Text.shownBool value
  | .number value => value.text
  | .string value => stringText value
  | .array items => "[" ++ ",".intercalate (itemTexts items) ++ "]"
  | .object members => "\x7b" ++ ",".intercalate (memberTexts members) ++ "\x7d"
termination_by structural json => json

def itemTexts : List Json → List String
  | [] => []
  | item :: rest => text item :: itemTexts rest
termination_by structural items => items

def memberTexts : List (String × Json) → List String
  | [] => []
  | (key, item) :: rest => (stringText key ++ ":" ++ text item) :: memberTexts rest
termination_by structural members => members

end

mutual

def shown : Json → String
  | .null => "Null"
  | .bool value => Text.applied "Bool" [Text.shownBool value]
  | .number value => Text.applied "Number" [value.text]
  | .string value => Text.applied "String" [Text.quoted value]
  | .array items => "Array " ++ Text.shownList (shownItems items)
  | .object members => "Object " ++ Text.shownEntries (shownMembers members)
termination_by structural json => json

def shownItems : List Json → List String
  | [] => []
  | item :: rest => shown item :: shownItems rest
termination_by structural items => items

def shownMembers : List (String × Json) → List (String × String)
  | [] => []
  | (key, item) :: rest => (Text.quoted key, shown item) :: shownMembers rest
termination_by structural members => members

end

end Json

end CqlMapper
