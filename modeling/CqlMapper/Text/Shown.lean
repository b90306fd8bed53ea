import CqlMapper.Text.Hex
import CqlMapper.Text.Printable

/-!
The one-line text of structured values, as it appears in messages and logs. Texts stand in double
quotes there, with hidden characters shown by their numbers.
-/

namespace CqlMapper.Text

def quotedChar (c : Char) : String :=
  if c = '"' then "\\\""
  else if c = '\\' then "\\\\"
  else if c = '\n' then "\\n"
  else if c = '\r' then "\\r"
  else if c = '\t' then "\\t"
  else if c.toNat = 0 then "\\0"
  else if isHidden c then "\\u\x7b" ++ hexNatural c.toNat ++ "\x7d"
  else c.toString

def quoted (text : String) : String :=
  "\"" ++ String.join (text.toList.map quotedChar) ++ "\""

def commaSeparated (items : List String) : String :=
  ", ".intercalate items

/-- A constructor with its arguments: `Name(a, b)`. -/
def applied (name : String) (arguments : List String) : String :=
  name ++ "(" ++ commaSeparated arguments ++ ")"

def shownFields (fields : List (String × String)) : String :=
  commaSeparated (fields.map fun field => field.1 ++ ": " ++ field.2)

def shownRecord (name : String) (fields : List (String × String)) : String :=
  name ++ " \x7b " ++ shownFields fields ++ " \x7d"

/-- A structure that keeps some of its fields to itself. -/
def shownPart (name : String) (fields : List (String × String)) : String :=
  name ++ " \x7b " ++ shownFields fields ++ ", .. \x7d"

def shownList (items : List String) : String :=
  "[" ++ commaSeparated items ++ "]"

def shownPair (first second : String) : String :=
  "(" ++ first ++ ", " ++ second ++ ")"

def shownEntries (entries : List (String × String)) : String :=
  "\x7b" ++ shownFields entries ++ "\x7d"

def shownOption (item : Option String) : String :=
  match item with
  | some text => applied "Some" [text]
  | none => "None"

def shownBool (value : Bool) : String :=
  if value then "true" else "false"

end CqlMapper.Text
