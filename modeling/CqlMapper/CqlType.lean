/-! Column types of the store. -/

namespace CqlMapper

inductive CqlType where
  | boolean | tinyInt | int | bigInt | counter | double | text | blob | uuid | timeUuid | timestamp
  | list (element : CqlType)
  | set (element : CqlType)
  | map (key value : CqlType)
  deriving DecidableEq, Inhabited

namespace CqlType

def name : CqlType → String
  | .boolean => "boolean"
  | .tinyInt => "tinyint"
  | .int => "int"
  | .bigInt => "bigint"
  | .counter => "counter"
  | .double => "double"
  | .text => "text"
  | .blob => "blob"
  | .uuid => "uuid"
  | .timeUuid => "timeuuid"
  | .timestamp => "timestamp"
  | .list element => "list<" ++ name element ++ ">"
  | .set element => "set<" ++ name element ++ ">"
  | .map key value => "map<" ++ name key ++ ", " ++ name value ++ ">"

def isCollection : CqlType → Bool
  | .list _ | .set _ | .map _ _ => true
  | _ => false

end CqlType

end CqlMapper
