import CqlMapper.CqlType
import CqlMapper.Decimal.Double
import CqlMapper.Uuid

/-! Values as the store exchanges them, and the column types that can hold them. -/

namespace CqlMapper

inductive CqlValue where
  | null
  | boolean (value : Bool)
  | tinyInt (value : Int8)
  | int (value : Int32)
  | bigInt (value : Int64)
  | counter (value : Int64)
  | double (value : Double)
  | text (value : String)
  | blob (value : List UInt8)
  | uuid (value : Uuid)
  | timeUuid (value : Uuid)
  | timestamp (value : Int64)
  | list (items : List CqlValue)
  | set (items : List CqlValue)
  | map (entries : List (CqlValue × CqlValue))
  deriving Inhabited

namespace CqlValue

mutual

def equals : CqlValue → CqlValue → Bool
  | .null, .null => true
  | .boolean a, .boolean b => a == b
  | .tinyInt a, .tinyInt b => a == b
  | .int a, .int b => a == b
  | .bigInt a, .bigInt b => a == b
  | .counter a, .counter b => a == b
  | .double a, .double b => a == b
  | .text a, .text b => a == b
  | .blob a, .blob b => a == b
  | .uuid a, .uuid b => a == b
  | .timeUuid a, .timeUuid b => a == b
  | .timestamp a, .timestamp b => a == b
  | .list as, .list bs => equalItems as bs
  | .set as, .set bs => equalItems as bs
  | .map as, .map bs => equalEntries as bs
  | _, _ => false
termination_by structural a => a

def equalItems : List CqlValue → List CqlValue → Bool
  | [], [] => true
  | a :: as, b :: bs => equals a b && equalItems as bs
  | _, _ => false
termination_by structural as => as

def equalEntries : List (CqlValue × CqlValue) → List (CqlValue × CqlValue) → Bool
  | [], [] => true
  | (key, value) :: as, b :: bs => equals key b.1 && equals value b.2 && equalEntries as bs
  | _, _ => false
termination_by structural as => as

end

instance : BEq CqlValue := ⟨equals⟩

mutual

/-- Whether a column of this type can hold the value. Null fits every type. -/
def conformsTo : CqlValue → CqlType → Bool
  | .null, _ => true
  | .boolean _, .boolean => true
  | .tinyInt _, .tinyInt => true
  | .int _, .int => true
  | .bigInt _, .bigInt => true
  | .counter _, .counter => true
  | .bigInt _, .counter => true
  | .double _, .double => true
  | .text _, .text => true
  | .blob _, .blob => true
  | .uuid _, .uuid => true
  | .timeUuid _, .timeUuid => true
  | .uuid _, .timeUuid => true
  | .timestamp _, .timestamp => true
  | .list items, .list element => allConformTo items element
  | .set items, .set element => allConformTo items element
  | .map entries, .map key value => entriesConformTo entries key value
  | _, _ => false
termination_by structural value => value

def allConformTo : List CqlValue → CqlType → Bool
  | [], _ => true
  | item :: rest, element => conformsTo item element && allConformTo rest element
termination_by structural items => items

def entriesConformTo : List (CqlValue × CqlValue) → CqlType → CqlType → Bool
  | [], _, _ => true
  | (k, v) :: rest, key, value =>
    conformsTo k key && conformsTo v value && entriesConformTo rest key value
termination_by structural entries => entries

end

def isNull : CqlValue → Bool
  | .null => true
  | _ => false

def asBoolean? : CqlValue → Option Bool
  | .boolean value => some value
  | _ => none

def asText? : CqlValue → Option String
  | .text value => some value
  | _ => none

end CqlValue

end CqlMapper
