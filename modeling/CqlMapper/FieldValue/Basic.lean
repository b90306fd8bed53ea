import CqlMapper.Json.Basic
import CqlMapper.Uuid

/-!
Values of entity properties in memory. Sets are equal when they have the same number of elements
and each element of the first has an equal one in the second, and maps likewise by entry.
-/

namespace CqlMapper

inductive FieldValue where
  | null
  | boolean (value : Bool)
  | byte (value : Int8)
  | int (value : Int32)
  | bigInt (value : Int64)
  | double (value : Double)
  | text (value : String)
  | bytes (value : List UInt8)
  | uuid (value : Uuid)
  /-- Milliseconds since the Unix epoch. -/
  | timestamp (value : Int64)
  | enum (constant : String)
  /-- A structured value that is stored as JSON text. -/
  | object (value : Json)
  | counter (delta : Int64)
  | list (items : List FieldValue)
  | set (items : List FieldValue)
  | map (entries : List (FieldValue × FieldValue))
  deriving Inhabited

namespace FieldValue

mutual

def equals : FieldValue → FieldValue → Bool
  | .null, .null => true
  | .boolean a, .boolean b => a == b
  | .byte a, .byte b => a == b
  | .int a, .int b => a == b
  | .bigInt a, .bigInt b => a == b
  | .double a, .double b => a == b
  | .text a, .text b => a == b
  | .bytes a, .bytes b => a == b
  | .uuid a, .uuid b => a == b
  | .timestamp a, .timestamp b => a == b
  | .enum a, .enum b => a == b
  | .object a, .object b => a.same b
  | .counter a, .counter b => a == b
  | .list as, .list bs => equalItems as bs
  | .set as, .set bs => as.length == bs.length && allFoundIn as bs
  | .map as, .map bs => as.length == bs.length && allEntriesFoundIn as bs
  | _, _ => false
termination_by structural a => a

/-- Whether `b` equals `a`, by recursion on `a`. The two orders differ on sets and maps that
repeat an element or a key. -/
def equaledBy : FieldValue → FieldValue → Bool
  | .null, .null => true
  | .boolean a, .boolean b => b == a
  | .byte a, .byte b => b == a
  | .int a, .int b => b == a
  | .bigInt a, .bigInt b => b == a
  | .double a, .double b => b == a
  | .text a, .text b => b == a
  | .bytes a, .bytes b => b == a
  | .uuid a, .uuid b => b == a
  | .timestamp a, .timestamp b => b == a
  | .enum a, .enum b => b == a
  | .object a, .object b => b.same a
  | .counter a, .counter b => b == a
  | .list as, .list bs => itemsEqualedBy as bs
  | .set as, .set bs => bs.length == as.length && bs.all fun b => anyEquals as b
  | .map as, .map bs => bs.length == as.length && bs.all fun b => anyEntryMatches as b.1 b.2
  | _, _ => false
termination_by structural a => a

def equalItems : List FieldValue → List FieldValue → Bool
  | [], [] => true
  | a :: as, b :: bs => equals a b && equalItems as bs
  | _, _ => false
termination_by structural as => as

def itemsEqualedBy : List FieldValue → List FieldValue → Bool
  | [], [] => true
  | a :: as, b :: bs => equaledBy a b && itemsEqualedBy as bs
  | _, _ => false
termination_by structural as => as

def allFoundIn : List FieldValue → List FieldValue → Bool
  | [], _ => true
  | a :: as, bs => bs.any (fun b => equaledBy a b) && allFoundIn as bs
termination_by structural as => as

def anyEquals : List FieldValue → FieldValue → Bool
  | [], _ => false
  | a :: as, b => equals a b || anyEquals as b
termination_by structural as => as

def allEntriesFoundIn :
    List (FieldValue × FieldValue) → List (FieldValue × FieldValue) → Bool
  | [], _ => true
  | (key, value) :: as, bs =>
    bs.any (fun b => equals key b.1 && equals value b.2) && allEntriesFoundIn as bs
termination_by structural as => as

def anyEntryMatches : List (FieldValue × FieldValue) → FieldValue → FieldValue → Bool
  | [], _, _ => false
  | (key, value) :: as, otherKey, otherValue =>
    (equaledBy key otherKey && equaledBy value otherValue) || anyEntryMatches as otherKey otherValue
termination_by structural as => as

end

instance : BEq FieldValue := ⟨equals⟩

def contained (items : List FieldValue) (value : FieldValue) : Bool :=
  items.any (· == value)

def addNew (items : List FieldValue) (value : FieldValue) : List FieldValue :=
  if contained items value then items else items ++ [value]

def without (items : List FieldValue) (value : FieldValue) : List FieldValue :=
  items.filter fun item => !(item == value)

/-- Replaces the value of the first entry with an equal key, or appends the entry. -/
def putEntry (key value : FieldValue) :
    List (FieldValue × FieldValue) → List (FieldValue × FieldValue)
  | [] => [(key, value)]
  | entry :: rest =>
    if entry.1 == key then (entry.1, value) :: rest else entry :: putEntry key value rest

def withoutKey (entries : List (FieldValue × FieldValue)) (key : FieldValue) :
    List (FieldValue × FieldValue) :=
  entries.filter fun entry => !(entry.1 == key)

/-- A set of the given values, in the order of their first appearance. -/
def setOf (values : List FieldValue) : FieldValue :=
  .set (values.foldl addNew [])

/-- A map of the given entries; of those with equal keys the last value counts. -/
def mapOf (entries : List (FieldValue × FieldValue)) : FieldValue :=
  .map (entries.foldl (fun kept entry => putEntry entry.1 entry.2 kept) [])

def isNull : FieldValue → Bool
  | .null => true
  | _ => false

def asText? : FieldValue → Option String
  | .text value => some value
  | _ => none

def asBigInt? : FieldValue → Option Int64
  | .bigInt value | .counter value => some value
  | _ => none

def asBoolean? : FieldValue → Option Bool
  | .boolean value => some value
  | _ => none

def elements? : FieldValue → Option (List FieldValue)
  | .list items | .set items => some items
  | _ => none

def entries? : FieldValue → Option (List (FieldValue × FieldValue))
  | .map entries => some entries
  | _ => none

def kindName : FieldValue → String
  | .null => "null"
  | .boolean _ => "boolean"
  | .byte _ => "byte"
  | .int _ => "int"
  | .bigInt _ => "bigint"
  | .double _ => "double"
  | .text _ => "text"
  | .bytes _ => "bytes"
  | .uuid _ => "uuid"
  | .timestamp _ => "timestamp"
  | .enum _ => "enum"
  | .object _ => "object"
  | .counter _ => "counter"
  | .list _ => "list"
  | .set _ => "set"
  | .map _ => "map"

end FieldValue

end CqlMapper
