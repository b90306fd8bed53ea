import CqlMapper.Decimal.Double
import CqlMapper.Keyed

/-! JSON values, with integers and doubles kept apart. -/

namespace CqlMapper

/-- Integers from -2^63 to 2^64 - 1 stay exact; every other number is a finite double. -/
inductive JsonNumber where
  | integer (value : Int)
  | double (value : Double)
  deriving DecidableEq, Inhabited

/-- Members of an object as a reader finds them, or sorted by key in a settled value. -/
inductive Json where
  | null
  | bool (value : Bool)
  | number (value : JsonNumber)
  | string (value : String)
  | array (items : List Json)
  | object (members : List (String × Json))
  deriving Inhabited

/-- Doubles are equal as numbers, and never equal to an integer. -/
def JsonNumber.same : JsonNumber → JsonNumber → Bool
  | .integer a, .integer b => a == b
  | .double a, .double b => a.sameNumber b
  | _, _ => false

namespace Json

mutual

def same : Json → Json → Bool
  | .null, .null => true
  | .bool a, .bool b => a == b
  | .number a, .number b => a.same b
  | .string a, .string b => a == b
  | .array as, .array bs => sameItems as bs
  | .object as, .object bs => sameMembers as bs
  | _, _ => false
termination_by structural json => json

def sameItems : List Json → List Json → Bool
  | [], [] => true
  | a :: as, b :: bs => same a b && sameItems as bs
  | _, _ => false
termination_by structural items => items

def sameMembers : List (String × Json) → List (String × Json) → Bool
  | [], [] => true
  | (key, a) :: as, other :: bs => key == other.1 && same a other.2 && sameMembers as bs
  | _, _ => false
termination_by structural members => members

end

mutual

/-- Sorts the members of every object; the last of several with one key is kept. -/
def settled : Json → Json
  | .array items => .array (settledItems items)
  | .object members => .object (Keyed.ofList (settledMembers members))
  | .null => .null
  | .bool value => .bool value
  | .number value => .number value
  | .string value => .string value
termination_by structural json => json

def settledItems : List Json → List Json
  | [] => []
  | item :: rest => settled item :: settledItems rest
termination_by structural items => items

def settledMembers : List (String × Json) → List (String × Json)
  | [] => []
  | (key, item) :: rest => (key, settled item) :: settledMembers rest
termination_by structural members => members

end

def integer (value : Int) : Json :=
  .number (.integer value)

def double (value : Double) : Json :=
  .number (.double value)

def get? (json : Json) (key : String) : Option Json :=
  match json with
  | .object members => Keyed.get? members key
  | _ => none

end Json

end CqlMapper
