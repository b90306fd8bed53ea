import CqlMapper.Json.Basic

/-!
Scalars and lists as JSON values, and JSON values read as scalars of a fixed range, as lists and as
objects with known members.
-/

namespace CqlMapper.Json

def tagged (tag : String) (payload : Json) : Json :=
  .object [(tag, payload)]

/-- JSON has no spelling for a double that is not finite. -/
def ofDouble (value : Double) : Json :=
  if value.isFinite then .double value else .null

def ofBytes (bytes : List UInt8) : Json :=
  .array (bytes.map fun byte => .integer (byte.toNat : Int))

def integer? : Json → Option Int
  | .number (.integer value) => some value
  | _ => none

def integerWithin? (bits : Nat) (json : Json) : Option Int :=
  let bound : Nat := 1 <<< (bits - 1)
  json.integer?.bind fun value => if -bound ≤ value ∧ value < bound then some value else none

def int8? (json : Json) : Option Int8 :=
  (json.integerWithin? 8).map Int8.ofInt

def int32? (json : Json) : Option Int32 :=
  (json.integerWithin? 32).map Int32.ofInt

def int64? (json : Json) : Option Int64 :=
  (json.integerWithin? 64).map Int64.ofInt

def natural? (json : Json) : Option Nat :=
  json.integer?.bind fun value => if 0 ≤ value then some value.toNat else none

def byte? (json : Json) : Option UInt8 :=
  json.natural?.bind fun value => if value < 256 then some (UInt8.ofNat value) else none

def string? : Json → Option String
  | .string value => some value
  | _ => none

def bool? : Json → Option Bool
  | .bool value => some value
  | _ => none

def double? : Json → Option Double
  | .number (.double value) => some value
  | _ => none

def items? : Json → Option (List Json)
  | .array items => some items
  | _ => none

def bytes? (json : Json) : Option (List UInt8) :=
  json.items?.bind fun items => items.mapM byte?

def ofNat (value : Nat) : Json :=
  .integer value

def ofList {α : Type} (write : α → Json) (items : List α) : Json :=
  .array (items.map write)

def ofStrings (items : List String) : Json :=
  ofList .string items

def ofPairs {α β : Type} (first : α → Json) (second : β → Json) (pairs : List (α × β)) : Json :=
  ofList (fun pair => .array [first pair.1, second pair.2]) pairs

def ofOption {α : Type} (write : α → Json) : Option α → Json
  | some value => write value
  | none => .null

/-- Missing and null members are the same. -/
def member? (json : Json) (key : String) : Option Json :=
  match json.get? key with
  | some .null | none => none
  | some value => some value

def required? {α : Type} (json : Json) (key : String) (read : Json → Option α) : Option α :=
  (json.member? key).bind read

/-- A member that may be missing, but is readable when it is there. -/
def optional? {α : Type} (json : Json) (key : String) (read : Json → Option α) :
    Option (Option α) :=
  match json.member? key with
  | some value => (read value).map some
  | none => some none

/-- False when missing. -/
def flag? (json : Json) (key : String) : Option Bool :=
  (json.optional? key bool?).map fun given => given.getD false

def list? {α : Type} (read : Json → Option α) (json : Json) : Option (List α) :=
  json.items?.bind fun items => items.mapM read

/-- Empty when missing. -/
def listMember? {α : Type} (json : Json) (key : String) (read : Json → Option α) :
    Option (List α) :=
  (json.optional? key (list? read)).map fun given => given.getD []

def pair? {α β : Type} (first : Json → Option α) (second : Json → Option β) :
    Json → Option (α × β)
  | .array [a, b] => do
    let a ← first a
    let b ← second b
    return (a, b)
  | _ => none

def constant? {α : Type} (all : List α) (name : α → String) (json : Json) : Option α :=
  json.string?.bind fun given => all.find? fun value => name value == given

end CqlMapper.Json
