import CqlMapper.CqlValue.Basic
import CqlMapper.Text.Basic

/-!
Reading lists of bound values from MessagePack bytes. Integers and lengths may take any form that
holds them, a type may be named by its text, its bytes or its number, and bytes after the list are
left alone.
-/

namespace CqlMapper.MessagePack

def naturalOf (bytes : List UInt8) : Nat :=
  bytes.foldl (fun total byte => total * 256 + byte.toNat) 0

def take? (count : Nat) (bytes : List UInt8) : Option (List UInt8 × List UInt8) :=
  if count ≤ bytes.length then some (bytes.take count, bytes.drop count) else none

def takeNatural? (count : Nat) (bytes : List UInt8) : Option (Nat × List UInt8) :=
  (take? count bytes).map fun (taken, rest) => (naturalOf taken, rest)

def takeSigned? (count : Nat) (bytes : List UInt8) : Option (Int × List UInt8) :=
  (takeNatural? count bytes).map fun (value, rest) =>
    let range : Nat := 1 <<< (8 * count)
    (if 2 * value < range then (value : Int) else (value : Int) - range, rest)

def widened (single : Nat) : Double :=
  let sign := (single >>> 31) <<< 63
  let exponent := (single >>> 23) % 256
  let fraction := single % (1 <<< 23)
  let magnitude :=
    if exponent = 255 then
      2047 <<< 52 ||| fraction <<< 29 ||| (if fraction = 0 then 0 else 1 <<< 51)
    else if exponent = 0 then
      ((Double.ofQuotient? fraction (1 <<< 149)).getD ⟨0⟩).bits.toNat
    else (exponent + 896) <<< 52 + fraction <<< 29
  ⟨UInt64.ofNat (sign + magnitude)⟩

inductive Token where
  | nil
  | bool (value : Bool)
  | unsigned (value : Nat)
  | signed (value : Int)
  | double (value : Double)
  | string (bytes : List UInt8)
  | binary (bytes : List UInt8)
  | array (count : Nat)
  | map (count : Nat)

def takeString? (sizeBytes : Nat) (bytes : List UInt8) : Option (Token × List UInt8) := do
  let (size, rest) ← takeNatural? sizeBytes bytes
  (take? size rest).map fun (content, rest) => (.string content, rest)

def takeBinary? (sizeBytes : Nat) (bytes : List UInt8) : Option (Token × List UInt8) := do
  let (size, rest) ← takeNatural? sizeBytes bytes
  (take? size rest).map fun (content, rest) => (.binary content, rest)

def longToken? (marker : Nat) (rest : List UInt8) : Option (Token × List UInt8) :=
  match marker with
  | 0xc0 => some (.nil, rest)
  | 0xc2 => some (.bool false, rest)
  | 0xc3 => some (.bool true, rest)
  | 0xc4 => takeBinary? 1 rest
  | 0xc5 => takeBinary? 2 rest
  | 0xc6 => takeBinary? 4 rest
  | 0xca => (takeNatural? 4 rest).map fun (bits, rest) => (.double (widened bits), rest)
  | 0xcb => (takeNatural? 8 rest).map fun (bits, rest) => (.double ⟨UInt64.ofNat bits⟩, rest)
  | 0xcc => (takeNatural? 1 rest).map fun (value, rest) => (.unsigned value, rest)
  | 0xcd => (takeNatural? 2 rest).map fun (value, rest) => (.unsigned value, rest)
  | 0xce => (takeNatural? 4 rest).map fun (value, rest) => (.unsigned value, rest)
  | 0xcf => (takeNatural? 8 rest).map fun (value, rest) => (.unsigned value, rest)
  | 0xd0 => (takeSigned? 1 rest).map fun (value, rest) => (.signed value, rest)
  | 0xd1 => (takeSigned? 2 rest).map fun (value, rest) => (.signed value, rest)
  | 0xd2 => (takeSigned? 4 rest).map fun (value, rest) => (.signed value, rest)
  | 0xd3 => (takeSigned? 8 rest).map fun (value, rest) => (.signed value, rest)
  | 0xd9 => takeString? 1 rest
  | 0xda => takeString? 2 rest
  | 0xdb => takeString? 4 rest
  | 0xdc => (takeNatural? 2 rest).map fun (count, rest) => (.array count, rest)
  | 0xdd => (takeNatural? 4 rest).map fun (count, rest) => (.array count, rest)
  | 0xde => (takeNatural? 2 rest).map fun (count, rest) => (.map count, rest)
  | 0xdf => (takeNatural? 4 rest).map fun (count, rest) => (.map count, rest)
  | _ => none

def token? (bytes : List UInt8) : Option (Token × List UInt8) :=
  match bytes with
  | [] => none
  | byte :: rest =>
    let marker := byte.toNat
    if marker < 0x80 then some (.unsigned marker, rest)
    else if marker < 0x90 then some (.map (marker - 0x80), rest)
    else if marker < 0xa0 then some (.array (marker - 0x90), rest)
    else if marker < 0xc0 then
      (take? (marker - 0xa0) rest).map fun (content, rest) => (.string content, rest)
    else if 0xe0 ≤ marker then some (.signed ((marker : Int) - 256), rest)
    else longToken? marker rest

abbrev Reader (α : Type) := List UInt8 → Option (α × List UInt8)

def readBool : Reader Bool := fun bytes =>
  match token? bytes with
  | some (.bool value, rest) => some (value, rest)
  | _ => none

def readInteger (low high : Int) : Reader Int := fun bytes =>
  let within (value : Int) (rest : List UInt8) :=
    if low ≤ value ∧ value ≤ high then some (value, rest) else none
  match token? bytes with
  | some (.unsigned value, rest) => within value rest
  | some (.signed value, rest) => within value rest
  | _ => none

def readInt64 : Reader Int64 := fun bytes =>
  (readInteger Int64.minValue.toInt Int64.maxValue.toInt bytes).map fun (value, rest) =>
    (Int64.ofInt value, rest)

def readInt32 : Reader Int32 := fun bytes =>
  (readInteger Int32.minValue.toInt Int32.maxValue.toInt bytes).map fun (value, rest) =>
    (Int32.ofInt value, rest)

def readInt8 : Reader Int8 := fun bytes =>
  (readInteger Int8.minValue.toInt Int8.maxValue.toInt bytes).map fun (value, rest) =>
    (Int8.ofInt value, rest)

def readByte : Reader UInt8 := fun bytes =>
  (readInteger 0 255 bytes).map fun (value, rest) => (UInt8.ofNat value.toNat, rest)

def doubleOfInt (value : Int) : Double :=
  let magnitude := (Double.ofNat? value.natAbs).getD ⟨0⟩
  if value < 0 then magnitude.negated else magnitude

/-- An integer is taken for the double nearest to it. -/
def readDouble : Reader Double := fun bytes =>
  match token? bytes with
  | some (.double value, rest) => some (value, rest)
  | some (.unsigned value, rest) => some (doubleOfInt value, rest)
  | some (.signed value, rest) => some (doubleOfInt value, rest)
  | _ => none

def readString : Reader String := fun bytes =>
  match token? bytes with
  | some (.string content, rest) | some (.binary content, rest) =>
    (Text.ofUtf8? content).map fun text => (text, rest)
  | _ => none

/-- Sixteen bytes; a string will do when it is no text. -/
def readUuid : Reader Uuid := fun bytes =>
  match token? bytes with
  | some (.binary content, rest) => (Uuid.ofList? content).map fun id => (id, rest)
  | some (.string content, rest) =>
    match Text.ofUtf8? content with
    | some _ => none
    | none => (Uuid.ofList? content).map fun id => (id, rest)
  | _ => none

def readMany {α : Type} (read : Reader α) : Nat → Reader (List α)
  | 0, bytes => some ([], bytes)
  | count + 1, bytes => do
    let (item, rest) ← read bytes
    let (items, rest) ← readMany read count rest
    return (item :: items, rest)

/-- A reader of what stands inside an array; none where no further array may open. -/
abbrev Inside (α : Type) := Option (Reader α)

/-- An array; no bytes at all will do for an empty one, and they open no array. -/
def readArray {α : Type} (inside : Inside α) : Reader (List α) := fun bytes =>
  match token? bytes, inside with
  | some (.array count, rest), some read => readMany read count rest
  | some (.binary [], rest), _ => some ([], rest)
  | _, _ => none

def readPair {α : Type} (inside : Inside α) : Reader (α × α) := fun bytes =>
  match token? bytes, inside with
  | some (.array 2, rest), some read => do
    let (first, rest) ← read rest
    let (second, rest) ← read rest
    return ((first, second), rest)
  | _, _ => none

/-- An array of small integers, or plain bytes. -/
def readBlob (inside : Inside UInt8) : Reader (List UInt8) := fun bytes =>
  match token? bytes, inside with
  | some (.array count, rest), some read => readMany read count rest
  | some (.binary content, rest), _ => some (content, rest)
  | _, _ => none

def tags : List String :=
  ["Null", "Boolean", "TinyInt", "Int", "BigInt", "Counter", "Double", "Text", "Blob", "Uuid",
    "TimeUuid", "Timestamp", "List", "Set", "Map"]

def tagOfToken? : Token → Option String
  | .unsigned index => tags[index]?
  | .string content | .binary content =>
    (Text.ofUtf8? content).bind fun name => if name ∈ tags then some name else none
  | _ => none

def readNil : Reader CqlValue := fun bytes =>
  match token? bytes with
  | some (.nil, rest) => some (.null, rest)
  | _ => none

def mapped {α : Type} (make : α → CqlValue) (read : Reader α) : Reader CqlValue := fun bytes =>
  (read bytes).map fun (value, rest) => (make value, rest)

/-- What follows the name of a type, given how to read the values and the pairs of values inside an
array. -/
def readPayload (value : Inside CqlValue) (pair : Inside (CqlValue × CqlValue)) (tag : String) :
    Reader CqlValue :=
  match tag with
  | "Null" => readNil
  | "Boolean" => mapped .boolean readBool
  | "TinyInt" => mapped .tinyInt readInt8
  | "Int" => mapped .int readInt32
  | "BigInt" => mapped .bigInt readInt64
  | "Counter" => mapped .counter readInt64
  | "Double" => mapped .double readDouble
  | "Text" => mapped .text readString
  | "Blob" => mapped .blob (readBlob (value.map fun _ => readByte))
  | "Uuid" => mapped .uuid readUuid
  | "TimeUuid" => mapped .timeUuid readUuid
  | "Timestamp" => mapped .timestamp readInt64
  | "List" => mapped .list (readArray value)
  | "Set" => mapped .set (readArray value)
  | "Map" => mapped .map (readArray pair)
  | _ => fun _ => none

def readTagged (value : Inside CqlValue) (pair : Inside (CqlValue × CqlValue)) :
    Reader CqlValue := fun bytes => do
  match ← token? bytes with
  | (.map 1, rest) =>
    let (token, rest) ← token? rest
    readPayload value pair (← tagOfToken? token) rest
  | (.map _, _) => none
  | (token, rest) => if tagOfToken? token = some "Null" then some (.null, rest) else none

/-- A value with at most so many arrays inside one another. Each entry of a map is an array too. -/
def readValue : Nat → Reader CqlValue
  | 0, bytes => readTagged none none bytes
  | 1, bytes => readTagged (some (readValue 0)) (some (readPair none)) bytes
  | depth + 2, bytes =>
    readTagged (some (readValue (depth + 1))) (some (readPair (some (readValue depth)))) bytes

def greatestDepth : Nat := 1023

def read? (bytes : List UInt8) : Option (List CqlValue) :=
  (readArray (some (readValue (greatestDepth - 1))) bytes).map (·.1)

end CqlMapper.MessagePack
