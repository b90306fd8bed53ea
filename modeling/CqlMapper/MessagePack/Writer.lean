import CqlMapper.CqlValue.Basic
import CqlMapper.Text.Basic

/-!
Lists of bound values as MessagePack bytes. Null is its name; every other value is a map of one
entry from the name of its type to its payload. Every length and integer takes the shortest form.
-/

namespace CqlMapper.MessagePack

/-- The last `count` bytes of a number, the greatest first. -/
def bigEndian : Nat → Nat → List UInt8
  | 0, _ => []
  | count + 1, value => bigEndian count (value / 256) ++ [UInt8.ofNat (value % 256)]

def unsignedBytes (value : Nat) : List UInt8 :=
  if value < 128 then [UInt8.ofNat value]
  else if value < UInt8.size then 0xcc :: bigEndian 1 value
  else if value < UInt16.size then 0xcd :: bigEndian 2 value
  else if value < UInt32.size then 0xce :: bigEndian 4 value
  else 0xcf :: bigEndian 8 value

def negativeBytes (distance : Nat) : List UInt8 :=
  if distance ≤ 32 then [UInt8.ofNat (256 - distance)]
  else if distance ≤ UInt8.size / 2 then 0xd0 :: bigEndian 1 (UInt8.size - distance)
  else if distance ≤ UInt16.size / 2 then 0xd1 :: bigEndian 2 (UInt16.size - distance)
  else if distance ≤ UInt32.size / 2 then 0xd2 :: bigEndian 4 (UInt32.size - distance)
  else 0xd3 :: bigEndian 8 (UInt64.size - distance)

def integerBytes (value : Int) : List UInt8 :=
  if 0 ≤ value then unsignedBytes value.toNat else negativeBytes value.natAbs

def booleanBytes (value : Bool) : List UInt8 :=
  [if value then 0xc3 else 0xc2]

def doubleBytes (value : Double) : List UInt8 :=
  0xcb :: bigEndian 8 value.bits.toNat

def stringHeader (size : Nat) : List UInt8 :=
  if size < 32 then [UInt8.ofNat (0xa0 + size)]
  else if size < UInt8.size then 0xd9 :: bigEndian 1 size
  else if size < UInt16.size then 0xda :: bigEndian 2 size
  else 0xdb :: bigEndian 4 size

def stringBytes (text : String) : List UInt8 :=
  let bytes := Text.utf8Bytes text
  stringHeader bytes.length ++ bytes

def arrayHeader (count : Nat) : List UInt8 :=
  if count < 16 then [UInt8.ofNat (0x90 + count)]
  else if count < UInt16.size then 0xdc :: bigEndian 2 count
  else 0xdd :: bigEndian 4 count

def byteArrayBytes (bytes : List UInt8) : List UInt8 :=
  arrayHeader bytes.length ++ bytes.flatMap fun byte => unsignedBytes byte.toNat

def uuidBytes (id : Uuid) : List UInt8 :=
  0xc4 :: 16 :: id.toList

def taggedBytes (tag : String) (payload : List UInt8) : List UInt8 :=
  0x81 :: stringBytes tag ++ payload

mutual

def valueBytes : CqlValue → List UInt8
  | .null => stringBytes "Null"
  | .boolean value => taggedBytes "Boolean" (booleanBytes value)
  | .tinyInt value => taggedBytes "TinyInt" (integerBytes value.toInt)
  | .int value => taggedBytes "Int" (integerBytes value.toInt)
  | .bigInt value => taggedBytes "BigInt" (integerBytes value.toInt)
  | .counter value => taggedBytes "Counter" (integerBytes value.toInt)
  | .double value => taggedBytes "Double" (doubleBytes value)
  | .text value => taggedBytes "Text" (stringBytes value)
  | .blob value => taggedBytes "Blob" (byteArrayBytes value)
  | .uuid value => taggedBytes "Uuid" (uuidBytes value)
  | .timeUuid value => taggedBytes "TimeUuid" (uuidBytes value)
  | .timestamp value => taggedBytes "Timestamp" (integerBytes value.toInt)
  | .list items => taggedBytes "List" (arrayHeader items.length ++ itemsBytes items)
  | .set items => taggedBytes "Set" (arrayHeader items.length ++ itemsBytes items)
  | .map entries => taggedBytes "Map" (arrayHeader entries.length ++ entriesBytes entries)
termination_by structural value => value

def itemsBytes : List CqlValue → List UInt8
  | [] => []
  | item :: rest => valueBytes item ++ itemsBytes rest
termination_by structural items => items

def entriesBytes : List (CqlValue × CqlValue) → List UInt8
  | [] => []
  | (key, value) :: rest =>
    arrayHeader 2 ++ valueBytes key ++ valueBytes value ++ entriesBytes rest
termination_by structural entries => entries

end

def write (values : List CqlValue) : List UInt8 :=
  arrayHeader values.length ++ itemsBytes values

end CqlMapper.MessagePack
