/-! Hexadecimal digits, lower case when written. -/

namespace CqlMapper.Text

def hexDigit (value : Nat) : Char :=
  if value < 10 then Char.ofNat (0x30 + value) else Char.ofNat (0x61 + (value - 10))

def hexValue? (c : Char) : Option Nat :=
  if '0' ≤ c && c ≤ '9' then some (c.toNat - 0x30)
  else if 'a' ≤ c && c ≤ 'f' then some (c.toNat - 0x61 + 10)
  else if 'A' ≤ c && c ≤ 'F' then some (c.toNat - 0x41 + 10)
  else none

def hexDigits : Nat → Nat → List Char
  | 0, _ => []
  | count + 1, value => hexDigits count (value / 16) ++ [hexDigit (value % 16)]

def hexNumber? (digits : List Char) : Option Nat :=
  digits.foldlM (fun total c => (hexValue? c).map (total * 16 + ·)) 0

def hexByte (byte : UInt8) : List Char :=
  hexDigits 2 byte.toNat

def hexBytes (bytes : List UInt8) : String :=
  String.ofList (bytes.flatMap hexByte)

def readHexPairs? : List Char → Option (List UInt8)
  | [] => some []
  | [_] => none
  | high :: low :: rest => do
    let value ← hexNumber? [high, low]
    let bytes ← readHexPairs? rest
    return UInt8.ofNat value :: bytes

def readHexBytes? (text : String) : Option (List UInt8) :=
  readHexPairs? text.toList

def hexNatural (value : Nat) : String :=
  String.ofList (Nat.toDigits 16 value)

end CqlMapper.Text
