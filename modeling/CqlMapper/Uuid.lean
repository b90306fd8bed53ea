import CqlMapper.Text.Hex

/-! Universally unique identifiers: sixteen bytes, written in five hyphenated groups. -/

namespace CqlMapper

structure Uuid where
  bytes : Vector UInt8 16
  deriving DecidableEq, Inhabited

namespace Uuid

def toList (id : Uuid) : List UInt8 :=
  id.bytes.toList

def ofList? (bytes : List UInt8) : Option Uuid :=
  if sized : bytes.length = 16 then some ⟨⟨bytes.toArray, by simpa using sized⟩⟩ else none

def text (id : Uuid) : String :=
  let group (start count : Nat) := Text.hexBytes ((id.toList.drop start).take count)
  "-".intercalate [group 0 4, group 4 2, group 6 2, group 8 2, group 10 6]

def read? (text : String) : Option Uuid :=
  match (text.splitOn "-").map String.toList with
  | [a, b, c, d, e] =>
    if [a.length, b.length, c.length, d.length, e.length] = [8, 4, 4, 4, 12] then
      (Text.readHexPairs? (a ++ b ++ c ++ d ++ e)).bind ofList?
    else none
  | _ => none

end Uuid

end CqlMapper
