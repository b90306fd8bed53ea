import CqlMapper.Json.Fields
import CqlMapper.Text.Hex

/-! The two ways in which doubles and bytes are written inside of JSON values. -/

namespace CqlMapper

structure ScalarForm where
  ofDouble : Double → Json
  double? : Json → Option Double
  ofBytes : List UInt8 → Json
  bytes? : Json → Option (List UInt8)

namespace ScalarForm

/-- Doubles are numbers, if they are finite, and bytes are lists of numbers. -/
def numeric : ScalarForm :=
  ⟨Json.ofDouble, Json.double?, Json.ofBytes, Json.bytes?⟩

/-- Hexadecimal text that keeps the pattern of every double. -/
def exact : ScalarForm where
  ofDouble value := .string (String.ofList (Text.hexDigits 16 value.bits.toNat))
  double? json := (json.string?.bind fun text => Text.hexNumber? text.toList).map
    fun bits => ⟨UInt64.ofNat bits⟩
  ofBytes bytes := .string (Text.hexBytes bytes)
  bytes? json := json.string?.bind Text.readHexBytes?

end ScalarForm

end CqlMapper
