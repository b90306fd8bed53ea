import CqlMapper.Decimal.Style
import CqlMapper.Text.Shown

/-! Numbers and bytes as they are shown in messages. -/

namespace CqlMapper.Text

/-- Positional from 1e-4 to below 1e16; of two nearest shortest decimals the upper is shown. -/
def shownDoubleStyle : Decimal.Style :=
  ⟨-4, 16, "e", .up, "NaN", "inf"⟩

def shownDouble (value : Double) : String :=
  shownDoubleStyle.text value

def shownInt (value : Int) : String :=
  toString value

def shownNat (value : Nat) : String :=
  toString value

def shownBytes (bytes : List UInt8) : String :=
  shownList (bytes.map fun byte => shownNat byte.toNat)

end CqlMapper.Text
