import CqlMapper.Decimal.Double

/-!
Reading a decimal number. Digits are gathered into one natural of at most 64 bits, further digits
of the whole part only count, and the natural is scaled by a power of ten in double precision.
-/

namespace CqlMapper.Decimal

def digitValue (c : Char) : Nat :=
  c.toNat - '0'.toNat

def greatestSignificand : Nat := UInt64.size - 1

/-- Appends digits to a natural for as long as it fits; also gives the number of digits left. -/
def gather (significand : Nat) : List Char → Nat × Nat
  | [] => (significand, 0)
  | c :: rest =>
    let longer := significand * 10 + digitValue c
    if longer ≤ greatestSignificand then gather longer rest
    else (significand, rest.length + 1)

def powerOfTen (exponent : Nat) : Double :=
  (Double.ofNat? (Nat.pow 10 exponent)).getD ⟨0⟩

def greatestPower : Nat := 308

/-- Divides by a power of ten in steps of the greatest one. A number of 64 bits vanishes in the
second full step. -/
def scaleDown : Nat → Double → Nat → Option Double
  | 0, _, _ => some ⟨0⟩
  | steps + 1, value, exponent =>
    if exponent ≤ greatestPower then value.quotient? (powerOfTen exponent)
    else do
      let smaller ← value.quotient? (powerOfTen greatestPower)
      if smaller.significand = 0 then return smaller
      scaleDown steps smaller (exponent - greatestPower)

/-- A natural times a power of ten; none when the result is beyond the doubles. -/
def scaled? (significand : Nat) (exponent : Int) : Option Double :=
  if significand = 0 then some ⟨0⟩
  else do
    let value ← Double.ofNat? significand
    if exponent < 0 then scaleDown 4 value exponent.natAbs
    else if exponent ≤ greatestPower then value.product? (powerOfTen exponent.natAbs)
    else none

end CqlMapper.Decimal
