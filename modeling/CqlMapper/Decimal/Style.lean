import CqlMapper.Decimal.Shortest

/-! How a format spells a double: where positional notation ends, and how an exponent looks. -/

namespace CqlMapper.Decimal

structure Style where
  /-- The least exponent of the first digit that is still written positionally. -/
  leastPositional : Int
  /-- The least exponent of the first digit that is written with an exponent again. -/
  firstScientific : Int
  exponentMark : String
  tie : Tie
  nan : String
  infinity : String

def digitText (digits : Digits) : List Char :=
  Nat.toDigits 10 digits.value

def Digits.order (digits : Digits) : Int :=
  digits.exponent + (digitText digits).length - 1

def positional (digits : Digits) : String :=
  let text := digitText digits
  if 0 ≤ digits.exponent then
    String.ofList (text ++ List.replicate digits.exponent.toNat '0') ++ ".0"
  else
    let places := (-digits.exponent).toNat
    let padded := List.replicate (places + 1 - text.length) '0' ++ text
    let whole := padded.length - places
    String.ofList (padded.take whole) ++ "." ++ String.ofList (padded.drop whole)

def scientific (style : Style) (digits : Digits) : String :=
  let mantissa := match digitText digits with
    | first :: [] => String.ofList [first]
    | first :: rest => String.ofList (first :: '.' :: rest)
    | [] => ""
  let order := digits.order
  let mark := if 0 ≤ order then style.exponentMark else "e-"
  mantissa ++ mark ++ toString order.natAbs

def magnitude (style : Style) (d : Double) : String :=
  if d.significand = 0 then "0.0"
  else
    let digits := shortest style.tie d
    if style.leastPositional ≤ digits.order ∧ digits.order < style.firstScientific then
      positional digits
    else scientific style digits

def Style.text (style : Style) (d : Double) : String :=
  if d.isNaN then style.nan
  else
    let sign := if d.isNegative then "-" else ""
    sign ++ if d.isFinite then magnitude style d else style.infinity

end CqlMapper.Decimal
