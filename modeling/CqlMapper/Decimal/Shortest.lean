import CqlMapper.Decimal.Double

/-!
The shortest decimal that reads back as a given double. For each count of digits the two decimals
around the number are tried; the first count with one that rounds to the number wins, and of two
such decimals the nearer one.
-/

namespace CqlMapper.Decimal

/-- A positive decimal number: a natural times a power of ten. -/
structure Digits where
  value : Nat
  exponent : Int
  deriving DecidableEq, Inhabited

inductive Tie where
  | up | even
  deriving DecidableEq

/-- The numbers that round to a double, as numerators over one denominator. -/
structure Interval where
  low : Nat
  middle : Nat
  high : Nat
  denominator : Nat
  closed : Bool

/-- The lower half is narrower just above a power of two. -/
def Interval.around (d : Double) : Interval :=
  let scale := 1 <<< d.exponent.toNat
  let gap := if d.fraction = 0 ∧ 1 < d.biasedExponent then 1 else 2
  ⟨(4 * d.significand - gap) * scale, 4 * d.significand * scale, (4 * d.significand + 2) * scale,
    4 * d.denominator, d.significand % 2 == 0⟩

def tenTo (exponent : Nat) : Nat :=
  Nat.pow 10 exponent

def Interval.holds (i : Interval) (candidate : Nat) (exponent : Int) : Bool :=
  let value := candidate * tenTo exponent.toNat * i.denominator
  let scale := tenTo (-exponent).toNat
  if i.closed then i.low * scale ≤ value && value ≤ i.high * scale
  else i.low * scale < value && value < i.high * scale

def stripZeros : Nat → Digits → Digits
  | 0, digits => digits
  | fuel + 1, digits =>
    if digits.value ≠ 0 ∧ digits.value % 10 = 0 then
      stripZeros fuel ⟨digits.value / 10, digits.exponent + 1⟩
    else digits

def Interval.best? (i : Interval) (tie : Tie) (exponent : Int) : Option Digits :=
  let numerator := i.middle * tenTo (-exponent).toNat
  let denominator := i.denominator * tenTo exponent.toNat
  let below := numerator / denominator
  let twiceRest := 2 * (numerator % denominator)
  let above := below + 1
  let upper := twiceRest > denominator ||
    (twiceRest == denominator && (tie = .up || below % 2 == 1))
  match i.holds below exponent, i.holds above exponent with
  | true, true => some ⟨if upper then above else below, exponent⟩
  | true, false => some ⟨below, exponent⟩
  | false, true => some ⟨above, exponent⟩
  | false, false => none

def Interval.search (i : Interval) (tie : Tie) : Nat → Int → Digits
  | 0, exponent => (i.best? tie exponent).getD ⟨0, 0⟩
  | more + 1, exponent =>
    match i.best? tie exponent with
    | some digits => digits
    | none => i.search tie more (exponent - 1)

def leadingExponent (numerator denominator : Nat) : Int :=
  if denominator ≤ numerator then
    ((Nat.toDigits 10 (numerator / denominator)).length : Int) - 1
  else
    let scaled := (Nat.toDigits 10 (denominator / numerator)).length
    if denominator ≤ numerator * tenTo (scaled - 1) then -((scaled : Int) - 1) else -(scaled : Int)

def shortest (tie : Tie) (d : Double) : Digits :=
  let i := Interval.around d
  stripZeros 20 (i.search tie 17 (leadingExponent i.middle i.denominator))

end CqlMapper.Decimal
