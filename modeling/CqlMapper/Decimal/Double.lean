/-!
Double-precision numbers as their 64-bit patterns, and the rounding of quotients of naturals to
the nearest of them.
-/

namespace CqlMapper

/-- A double-precision number. Two are equal when their patterns are, so that each not-a-number
equals itself and the two zeros differ. -/
structure Double where
  bits : UInt64
  deriving DecidableEq, Inhabited

namespace Double

def isNegative (d : Double) : Bool :=
  1 <<< 63 ≤ d.bits.toNat

def biasedExponent (d : Double) : Nat :=
  (d.bits.toNat >>> 52) % 2048

def fraction (d : Double) : Nat :=
  d.bits.toNat % (1 <<< 52)

def isFinite (d : Double) : Bool :=
  d.biasedExponent != 2047

def isNaN (d : Double) : Bool :=
  d.biasedExponent == 2047 && d.fraction != 0

/-- The magnitude of a finite number is its significand times two to its exponent. -/
def significand (d : Double) : Nat :=
  if d.biasedExponent = 0 then d.fraction else 1 <<< 52 + d.fraction

def exponent (d : Double) : Int :=
  (max d.biasedExponent 1 : Nat) - 1075

def numerator (d : Double) : Nat :=
  d.significand <<< d.exponent.toNat

def denominator (d : Double) : Nat :=
  1 <<< (-d.exponent).toNat

/-- Numeric equality: zeros are equal whatever their sign, and no not-a-number equals anything. -/
def sameNumber (a b : Double) : Bool :=
  !a.isNaN && !b.isNaN && (a.bits == b.bits || (a.significand == 0 && b.significand == 0))

def negated (d : Double) : Double :=
  ⟨d.bits ^^^ 0x8000000000000000⟩

/-- Rounds a quotient to the nearest natural, a half to the even one. -/
def roundedQuotient (numerator denominator : Nat) : Nat :=
  let quotient := numerator / denominator
  let twiceRest := 2 * (numerator % denominator)
  if twiceRest > denominator || (twiceRest == denominator && quotient % 2 == 1) then quotient + 1
  else quotient

def exponentFor (numerator denominator : Nat) : Int :=
  let estimate : Int := (numerator.log2 : Int) - denominator.log2 - 52
  let fits := numerator <<< (-estimate).toNat ≥ denominator <<< (estimate.toNat + 52)
  max (if fits then estimate else estimate - 1) (-1074)

/-- The double nearest to a quotient, a tie going to the even pattern; none when it lies beyond
the greatest double. -/
def ofQuotient? (numerator denominator : Nat) : Option Double :=
  if numerator = 0 then some ⟨0⟩
  else
    let exponent := exponentFor numerator denominator
    let significand := roundedQuotient (numerator <<< (-exponent).toNat)
      (denominator <<< exponent.toNat)
    let pattern := (exponent + 1074).toNat <<< 52 + significand
    if pattern < 2047 <<< 52 then some ⟨UInt64.ofNat pattern⟩ else none

def ofNat? (value : Nat) : Option Double :=
  ofQuotient? value 1

def product? (a b : Double) : Option Double :=
  ofQuotient? (a.numerator * b.numerator) (a.denominator * b.denominator)

def quotient? (a b : Double) : Option Double :=
  ofQuotient? (a.numerator * b.denominator) (a.denominator * b.numerator)

end Double

end CqlMapper
