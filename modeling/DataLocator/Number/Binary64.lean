/-! # Binary64 numbers

A binary64 number is its 64 bits, so that two numbers are equal exactly when no reading can tell them apart.
The numeric comparison, under which the zeros agree and no not-a-number agrees with anything, is `sameNumber`.
A finite number has the magnitude `significand * 2 ^ exponent`; all arithmetic on it is exact arithmetic of
naturals followed by one rounding.
-/

namespace DataLocator

/-- A floating-point number of 64 bits: sign, eleven bits of exponent, fifty-two bits of fraction. -/
structure Binary64 where
  bits : UInt64
deriving DecidableEq, Repr

namespace Binary64

def isNegative (x : Binary64) : Bool := x.bits.toNat.testBit 63

def exponentField (x : Binary64) : Nat := x.bits.toNat >>> 52 % 2048

def fraction (x : Binary64) : Nat := x.bits.toNat % (1 <<< 52)

def isFinite (x : Binary64) : Bool := x.exponentField < 2047

def isNaN (x : Binary64) : Bool := !x.isFinite && x.fraction != 0

/-- The magnitude of a finite number in units of its last place. -/
def significand (x : Binary64) : Nat :=
  if x.exponentField = 0 then x.fraction else (1 <<< 52) + x.fraction

/-- The exponent of the last place of a finite number. -/
def exponent (x : Binary64) : Int := (max x.exponentField 1 : Nat) - 1075

def isZero (x : Binary64) : Bool := x.isFinite && x.significand == 0

/-- The number with this sign whose other bits, read as a natural, are `magnitude`. -/
def ofMagnitude (negative : Bool) (magnitude : Nat) : Binary64 :=
  ⟨UInt64.ofNat ((if negative then 1 <<< 63 else 0) + magnitude)⟩

def zero (negative : Bool) : Binary64 := ofMagnitude negative 0

def infinity (negative : Bool) : Binary64 := ofMagnitude negative (2047 <<< 52)

def nan : Binary64 := ofMagnitude false ((2047 <<< 52) + (1 <<< 51))

/-- Numeric equality: the two zeros are equal, and a not-a-number equals nothing. -/
def sameNumber (x y : Binary64) : Bool :=
  !x.isNaN && !y.isNaN && (x == y || x.isZero && y.isZero)

end Binary64

/-! ## Rounding to binary64

Every number that enters the format comes from a quotient of naturals and is rounded once, to the nearest
representable number with ties to an even last place; what is too large becomes an infinity. Integers,
decimals and the products and quotients of finite numbers are quotients of naturals.
-/

/-- The natural nearest to `num / den`, where a half goes to the even neighbour. -/
def roundQuotient (num den : Nat) : Nat :=
  let whole := num / den
  let twice := 2 * (num % den)
  if den < twice ∨ (twice = den ∧ whole % 2 = 1) then whole + 1 else whole

/-- The greatest exponent `k` with `2 ^ k ≤ num / den`, for positive `num` and `den`. -/
def floorLog2 (num den : Nat) : Int :=
  let estimate : Int := (num.log2 : Int) - den.log2
  if den <<< estimate.toNat ≤ num <<< (-estimate).toNat then estimate else estimate - 1

namespace Binary64

/-- The number nearest to `num / den`, for positive `den`. The biased exponent and the rounded significand
are added, so that a significand that rounds up to the next power of two carries into the exponent. -/
def ofQuotient (negative : Bool) (num den : Nat) : Binary64 :=
  if num = 0 then zero negative
  else
    let lastPlace := max (-1074) (floorLog2 num den - 52)
    let significand := roundQuotient (num <<< (-lastPlace).toNat) (den <<< lastPlace.toNat)
    ofMagnitude negative (min (2047 <<< 52) (((lastPlace + 1074).toNat <<< 52) + significand))

def ofInt (z : Int) : Binary64 := ofQuotient (z < 0) z.natAbs 1

/-- The number nearest to `digits * 10 ^ exponent`. As eight is less than ten, an exponent that is out of all
proportion to the digits is settled before any power of ten is formed. -/
def ofDecimal (negative : Bool) (digits : Nat) (exponent : Int) : Binary64 :=
  if digits = 0 then zero negative
  else if 0 ≤ exponent ∧ 1024 ≤ digits.log2 + 3 * exponent then infinity negative
  else if digits.log2 + 3 * exponent < -1076 then zero negative
  else ofQuotient negative (digits * Nat.pow 10 exponent.toNat) (Nat.pow 10 (-exponent).toNat)

/-- The rounded product of two finite numbers. -/
def mul (x y : Binary64) : Binary64 :=
  let exponent := x.exponent + y.exponent
  ofQuotient (x.isNegative != y.isNegative) ((x.significand * y.significand) <<< exponent.toNat)
    (1 <<< (-exponent).toNat)

/-- The rounded quotient of two finite numbers, of which the second is not zero. -/
def div (x y : Binary64) : Binary64 :=
  let exponent := x.exponent - y.exponent
  ofQuotient (x.isNegative != y.isNegative) (x.significand <<< exponent.toNat)
    (y.significand <<< (-exponent).toNat)

end Binary64

end DataLocator
