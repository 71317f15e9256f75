import DataLocator.Json.Basic
import DataLocator.Number.Binary64

/-! # JSON numerals

A numeral is an optional minus, digits without a leading zero, and perhaps a fraction and an exponent. Integers
that fit are kept exactly. All other numerals become floats in two roundings: the leading digits that fit into
64 bits are rounded to a float, and that is multiplied or divided by a rounded power of ten. The integer zero
with a minus is the float that keeps the sign. A numeral too large for a finite float denotes nothing.
-/

namespace DataLocator.Json

/-- A numeral taken apart: its sign, its digits around the point, and its exponent if it has one. -/
structure Numeral where
  negative : Bool
  whole : List Char
  fraction : List Char
  exponent? : Option Int

/-- A nonempty run of digits and what follows it. -/
def takeDigits? (text : List Char) : Option (List Char × List Char) :=
  let digits := text.takeWhile Char.isDigit
  if digits.isEmpty then none else some (digits, text.drop digits.length)

/-- The digits in front of the point: a zero alone, or digits that start with another. -/
def takeWhole? (text : List Char) : Option (List Char × List Char) :=
  match takeDigits? text with
  | some (digits, rest) => if digits.head? = some '0' ∧ digits ≠ ['0'] then none else some (digits, rest)
  | none => none

/-- The digits behind the point, if there is one. -/
def takeFraction? : List Char → Option (List Char × List Char)
  | '.' :: text => takeDigits? text
  | text => some ([], text)

/-- The sign of an exponent, which may be missing. -/
def takeSign : List Char → Bool × List Char
  | '-' :: text => (true, text)
  | '+' :: text => (false, text)
  | text => (false, text)

/-- The exponent, if there is one. -/
def takeExponent? (text : List Char) : Option (Option Int × List Char) :=
  match text with
  | [] => some (none, [])
  | mark :: afterMark =>
    if mark = 'e' ∨ mark = 'E' then
      let signed := takeSign afterMark
      match takeDigits? signed.2 with
      | some (digits, rest) =>
        let size : Int := Nat.ofDigitChars 10 digits 0
        some (some (if signed.1 then -size else size), rest)
      | none => none
    else some (none, text)

/-- A numeral at the front of a text, and what follows it. -/
def takeNumeral? (text : List Char) : Option (Numeral × List Char) := do
  let negative := text.head? = some '-'
  let (whole, afterWhole) ← takeWhole? (if negative then text.drop 1 else text)
  let (fraction, afterFraction) ← takeFraction? afterWhole
  let (exponent?, rest) ← takeExponent? afterFraction
  return (⟨negative, whole, fraction, exponent?⟩, rest)

/-- Adds digits to a number as long as it stays below `2 ^ 64`, and gives the digits that are left. -/
def absorb (number : Nat) : List Char → Nat × List Char
  | [] => (number, [])
  | digit :: rest =>
    let longer := 10 * number + (digit.toNat - '0'.toNat)
    if longer < UInt64.size then absorb longer rest else (number, digit :: rest)

/-- The float times a power of ten, unless it is too large. The powers of ten go up to `10 ^ 308`, and smaller
numbers are reached by repeated division. -/
def scale? (x : Binary64) (exponent : Int) : Option Binary64 :=
  if exponent.natAbs ≤ 308 then
    if 0 ≤ exponent then
      let product := x.mul (Binary64.ofDecimal false 1 exponent)
      if product.isFinite then some product else none
    else some (x.div (Binary64.ofDecimal false 1 (-exponent)))
  else if x.isZero then some x
  else if 0 ≤ exponent then none
  else scale? (x.div (Binary64.ofDecimal false 1 308)) (exponent + 308)
termination_by (-exponent).toNat
decreasing_by omega

namespace Numeral

/-- The float that the numeral denotes. -/
def float? (numeral : Numeral) : Option Binary64 :=
  let (leading, wholeLeft) := absorb 0 numeral.whole
  let (significand, fractionLeft) := absorb leading numeral.fraction
  let shift : Int := (wholeLeft.length : Int) - (numeral.fraction.length - fractionLeft.length)
  scale? (Binary64.ofQuotient numeral.negative significand 1) (shift + numeral.exponent?.getD 0)

/-- The integer that the numeral denotes, if it is written as one and kept as one. -/
def integer? (numeral : Numeral) : Option JsonNumber :=
  if !numeral.fraction.isEmpty || numeral.exponent?.isSome then none
  else
    let size : Nat := Nat.ofDigitChars 10 numeral.whole 0
    if numeral.negative then (if size = 0 then none else JsonNumber.ofInt? (-(size : Int)))
    else JsonNumber.ofInt? size

/-- The number that the numeral denotes. -/
def number? (numeral : Numeral) : Option JsonNumber :=
  match numeral.integer? with
  | some n => some n
  | none => numeral.float?.bind JsonNumber.ofFloat?

end Numeral

end DataLocator.Json
