import DataLocator.Number.Binary64

/-! # Decimals of binary64 numbers

A finite number is written with the digits of the shortest decimal that reads back, laid out as a format wants it.
-/

namespace DataLocator

/-! ## The shortest decimal that reads back

The reals that round to a finite number form an interval around it, from halfway to the neighbour below to
halfway to the neighbour above, ends included when the last place is even. `shortest` gives the decimal with
the fewest digits in that interval, and of those the nearest to the number. On each decimal grid only the two
neighbours of the number need to be tried: when any point of the grid lies in the interval, one of them does.
-/

/-- The number `digits * 10 ^ exponent`. -/
structure Decimal where
  digits : Nat
  exponent : Int
deriving DecidableEq, Repr

/-- What is chosen of two decimals that are equally near. -/
inductive Tie where
  | even
  | up
deriving DecidableEq, Repr

namespace Binary64

/-- Is the gap to the next number below only half the gap to the next above? -/
def narrowBelow (x : Binary64) : Bool := x.fraction == 0 && 1 < x.exponentField

/-- Compares `digits * 10 ^ e` with `units * 2 ^ q` exactly. -/
def compareScaled (digits : Nat) (e : Int) (units : Nat) (q : Int) : Ordering :=
  compare ((digits * Nat.pow 10 e.toNat) <<< (-q).toNat) ((units * Nat.pow 10 (-e).toNat) <<< q.toNat)

/-- Is the decimal among the reals that round to the magnitude of the finite number `x`? -/
def readsBack (x : Binary64) (d : Decimal) : Bool :=
  let low := 4 * x.significand - (if x.narrowBelow then 1 else 2)
  let high := 4 * x.significand + 2
  let closed := x.significand % 2 == 0
  let above := compareScaled d.digits d.exponent low (x.exponent - 2)
  let below := compareScaled d.digits d.exponent high (x.exponent - 2)
  (above == .gt || closed && above == .eq) && (below == .lt || closed && below == .eq)

/-- The grid neighbours of the magnitude at and above it, nearer first. -/
def neighbours (tie : Tie) (x : Binary64) (place : Int) : List Decimal :=
  let num := (x.significand * Nat.pow 10 (-place).toNat) <<< x.exponent.toNat
  let den := Nat.pow 10 place.toNat <<< (-x.exponent).toNat
  let lower : Decimal := ⟨num / den, place⟩
  let upper : Decimal := ⟨num / den + 1, place⟩
  match compare (2 * num) ((lower.digits + upper.digits) * den) with
  | .lt => [lower, upper]
  | .gt => [upper, lower]
  | .eq => if tie = .even ∧ lower.digits % 2 = 0 then [lower, upper] else [upper, lower]

/-- A decimal place that is coarser than the number. Three tenths is below the decimal logarithm of two and
thirty-one hundredths above it. -/
def coarsePlace (x : Binary64) : Int :=
  let height := x.significand.log2 + x.exponent + 1
  (if 0 ≤ height then height * 31 / 100 else height * 30 / 100) + 2

/-- The digits of the magnitude of a finite number, from the coarsest grid that has some. Seventeen digits
are always enough, so the places tried leave a reserve; the exact value stands for what cannot happen. -/
def shortest (tie : Tie) (x : Binary64) : Decimal :=
  let grids := (List.range 40).map fun (step : Nat) => neighbours tie x (x.coarsePlace - (step : Int))
  match grids.findSome? fun pair => pair.find? x.readsBack with
  | some d => d
  | none => ⟨(x.significand * Nat.pow 5 (-x.exponent).toNat) <<< x.exponent.toNat, min x.exponent 0⟩

end Binary64

/-! ## How a number is laid out

The digits of a number are chosen by `Binary64.shortest`. What remains is layout, and a `NumberStyle` holds
the decisions of one format: which numbers are written with an exponent, whether an integral number keeps a
fractional digit, and which way a tie between two shortest decimals goes.
-/

/-- When a number is written with an exponent. -/
inductive Exponents where
  | never
  /-- For numbers whose leading digit has an exponent below `low`, or `high` and above. -/
  | outside (low high : Int) (plusSign : Bool)
deriving DecidableEq, Repr

/-- The decisions of a number format. -/
structure NumberStyle where
  exponents : Exponents
  /-- Integral numbers in positional notation end in `.0`. -/
  fractionalDigit : Bool
  tie : Tie
deriving DecidableEq, Repr

namespace NumberStyle

/-- The digits with the point in its place, zeros filling the gap to it. -/
def positional (style : NumberStyle) (digits : List Char) (exponent : Int) : List Char :=
  if 0 ≤ exponent then
    digits ++ List.replicate exponent.toNat '0' ++ if style.fractionalDigit then ['.', '0'] else []
  else
    let places := (-exponent).toNat
    let padded := List.replicate (places + 1 - digits.length) '0' ++ digits
    padded.take (padded.length - places) ++ '.' :: padded.drop (padded.length - places)

/-- One digit, the others after a point, and the exponent of the first. -/
def scientific (plusSign : Bool) (digits : List Char) (leading : Int) : List Char :=
  let fraction := digits.drop 1
  let sign := if leading < 0 then ['-'] else if plusSign then ['+'] else []
  digits.take 1 ++ (if fraction.isEmpty then [] else '.' :: fraction) ++ 'e' :: sign ++
    Nat.toDigits 10 leading.natAbs

def layout (style : NumberStyle) (d : Decimal) : List Char :=
  let digits := Nat.toDigits 10 d.digits
  let leading := d.exponent + digits.length - 1
  match style.exponents with
  | .never => style.positional digits d.exponent
  | .outside low high plusSign =>
    if d.digits = 0 ∨ low ≤ leading ∧ leading < high then style.positional digits d.exponent
    else scientific plusSign digits leading

/-- The text of a number, the ones that are not finite included. -/
def render (style : NumberStyle) (x : Binary64) : String :=
  if x.isNaN then "NaN"
  else
    let sign := if x.isNegative then ['-'] else []
    if !x.isFinite then String.ofList (sign ++ ['i', 'n', 'f'])
    else if x.isZero then String.ofList (sign ++ style.layout ⟨0, 0⟩)
    else String.ofList (sign ++ style.layout (x.shortest style.tie))

end NumberStyle

end DataLocator
