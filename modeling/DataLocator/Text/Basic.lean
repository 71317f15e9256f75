/-! # Reading of texts

White space, decimal numerals, dots and positions: what the library takes apart in a text before it means anything.
-/

namespace DataLocator.Text

/-! ## Sets of code points

A set of code points is a list of closed ranges in increasing order. The tables of the text formats are
written this way, and membership is decided range by range.
-/

/-- A set of code points, as closed ranges in increasing order. -/
abbrev CodePoints := List (Nat × Nat)

/-- Does one of the ranges hold the character? -/
def CodePoints.has (ranges : CodePoints) (c : Char) : Bool :=
  ranges.any fun range => range.1 ≤ c.toNat && c.toNat ≤ range.2

/-! ## White space at the ends of a text

`isBlank` is the Unicode property White_Space and `trim` drops it from both ends of a text. The twenty-five
code points of the property contain more than the ASCII blanks, and leave out the zero-width characters.
-/

/-- The Unicode property White_Space. -/
def blanks : CodePoints :=
  [(0x09, 0x0D), (0x20, 0x20), (0x85, 0x85), (0xA0, 0xA0), (0x1680, 0x1680), (0x2000, 0x200A),
   (0x2028, 0x2029), (0x202F, 0x202F), (0x205F, 0x205F), (0x3000, 0x3000)]

def isBlank (c : Char) : Bool := blanks.has c

/-- The text without the white space at its two ends. -/
def trim (text : List Char) : List Char :=
  ((text.dropWhile isBlank).reverse.dropWhile isBlank).reverse

example : (blanks.map fun range => range.2 + 1 - range.1).sum = 25 := by decide

/-! ## Decimal numerals

Reading of naturals and integers from ASCII digits. `natural?` takes any number of leading zeros,
`canonicalNatural?` takes the one spelling that writing a natural gives, and `integer?` adds a sign.
Writing is core's `Nat.repr`.
-/

/-- The number that a text of one or more ASCII digits denotes. -/
def natural? (text : List Char) : Option Nat :=
  if !text.isEmpty && text.all Char.isDigit then some (Nat.ofDigitChars 10 text 0) else none

/-- The number that a text denotes when it has no leading zero, `0` itself apart. -/
def canonicalNatural? (text : List Char) : Option Nat :=
  if text.head? = some '0' ∧ text ≠ ['0'] then none else natural? text

/-- The number that digits after at most one sign denote. -/
def integer? : List Char → Option Int
  | '-' :: digits => (natural? digits).map fun n => -(n : Int)
  | '+' :: digits => (natural? digits).map Int.ofNat
  | digits => (natural? digits).map Int.ofNat

/-! ## Dotted text

A dotted text is a nonempty list of segments with a dot between each two. `segments` takes it apart and keeps
empty segments, so that the number of segments is one more than the number of dots.
-/

/-- The stretches between the dots, the empty ones included. -/
def splitDots : List Char → List (List Char)
  | [] => [[]]
  | c :: rest =>
    if c = '.' then [] :: splitDots rest
    else
      match splitDots rest with
      | [] => [[c]]
      | first :: others => (c :: first) :: others

/-- The segments of a dotted text. -/
def segments (text : String) : List String := (splitDots text.toList).map String.ofList

/-! ## Positions at the end of a text

The words of a failure may end in the place of its cause, a line and a column. `splitPosition?` takes such an
ending off, and `settlePosition` writes it again with plain numerals. Lines are counted from one: line zero says
that no place is known, and the ending is dropped.
-/

/-- A place in a text of several lines. -/
structure Position where
  line : Nat
  column : Nat
deriving DecidableEq, Repr

def Position.text (position : Position) : String := s!" at line {position.line} column {position.column}"

/-- The text in front of an ending, if it ends so. -/
def withoutEnding? (ending text : List Char) : Option (List Char) :=
  if ending.isSuffixOf text then some (text.take (text.length - ending.length)) else none

/-- The number below `2 ^ 64` that all digits at the end of a text denote, and the text in front of them. -/
def withoutNumber? (text : List Char) : Option (List Char × Nat) :=
  let digits := (text.reverse.takeWhile Char.isDigit).reverse
  match natural? digits with
  | some n => if n < UInt64.size then some (text.take (text.length - digits.length), n) else none
  | none => none

/-- The position at the end of a text, and the text in front of it. -/
def splitPosition? (text : List Char) : Option (List Char × Position) := do
  let (withColumnMark, column) ← withoutNumber? text
  let withLine ← withoutEnding? " column ".toList withColumnMark
  let (withLineMark, line) ← withoutNumber? withLine
  let front ← withoutEnding? " at line ".toList withLineMark
  return (front, ⟨line, column⟩)

/-- The text with a position at its end in plain numerals, or without it when it is no place. -/
def settlePosition (text : String) : String :=
  match splitPosition? text.toList with
  | some (front, position) => String.ofList front ++ if position.line = 0 then "" else position.text
  | none => text

end DataLocator.Text
