import DataLocator.Number.Decimal
import DataLocator.Value.Basic
import DataLocator.Text.Quoted

/-! # Values in words

`inspect` writes a value in full for a person, naming each constructor. Texts are quoted with every character
that would not show written out. Floats have a fractional digit, and an exponent from ten to the sixteenth and
below a ten-thousandth.
-/

namespace DataLocator

/-- Floats as values of their own: all digits in place, and no fractional digit that says nothing. -/
def plainStyle : NumberStyle where
  exponents := .never
  fractionalDigit := false
  tie := .up

/-- Floats in text for a person. -/
def inspectStyle : NumberStyle where
  exponents := .outside (-4) 16 false
  fractionalDigit := true
  tie := .up

/-- A text quoted for a person. -/
def inspectText (text : String) : String := Text.quote Text.escapeShown text

def Shape.inspect : Shape → String
  | extensible => "Open"
  | closed => "Closed"

namespace Value

mutual

/-- The value in full, with the constructors named. -/
def inspect : Value → String
  | null => "Null"
  | bool flag => s!"Bool({flag})"
  | integer n => s!"Integer({n.toInt})"
  | unsigned n => s!"Unsigned({n.toNat})"
  | float x => s!"Float({inspectStyle.render x})"
  | string text => s!"String({inspectText text})"
  | sequence items => "Sequence([" ++ ", ".intercalate (inspectItems items) ++ "])"
  | mapping entries => "Mapping(\x7b" ++ ", ".intercalate (inspectEntries entries) ++ "\x7d)"
  | record name shape fields =>
    "Record(Record \x7b type_name: " ++ inspectText name ++ ", shape: " ++ shape.inspect ++
      ", fields: \x7b" ++ ", ".intercalate (inspectEntries fields) ++ "\x7d \x7d)"

def inspectItems : List Value → List String
  | [] => []
  | item :: rest => item.inspect :: inspectItems rest

def inspectEntries : List (String × Value) → List String
  | [] => []
  | (key, value) :: rest => (inspectText key ++ ": " ++ value.inspect) :: inspectEntries rest

end

end Value

/-- The presence in full. -/
def Presence.inspect : Presence → String
  | present value => "Present(" ++ value.inspect ++ ")"
  | notPresent => "Sentinel('NOT_PRESENT')"

end DataLocator
