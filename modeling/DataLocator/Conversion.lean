import DataLocator.Failure
import DataLocator.Number.Binary64
import DataLocator.Text.Basic
import DataLocator.Value.Rendering

/-! # Converters

A converter is a named function on values that may fail. Locators apply it on the way to a value, and its name
stands in the locator's text and in the message of its failure.
-/

namespace DataLocator

/-- A named function on values that may fail. -/
structure Converter where
  name : String
  convert : Value → Except ConversionFailure Value

end DataLocator

/-! ## The standard converters

Four converters between the scalar values. Each leaves a value of its own kind alone, reads texts without the
white space at their ends, and refuses all else with the value it was given.
-/

namespace DataLocator.Conversion

/-- What a refused value is called: texts and integers are quoted, other values are named by their kind. -/
def describe : Value → String
  | .string text => s!"string '{text}'"
  | .integer n => s!"integer {n.toInt}"
  | .unsigned n => s!"integer {n.toNat}"
  | other => other.typeName

def refuse (expected : String) (value : Value) : Except ConversionFailure Value :=
  .error ⟨expected, describe value⟩

/-- The integer that a text denotes, if one of the two ranges holds it. -/
def readInteger (text : List Char) : Option Value := (Text.integer? text).bind Value.ofInt?

def toInteger : Value → Except ConversionFailure Value
  | .string text =>
    match readInteger (Text.trim text.toList) with
    | some value => .ok value
    | none => refuse "integer" (.string text)
  | .integer n => .ok (.integer n)
  | .unsigned n => .ok (.unsigned n)
  | other => refuse "integer" other

/-- The exponent after a numeral's digits: none, or `e` and an integer. -/
def readExponent : List Char → Option Int
  | [] => some 0
  | mark :: digits => if mark.toLower = 'e' then Text.integer? digits else none

/-- The number that an unsigned numeral denotes: digits with at most one point among them or at either end, and
perhaps an exponent. -/
def readDecimal (negative : Bool) (text : List Char) : Option Binary64 :=
  let whole := text.takeWhile Char.isDigit
  let afterWhole := text.dropWhile Char.isDigit
  let fraction := if afterWhole.head? = some '.' then (afterWhole.drop 1).takeWhile Char.isDigit else []
  let afterFraction := if afterWhole.head? = some '.' then (afterWhole.drop 1).dropWhile Char.isDigit else afterWhole
  match Text.natural? (whole ++ fraction), readExponent afterFraction with
  | some digits, some exponent => some (Binary64.ofDecimal negative digits (exponent - fraction.length))
  | _, _ => none

/-- The number that a text without a sign denotes. -/
def readMagnitude (negative : Bool) (text : List Char) : Option Binary64 :=
  match String.ofList (text.map Char.toLower) with
  | "nan" => some Binary64.nan
  | "inf" | "infinity" => some (Binary64.infinity negative)
  | _ => readDecimal negative text

/-- The number that a text denotes, a sign in front of it or not. -/
def readFloat : List Char → Option Binary64
  | '-' :: rest => readMagnitude true rest
  | '+' :: rest => readMagnitude false rest
  | text => readMagnitude false text

def toFloat : Value → Except ConversionFailure Value
  | .string text =>
    match readFloat (Text.trim text.toList) with
    | some x => .ok (.float x)
    | none => refuse "float" (.string text)
  | .float x => .ok (.float x)
  | .integer n => .ok (.float (Binary64.ofInt n.toInt))
  | .unsigned n => .ok (.float (Binary64.ofInt n.toNat))
  | other => refuse "float" other

/-- The words for truth and falsehood, in any case. -/
def readBoolean (text : List Char) : Option Bool :=
  match String.ofList (text.map Char.toLower) with
  | "true" | "yes" | "on" | "1" => some true
  | "false" | "no" | "off" | "0" => some false
  | _ => none

def toBoolean : Value → Except ConversionFailure Value
  | .string text =>
    match readBoolean (Text.trim text.toList) with
    | some flag => .ok (.bool flag)
    | none => refuse "boolean" (.string text)
  | .bool flag => .ok (.bool flag)
  | .integer n => if n = 1 then .ok (.bool true) else if n = 0 then .ok (.bool false) else refuse "boolean" (.integer n)
  | other => refuse "boolean" other

def toText : Value → Except ConversionFailure Value
  | .string text => .ok (.string text)
  | .bool flag => .ok (.string (if flag then "true" else "false"))
  | .integer n => .ok (.string (toString n.toInt))
  | .unsigned n => .ok (.string (toString n.toNat))
  | .float x => .ok (.string (plainStyle.render x))
  | other => refuse "string" other

end Conversion

namespace Converter

def integer : Converter := ⟨"integer", Conversion.toInteger⟩

def float : Converter := ⟨"float", Conversion.toFloat⟩

def boolean : Converter := ⟨"boolean", Conversion.toBoolean⟩

def string : Converter := ⟨"string", Conversion.toText⟩

end Converter

end DataLocator
