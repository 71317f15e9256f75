import DataLocator.Access
import DataLocator.Conversion

/-! # Steps

A locator is a chain of steps. A hop goes to a child and may stand anywhere. Conversions and requirements work
on what has been found, so they belong to sources; placements make a new element of a sequence and a merge
combines mappings, so they belong to targets.
-/

namespace DataLocator

/-- What a locator is for: to read a value or to write one. -/
inductive Kind where
  | source
  | target
deriving DecidableEq, Repr

def Kind.name : Kind → String
  | source => "source"
  | target => "target"

/-- Where a new element goes in a sequence. -/
inductive Placement where
  | append
  | insert (index : UInt64)
deriving DecidableEq, Repr

namespace Placement

/-- The index of the new element in a sequence of this length: an index beyond the end means the end. -/
def position (length : Nat) : Placement → Nat
  | append => length
  | insert index => min index.toNat length

def request : Placement → Request
  | append => .append
  | insert _ => .insert

def text : Placement → String
  | append => ".append()"
  | insert index => s!".insert({index.toNat})"

end Placement

def Hop.operation : Hop → Operation
  | item _ => .item
  | attr _ => .attr
  | segment _ => .path

/-- A hop as it stands in the text of a locator. -/
def Hop.text : Hop → String
  | item (.name name) => s!"['{name}']"
  | item (.index position) => s!"[{position.toNat}]"
  | attr name => s!".{name}"
  | segment name => s!".path('{name}')"

/-- One step of a locator. -/
inductive Step where
  | go (hop : Hop)
  | convert (converter : Converter)
  /-- What was looked for up to here must be present. -/
  | required
  | place (placement : Placement)
  | merge

namespace Step

def operation : Step → Operation
  | go hop => hop.operation
  | convert _ => .convert
  | required => .required
  | place .append => .append
  | place (.insert _) => .insert
  | merge => .merge

def isPlacement : Step → Bool
  | place _ => true
  | _ => false

def isMerge : Step → Bool
  | merge => true
  | _ => false

/-- May the step stand in a locator of this kind? -/
def fits (kind : Kind) : Step → Bool
  | go _ => true
  | convert _ | required => kind == .source
  | place _ | merge => kind == .target

/-- A step as it stands in the text of a locator. -/
def text : Step → String
  | go hop => hop.text
  | convert converter => s!".convert({converter.name})"
  | required => ".required()"
  | place placement => placement.text
  | merge => ".merge()"

end Step

/-! ## Steps in words

The full text of a step names the constructor it was made with, its texts quoted for a person.
-/

def Key.inspect : Key → String
  | name text => "Name(" ++ inspectText text ++ ")"
  | index position => s!"Index({position.toNat})"

def Hop.inspect : Hop → String
  | item key => "Item(" ++ key.inspect ++ ")"
  | attr name => "Attr(" ++ inspectText name ++ ")"
  | segment name => "ItemOrAttr(" ++ inspectText name ++ ")"

def Step.inspect : Step → String
  | go hop => hop.inspect
  | convert converter => "Convert(Converter(" ++ inspectText converter.name ++ "))"
  | required => "Required"
  | place .append => "Append"
  | place (.insert index) => s!"Insert({index.toNat})"
  | merge => "Merge"

end DataLocator
