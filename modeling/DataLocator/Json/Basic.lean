import DataLocator.Entries
import DataLocator.Number.Decimal
import DataLocator.Text.Quoted

/-! # JSON trees

A JSON number is a natural below `2 ^ 64`, a negative integer from `-2 ^ 63` on, or a finite float, and the
constructors keep the three apart: an integer is never a float. Objects are entries in key order.
-/

namespace DataLocator

/-- A number of a JSON tree. -/
inductive JsonNumber where
  | natural (n : UInt64)
  | negative (n : Int64) (isNegative : n < 0)
  | float (x : Binary64) (isFinite : x.isFinite = true)
deriving DecidableEq

/-- A JSON tree. -/
inductive Json where
  | null
  | bool (flag : Bool)
  | number (n : JsonNumber)
  | string (text : String)
  | array (items : List Json)
  | object (members : List (String × Json))

namespace Json

mutual

/-- The keys of every object in the tree are in increasing order. -/
def Ordered : Json → Prop
  | array items => OrderedItems items
  | object members => Entries.Ordered members ∧ OrderedMembers members
  | _ => True

def OrderedItems : List Json → Prop
  | [] => True
  | item :: rest => item.Ordered ∧ OrderedItems rest

def OrderedMembers : List (String × Json) → Prop
  | [] => True
  | (_, tree) :: rest => tree.Ordered ∧ OrderedMembers rest

end

theorem orderedItems_iff {items : List Json} : OrderedItems items ↔ ∀ item ∈ items, item.Ordered := by
  induction items with
  | nil => simp [OrderedItems]
  | cons item rest ih => rw [OrderedItems, ih, List.forall_mem_cons]

theorem orderedMembers_iff {members : List (String × Json)} :
    OrderedMembers members ↔ ∀ member ∈ members, member.2.Ordered := by
  induction members with
  | nil => simp [OrderedMembers]
  | cons member rest ih => rw [OrderedMembers, ih, List.forall_mem_cons]

/-- Induction over a JSON tree. -/
@[elab_as_elim]
theorem tree_induction {motive : Json → Prop} (null : motive .null) (bool : ∀ flag, motive (.bool flag))
    (number : ∀ n, motive (.number n)) (string : ∀ text, motive (.string text))
    (array : ∀ items, (∀ item ∈ items, motive item) → motive (.array items))
    (object : ∀ members, (∀ pair ∈ members, motive pair.2) → motive (.object members)) : ∀ tree, motive tree
  | .null => null
  | .bool flag => bool flag
  | .number n => number n
  | .string text => string text
  | .array items => array items fun item _ => tree_induction null bool number string array object item
  | .object members => object members fun pair _ => tree_induction null bool number string array object pair.2
termination_by tree => sizeOf tree
decreasing_by
  · rename_i member
    have smaller := List.sizeOf_lt_of_mem member
    simp only [Json.array.sizeOf_spec]
    omega
  · rename_i member
    have smaller := Entries.sizeOf_lt_of_mem member
    simp only [Json.object.sizeOf_spec]
    omega

end Json

namespace JsonNumber

/-- A negative integer of the signed range stays negative as a word. -/
theorem word_neg {z : Int} (low : Int64.minValue.toInt ≤ z) (high : z < 0) : Int64.ofInt z < 0 := by
  rw [Int64.lt_iff_toInt_lt, Int64.toInt_ofInt_of_le (Int64.toInt_minValue ▸ low) (by omega), Int64.toInt_zero]
  exact high

/-- The number of an integer, if one of the two ranges holds it. -/
def ofInt? (z : Int) : Option JsonNumber :=
  if 0 ≤ z ∧ z < UInt64.size then some (natural (UInt64.ofNat z.toNat))
  else if h : Int64.minValue.toInt ≤ z ∧ z < 0 then some (negative (Int64.ofInt z) (word_neg h.1 h.2))
  else none

def ofInt64 (n : Int64) : JsonNumber := if h : n < 0 then negative n h else natural n.toUInt64

/-- The number of a float, if it is finite. -/
def ofFloat? (x : Binary64) : Option JsonNumber := if h : x.isFinite = true then some (float x h) else none

end JsonNumber

/-! ## JSON text

The text of a JSON tree has no blanks. Floats have a fractional digit, so that they read back as floats, and an
exponent from ten to the sixteenth and below a hundred-thousandth.
-/

/-- Floats in JSON text. -/
def jsonStyle : NumberStyle where
  exponents := .outside (-5) 16 true
  fractionalDigit := true
  tie := .even

def JsonNumber.text : JsonNumber → String
  | natural n => n.toNat.repr
  | negative n _ => toString n.toInt
  | float x _ => jsonStyle.render x

namespace Json

mutual

/-- The text of a tree. -/
def text : Json → String
  | null => "null"
  | bool flag => if flag then "true" else "false"
  | number n => n.text
  | string s => Text.quote Text.escapeJson s
  | array items => "[" ++ ",".intercalate (itemTexts items) ++ "]"
  | object members => "\x7b" ++ ",".intercalate (memberTexts members) ++ "\x7d"

def itemTexts : List Json → List String
  | [] => []
  | item :: rest => item.text :: itemTexts rest

def memberTexts : List (String × Json) → List String
  | [] => []
  | (key, value) :: rest => (Text.quote Text.escapeJson key ++ ":" ++ value.text) :: memberTexts rest

end

end Json

end DataLocator
