import DataLocator.Entries
import DataLocator.Json.Numeral
import DataLocator.Text.Quoted

/-! # Reading JSON

A reader takes a tree from the front of a text and gives what follows it. Arrays and objects may be nested to a
depth of 127, and the depth that is left is what the reader recurses on. Of members with the same key the last
is kept. A text is a JSON text when a tree and blanks are all that it holds.
-/

namespace DataLocator.Json

/-- Takes something from the front of a text, if it is there. -/
abbrev Reader (α : Type) := List Char → Option (α × List Char)

def maximalDepth : Nat := 127

/-- The text without the blanks at its front; JSON has four of them. -/
def skipBlanks (text : List Char) : List Char := text.dropWhile [' ', '\t', '\n', '\r'].contains

def hexDigit? (c : Char) : Option Nat :=
  if c.isDigit then some (c.toNat - '0'.toNat)
  else if 'a' ≤ c.toLower ∧ c.toLower ≤ 'f' then some (c.toLower.toNat - 'a'.toNat + 10)
  else none

/-- The sixteen-bit unit that four hexadecimal digits denote. -/
def unit? (a b c d : Char) : Option Nat :=
  [a, b, c, d].foldlM (fun number digit => (hexDigit? digit).map (16 * number + ·)) 0

def isHighSurrogate (unit : Nat) : Bool := 0xD800 ≤ unit && unit < 0xDC00

def isLowSurrogate (unit : Nat) : Bool := 0xDC00 ≤ unit && unit < 0xE000

/-- The character that a letter behind a backslash stands for. -/
def letter? (letter : Char) : Option Char :=
  if letter = '/' then some '/' else (Text.jsonLetters.find? fun pair => pair.2 = letter).map Prod.fst

/-- Puts a character in front of the text that was read. -/
def before (c : Char) (read : Option (List Char × List Char)) : Option (List Char × List Char) :=
  read.map fun (text, rest) => (c :: text, rest)

/-- The text up to the closing quote, escapes undone. Surrogates have to come in pairs. -/
def quoted : Reader (List Char)
  | [] => none
  | '"' :: rest => some ([], rest)
  | '\\' :: 'u' :: a :: b :: c :: d :: rest =>
    match unit? a b c d with
    | none => none
    | some high =>
      if isHighSurrogate high then
        match rest with
        | '\\' :: 'u' :: e :: f :: g :: h :: rest =>
          match unit? e f g h with
          | none => none
          | some low =>
            if isLowSurrogate low then
              before (Char.ofNat (0x10000 + (high - 0xD800) * 0x400 + (low - 0xDC00))) (quoted rest)
            else none
        | _ => none
      else if isLowSurrogate high then none
      else before (Char.ofNat high) (quoted rest)
  | '\\' :: letter :: rest =>
    match letter? letter with
    | some c => before c (quoted rest)
    | none => none
  | c :: rest => if c.toNat < 0x20 then none else before c (quoted rest)

/-- One or more items with commas between them, up to a closing bracket. An item is never empty, so that the
length of the text bounds their number. -/
def separated {α : Type} (close : Char) (item : Reader α) : Nat → Reader (List α)
  | 0, _ => none
  | fuel + 1, text =>
    match item text with
    | none => none
    | some (first, afterFirst) =>
      match skipBlanks afterFirst with
      | [] => none
      | mark :: rest =>
        if mark = close then some ([first], rest)
        else if mark = ',' then
          (separated close item fuel rest).map fun (others, rest) => (first :: others, rest)
        else none

/-- No item, or items with commas between them, and the closing bracket. -/
def bracketed {α : Type} (close : Char) (item : Reader α) : Reader (List α) := fun text =>
  let text := skipBlanks text
  if text.head? = some close then some ([], text.drop 1) else separated close item text.length text

/-- A key, a colon and a value. -/
def member (value : Reader Json) : Reader (String × Json) := fun text =>
  match skipBlanks text with
  | '"' :: rest => do
    let (key, afterKey) ← quoted rest
    let (tree, rest) ← (if (skipBlanks afterKey).head? = some ':' then value ((skipBlanks afterKey).drop 1) else none)
    return ((String.ofList key, tree), rest)
  | _ => none

/-- A fixed word that stands for a tree. -/
def word (spelling : String) (tree : Json) : Reader Json := fun text =>
  if spelling.toList.isPrefixOf text then some (tree, text.drop spelling.length) else none

/-- A tree that is neither an array nor an object. -/
def scalar : Reader Json := fun text =>
  match text with
  | 'n' :: _ => word "null" .null text
  | 't' :: _ => word "true" (.bool true) text
  | 'f' :: _ => word "false" (.bool false) text
  | '"' :: rest => (quoted rest).map fun (chars, rest) => (.string (String.ofList chars), rest)
  | _ =>
    match takeNumeral? text with
    | some (numeral, rest) => numeral.number?.map fun n => (.number n, rest)
    | none => none

/-- A tree in which arrays and objects are nested no deeper than this. -/
def tree : Nat → Reader Json
  | 0 => fun text => scalar (skipBlanks text)
  | depth + 1 => fun text =>
    match skipBlanks text with
    | '[' :: rest => (bracketed ']' (tree depth) rest).map fun (items, rest) => (.array items, rest)
    | '\x7b' :: rest =>
      (bracketed '\x7d' (member (tree depth)) rest).map fun (members, rest) =>
        (.object (Entries.ofList members), rest)
    | other => scalar other

/-- The tree of a JSON text. -/
def ofText? (text : String) : Option Json :=
  match tree maximalDepth text.toList with
  | some (result, rest) => if (skipBlanks rest).isEmpty then some result else none
  | none => none

end DataLocator.Json
