import Mathlib.Data.List.Forall2
import DataLocator.Conversion
import DataLocator.Locator.Basic
import DataLocator.Proofs.Keys

/-! # Locators by their texts

The steps of a locator stand in its text one behind the other, with nothing between them. Each begins with a dot or a
bracket, and all but an attribute say where they end, so that the first step can be read off the text
(`read?_text`): what is behind it begins with the next one. Names must not hold the characters at which their steps
end (`Step.Plain`). The text of a locator then tells its kind and its steps, converters by their names
(`text_identifies`).
-/

namespace DataLocator

namespace Text

/-- The stretch in front of the first of the marks, and the rest, which begins with that mark. -/
def cut (marks : List Char) (text : List Char) : List Char × List Char :=
  (text.takeWhile (· ∉ marks), text.dropWhile (· ∉ marks))

theorem cut_append {marks front back : List Char} (clear : ∀ c ∈ front, c ∉ marks)
    (ends : ∀ c ∈ back.head?, c ∈ marks) : cut marks (front ++ back) = (front, back) := by
  have passes : ∀ c ∈ front, decide (c ∉ marks) = true := fun c member => decide_eq_true (clear c member)
  rw [cut, List.takeWhile_append_of_pos passes, List.dropWhile_append_of_pos passes]
  cases back with
  | nil => simp
  | cons c rest =>
    have stops : c ∈ marks := ends c rfl
    simp [stops]

theorem cut_stop {marks front : List Char} (clear : ∀ c ∈ front, c ∉ marks) {mark : Char} (marked : mark ∈ marks)
    (back : List Char) : cut marks (front ++ mark :: back) = (front, mark :: back) := by
  refine cut_append clear ?_
  rintro c ⟨⟩
  exact marked

/-- The word of a text of digits. -/
def word (digits : List Char) : UInt64 := UInt64.ofNat (Nat.ofDigitChars 10 digits 0)

theorem word_toDigits (n : UInt64) : word (Nat.toDigits 10 n.toNat) = n := by
  rw [word, Nat.ofDigitChars_ten_toDigits, UInt64.ofNat_toNat]

theorem ne_of_mem_toDigits {n : Nat} {c mark : Char} (member : c ∈ Nat.toDigits 10 n) (other : mark.isDigit = false) :
    c ∉ [mark] := by
  have digit : c.isDigit = true := Nat.isDigit_of_mem_toDigits (by decide) (by decide) member
  rw [List.mem_singleton]
  rintro rfl
  rw [digit] at other
  contradiction

end Text

/-- A name without the characters that begin a step or stand around an argument. -/
def Text.Bare (name : String) : Prop := ∀ c ∈ name.toList, c ∉ ['.', '[', '(', ')']

namespace Step

/-- The names in the step do not hold the characters at which its text ends. -/
def Plain : Step → Prop
  | go (.item (.name name)) | go (.segment name) => '\'' ∉ name.toList
  | go (.attr name) => Text.Bare name
  | convert converter => Text.Bare converter.name
  | _ => True

/-- The steps are the same, where converters are compared by their names. -/
def Alike : Step → Step → Prop
  | convert converter, convert other => converter.name = other.name
  | step, other => step = other

/-- What the text of a step tells: a converter is no more than its name. -/
def outline : Step → Step
  | convert converter => convert ⟨converter.name, .ok⟩
  | step => step

/-- Reads a step with an argument in parentheses, behind the first of them. -/
def readCall? (name : String) (text : List Char) : Option (Step × List Char) :=
  let (argument, back) := Text.cut [')'] text
  match name with
  | "path" =>
    let (segment, back) := Text.cut ['\''] (text.drop 1)
    some (go (.segment (String.ofList segment)), back.drop 2)
  | "convert" => some (convert ⟨String.ofList argument, .ok⟩, back.drop 1)
  | "insert" => some (place (.insert (Text.word argument)), back.drop 1)
  | "append" => some (place .append, back.drop 1)
  | "required" => some (required, back.drop 1)
  | "merge" => some (merge, back.drop 1)
  | _ => none

/-- Reads the first step of a text. -/
def read? : List Char → Option (Step × List Char)
  | '[' :: '\'' :: text =>
    let (name, back) := Text.cut ['\''] text
    some (go (.item (.name (String.ofList name))), back.drop 2)
  | '[' :: text =>
    let (digits, back) := Text.cut [']'] text
    some (go (.item (.index (Text.word digits))), back.drop 1)
  | '.' :: text =>
    let (name, back) := Text.cut ['.', '[', '('] text
    match back with
    | '(' :: text => readCall? (String.ofList name) text
    | back => some (go (.attr (String.ofList name)), back)
  | _ => none

variable {step other : Step} {rest : List Char}

theorem alike_iff : step.Alike other ↔ step.outline = other.outline := by
  cases step <;> cases other <;> simp [Alike, outline]

theorem text_eq_of_alike (alike : step.Alike other) : step.text = other.text := by
  cases step <;> cases other <;> simp_all [Alike, text]

theorem begins_text (step : Step) : ∃ c back, step.text.toList = c :: back ∧ c ∈ ['.', '['] := by
  rcases step with ((_ | _) | _ | _) | _ | _ | (_ | _) | _ <;>
    simp [text, Hop.text, Placement.text, toString]

section Read

variable {rest : List Char}

theorem not_mem_singleton {name : String} {mark : Char} (plain : mark ∉ name.toList) :
    ∀ c ∈ name.toList, c ∉ [mark] := by
  intro c member
  rw [List.mem_singleton]
  rintro rfl
  exact plain member

theorem read?_index (position : UInt64) (rest : List Char) :
    read? ('[' :: (Nat.toDigits 10 position.toNat ++ ']' :: rest)) = some (go (.item (.index position)), rest) := by
  have clear : ∀ c ∈ Nat.toDigits 10 position.toNat, c ∉ [']'] := fun c member => Text.ne_of_mem_toDigits member rfl
  obtain ⟨first, others, digits⟩ := List.exists_cons_of_ne_nil (Nat.toDigits_ne_nil (n := position.toNat) (b := 10))
  have noQuote : first ≠ '\'' := by
    have member : first ∈ Nat.toDigits 10 position.toNat := digits ▸ List.mem_cons_self
    simpa using Text.ne_of_mem_toDigits member (show '\''.isDigit = false from rfl)
  rw [read?, Text.cut_stop clear List.mem_cons_self]
  · simp only [Text.word_toDigits]
    rfl
  · simp [digits, noQuote]

theorem read?_call {name : String} (clear : ∀ c ∈ name.toList, c ∉ ['.', '[', '(']) (text : List Char) :
    read? ('.' :: (name.toList ++ '(' :: text)) = readCall? name text := by
  rw [read?, Text.cut_stop clear (by decide)]
  simp

theorem readCall?_path (text : List Char) :
    readCall? "path" text =
      let (segment, back) := Text.cut ['\''] (text.drop 1)
      some (go (.segment (String.ofList segment)), back.drop 2) := rfl

theorem readCall?_convert (text : List Char) :
    readCall? "convert" text =
      let (argument, back) := Text.cut [')'] text
      some (convert ⟨String.ofList argument, .ok⟩, back.drop 1) := rfl

theorem readCall?_insert (text : List Char) :
    readCall? "insert" text =
      let (argument, back) := Text.cut [')'] text
      some (place (.insert (Text.word argument)), back.drop 1) := rfl

theorem read?_attr {name : String} (bare : Text.Bare name) (begins : ∀ c ∈ rest.head?, c ∈ ['.', '[']) :
    read? ('.' :: (name.toList ++ rest)) = some (go (.attr name), rest) := by
  have clear : ∀ c ∈ name.toList, c ∉ ['.', '[', '('] := by
    intro c member inside
    exact bare c member (List.mem_append_left [')'] inside)
  have ends : ∀ c ∈ rest.head?, c ∈ ['.', '[', '('] := fun c first => List.mem_append_left ['('] (begins c first)
  rw [read?, Text.cut_append clear ends]
  cases rest with
  | nil => simp
  | cons c rest =>
    have noCall : c ≠ '(' := by
      rintro rfl
      simpa using begins '(' rfl
    simp [noCall]

/-- The first step of a text is read off it, if what is behind it begins as a step does. -/
theorem read?_text (plain : step.Plain) (begins : ∀ c ∈ rest.head?, c ∈ ['.', '[']) :
    read? (step.text.toList ++ rest) = some (step.outline, rest) := by
  cases step with
  | go hop =>
    cases hop with
    | item key =>
      cases key with
      | name name =>
        have spelt : (go (.item (.name name))).text.toList ++ rest =
            '[' :: '\'' :: (name.toList ++ '\'' :: ']' :: rest) := by
          simp [text, Hop.text, toString]
        rw [spelt, read?, Text.cut_stop (not_mem_singleton plain) List.mem_cons_self]
        simp [outline]
      | index position =>
        have spelt : (go (.item (.index position))).text.toList ++ rest =
            '[' :: (Nat.toDigits 10 position.toNat ++ ']' :: rest) := by
          simp [text, Hop.text, toString, Nat.toList_repr]
        rw [spelt]
        exact read?_index position rest
    | attr name =>
      have spelt : (go (.attr name)).text.toList ++ rest = '.' :: (name.toList ++ rest) := by
        simp [text, Hop.text, toString]
      rw [spelt]
      exact read?_attr plain begins
    | segment name =>
      have spelt : (go (.segment name)).text.toList ++ rest =
          '.' :: ("path".toList ++ '(' :: '\'' :: (name.toList ++ '\'' :: ')' :: rest)) := by
        simp [text, Hop.text, toString]
      have reads := Text.cut_stop (not_mem_singleton plain) List.mem_cons_self (')' :: rest)
      rw [spelt, read?_call (by simp), readCall?_path, List.drop_one, List.tail_cons, reads]
      simp [outline]
  | convert converter =>
    have spelt : (convert converter).text.toList ++ rest =
        '.' :: ("convert".toList ++ '(' :: (converter.name.toList ++ ')' :: rest)) := by
      simp [text, toString]
    have clear : ∀ c ∈ converter.name.toList, c ∉ [')'] := by
      intro c member inside
      exact plain c member (List.mem_append_right ['.', '[', '('] inside)
    have reads := Text.cut_stop clear List.mem_cons_self rest
    rw [spelt, read?_call (by simp), readCall?_convert, reads]
    simp [outline]
  | required => rfl
  | place placement =>
    cases placement with
    | append => rfl
    | insert position =>
      have spelt : (place (.insert position)).text.toList ++ rest =
          '.' :: ("insert".toList ++ '(' :: (Nat.toDigits 10 position.toNat ++ ')' :: rest)) := by
        simp [text, Placement.text, toString, Nat.toList_repr]
      have clear : ∀ c ∈ Nat.toDigits 10 position.toNat, c ∉ [')'] :=
        fun c member => Text.ne_of_mem_toDigits member rfl
      have reads := Text.cut_stop clear List.mem_cons_self rest
      rw [spelt, read?_call (by simp), readCall?_insert, reads]
      simp [outline, Text.word_toDigits]
  | merge => rfl

end Read

end Step

namespace Locator

theorem toList_text (locator : Locator) :
    locator.text.toList = locator.kind.name.toList ++ locator.steps.flatMap fun step => step.text.toList := by
  rw [text, String.toList_append, String.toList_join, List.flatMap_map]

theorem begins_steps (steps : List Step) :
    ∀ c ∈ (steps.flatMap fun step => step.text.toList).head?, c ∈ ['.', '['] := by
  cases steps with
  | nil => simp
  | cons step rest =>
    obtain ⟨first, back, spelt, begins⟩ := step.begins_text
    rw [List.flatMap_cons, spelt]
    rintro c ⟨⟩
    exact begins

/-- Steps are read off their texts one by one. -/
theorem alike_of_steps {steps others : List Step} (plain : ∀ step ∈ steps, step.Plain)
    (alsoPlain : ∀ step ∈ others, step.Plain)
    (same : (steps.flatMap fun step => step.text.toList) = others.flatMap fun step => step.text.toList) :
    List.Forall₂ Step.Alike steps others := by
  induction steps generalizing others with
  | nil =>
    cases others with
    | nil => exact .nil
    | cons other more =>
      obtain ⟨first, back, spelt, -⟩ := other.begins_text
      simp [spelt] at same
  | cons step rest ih =>
    cases others with
    | nil =>
      obtain ⟨first, back, spelt, -⟩ := step.begins_text
      simp [spelt] at same
    | cons other more =>
      obtain ⟨stepPlain, restPlain⟩ := List.forall_mem_cons.1 plain
      obtain ⟨otherPlain, morePlain⟩ := List.forall_mem_cons.1 alsoPlain
      rw [List.flatMap_cons, List.flatMap_cons] at same
      have reads := Step.read?_text stepPlain (begins_steps rest)
      rw [same, Step.read?_text otherPlain (begins_steps more)] at reads
      obtain ⟨outlines, behind⟩ := Prod.ext_iff.1 (Option.some.inj reads)
      exact .cons (Step.alike_iff.2 outlines.symm) (ih restPlain morePlain behind.symm)

theorem steps_of_alike {steps others : List Step} (alike : List.Forall₂ Step.Alike steps others) :
    steps.map Step.text = others.map Step.text := by
  induction alike with
  | nil => rfl
  | cons first _ ih => rw [List.map_cons, List.map_cons, Step.text_eq_of_alike first, ih]

/-- The two kinds differ in their first letters. -/
theorem kind_of_text {locator other : Locator} (same : locator.text = other.text) : locator.kind = other.kind := by
  have letters := congrArg (fun text : String => text.toList.head?) same
  simp only [toList_text] at letters
  cases reads : locator.kind <;> cases also : other.kind <;> simp [reads, also, Kind.name] at letters ⊢

end Locator

/-- The text of a locator identifies it: two locators have the same text exactly if they are of the same kind and have
the same steps in the same order, where converters are compared by their names. Their names must not hold the characters
at which a step ends. -/
theorem text_identifies {locator other : Locator} (plain : ∀ step ∈ locator.steps, step.Plain)
    (alsoPlain : ∀ step ∈ other.steps, step.Plain) :
    locator.text = other.text ↔
      locator.kind = other.kind ∧ List.Forall₂ Step.Alike locator.steps other.steps := by
  constructor
  · intro same
    have kinds := Locator.kind_of_text same
    have spelt := congrArg String.toList same
    rw [locator.toList_text, other.toList_text, kinds, List.append_cancel_left_eq] at spelt
    exact ⟨kinds, Locator.alike_of_steps plain alsoPlain spelt⟩
  · rintro ⟨kinds, alike⟩
    rw [Locator.text, Locator.text, kinds, Locator.steps_of_alike alike]

/-- An attribute is told from the step that it is named as, an item from the index that it is named as, and an empty
name from none. A converter is known by its name alone. -/
theorem text_identifies_keywords :
    let steps (first : Step) (converter : Converter) : List Step :=
      [first, .go (.item (.name "2")), .go (.item (.index 2)), .go (.attr ""), .convert converter]
    let locator : Locator := .ofSteps .source (steps (.go (.attr "required")) .integer)
    let other : Locator := .ofSteps .source (steps .required .integer)
    let renamed : Locator := .ofSteps .source (steps (.go (.attr "required")) ⟨"integer", .ok⟩)
    (∀ step ∈ locator.steps, step.Plain) ∧ locator.text = "source.required['2'][2]..convert(integer)" ∧
      locator.text ≠ other.text ∧ locator.text = renamed.text := by
  intro steps locator other renamed
  have plain : ∀ step ∈ locator.steps, step.Plain := by
    simp [locator, steps, Step.Plain, Text.Bare, Converter.integer]
  have otherPlain : ∀ step ∈ other.steps, step.Plain := by
    simp [other, steps, Step.Plain, Text.Bare, Converter.integer]
  have renamedPlain : ∀ step ∈ renamed.steps, step.Plain := by
    simp [renamed, steps, Step.Plain, Text.Bare]
  refine ⟨plain, rfl, fun same => ?_, (text_identifies plain renamedPlain).2 ⟨rfl, ?_⟩⟩
  · obtain ⟨-, alike⟩ := (text_identifies plain otherPlain).1 same
    simp [locator, other, steps, Step.Alike] at alike
  · simp [locator, renamed, steps, Step.Alike, Converter.integer]

end DataLocator
