import DataLocator.Proofs.IntegerTexts

/-! # Integers through texts

The decimal form of an integer has no sign but a minus, no leading zero and no white space (`Text.Decimal`), and there
is one for each integer: the one that is written (`Text.decimal_iff`). As it spells the integer too, an integer that is
written and read again comes back in the constructor that its size asks for (`toInteger_toString`). A text that spells
an integer in some other way is written in the decimal form once it has been read (`integers_survive_text`).
-/

namespace DataLocator

namespace Text

/-- The decimal form of an integer: digits that do not lead with a zero, `0` itself apart, behind a minus if the integer
is negative. -/
inductive Decimal : List Char → Int → Prop
  | natural {digits : List Char} (digital : Digital digits) (leads : digits.head? = some '0' → digits = ['0']) :
      Decimal digits (Nat.ofDigitChars 10 digits 0)
  | negative {digits : List Char} (digital : Digital digits) (leads : digits.head? ≠ some '0') :
      Decimal ('-' :: digits) (-Nat.ofDigitChars 10 digits 0)

variable {text : List Char} {z : Int}

theorem Decimal.denotes (decimal : Decimal text z) : Denotes text z := by
  cases decimal with
  | natural digital leads => exact .plain digital
  | negative digital leads => exact .minus digital

theorem Denotes.spells (denotes : Denotes text z) : Spells text z :=
  ⟨text, ⟨[], [], by simp⟩, denotes⟩

theorem digital_toDigits (n : Nat) : Digital (Nat.toDigits 10 n) :=
  ⟨Nat.toDigits_ne_nil, fun _ member => Nat.isDigit_of_mem_toDigits (by decide) (by decide) member⟩

/-- Digits that do not lead with a zero are the ones that are written for their number. -/
theorem eq_toDigits_of_digital (digital : Digital text) (leads : text.head? = some '0' → text = ['0']) :
    text = Nat.toDigits 10 (Nat.ofDigitChars 10 text 0) := by
  refine canonicalNatural?_eq_some_iff.1 ?_
  have allowed : ¬ (text.head? = some '0' ∧ text ≠ ['0']) := fun both => both.2 (leads both.1)
  rw [canonicalNatural?, if_neg allowed]
  exact natural?_eq_some_iff.2 ⟨digital, rfl⟩

theorem decimal_toDigits (n : Nat) : Decimal (Nat.toDigits 10 n) n := by
  have decimal : Decimal (Nat.toDigits 10 n) (Nat.ofDigitChars 10 (Nat.toDigits 10 n) 0) := by
    refine .natural (digital_toDigits n) fun zero => ?_
    rcases Nat.eq_zero_or_pos n with rfl | positive
    · rfl
    · exact absurd zero (head?_toDigits positive)
  rwa [Nat.ofDigitChars_ten_toDigits] at decimal

theorem decimal_minus_toDigits {n : Nat} (positive : 0 < n) : Decimal ('-' :: Nat.toDigits 10 n) (-n) := by
  have decimal := Decimal.negative (digital_toDigits n) (head?_toDigits positive)
  rwa [Nat.ofDigitChars_ten_toDigits] at decimal

theorem toList_toString_natCast (n : Nat) : (toString (n : Int)).toList = Nat.toDigits 10 n := n.toList_repr

theorem toList_toString_neg {n : Nat} (positive : 0 < n) :
    (toString (-n : Int)).toList = '-' :: Nat.toDigits 10 n := by
  obtain ⟨before, rfl⟩ := Nat.exists_eq_succ_of_ne_zero (Nat.ne_of_gt positive)
  change ("-" ++ (before + 1).repr).toList = _
  rw [String.toList_append, Nat.toList_repr]
  rfl

/-- Each integer has one decimal form, the one that is written for it. -/
theorem decimal_iff : Decimal text z ↔ text = (toString z).toList := by
  constructor
  · intro decimal
    cases decimal with
    | natural digital leads =>
      rw [toList_toString_natCast]
      exact eq_toDigits_of_digital digital leads
    | @negative digits digital leads =>
      have same := eq_toDigits_of_digital digital fun zero => absurd zero leads
      have positive : 0 < Nat.ofDigitChars 10 digits 0 := by
        refine Nat.pos_iff_ne_zero.2 fun zero => leads ?_
        rw [same, zero]
        rfl
      rw [toList_toString_neg positive, ← same]
  · rintro rfl
    rcases Int.eq_nat_or_neg z with ⟨n, rfl | rfl⟩
    · rw [toList_toString_natCast]
      exact decimal_toDigits n
    · rcases Nat.eq_zero_or_pos n with rfl | positive
      · exact decimal_toDigits 0
      · rw [toList_toString_neg positive]
        exact decimal_minus_toDigits positive

theorem spells_toString (z : Int) : Spells (toString z).toList z := (decimal_iff.2 rfl).denotes.spells

theorem Spells.eq {other : Int} (spells : Spells text z) (also : Spells text other) : z = other :=
  Option.some.inj ((spells_iff.1 spells).symm.trans (spells_iff.1 also))

end Text

/-- The integer that a value holds. -/
def Value.integer? : Value → Option Int
  | integer n => some n.toInt
  | unsigned n => some n.toNat
  | _ => none

section Converter

variable {z : Int} {value : Value}

theorem integer?_of_ofInt? (found : Value.ofInt? z = some value) : value.integer? = some z := by
  rcases Value.ofInt?_eq_some_iff.1 found with ⟨-, n, rfl, rfl⟩ | ⟨-, n, rfl, rfl⟩ <;> rfl

/-- An integer is written in its decimal form, whichever range holds it. -/
theorem toText_of_integer? (holds : value.integer? = some z) :
    Converter.string.convert value = .ok (.string (toString z)) := by
  cases value with
  | integer n =>
    obtain rfl := Option.some.inj holds
    rfl
  | unsigned n =>
    obtain rfl := Option.some.inj holds
    rfl
  | _ => contradiction

/-- An integer that was written is read as the value of its size. -/
theorem toInteger_toString (found : Value.ofInt? z = some value) :
    Converter.integer.convert (.string (toString z)) = .ok value :=
  toInteger_eq_ok_iff.2 ⟨z, Text.spells_toString z, found⟩

theorem toText_bind_toInteger {written : Value} (holds : written.integer? = some z)
    (found : Value.ofInt? z = some value) :
    (Converter.string.convert written).bind Converter.integer.convert = .ok value := by
  rw [toText_of_integer? holds]
  exact toInteger_toString found

/-- An integer that is written and read again is the same one, and comes back unsigned only above the signed range. A
text that is read as an integer is written as the decimal form of it, which is read as the same value, so that two texts
are written in the same way exactly if they spell the same integer. -/
theorem integers_survive_text :
    (∀ n : Int64,
      (Converter.string.convert (.integer n)).bind Converter.integer.convert = .ok (.integer n)) ∧
    (∀ n : UInt64,
      let survivor := (Converter.string.convert (.unsigned n)).bind Converter.integer.convert
      (Int64.maxValue.toInt < n.toNat → survivor = .ok (.unsigned n)) ∧
      (n.toNat ≤ Int64.maxValue.toInt → ∃ small : Int64, small.toInt = n.toNat ∧ survivor = .ok (.integer small))) ∧
    (∀ (text : String) (value : Value), Converter.integer.convert (.string text) = .ok value →
      ∃ z written, Text.Spells text.toList z ∧ value.integer? = some z ∧
        Converter.string.convert value = .ok (.string written) ∧
        (∀ chars, Text.Decimal chars z ↔ chars = written.toList) ∧
        Converter.integer.convert (.string written) = .ok value) ∧
    ∀ (text other : String) (value also : Value), Converter.integer.convert (.string text) = .ok value →
      Converter.integer.convert (.string other) = .ok also →
        (Converter.string.convert value = Converter.string.convert also ↔
          ∃ z, Text.Spells text.toList z ∧ Text.Spells other.toList z) := by
  refine ⟨fun n => ?_, fun n => ⟨fun above => ?_, fun below => ?_⟩, ?_, ?_⟩
  · exact toText_bind_toInteger rfl (Value.ofInt?_eq_some_iff.2 (.inl ⟨n.toInt_le, n, rfl, rfl⟩))
  · exact toText_bind_toInteger rfl (Value.ofInt?_eq_some_iff.2 (.inr ⟨above, n, rfl, rfl⟩))
  · have least : Int64.minValue.toInt ≤ n.toNat := Int.le_trans (by decide) (Int.natCast_nonneg _)
    have same := toInt_ofInt_of_fits least below
    refine ⟨_, same, toText_bind_toInteger rfl ?_⟩
    exact Value.ofInt?_eq_some_iff.2 (.inl ⟨below, _, rfl, same⟩)
  · intro text value accepted
    obtain ⟨z, spells, found⟩ := toInteger_eq_ok_iff.1 accepted
    have holds := integer?_of_ofInt? found
    exact ⟨z, toString z, spells, holds, toText_of_integer? holds, fun _ => Text.decimal_iff, toInteger_toString found⟩
  · intro text other value also accepted alsoAccepted
    obtain ⟨z, spells, found⟩ := toInteger_eq_ok_iff.1 accepted
    obtain ⟨y, alsoSpells, alsoFound⟩ := toInteger_eq_ok_iff.1 alsoAccepted
    rw [toText_of_integer? (integer?_of_ofInt? found), toText_of_integer? (integer?_of_ofInt? alsoFound)]
    constructor
    · intro same
      have sameText : toString z = toString y := Value.string.inj (Except.ok.inj same)
      obtain rfl := (Text.spells_toString z).eq (sameText ▸ Text.spells_toString y)
      exact ⟨z, spells, alsoSpells⟩
    · rintro ⟨x, first, second⟩
      rw [spells.eq first, alsoSpells.eq second]

/-- The greatest number comes back unsigned and a small one in the signed range, and zeros and white space around a
number below zero are lost. -/
theorem integers_survive_text_padded :
    (Converter.string.convert (.unsigned 18446744073709551615)).bind Converter.integer.convert =
        .ok (.unsigned 18446744073709551615) ∧
      (∃ small : Int64, small.toInt = 80 ∧
        (Converter.string.convert (.unsigned 80)).bind Converter.integer.convert = .ok (.integer small)) ∧
      Converter.integer.convert (.string " -007\n") = .ok (.integer (-7)) ∧
      Converter.integer.convert (.string "-7") = .ok (.integer (-7)) ∧
      (∃ z written, Text.Spells " -007\n".toList z ∧ Converter.string.convert (.integer (-7)) = .ok (.string written) ∧
        Text.Decimal written.toList z) ∧
      ∃ z, Text.Spells " -007\n".toList z ∧ Text.Spells "-7".toList z := by
  obtain ⟨-, unsigned, accepted, pairs⟩ := integers_survive_text
  have padded : Converter.integer.convert (.string " -007\n") = .ok (.integer (-7)) := rfl
  have plain : Converter.integer.convert (.string "-7") = .ok (.integer (-7)) := rfl
  obtain ⟨z, written, spells, -, writes, decimal, -⟩ := accepted _ _ padded
  exact ⟨(unsigned _).1 (by decide), (unsigned 80).2 (by decide), padded, plain,
    ⟨z, written, spells, writes, (decimal _).2 rfl⟩, (pairs _ _ _ _ padded plain).1 rfl⟩

end Converter

end DataLocator
