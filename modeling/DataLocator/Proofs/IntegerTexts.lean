import DataLocator.Conversion
import DataLocator.Proofs.Keys

/-! # Integers in texts

A text spells an integer if it is a numeral with white space around it, or none (`Text.Spells`): one or more digits
behind at most one sign. The reader that trims the text and takes the numeral apart finds this integer and no other
(`Text.spells_iff`). So the integer converter accepts the texts that spell an integer in one of the two ranges, and
gives the value of that integer (`toInteger_accepts`).
-/

namespace DataLocator

namespace Text

/-- White space around a core, or none. -/
def Padded (core text : List Char) : Prop :=
  ∃ front back, text = front ++ core ++ back ∧ (∀ c ∈ front, isBlank c = true) ∧ ∀ c ∈ back, isBlank c = true

/-- The integer that a numeral denotes: digits alone or behind one sign. -/
inductive Denotes : List Char → Int → Prop
  | plain {digits : List Char} (digital : Digital digits) : Denotes digits (Nat.ofDigitChars 10 digits 0)
  | plus {digits : List Char} (digital : Digital digits) : Denotes ('+' :: digits) (Nat.ofDigitChars 10 digits 0)
  | minus {digits : List Char} (digital : Digital digits) : Denotes ('-' :: digits) (-Nat.ofDigitChars 10 digits 0)

/-- The text is a numeral of the integer, with white space around it or none. -/
def Spells (text : List Char) (z : Int) : Prop := ∃ core, Padded core text ∧ Denotes core z

section Trim

variable {core text : List Char}

theorem padded_trim (text : List Char) : Padded (trim text) text := by
  let kept := (text.dropWhile isBlank).reverse
  have behind : text.dropWhile isBlank = trim text ++ (kept.takeWhile isBlank).reverse := by
    rw [trim, ← List.reverse_append, List.takeWhile_append_dropWhile, List.reverse_reverse]
  refine ⟨text.takeWhile isBlank, (kept.takeWhile isBlank).reverse, ?_, ?_, ?_⟩
  · rw [List.append_assoc, ← behind, List.takeWhile_append_dropWhile]
  · exact List.all_eq_true.1 List.all_takeWhile
  · intro c member
    exact List.all_eq_true.1 List.all_takeWhile c (List.mem_reverse.1 member)

theorem dropWhile_append_of_solid (solid : ∀ c ∈ core, isBlank c = false) (nonempty : core ≠ []) (rest : List Char) :
    (core ++ rest).dropWhile isBlank = core ++ rest := by
  obtain ⟨c, others, rfl⟩ := List.exists_cons_of_ne_nil nonempty
  have first : ¬ isBlank c = true := Bool.eq_false_iff.1 (solid c List.mem_cons_self)
  exact List.dropWhile_cons_of_neg first

/-- A core without white space is what is left of it when the white space around it is dropped. -/
theorem trim_of_padded (solid : ∀ c ∈ core, isBlank c = false) (nonempty : core ≠ []) (padded : Padded core text) :
    trim text = core := by
  obtain ⟨front, back, rfl, inFront, behind⟩ := padded
  have alsoReversed : ∀ c ∈ core.reverse, isBlank c = false := fun c member => solid c (List.mem_reverse.1 member)
  have behindReversed : ∀ c ∈ back.reverse, isBlank c = true := fun c member => behind c (List.mem_reverse.1 member)
  have stays := dropWhile_append_of_solid alsoReversed (by simpa using nonempty) []
  rw [List.append_nil] at stays
  rw [trim, List.append_assoc, List.dropWhile_append_of_pos inFront, dropWhile_append_of_solid solid nonempty,
    List.reverse_append, List.dropWhile_append_of_pos behindReversed, stays, List.reverse_reverse]

end Trim

section Numeral

variable {text : List Char} {z : Int}

theorem isBlank_of_isDigit {c : Char} (digit : c.isDigit = true) : isBlank c = false := by
  obtain ⟨lower, upper⟩ := Char.isDigit_iff_toNat.1 digit
  change 48 ≤ c.toNat at lower
  change c.toNat ≤ 57 at upper
  simp [isBlank, CodePoints.has, blanks]
  omega

/-- A digit is neither of the two signs, so that the three forms of a numeral exclude each other. -/
theorem integer?_of_digital (digital : Digital text) :
    integer? text = some (Int.ofNat (Nat.ofDigitChars 10 text 0)) := by
  obtain ⟨c, rest, rfl⟩ := List.exists_cons_of_ne_nil digital.1
  have digit : c.isDigit = true := digital.2 c List.mem_cons_self
  have reads := natural?_eq_some_iff.2 ⟨digital, rfl⟩
  unfold integer?
  split
  · next starts =>
    obtain ⟨rfl, -⟩ := List.cons.inj starts
    contradiction
  · next starts =>
    obtain ⟨rfl, -⟩ := List.cons.inj starts
    contradiction
  · rw [reads]
    rfl

theorem integer?_eq_some_iff : integer? text = some z ↔ Denotes text z := by
  constructor
  · intro reads
    unfold integer? at reads
    split at reads
    · next digits =>
      cases natural : natural? digits with
      | none => simp [natural] at reads
      | some n =>
        obtain ⟨digital, rfl⟩ := natural?_eq_some_iff.1 natural
        obtain rfl : -(Nat.ofDigitChars 10 digits 0 : Int) = z := by simpa [natural] using reads
        exact .minus digital
    · obtain ⟨n, natural, rfl⟩ := Option.map_eq_some_iff.1 reads
      obtain ⟨digital, rfl⟩ := natural?_eq_some_iff.1 natural
      exact .plus digital
    · obtain ⟨n, natural, rfl⟩ := Option.map_eq_some_iff.1 reads
      obtain ⟨digital, rfl⟩ := natural?_eq_some_iff.1 natural
      exact .plain digital
  · rintro (digital | digital | digital)
    · exact integer?_of_digital digital
    · simp [integer?, natural?_eq_some_iff.2 ⟨digital, rfl⟩]
    · simp [integer?, natural?_eq_some_iff.2 ⟨digital, rfl⟩]

theorem Digital.solid (digital : Digital text) : ∀ c ∈ text, isBlank c = false :=
  fun c member => isBlank_of_isDigit (digital.2 c member)

theorem Denotes.solid (denotes : Denotes text z) : text ≠ [] ∧ ∀ c ∈ text, isBlank c = false := by
  cases denotes with
  | plain digital => exact ⟨digital.1, digital.solid⟩
  | plus digital => exact ⟨List.cons_ne_nil _ _, List.forall_mem_cons.2 ⟨by decide, digital.solid⟩⟩
  | minus digital => exact ⟨List.cons_ne_nil _ _, List.forall_mem_cons.2 ⟨by decide, digital.solid⟩⟩

/-- What a text spells is what is read when it is trimmed. -/
theorem spells_iff : Spells text z ↔ integer? (trim text) = some z := by
  rw [integer?_eq_some_iff]
  constructor
  · rintro ⟨core, padded, denotes⟩
    obtain ⟨nonempty, solid⟩ := denotes.solid
    rwa [trim_of_padded solid nonempty padded]
  · intro denotes
    exact ⟨trim text, padded_trim text, denotes⟩

end Numeral

end Text

section Value

variable {z : Int} {value : Value}

theorem toInt_ofInt_of_fits (lower : Int64.minValue.toInt ≤ z) (upper : z ≤ Int64.maxValue.toInt) :
    (Int64.ofInt z).toInt = z := by
  rw [Int64.toInt_minValue] at lower
  rw [Int64.toInt_maxValue] at upper
  exact Int64.toInt_ofInt_of_le lower (by omega)

theorem toNat_ofNat_of_fits (lower : 0 ≤ z) (upper : z < UInt64.size) : ((UInt64.ofNat z.toNat).toNat : Int) = z := by
  rw [UInt64.toNat_ofNat_of_lt' ((Int.toNat_lt lower).2 upper), Int.toNat_of_nonneg lower]

/-- The value of an integer is the signed one of this number, or above the signed range the unsigned one. -/
theorem Value.ofInt?_eq_some_iff :
    Value.ofInt? z = some value ↔
      (z ≤ Int64.maxValue.toInt ∧ ∃ n : Int64, value = .integer n ∧ n.toInt = z) ∨
      (Int64.maxValue.toInt < z ∧ ∃ n : UInt64, value = .unsigned n ∧ (n.toNat : Int) = z) := by
  unfold Value.ofInt?
  constructor
  · intro reads
    split at reads
    · next fits =>
      obtain rfl := Option.some.inj reads
      exact .inl ⟨fits.2, _, rfl, toInt_ofInt_of_fits fits.1 fits.2⟩
    · next exceeds =>
      split at reads
      · next fits =>
        obtain rfl := Option.some.inj reads
        have above : ¬ z ≤ Int64.maxValue.toInt := fun upper =>
          exceeds ⟨Int.le_trans (by decide) fits.1, upper⟩
        exact .inr ⟨Int.not_le.1 above, _, rfl, toNat_ofNat_of_fits fits.1 fits.2⟩
      · contradiction
  · rintro (⟨-, n, rfl, rfl⟩ | ⟨above, n, rfl, rfl⟩)
    · rw [if_pos ⟨n.minValue_le_toInt, n.toInt_le⟩, Int64.ofInt_toInt]
    · have fits : (0 : Int) ≤ n.toNat ∧ (n.toNat : Int) < UInt64.size :=
        ⟨Int.natCast_nonneg _, Int.ofNat_lt.2 n.toNat_lt_size⟩
      rw [if_neg fun signed => Int.not_le.2 above signed.2, if_pos fits, Int.toNat_natCast, UInt64.ofNat_toNat]

/-- The two ranges together are one interval: the unsigned one starts below the end of the signed one. -/
theorem Value.exists_ofInt?_iff :
    (∃ value, Value.ofInt? z = some value) ↔ Int64.minValue.toInt ≤ z ∧ z < UInt64.size := by
  simp only [Value.ofInt?_eq_some_iff]
  constructor
  · rintro ⟨-, ⟨-, n, -, rfl⟩ | ⟨above, n, -, rfl⟩⟩
    · exact ⟨n.minValue_le_toInt, Int.lt_of_le_of_lt n.toInt_le (by decide)⟩
    · exact ⟨Int.le_trans (by decide) (Int.natCast_nonneg _), Int.ofNat_lt.2 n.toNat_lt_size⟩
  · rintro ⟨lower, upper⟩
    by_cases signed : z ≤ Int64.maxValue.toInt
    · exact ⟨_, .inl ⟨signed, _, rfl, toInt_ofInt_of_fits lower signed⟩⟩
    · have above : Int64.maxValue.toInt < z := Int.not_le.1 signed
      have nonnegative : 0 ≤ z := Int.le_trans (by decide) (Int.le_of_lt above)
      exact ⟨_, .inr ⟨above, _, rfl, toNat_ofNat_of_fits nonnegative upper⟩⟩

end Value

section Converter

variable {text : String} {value : Value}

theorem readInteger_trim_eq_some_iff :
    Conversion.readInteger (Text.trim text.toList) = some value ↔
      ∃ z, Text.Spells text.toList z ∧ Value.ofInt? z = some value := by
  simp only [Conversion.readInteger, Option.bind_eq_some_iff, Text.spells_iff]

theorem toInteger_eq_ok_iff :
    Converter.integer.convert (.string text) = .ok value ↔
      ∃ z, Text.Spells text.toList z ∧ Value.ofInt? z = some value := by
  rw [← readInteger_trim_eq_some_iff]
  cases reads : Conversion.readInteger (Text.trim text.toList) <;>
    simp [Converter.integer, Conversion.toInteger, Conversion.refuse, reads]

theorem toInteger_eq_error_iff {failure : ConversionFailure} :
    Converter.integer.convert (.string text) = .error failure ↔
      (∀ value, Converter.integer.convert (.string text) ≠ .ok value) ∧
        failure = ⟨"integer", "string '" ++ text ++ "'"⟩ := by
  cases reads : Conversion.readInteger (Text.trim text.toList) <;>
    simp [Converter.integer, Conversion.toInteger, Conversion.refuse, Conversion.describe, reads, eq_comm, toString]

/-- The integer converter accepts the texts that spell an integer between the least signed and the greatest unsigned
one, and gives the signed value of it, or the unsigned one if it is above the signed range. All other texts it refuses,
and quotes them with the white space around them. -/
theorem toInteger_accepts (text : String) :
    let converted := Converter.integer.convert (.string text)
    let fits := ∃ z, Text.Spells text.toList z ∧ Int64.minValue.toInt ≤ z ∧ z < UInt64.size
    ((∃ value, converted = .ok value) ↔ fits) ∧
    (∀ value, converted = .ok value ↔ ∃ z, Text.Spells text.toList z ∧
      ((z ≤ Int64.maxValue.toInt ∧ ∃ n : Int64, value = .integer n ∧ n.toInt = z) ∨
       (Int64.maxValue.toInt < z ∧ ∃ n : UInt64, value = .unsigned n ∧ (n.toNat : Int) = z))) ∧
    (¬ fits ↔ converted = .error ⟨"integer", "string '" ++ text ++ "'"⟩) := by
  intro converted fits
  have accepted : (∃ value, converted = .ok value) ↔ fits := by
    simp only [converted, toInteger_eq_ok_iff, fits, ← Value.exists_ofInt?_iff]
    constructor
    · rintro ⟨value, z, spells, found⟩
      exact ⟨z, spells, value, found⟩
    · rintro ⟨z, spells, value, found⟩
      exact ⟨value, z, spells, found⟩
  refine ⟨accepted, fun value => ?_, ?_⟩
  · simp only [converted, toInteger_eq_ok_iff, Value.ofInt?_eq_some_iff]
  · rw [← accepted, not_exists, toInteger_eq_error_iff]
    exact ⟨fun refused => ⟨refused, rfl⟩, And.left⟩

theorem toInteger_accepts_greatest :
    Converter.integer.convert (.string " +018446744073709551615\n") = .ok (.unsigned 18446744073709551615) ∧
    Converter.integer.convert (.string " 18446744073709551616") =
      .error ⟨"integer", "string ' 18446744073709551616'"⟩ := by
  constructor
  · refine ((toInteger_accepts _).2.1 _).2 ⟨18446744073709551615, Text.spells_iff.2 rfl, .inr ⟨by decide, _, rfl, rfl⟩⟩
  · refine (toInteger_accepts _).2.2.1 ?_
    rintro ⟨z, spells, -, upper⟩
    have reads : Text.integer? (Text.trim " 18446744073709551616".toList) = some 18446744073709551616 := rfl
    obtain rfl := Option.some.inj (reads.symm.trans (Text.spells_iff.1 spells))
    exact absurd upper (by decide)

end Converter

end DataLocator
