import DataLocator.Access

/-! # Keys and their indices

A key is an index exactly if its text is the decimal form of one (`Key.index?_eq_some_iff`), so that keys with different
texts never name the same element of a sequence. The reading of numerals is behind it: without a leading zero a numeral
is the one that writing its number gives (`Text.canonicalNatural?_eq_some_iff`).
-/

namespace DataLocator

namespace Text

/-- One or more ASCII digits. -/
def Digital (text : List Char) : Prop := text ≠ [] ∧ ∀ c ∈ text, c.isDigit = true

theorem natural?_eq_some_iff {text : List Char} {n : Nat} :
    natural? text = some n ↔ Digital text ∧ Nat.ofDigitChars 10 text 0 = n := by
  simp [natural?, Digital, and_assoc]

theorem natural?_eq_none_iff {text : List Char} : natural? text = none ↔ ¬ Digital text := by
  simp [natural?, Digital]

theorem not_digital_iff {text : List Char} : ¬ Digital text ↔ text = [] ∨ ∃ c ∈ text, c.isDigit = false := by
  simp [Digital, Decidable.or_iff_not_imp_left]

/-- A digit is the one that is written for its value. -/
theorem toDigits_of_isDigit {c : Char} (digit : c.isDigit = true) : Nat.toDigits 10 (c.toNat - '0'.toNat) = [c] := by
  obtain ⟨lower, upper⟩ := Char.isDigit_iff_toNat.1 digit
  have same : c = Char.ofNat c.toNat := c.ofNat_toNat.symm
  generalize c.toNat = code at *
  change 48 ≤ code at lower
  change code ≤ 57 at upper
  have oneOfTen : code = 48 ∨ code = 49 ∨ code = 50 ∨ code = 51 ∨ code = 52 ∨ code = 53 ∨ code = 54 ∨ code = 55 ∨
      code = 56 ∨ code = 57 := by omega
  rcases oneOfTen with rfl | rfl | rfl | rfl | rfl | rfl | rfl | rfl | rfl | rfl <;> rw [same] <;> rfl

/-- Digits behind a number above zero are written again behind it. -/
theorem toDigits_ofDigitChars {text : List Char} (digits : ∀ c ∈ text, c.isDigit = true) {front : Nat}
    (positive : 0 < front) :
    Nat.toDigits 10 (Nat.ofDigitChars 10 text front) = Nat.toDigits 10 front ++ text := by
  induction text generalizing front with
  | nil => simp
  | cons c rest ih =>
    have digit : c.isDigit = true := digits c List.mem_cons_self
    have small : c.toNat - '0'.toNat < 10 := by
      have upper : c.toNat ≤ 57 := (Char.isDigit_iff_toNat.1 digit).2
      change c.toNat - 48 < 10
      omega
    have later : 0 < 10 * front + (c.toNat - '0'.toNat) := by omega
    rw [Nat.ofDigitChars_cons, ih (fun other member => digits other (List.mem_cons_of_mem _ member)) later,
      ← Nat.toDigits_append_toDigits (by decide) positive small, toDigits_of_isDigit digit, List.append_assoc]
    rfl

theorem head?_toDigits {n : Nat} (positive : 0 < n) : (Nat.toDigits 10 n).head? ≠ some '0' := by
  induction n using Nat.strongRecOn with
  | _ n ih =>
    by_cases small : n < 10
    · rw [Nat.toDigits_of_lt_base small]
      simpa using Nat.pos_iff_ne_zero.1 positive
    · have shorter := ih (n / 10) (by omega) (by omega)
      obtain ⟨first, rest, split⟩ := List.exists_cons_of_ne_nil (Nat.toDigits_ne_nil (n := n / 10) (b := 10))
      rw [split] at shorter
      rw [Nat.toDigits_of_base_le (by decide) (by omega), split]
      exact shorter

/-- A numeral without a leading zero is the one that is written for its number. -/
theorem canonicalNatural?_eq_some_iff {text : List Char} {n : Nat} :
    canonicalNatural? text = some n ↔ text = Nat.toDigits 10 n := by
  constructor
  · intro reads
    unfold canonicalNatural? at reads
    split at reads
    · contradiction
    · next leads =>
      obtain ⟨⟨nonempty, digits⟩, rfl⟩ := natural?_eq_some_iff.1 reads
      obtain ⟨c, rest, rfl⟩ := List.exists_cons_of_ne_nil nonempty
      by_cases zero : c = '0'
      · subst zero
        obtain rfl : rest = [] := by simpa using leads
        rfl
      · have digit := digits c List.mem_cons_self
        have positive : 0 < c.toNat - '0'.toNat := by
          have lower := (Char.isDigit_iff_toNat.1 digit).1
          have differs : c.toNat ≠ '0'.toNat := fun same => zero (Char.toNat_inj.1 same)
          omega
        have later : ∀ other ∈ rest, other.isDigit = true :=
          fun other member => digits other (List.mem_cons_of_mem _ member)
        have behind := toDigits_ofDigitChars later positive
        rw [toDigits_of_isDigit digit] at behind
        rw [Nat.ofDigitChars_cons]
        simpa using behind.symm
  · rintro rfl
    have leads : ¬ ((Nat.toDigits 10 n).head? = some '0' ∧ Nat.toDigits 10 n ≠ ['0']) := by
      rintro ⟨zero, longer⟩
      rcases Nat.eq_zero_or_pos n with rfl | positive
      · exact longer rfl
      · exact head?_toDigits positive zero
    have digital : Digital (Nat.toDigits 10 n) :=
      ⟨Nat.toDigits_ne_nil, fun c member => Nat.isDigit_of_mem_toDigits (by decide) (by decide) member⟩
    rw [canonicalNatural?, if_neg leads]
    exact natural?_eq_some_iff.2 ⟨digital, Nat.ofDigitChars_ten_toDigits⟩

end Text

/-- A key is an index exactly if its text is the decimal form of one. -/
theorem Key.index?_eq_some_iff {key : Key} {position : UInt64} :
    key.index? = some position ↔ key.text = position.toNat.repr := by
  cases key with
  | index other =>
    simp only [Key.index?, Key.text, Option.some.injEq]
    constructor
    · rintro rfl
      rfl
    · intro same
      have values := congrArg (fun text : String => Nat.ofDigitChars 10 text.toList 0) same
      simp only [Nat.toList_repr, Nat.ofDigitChars_ten_toDigits] at values
      exact UInt64.toNat_inj.1 values
  | name text =>
    have reads (n : Nat) : Text.canonicalNatural? text.toList = some n ↔ text = n.repr := by
      rw [Text.canonicalNatural?_eq_some_iff, ← Nat.toList_repr, String.toList_inj]
    constructor
    · intro index
      simp only [Key.index?] at index
      split at index
      · next n found =>
        split at index
        · next small =>
          obtain rfl := Option.some.inj index
          rw [UInt64.toNat_ofNat_of_lt' small]
          exact (reads n).1 found
        · contradiction
      · contradiction
    · intro same
      simp [Key.index?, (reads _).2 same, position.toNat_lt_size]

end DataLocator
