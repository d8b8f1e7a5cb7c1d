import HeapReplay.Text.Numeral
import Mathlib.Data.List.Basic

namespace HeapReplay.Text

/-- A word that stands for a whole number: a plus sign or none, then at least one digit and
    nothing else. -/
def Numeral (word : List Char) (value : Nat) : Prop :=
  ∃ digits, (word = digits ∨ word = '+' :: digits) ∧ digits ≠ [] ∧
    (∀ c ∈ digits, c.isDigit) ∧ Nat.ofDigitChars 10 digits 0 = value

/-- How a number is written: with a plus sign or without, and behind how many zeros. -/
structure NumeralStyle where
  plus : Bool := false
  zeros : Nat := 0
  deriving DecidableEq, Repr

/-- Writes a number in decimal. -/
def NumeralStyle.write (style : NumeralStyle) (value : Nat) : List Char :=
  let digits := List.replicate style.zeros '0' ++ Nat.toDigits 10 value
  if style.plus then '+' :: digits else digits

section Numeral

variable {word digits : List Char} {limit value : Nat}

theorem dropPlus_of_digits (hdigits : ∀ c ∈ digits, c.isDigit) : dropPlus digits = digits := by
  unfold dropPlus
  split
  · exact absurd (hdigits '+' List.mem_cons_self) (by decide)
  · rfl

theorem eq_dropPlus_or (word : List Char) : word = dropPlus word ∨ word = '+' :: dropPlus word := by
  unfold dropPlus
  split
  · exact .inr rfl
  · exact .inl rfl

theorem numeral_iff : Numeral word value ↔ dropPlus word ≠ [] ∧
    (∀ c ∈ dropPlus word, c.isDigit) ∧ Decimal.digitsValue (dropPlus word) = value := by
  constructor
  · rintro ⟨digits, rfl | rfl, hsome, hdigits, hvalue⟩
    · rw [dropPlus_of_digits hdigits]
      exact ⟨hsome, hdigits, hvalue⟩
    · exact ⟨hsome, hdigits, hvalue⟩
  · rintro ⟨hsome, hdigits, hvalue⟩
    exact ⟨dropPlus word, eq_dropPlus_or word, hsome, hdigits, hvalue⟩

/-- What is read is a numeral for a number below the limit. -/
theorem readBelow?_eq_some :
    readBelow? limit word = some value ↔ Numeral word value ∧ value < limit := by
  have hguard : ((dropPlus word).isEmpty || !(dropPlus word).all Char.isDigit) = true ↔
      ¬ (dropPlus word ≠ [] ∧ ∀ c ∈ dropPlus word, c.isDigit) := by
    simp only [Bool.or_eq_true, List.isEmpty_iff, Bool.not_eq_true', ← Bool.not_eq_true,
      List.all_eq_true]
    tauto
  rw [numeral_iff, ← and_assoc, readBelow?]
  by_cases hdigits : dropPlus word ≠ [] ∧ ∀ c ∈ dropPlus word, c.isDigit
  · simp only [if_neg (hguard.not.2 (not_not.2 hdigits)), and_iff_right hdigits]
    split
    · next hlt =>
      rw [Option.some_inj]
      exact ⟨fun hvalue => ⟨hvalue, hvalue ▸ hlt⟩, And.left⟩
    · next hge =>
      constructor
      · exact nofun
      · rintro ⟨hvalue, hlt⟩
        exact absurd (hvalue ▸ hlt) hge
  · simp only [if_pos (hguard.2 hdigits), reduceCtorEq, hdigits, false_and]

theorem numeral_write (style : NumeralStyle) (value : Nat) : Numeral (style.write value) value := by
  refine ⟨List.replicate style.zeros '0' ++ Nat.toDigits 10 value, ?_, ?_, ?_, ?_⟩
  · unfold NumeralStyle.write
    cases style.plus
    · exact .inl rfl
    · exact .inr rfl
  · simp
  · intro c hc
    rcases List.mem_append.1 hc with hzero | hdigit
    · rw [List.eq_of_mem_replicate hzero]
      rfl
    · exact Nat.isDigit_of_mem_toDigits (by decide) (by decide) hdigit
  · rw [Nat.ofDigitChars_append, Nat.ofDigitChars_replicate_zero, Nat.mul_zero,
      Nat.ofDigitChars_toDigits (by decide) (by decide)]

end Numeral

end HeapReplay.Text
