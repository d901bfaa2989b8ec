import Mathlib.Algebra.Group.Nat.Defs
import WordSums.Text.Decimal

/-!
# Numerals that are read back

A written number consists of digits, is never empty, and has no zero in front unless it is zero itself. Its
digits stand for the number, also with zeros before them. Where digits are taken off the start of a text,
exactly these are taken when no digit follows them.
-/

namespace WordSums.Text

theorem isDigit_of_mem_decimal {number : Nat} {char : Char} (hmem : char ∈ decimal number) : char.isDigit = true :=
  Nat.isDigit_of_mem_toDigits (by decide) (by decide) hmem

theorem digitsValue_decimal (number : Nat) : digitsValue 0 (decimal number) = number :=
  Nat.ofDigitChars_ten_toDigits

theorem decimal_injective : Function.Injective decimal :=
  Function.LeftInverse.injective digitsValue_decimal

theorem decimal_ne_nil (number : Nat) : decimal number ≠ [] :=
  Nat.toDigits_ne_nil

theorem head?_decimal {number : Nat} (hpositive : 0 < number) : (decimal number).head? ≠ some '0' := by
  induction number using Nat.strongRecOn with
  | _ number ih =>
    unfold decimal at ih ⊢
    by_cases hsmall : number < 10
    · rw [Nat.toDigits_of_lt_base hsmall]
      simp
      omega
    · have hrest := ih (number / 10) (by omega) (by omega)
      obtain ⟨first, others, hdigits⟩ := List.exists_cons_of_ne_nil (decimal_ne_nil (number / 10))
      unfold decimal at hdigits
      rw [hdigits] at hrest
      rw [Nat.toDigits_of_base_le (by decide) (Nat.le_of_not_lt hsmall), hdigits]
      exact hrest

theorem decimal_no_leading_zero (number : Nat) :
    ¬ (1 < (decimal number).length ∧ (decimal number).head? = some '0') := by
  rintro ⟨hlong, hzero⟩
  rcases Nat.eq_zero_or_pos number with rfl | hpositive
  · simp [decimal] at hlong
  · exact head?_decimal hpositive hzero

theorem isDigit_of_mem_paddedDecimal {count number : Nat} {char : Char} (hmem : char ∈ paddedDecimal count number) :
    char.isDigit = true := by
  rcases List.mem_append.1 hmem with hzero | hdigit
  · rw [List.eq_of_mem_replicate hzero]
    rfl
  · exact isDigit_of_mem_decimal hdigit

theorem digitsValue_paddedDecimal (count number : Nat) : digitsValue 0 (paddedDecimal count number) = number := by
  have hzeros : Nat.ofDigitChars 10 (List.replicate (count - (decimal number).length) '0') 0 = _ :=
    Nat.ofDigitChars_replicate_zero
  have hpadded := Nat.ofDigitChars_append (b := 10) (l := List.replicate (count - (decimal number).length) '0')
    (m := decimal number) 0
  rw [hzeros, Nat.mul_zero] at hpadded
  exact hpadded.trans (digitsValue_decimal number)

theorem length_paddedDecimal {count number : Nat} (hpositive : 0 < count) (hbound : number < 10 ^ count) :
    (paddedDecimal count number).length = count := by
  have hlength : (decimal number).length ≤ count := (Nat.length_toDigits_le_iff (by decide) hpositive).2 hbound
  rw [paddedDecimal, List.length_append, List.length_replicate]
  omega

theorem length_paddedDecimal_le {count most number : Nat} (hpositive : 0 < most) (hcount : count ≤ most)
    (hbound : number < 10 ^ most) : (paddedDecimal count number).length ≤ most := by
  have hlength : (decimal number).length ≤ most := (Nat.length_toDigits_le_iff (by decide) hpositive).2 hbound
  rw [paddedDecimal, List.length_append, List.length_replicate]
  omega

theorem paddedDecimal_ne_nil (count number : Nat) : paddedDecimal count number ≠ [] := by
  simp [paddedDecimal, decimal_ne_nil]

theorem takeWhile_isDigit_append {digits rest : List Char} (hdigits : ∀ char ∈ digits, char.isDigit = true)
    (hrest : ∀ char ∈ rest.head?, char.isDigit = false) : (digits ++ rest).takeWhile Char.isDigit = digits := by
  have hnone : rest.takeWhile Char.isDigit = [] := by
    cases rest with
    | nil => rfl
    | cons char rest => simp [hrest char rfl]
  rw [List.takeWhile_append_of_pos hdigits, hnone, List.append_nil]

end WordSums.Text
