/-!
# Decimal digits

Which characters are the decimal digits of a number.  Every number has digits,
and reading digits from the left, each one after ten times what came before,
gives the number that they write.
-/

namespace RCompletion
namespace Text

/-- Characters are decimal digits, at least one, that write a number. -/
structure IsDecimal (digits : List Char) (number : Nat) : Prop where
  filled : digits ≠ []
  isDigit : ∀ digit ∈ digits, digit.isDigit = true
  value : Nat.ofDigitChars 10 digits 0 = number

theorem isDecimal_toDigits (number : Nat) :
    IsDecimal (Nat.toDigits 10 number) number where
  filled := Nat.toDigits_ne_nil
  isDigit := fun _ present =>
    Nat.isDigit_of_mem_toDigits (by decide) (by decide) present
  value := Nat.ofDigitChars_ten_toDigits

theorem foldl_digits_eq_ofDigitChars (digits : List Char) (start : Nat) :
    digits.foldl
        (fun value digit => value * 10 + (digit.toNat - '0'.toNat)) start =
      Nat.ofDigitChars 10 digits start := by
  simp only [Nat.ofDigitChars_eq_foldl, Nat.mul_comm]

/-- A sign is no digit. -/
theorem IsDecimal.head?_ne
    {digits : List Char}
    {number : Nat}
    (decimal : IsDecimal digits number)
    {sign : Char}
    (noDigit : sign.isDigit = false) :
    digits.head? ≠ some sign := by
  intro first
  have present : sign ∈ digits := List.mem_of_mem_head? first
  rw [decimal.isDigit sign present] at noDigit
  cases noDigit

end Text
end RCompletion
