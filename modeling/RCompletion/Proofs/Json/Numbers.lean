import RCompletion.Proofs.Json.Layout
import RCompletion.Proofs.Text.Decimal

/-!
# Numbers that are read back

A number is written with an optional sign, digits, an optional fraction and an
optional exponent.  Its parts are read up to where a value may end.  A number
that is written by its digits alone, and fits into 64 bits, is read as this
integer.
-/

namespace RCompletion
namespace Json

/-! ## Written numbers -/

/-- Digits before a point: a zero, or digits that do not start with one. -/
def IsWhole (digits : List Char) : Prop :=
  digits = ['0'] ∨ (∃ number, Text.IsDecimal digits number) ∧
    digits.head? ≠ some '0'

/-- The fraction of a number, if there is one. -/
def IsFraction (text : List Char) : Prop :=
  text = [] ∨ ∃ digits number, Text.IsDecimal digits number ∧
    text = '.' :: digits

/-- The exponent of a number, if there is one. -/
def IsExponent (text : List Char) : Prop :=
  text = [] ∨ ∃ letter sign digits number,
    letter ∈ ['e', 'E'] ∧ sign ∈ [[], ['+'], ['-']] ∧
      Text.IsDecimal digits number ∧ text = letter :: (sign ++ digits)

/-- The text of a number. -/
def IsNumber (text : List Char) : Prop :=
  ∃ sign whole fraction exponent,
    sign ∈ [[], ['-']] ∧ IsWhole whole ∧ IsFraction fraction ∧
      IsExponent exponent ∧ text = sign ++ (whole ++ (fraction ++ exponent))

/-! ## Digits -/

/-- No digit comes next. -/
def NoDigit (text : List Char) : Prop :=
  ∀ first ∈ text.head?, first.isDigit = false

/-- Digits are taken over up to where none comes next. -/
theorem takeWhile_and_dropWhile_isDigit
    {digits rest : List Char}
    {number : Nat}
    (decimal : Text.IsDecimal digits number)
    (ends : NoDigit rest) :
    (digits ++ rest).takeWhile Char.isDigit = digits ∧
      (digits ++ rest).dropWhile Char.isDigit = rest := by
  rw [List.takeWhile_append_of_pos decimal.isDigit,
    List.dropWhile_append_of_pos decimal.isDigit]
  cases rest with
  | nil => simp
  | cons first rest =>
      have noDigit : ¬first.isDigit = true := by
        rw [ends first rfl]
        exact Bool.false_ne_true
      rw [List.takeWhile_cons_of_neg noDigit,
        List.dropWhile_cons_of_neg noDigit, List.append_nil]
      exact ⟨rfl, rfl⟩

/-- Digits are not taken for a sign. -/
theorem IsWhole.head?_append_ne
    {whole : List Char}
    (isWhole : IsWhole whole)
    (rest : List Char) :
    ((whole ++ rest).head? == some '-') = false := by
  have noDigit : '-'.isDigit = false := by decide
  rcases isWhole with rfl | ⟨⟨number, decimal⟩, -⟩
  · rfl
  · rw [List.head?_append_of_ne_nil _ decimal.filled, beq_eq_false_iff_ne]
    exact decimal.head?_ne noDigit

theorem IsWhole.readWhole_append
    {whole rest : List Char}
    (isWhole : IsWhole whole)
    (ends : NoDigit rest) :
    readWhole (whole ++ rest) = .ok (whole, rest) := by
  rcases isWhole with rfl | ⟨⟨number, decimal⟩, noZero⟩
  · cases rest with
    | nil => rfl
    | cons first rest =>
        simp only [List.cons_append, List.nil_append, readWhole,
          List.head?_cons, Option.any_some, ends first rfl,
          Bool.false_eq_true, if_false]
  · obtain ⟨taken, dropped⟩ := takeWhile_and_dropWhile_isDigit decimal ends
    have filled : ¬whole.isEmpty = true := by
      rw [List.isEmpty_iff]
      exact decimal.filled
    unfold readWhole
    split
    case h_1 others same =>
      obtain ⟨first, more, rfl⟩ := List.exists_cons_of_ne_nil decimal.filled
      rw [List.cons_append, List.cons.injEq] at same
      exact absurd (congrArg some same.1) noZero
    case h_2 => simp only [taken, dropped, if_neg filled]

/-! ## Where a number ends -/

/-- What a text starts with before which a value may end. -/
theorem Stops.cases
    {rest : List Char}
    (stops : Stops rest) :
    rest = [] ∨ ∃ first more, rest = first :: more ∧
      first ∈ [' ', '\n', '\t', '\r', ',', ']', '\x7D'] := by
  cases rest with
  | nil => exact .inl rfl
  | cons first more =>
      refine .inr ⟨first, more, rfl, ?_⟩
      have allowed := stops first rfl
      simp only [isBlank, separators, Bool.or_eq_true, beq_iff_eq,
        List.mem_cons, List.not_mem_nil, or_false] at allowed ⊢
      tauto

theorem Stops.noDigit
    {rest : List Char}
    (stops : Stops rest) :
    NoDigit rest := by
  intro start present
  obtain rfl | ⟨first, more, rfl, listed⟩ := stops.cases
  · cases present
  · cases present
    simp only [List.mem_cons, List.not_mem_nil, or_false] at listed
    rcases listed with rfl | rfl | rfl | rfl | rfl | rfl | rfl <;> decide

theorem begins_of_sign_or_digit
    {first : Char}
    (starts : first = '-' ∨ first.isDigit = true)
    (rest : List Char) :
    Begins (first :: rest) := by
  rcases starts with rfl | isDigit
  · exact ⟨'-', rest, rfl, by decide, by decide⟩
  · apply begins_of_not_stops
    intro stops
    rw [stops.noDigit first rfl] at isDigit
    cases isDigit

theorem Stops.readFraction
    {rest : List Char}
    (stops : Stops rest) :
    readFraction rest = .ok (none, rest) := by
  obtain rfl | ⟨first, more, rfl, listed⟩ := stops.cases
  · rfl
  · simp only [List.mem_cons, List.not_mem_nil, or_false] at listed
    rcases listed with rfl | rfl | rfl | rfl | rfl | rfl | rfl <;> rfl

theorem Stops.readExponent
    {rest : List Char}
    (stops : Stops rest) :
    readExponent rest = .ok (none, rest) := by
  obtain rfl | ⟨first, more, rfl, listed⟩ := stops.cases
  · rfl
  · simp only [List.mem_cons, List.not_mem_nil, or_false] at listed
    rcases listed with rfl | rfl | rfl | rfl | rfl | rfl | rfl <;> rfl

/-! ## Parts of a number -/

theorem exponentSign_append
    {sign digits : List Char}
    {number : Nat}
    (signed : sign ∈ [[], ['+'], ['-']])
    (decimal : Text.IsDecimal digits number)
    (rest : List Char) :
    ∃ below, exponentSign (sign ++ (digits ++ rest)) =
      (below, digits ++ rest) := by
  simp only [List.mem_cons, List.not_mem_nil, or_false] at signed
  rcases signed with rfl | rfl | rfl
  case inr.inl | inr.inr => exact ⟨_, rfl⟩
  -- without a sign the first digit comes next
  obtain ⟨first, more, rfl⟩ := List.exists_cons_of_ne_nil decimal.filled
  have isDigit := decimal.isDigit first List.mem_cons_self
  refine ⟨false, ?_⟩
  simp only [List.nil_append, List.cons_append]
  unfold exponentSign
  split
  case h_1 same => cases same; cases isDigit
  case h_2 same => cases same; cases isDigit
  case h_3 => rfl

section

variable {fraction exponent rest : List Char} (stops : Stops rest)

include stops

theorem IsExponent.readExponent_append (isExponent : IsExponent exponent) :
    ∃ read, readExponent (exponent ++ rest) = .ok (read, rest) := by
  obtain rfl | ⟨letter, sign, digits, number, isLetter, signed, decimal, rfl⟩ :=
    isExponent
  · exact ⟨none, stops.readExponent⟩
  · obtain ⟨taken, dropped⟩ :=
      takeWhile_and_dropWhile_isDigit decimal stops.noDigit
    obtain ⟨below, afterSign⟩ := exponentSign_append signed decimal rest
    have filled : ¬digits.isEmpty = true := by
      rw [List.isEmpty_iff]
      exact decimal.filled
    have isMark : letter = 'e' ∨ letter = 'E' := by
      rwa [← List.mem_pair]
    refine ⟨some (below, digits), ?_⟩
    simp only [List.cons_append, List.append_assoc, readExponent,
      if_pos isMark, afterSign, taken, dropped, if_neg filled]

/-- An exponent starts with neither a digit nor a point. -/
theorem IsExponent.noDigit_and_readFraction (isExponent : IsExponent exponent) :
    NoDigit (exponent ++ rest) ∧
      readFraction (exponent ++ rest) = .ok (none, exponent ++ rest) := by
  obtain rfl | ⟨letter, sign, digits, number, isLetter, -, -, rfl⟩ := isExponent
  · exact ⟨stops.noDigit, stops.readFraction⟩
  · rw [List.mem_pair] at isLetter
    rcases isLetter with rfl | rfl
    all_goals
      refine ⟨fun start present => ?_, rfl⟩
      cases present
      decide

theorem IsFraction.readFraction_append
    (isFraction : IsFraction fraction)
    (isExponent : IsExponent exponent) :
    ∃ read, readFraction (fraction ++ (exponent ++ rest)) =
      .ok (read, exponent ++ rest) := by
  obtain ⟨noDigit, noFraction⟩ := isExponent.noDigit_and_readFraction stops
  obtain rfl | ⟨digits, number, decimal, rfl⟩ := isFraction
  · exact ⟨none, noFraction⟩
  · obtain ⟨taken, dropped⟩ := takeWhile_and_dropWhile_isDigit decimal noDigit
    have filled : ¬digits.isEmpty = true := by
      rw [List.isEmpty_iff]
      exact decimal.filled
    refine ⟨some digits, ?_⟩
    simp only [List.cons_append, readFraction, taken, dropped, if_neg filled]

theorem IsFraction.noDigit
    (isFraction : IsFraction fraction)
    (isExponent : IsExponent exponent) :
    NoDigit (fraction ++ (exponent ++ rest)) := by
  obtain rfl | ⟨digits, number, decimal, rfl⟩ := isFraction
  · exact (isExponent.noDigit_and_readFraction stops).1
  · intro start present
    cases present
    decide

/-- A number is skipped up to where a value may end. -/
theorem IsNumber.skipNumber_append
    {text : List Char}
    (isNumber : IsNumber text) :
    skipNumber (text ++ rest) = .ok rest := by
  obtain ⟨sign, whole, fraction, exponent, signed, isWhole, isFraction,
    isExponent, rfl⟩ := isNumber
  obtain ⟨fractionDigits, fractionRead⟩ :=
    isFraction.readFraction_append stops isExponent
  obtain ⟨power, exponentRead⟩ := isExponent.readExponent_append stops
  have wholeRead :=
    isWhole.readWhole_append (isFraction.noDigit stops isExponent)
  rw [List.mem_pair] at signed
  rcases signed with rfl | rfl
  · have unsigned := isWhole.head?_append_ne (fraction ++ (exponent ++ rest))
    simp only [List.nil_append, List.append_assoc, skipNumber,
      readWrittenNumber, unsigned, Bool.false_eq_true, if_false, wholeRead,
      fractionRead, exponentRead, bind, Except.bind]
    rfl
  · have signed : (some '-' == some '-') = true := rfl
    simp only [List.cons_append, List.nil_append, List.append_assoc,
      skipNumber, readWrittenNumber, List.head?_cons, signed, if_true,
      List.drop_succ_cons, List.drop_zero, wholeRead, fractionRead,
      exponentRead, bind, Except.bind]
    rfl

end

/-- A number starts with a sign or a digit. -/
theorem IsNumber.exists_cons
    {text : List Char}
    (isNumber : IsNumber text) :
    ∃ first rest, text = first :: rest ∧
      (first = '-' ∨ first.isDigit = true) := by
  obtain ⟨sign, whole, fraction, exponent, signed, isWhole, -, -, rfl⟩ :=
    isNumber
  rw [List.mem_pair] at signed
  rcases signed with rfl | rfl
  · rcases isWhole with rfl | ⟨⟨number, decimal⟩, -⟩
    · exact ⟨'0', _, rfl, .inr rfl⟩
    · obtain ⟨first, more, rfl⟩ := List.exists_cons_of_ne_nil decimal.filled
      exact ⟨first, _, rfl, .inr (decimal.isDigit first List.mem_cons_self)⟩
  · exact ⟨'-', _, rfl, .inl rfl⟩

/-! ## Integers -/

theorem isWhole_toDigits (number : Nat) :
    IsWhole (Nat.toDigits 10 number) := by
  have startsWith (positive : 0 < number) :
      (Nat.toDigits 10 number).head? ≠ some '0' := by
    induction number using Nat.strongRecOn with
    | ind number inductionHypothesis =>
        by_cases small : number < 10
        · rw [Nat.toDigits_of_lt_base small, List.head?_cons, Ne,
            Option.some.injEq, Nat.digitChar_eq_zero]
          omega
        · rw [Nat.toDigits_of_base_le (by decide) (Nat.le_of_not_lt small),
            List.head?_append_of_ne_nil _ Nat.toDigits_ne_nil]
          exact inductionHypothesis _ (by omega) (by omega)
  rcases Nat.eq_zero_or_pos number with rfl | positive
  · exact .inl (Nat.toDigits_zero 10)
  · exact .inr ⟨⟨number, Text.isDecimal_toDigits number⟩, startsWith positive⟩

theorem exists_cons_writtenNatural (number : Nat) :
    ∃ first rest, writtenNatural number = first :: rest ∧
      (first = '-' ∨ first.isDigit = true) := by
  have decimal := Text.isDecimal_toDigits number
  obtain ⟨first, rest, same⟩ := List.exists_cons_of_ne_nil decimal.filled
  have present : first ∈ Nat.toDigits 10 number := by
    rw [same]
    exact List.mem_cons_self
  exact ⟨first, rest, same, .inr (decimal.isDigit first present)⟩

/-- A written number that fits is read as this integer. -/
theorem readNumber_writtenNatural
    {number : Nat}
    (fits : number < bound64)
    {rest : List Char}
    (stops : Stops rest) :
    readNumber (writtenNatural number ++ rest) =
      .ok (.integer number, rest) := by
  have isWhole := isWhole_toDigits number
  have value : digitsValue (Nat.toDigits 10 number) = number :=
    (Text.foldl_digits_eq_ofDigitChars _ 0).trans
      (Text.isDecimal_toDigits number).value
  have read :
      readWrittenNumber (Nat.toDigits 10 number ++ rest) =
        .ok (⟨false, Nat.toDigits 10 number, none, none⟩, rest) := by
    simp only [readWrittenNumber, isWhole.head?_append_ne, Bool.false_eq_true,
      if_false, isWhole.readWhole_append stops.noDigit, stops.readFraction,
      stops.readExponent, bind, Except.bind]
    rfl
  simp only [readNumber, writtenNatural, read, bind, Except.bind,
    WrittenNumber.value?, value, fits]
  rfl

end Json
end RCompletion
