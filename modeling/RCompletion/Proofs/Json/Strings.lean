import RCompletion.Json.Basic
import RCompletion.Json.Scan

/-!
# Strings that are read back

A character may be spelled in a string as it is, unless it has to be escaped, or
by one of its escapes.  Every spelling of characters is read as these characters
and leaves what follows.  The way in which a string is written is one of them.
In a string that is skipped an escape may also name half of a pair.
-/

namespace RCompletion
namespace Json

/-! ## Escapes -/

/-- Digits of an escape are four hexadecimal ones that write a number. -/
structure IsQuad (digits : List Char) (value : Nat) : Prop where
  four : digits.length = 4
  number : Text.hexNumber? digits = some value

theorem IsQuad.readHexQuad_append
    {digits : List Char}
    {value : Nat}
    (quad : IsQuad digits value)
    (rest : List Char) :
    readHexQuad (digits ++ rest) = .ok (value, rest) := by
  match digits, quad.four, quad.number with
  | [first, second, third, fourth], _, number =>
      simp only [List.cons_append, List.nil_append, readHexQuad, number]

/-- What follows the backslash in an escape that names a character. -/
inductive Escapes : List Char → Char → Prop
  | letter
      {letter character : Char}
      (short : shortEscape? letter = some character) :
      Escapes [letter] character
  | number
      {digits : List Char}
      {character : Char}
      (quad : IsQuad digits character.toNat) :
      Escapes ('u' :: digits) character
  | pair
      {first second : List Char}
      {high low : Nat}
      (firstQuad : IsQuad first high)
      (secondQuad : IsQuad second low)
      (isHigh : isHighSurrogate high = true)
      (isLow : isLowSurrogate low = true) :
      Escapes ('u' :: (first ++ '\\' :: 'u' :: second)) (pairCharacter high low)

/-- The number of a character is no half of a pair. -/
theorem isSurrogate_toNat (character : Char) :
    isHighSurrogate character.toNat = false ∧
      isLowSurrogate character.toNat = false := by
  simp only [isHighSurrogate, isLowSurrogate, Bool.and_eq_false_iff,
    decide_eq_false_iff_not]
  have proper : character.toNat < 0xD800 ∨
      0xDFFF < character.toNat ∧ character.toNat < 0x110000 := character.valid
  omega

/-- No half of a pair is the first and the second one at once. -/
theorem isLowSurrogate_of_isHighSurrogate
    {value : Nat}
    (isHigh : isHighSurrogate value = true) :
    isLowSurrogate value = false := by
  rw [isHighSurrogate, Bool.and_eq_true, decide_eq_true_iff,
    decide_eq_true_iff] at isHigh
  rw [isLowSurrogate, Bool.and_eq_false_iff, decide_eq_false_iff_not]
  omega

theorem Escapes.readEscape_append
    {escape : List Char}
    {character : Char}
    (named : Escapes escape character)
    (rest : List Char) :
    readEscape (escape ++ rest) = .ok (character, rest) := by
  cases named with
  | @letter letter _ short =>
      rw [List.cons_append, List.nil_append]
      unfold readEscape
      split
      case h_1 nothing => cases nothing
      case h_2 same =>
        cases same
        cases short
      case h_3 same =>
        cases same
        rw [short]
  | @number digits _ quad =>
      obtain ⟨noHigh, noLow⟩ := isSurrogate_toNat character
      simp only [List.cons_append, readEscape, readCodePoint,
        quad.readHexQuad_append, bind, Except.bind, noHigh, noLow,
        Bool.false_eq_true, if_false, Char.ofNat_toNat]
      rfl
  | @pair first second high low firstQuad secondQuad isHigh isLow =>
      have noLow := isLowSurrogate_of_isHighSurrogate isHigh
      simp only [List.cons_append, List.append_assoc, readEscape, readCodePoint,
        firstQuad.readHexQuad_append, bind, Except.bind, noLow,
        Bool.false_eq_true, if_false, isHigh, if_true, readLowSurrogate,
        secondQuad.readHexQuad_append, isLow]
      rfl

/-- The digits of a control character's escape. -/
def controlDigits (value : Nat) : List Char :=
  let digits := Nat.toDigits 16 value
  List.replicate (4 - digits.length) '0' ++ digits

theorem controlEscape_eq (character : Char) :
    controlEscape character =
      '\\' :: 'u' :: controlDigits character.toNat := rfl

/-- A control character is escaped with the four digits of its number. -/
theorem hexNumber?_controlDigits : ∀ value < 0x20,
    (controlDigits value).length = 4 ∧
      Text.hexNumber? (controlDigits value) = some value := by
  decide

/-! ## Characters -/

/-- A character may stand in a string as it is. -/
structure IsPlain (character : Char) : Prop where
  noQuote : character ≠ '"'
  noBackslash : character ≠ '\\'
  visible : isControl character = false

/-- A character is written as an escape that names it, or as it is. -/
theorem writtenCharacter_cases (character : Char) :
    (∃ escape, writtenCharacter character = '\\' :: escape ∧
      Escapes escape character) ∨
    (writtenCharacter character = [character] ∧ IsPlain character) := by
  unfold writtenCharacter
  split
  case h_8 noQuote noBackslash _ _ _ _ _ =>
    split
    · rename_i control
      obtain ⟨four, number⟩ := hexNumber?_controlDigits _ control
      exact .inl ⟨_, controlEscape_eq character, .number ⟨four, number⟩⟩
    · rename_i visible
      refine .inr ⟨rfl, noQuote, noBackslash, ?_⟩
      rw [isControl, decide_eq_false_iff_not]
      exact visible
  all_goals exact .inl ⟨[_], rfl, .letter rfl⟩

theorem readCharacters_escape
    {text rest : List Char}
    {character : Char}
    (escaped : readEscape text = .ok (character, rest))
    (fuel : Nat) :
    readCharacters (fuel + 1) ('\\' :: text) =
      (readCharacters fuel rest).map fun (characters, after) =>
        (character :: characters, after) := by
  have noQuote : '\\' ≠ '"' := by decide
  simp only [readCharacters, if_neg noQuote, if_true, escaped, bind,
    Except.bind]
  cases readCharacters fuel rest <;> rfl

theorem readCharacters_plain
    {character : Char}
    (plain : IsPlain character)
    (fuel : Nat)
    (text : List Char) :
    readCharacters (fuel + 1) (character :: text) =
      (readCharacters fuel text).map fun (characters, after) =>
        (character :: characters, after) := by
  simp only [readCharacters, if_neg plain.noQuote, if_neg plain.noBackslash,
    plain.visible, Bool.false_eq_true, if_false, bind, Except.bind]
  cases readCharacters fuel text <;> rfl

/-! ## Strings -/

/-- A spelling of characters between the quotation marks of a string. -/
inductive Spells : List Char → List Char → Prop
  | nil : Spells [] []
  | plain
      {character : Char}
      {body characters : List Char}
      (plain : IsPlain character)
      (others : Spells body characters) :
      Spells (character :: body) (character :: characters)
  | escape
      {character : Char}
      {escape body characters : List Char}
      (named : Escapes escape character)
      (others : Spells body characters) :
      Spells ('\\' :: (escape ++ body)) (character :: characters)

theorem Spells.length_le
    {body characters : List Char}
    (spells : Spells body characters) :
    characters.length ≤ body.length := by
  induction spells with
  | nil => exact Nat.le_refl _
  | plain _ _ inductionHypothesis => exact Nat.succ_le_succ inductionHypothesis
  | escape _ _ inductionHypothesis =>
      simp only [List.length_cons, List.length_append]
      omega

/-- Spelled characters are read, one a turn, up to the closing quotation mark. -/
theorem Spells.readCharacters_append
    {body characters : List Char}
    (spells : Spells body characters)
    (rest : List Char)
    {fuel : Nat}
    (enough : characters.length < fuel) :
    readCharacters fuel (body ++ '"' :: rest) = .ok (characters, rest) := by
  induction spells generalizing fuel with
  | nil =>
      obtain ⟨turns, rfl⟩ := Nat.exists_eq_add_one.mpr enough
      rfl
  | plain plain _ inductionHypothesis =>
      obtain ⟨turns, rfl⟩ := Nat.exists_eq_add_one.mpr
        (Nat.zero_lt_of_lt enough)
      rw [List.cons_append, readCharacters_plain plain,
        inductionHypothesis (Nat.lt_of_succ_lt_succ enough)]
      rfl
  | escape named _ inductionHypothesis =>
      obtain ⟨turns, rfl⟩ := Nat.exists_eq_add_one.mpr
        (Nat.zero_lt_of_lt enough)
      rw [List.cons_append, List.append_assoc,
        readCharacters_escape (named.readEscape_append _),
        inductionHypothesis (Nat.lt_of_succ_lt_succ enough)]
      rfl

/-- A string is read from every spelling, without its opening quotation mark. -/
theorem Spells.readStringBody_append
    {body : List Char}
    {value : String}
    (spells : Spells body value.toList)
    (rest : List Char) :
    readStringBody (body ++ '"' :: rest) = .ok (value, rest) := by
  have enough : value.toList.length < (body ++ '"' :: rest).length + 1 := by
    have shorter := spells.length_le
    rw [List.length_append]
    omega
  rw [readStringBody, spells.readCharacters_append rest enough]
  simp only [Except.map, String.ofList_toList]

/-- What is written for characters spells them. -/
theorem spells_written (characters : List Char) :
    Spells (characters.flatMap writtenCharacter) characters := by
  induction characters with
  | nil => exact .nil
  | cons character characters inductionHypothesis =>
      rw [List.flatMap_cons]
      rcases writtenCharacter_cases character with
        ⟨escape, written, named⟩ | ⟨written, plain⟩
      · rw [written]
        exact .escape named inductionHypothesis
      · rw [written]
        exact .plain plain inductionHypothesis

/-! ## Strings that are skipped -/

/-- What may stand between the quotation marks of a string that is skipped. -/
inductive IsStringBody : List Char → Prop
  | nil : IsStringBody []
  | plain
      {character : Char}
      {body : List Char}
      (plain : IsPlain character)
      (others : IsStringBody body) :
      IsStringBody (character :: body)
  | letter
      {letter : Char}
      {body : List Char}
      (short : (shortEscape? letter).isSome = true)
      (others : IsStringBody body) :
      IsStringBody ('\\' :: letter :: body)
  | number
      {digits body : List Char}
      {value : Nat}
      (quad : IsQuad digits value)
      (others : IsStringBody body) :
      IsStringBody ('\\' :: 'u' :: (digits ++ body))

theorem skipCharacters_escape
    {text rest : List Char}
    (escaped : skipEscape text = .ok rest)
    (fuel : Nat) :
    skipCharacters (fuel + 1) ('\\' :: text) = skipCharacters fuel rest := by
  have noQuote : '\\' ≠ '"' := by decide
  simp only [skipCharacters, if_neg noQuote, if_true, escaped, bind,
    Except.bind]

theorem skipEscape_letter
    {letter : Char}
    (short : (shortEscape? letter).isSome = true)
    (rest : List Char) :
    skipEscape (letter :: rest) = .ok rest := by
  unfold skipEscape
  split
  case h_1 nothing => cases nothing
  case h_2 same =>
    cases same
    cases short
  case h_3 same =>
    cases same
    exact if_pos short

/-- A string that is skipped is left behind up to its closing quotation mark. -/
theorem IsStringBody.skipCharacters_append
    {body : List Char}
    (isBody : IsStringBody body)
    (rest : List Char)
    {fuel : Nat}
    (enough : body.length < fuel) :
    skipCharacters fuel (body ++ '"' :: rest) = .ok rest := by
  induction isBody generalizing fuel with
  | nil =>
      obtain ⟨turns, rfl⟩ := Nat.exists_eq_add_one.mpr enough
      rfl
  | plain plain _ inductionHypothesis =>
      obtain ⟨turns, rfl⟩ := Nat.exists_eq_add_one.mpr
        (Nat.zero_lt_of_lt enough)
      simp only [List.cons_append, skipCharacters, if_neg plain.noQuote,
        if_neg plain.noBackslash, plain.visible, Bool.false_eq_true, if_false]
      exact inductionHypothesis (Nat.lt_of_succ_lt_succ enough)
  | letter short _ inductionHypothesis =>
      obtain ⟨turns, rfl⟩ := Nat.exists_eq_add_one.mpr
        (Nat.zero_lt_of_lt enough)
      rw [List.cons_append, List.cons_append,
        skipCharacters_escape (skipEscape_letter short _)]
      apply inductionHypothesis
      simp only [List.length_cons] at enough
      omega
  | @number digits body value quad _ inductionHypothesis =>
      obtain ⟨turns, rfl⟩ := Nat.exists_eq_add_one.mpr
        (Nat.zero_lt_of_lt enough)
      have escaped (text : List Char) :
          skipEscape ('u' :: (digits ++ text)) = .ok text := by
        simp only [skipEscape, quad.readHexQuad_append, Except.map]
      rw [List.cons_append, List.cons_append, List.append_assoc,
        skipCharacters_escape (escaped _)]
      apply inductionHypothesis
      simp only [List.length_cons, List.length_append] at enough
      omega

theorem IsStringBody.skipStringBody_append
    {body : List Char}
    (isBody : IsStringBody body)
    (rest : List Char) :
    skipStringBody (body ++ '"' :: rest) = .ok rest := by
  apply isBody.skipCharacters_append
  rw [List.length_append]
  omega

end Json
end RCompletion
