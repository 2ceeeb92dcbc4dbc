import RCompletion.Pattern.Parse
import RCompletion.Text.Split
import RCompletion.Proofs.Pattern.Pieces

/-!
# Reading written patterns

A text is written as the pattern of itself by putting a backslash before every
character that stands for something else.  The reader takes what is written
item by item: when it goes on from one state to a next one over some
characters, and from there to a third, it goes on from the first to the third.
-/

namespace RCompletion
namespace Pattern

/-! ## Writing -/

/-- The characters that stand for something else in a pattern, or may do so. -/
def specialCharacters : List Char :=
  ['\\', '.', '+', '*', '?', '(', ')', '|', '[', ']', '\x7B', '\x7D', '^', '$',
    '#', '&', '-', '~']

/-- Whether a character is written with a backslash. -/
def isSpecial (character : Char) : Bool :=
  specialCharacters.contains character

/-- A character as a pattern of itself. -/
def escapedCharacter (character : Char) : List Char :=
  if isSpecial character then ['\\', character] else [character]

/-- A text as a pattern of itself. -/
def escaped (characters : List Char) : List Char :=
  characters.flatMap escapedCharacter

/-- Only the empty text is written as nothing. -/
theorem escaped_eq_nil_iff (characters : List Char) :
    escaped characters = [] ↔ characters = [] := by
  have written (character : Char) : escapedCharacter character ≠ [] := by
    rw [escapedCharacter]
    split
    · exact List.cons_ne_nil _ _
    · exact List.cons_ne_nil _ _
  rw [escaped, List.flatMap_eq_nil_iff]
  simp only [written, imp_false, ← List.eq_nil_iff_forall_not_mem]

/-- Texts as patterns of themselves, of which any may stand. -/
def alternatives (texts : List (List Char)) : List Char :=
  Text.joinWith ['|'] (texts.map escaped)

/-! ## Going on -/

/--
Reading goes on from one state to another over the characters before the rest,
and has enough turns left for it.
-/
def State.Reads
    (state : State)
    (characters : List Char)
    (next : State)
    (rest : List Char) : Prop :=
  ∀ turns, characters.length < turns →
    ∃ left, rest.length < left ∧
      readItems turns state characters = readItems left next rest

namespace State

variable {state next last : State} {characters rest after : List Char}

theorem Reads.refl (state : State) (rest : List Char) :
    state.Reads rest state rest :=
  fun turns enough => ⟨turns, enough, rfl⟩

theorem Reads.trans
    (first : state.Reads characters next rest)
    (second : next.Reads rest last after) :
    state.Reads characters last after := by
  intro turns enough
  obtain ⟨left, leftEnough, reads⟩ := first turns enough
  obtain ⟨fewer, fewerEnough, readsOn⟩ := second left leftEnough
  exact ⟨fewer, fewerEnough, reads.trans readsOn⟩

/-- One item takes one turn. -/
theorem Reads.item
    {first : Char}
    (terse : state.mode.verbose = false)
    (read : state.readItem first rest = .ok (next, after))
    (shorter : after.length ≤ rest.length) :
    state.Reads (first :: rest) next after := by
  intro turns enough
  obtain ⟨left, rfl⟩ := Nat.exists_eq_succ_of_ne_zero (Nat.ne_zero_of_lt enough)
  rw [List.length_cons] at enough
  refine ⟨left, by omega, ?_⟩
  have nothing : state.mode.skip (first :: rest) = first :: rest := by
    rw [Mode.skip, terse, if_neg Bool.false_ne_true]
  rw [readItems, nothing]
  simp only [read]
  rfl

/-! ## Characters -/

theorem readItem_of_not_isSpecial
    {character : Char}
    (plain : isSpecial character = false)
    (state : State)
    (rest : List Char) :
    state.readItem character rest =
      .ok (state.pushAtom (.character character), rest) := by
  unfold readItem
  split
  all_goals first | exact absurd plain (by decide) | rfl

theorem isEscapable_of_isSpecial
    {character : Char}
    (special : isSpecial character = true) :
    character.isDigit = false ∧ isEscapable character = true := by
  have each :
      specialCharacters.all (fun special =>
        !special.isDigit && isEscapable special) = true := by decide
  simpa using List.all_eq_true.mp each character
    (List.contains_iff_mem.mp special)

theorem readItem_of_isSpecial
    {character : Char}
    (special : isSpecial character = true)
    (state : State)
    (rest : List Char) :
    state.readItem '\\' (character :: rest) =
      .ok (state.pushAtom (.character character), rest) := by
  obtain ⟨noDigit, escapable⟩ := isEscapable_of_isSpecial special
  have read :
      readEscape state.mode (character :: rest) =
        .ok (.character character, rest) := by
    unfold readEscape
    simp only [noDigit, escapable, Bool.false_eq_true, if_false, if_true]
  simp only [readItem, read]
  rfl

/-- An escaped character is read as itself. -/
theorem reads_escapedCharacter
    (default : state.mode = {})
    (character : Char)
    (rest : List Char) :
    state.Reads (escapedCharacter character ++ rest)
      (state.push (some (Pattern.character character))) rest := by
  have terse : state.mode.verbose = false := by rw [default]
  have pushed :
      state.pushAtom (.character character) =
        state.push (some (Pattern.character character)) := by
    rw [pushAtom, default]
    rfl
  rw [← pushed, escapedCharacter]
  cases special : isSpecial character with
  | false =>
      exact .item terse (readItem_of_not_isSpecial special state rest) le_rfl
  | true =>
      exact .item terse (readItem_of_isSpecial special state rest)
        (Nat.le_succ _)

/-! ## Texts -/

/-- Add the patterns of several items, one after the other. -/
def pushAll (state : State) (patterns : List Pattern) : State :=
  { state with
    group :=
      { state.group with
        items := (patterns.map some).reverse ++ state.group.items } }

/-- A text that is written as a pattern is read as its characters. -/
theorem reads_escaped
    (default : state.mode = {})
    (characters rest : List Char) :
    state.Reads (escaped characters ++ rest)
      (state.pushAll (characters.map Pattern.character)) rest := by
  induction characters generalizing state with
  | nil => exact Reads.refl state rest
  | cons character characters inductionHypothesis =>
      have written :
          escaped (character :: characters) ++ rest =
            escapedCharacter character ++ (escaped characters ++ rest) := by
        rw [escaped, List.flatMap_cons, List.append_assoc, ← escaped]
      have pushed :
          (state.push (some (Pattern.character character))).pushAll
              (characters.map Pattern.character) =
            state.pushAll
              ((character :: characters).map Pattern.character) := by
        simp [pushAll, push, OpenGroup.push]
      rw [written, ← pushed]
      exact (reads_escapedCharacter default character _).trans
        (inductionHypothesis default)

/-- A group of alternative texts is read as the choice between them. -/
theorem reads_alternatives
    {texts : List (List Char)}
    (given : texts ≠ [])
    (outerMode : Mode)
    (choices : List Pattern)
    (enclosing : OpenGroup)
    (outer : List OpenGroup)
    (names : List (List Char))
    (rest : List Char) :
    State.Reads ⟨{}, ⟨outerMode, choices, []⟩, enclosing :: outer, names⟩
      (alternatives texts ++ ')' :: rest)
      ⟨outerMode,
        enclosing.push
          (some (Pattern.choices (choices.reverse ++ texts.map literal))),
        outer, names⟩
      rest := by
  induction texts generalizing choices with
  | nil => exact absurd rfl given
  | cons first others inductionHypothesis =>
      cases others with
      | nil =>
          have closed :
              alternatives [first] ++ ')' :: rest =
                escaped first ++ ')' :: rest := rfl
          rw [closed]
          refine (reads_escaped rfl first _).trans (.item rfl ?_ le_rfl)
          simp [readItem, closeGroup, pushAll, OpenGroup.close,
            OpenGroup.current, literal, Except.map]
      | cons next others =>
          have parted :
              alternatives (first :: next :: others) ++ ')' :: rest =
                escaped first ++
                  '|' :: (alternatives (next :: others) ++ ')' :: rest) := by
            simp [alternatives, Text.joinWith]
          rw [parted]
          refine (reads_escaped rfl first _).trans
            (Reads.trans (.item rfl rfl le_rfl) ?_)
          have readsOn :=
            inductionHypothesis (List.cons_ne_nil _ _) (literal first :: choices)
          simpa [pushAll, OpenGroup.alternate, OpenGroup.current, literal]
            using readsOn

end State
end Pattern
end RCompletion
