import RCompletion.Proofs.Buffer.Rows
import RCompletion.Proofs.Pattern.Written

/-!
# Patterns of rows

The search for the root of a pipe chain looks at rows by two patterns.  One is
written from the operators, each as a pattern of itself: a name, at most one
blank and any of the operators, where the root is what the name covers in the
leftmost match.  The other one is that of a row that starts a statement.
-/

namespace RCompletion
namespace Buffer

open Pattern (MatchesAt oneOrMore atMostOne literal sequences choices)

/-! ## Signs after a blank -/

/-- Any of some texts matches where one of them stands. -/
theorem matchesAt_choices_iff
    {signs : List (List Char)}
    (given : signs ≠ [])
    {text : List Char}
    {further : List Pattern}
    (always : ∀ position, MatchesAt text.toArray (sequences further) position)
    (position : Nat) :
    MatchesAt text.toArray
        (sequences (choices (signs.map literal) :: further)) position ↔
      ∃ sign ∈ signs, sign <+: text.drop position := by
  have choosable : signs.map literal ≠ [] := by
    rw [Ne, List.map_eq_nil_iff]
    exact given
  rw [Pattern.matchesAt_sequences_cons]
  simp only [Pattern.mem_ends_choices choosable, always, and_true]
  constructor
  · rintro ⟨stop, pattern, chosen, reached⟩
    obtain ⟨sign, known, rfl⟩ := List.mem_map.mp chosen
    exact ⟨sign, known, ((Pattern.mem_ends_literal _ _ _ _).mp reached).1⟩
  · rintro ⟨sign, known, stands⟩
    exact ⟨position + sign.length, literal sign, List.mem_map_of_mem known,
      (Pattern.mem_ends_literal _ _ _ _).mpr ⟨stands, rfl⟩⟩

/-- So it does after a blank that may be missing. -/
theorem matchesAt_afterBlank_iff
    {signs : List (List Char)}
    (given : signs ≠ [])
    {text : List Char}
    {further : List Pattern}
    (always : ∀ position, MatchesAt text.toArray (sequences further) position)
    (position : Nat) :
    MatchesAt text.toArray
        (sequences (atMostOne .blank :: choices (signs.map literal) :: further))
        position ↔
      ∃ blanks : List Char, blanks.length ≤ 1 ∧
        (∀ blank ∈ blanks, Text.isBlank blank = true) ∧
          ∃ sign ∈ signs, blanks ++ sign <+: text.drop position := by
  have isBlank :
      Pattern.memberAfter text.toArray position .blank = true ↔
        ∃ blank, text[position]? = some blank ∧ Text.isBlank blank = true := by
    rw [Pattern.memberAfter, List.getElem?_toArray, Option.any_eq_true]
    rfl
  rw [Pattern.matchesAt_sequences_cons]
  simp only [Pattern.mem_ends_atMostOne, matchesAt_choices_iff given always,
    isBlank]
  constructor
  · rintro ⟨middle, rfl | ⟨rfl, blank, found, isBlank⟩, sign, known, stands⟩
    · exact ⟨[], Nat.zero_le 1, by simp, sign, known, stands⟩
    · exact ⟨[blank], Nat.le_refl 1, by simpa using isBlank, sign, known,
        (Pattern.cons_prefix_drop_iff _ _ _ _).mpr ⟨found, stands⟩⟩
  · rintro ⟨blanks, few, areBlank, sign, known, stands⟩
    cases blanks with
    | nil => exact ⟨position, .inl rfl, sign, known, stands⟩
    | cons blank others =>
        obtain rfl : others = [] := by
          rw [List.length_cons] at few
          exact List.length_eq_zero_iff.mp (by omega)
        obtain ⟨found, after⟩ :=
          (Pattern.cons_prefix_drop_iff _ _ _ _).mp stands
        exact ⟨position + 1,
          .inr ⟨rfl, blank, found, areBlank blank (List.mem_singleton_self _)⟩,
          sign, known, after⟩

/-! ## Roots -/

/-- The characters of a name, as a set. -/
def rootCharacters : Pattern.CharSet :=
  .unions [.word, .single '_', .single '.', .single '$']

/-- At most one blank, and then one of the operators. -/
def operatorPattern (symbols : List String) : Pattern :=
  sequences
    [atMostOne .blank, choices ((symbols.map String.toList).map literal)]

/-- A name that an operator follows. -/
def rootPattern (symbols : List String) : Pattern :=
  .sequence (oneOrMore rootCharacters) (operatorPattern symbols)

/-- The pattern of a name that an operator follows, as it is written. -/
def rootText (symbols : List String) : List Char :=
  "([\\w_\\.\\$]+)\\s?(?:".toList ++
    (Pattern.alternatives (symbols.map String.toList) ++ [')'])

theorem PipeOperators.signs_ne_nil (operators : PipeOperators) :
    operators.symbols.map String.toList ≠ [] := by
  rw [Ne, List.map_eq_nil_iff]
  exact operators.proper.1

/-- The name and the blank are read before the group of operators is. -/
theorem reads_rootText (rest : List Char) :
    Pattern.State.start.Reads ("([\\w_\\.\\$]+)\\s?(?:".toList ++ rest)
      ⟨{}, ⟨{}, [], []⟩,
        [⟨{}, [], [some (atMostOne .blank), some (oneOrMore rootCharacters)]⟩],
        []⟩
      rest := by
  have written :
      "([\\w_\\.\\$]+)\\s?(?:".toList =
        ['(', '[', '\\', 'w', '_', '\\', '.', '\\', '$', ']', '+', ')',
          '\\', 's', '?', '(', '?', ':'] := rfl
  rw [written]
  simp only [List.cons_append, List.nil_append]
  intro turns enough
  simp only [List.length_cons] at enough
  obtain ⟨left, rfl⟩ := Nat.exists_eq_add_of_le' (show 7 ≤ turns by omega)
  refine ⟨left, by omega, ?_⟩
  rfl

/-- What is written is read as the pattern, unless it is too large. -/
theorem parse_rootText (operators : PipeOperators) :
    Pattern.parse (rootText operators.symbols) =
      if Pattern.sizeBound < (rootPattern operators.symbols).size then
        .error .tooLarge
      else
        .ok (rootPattern operators.symbols) := by
  have reads :
      Pattern.State.start.Reads (rootText operators.symbols)
        ⟨{}, ⟨{}, [],
          [some (choices ((operators.symbols.map String.toList).map literal)),
            some (atMostOne .blank), some (oneOrMore rootCharacters)]⟩, [], []⟩
        [] := by
    have group :=
      Pattern.State.reads_alternatives operators.signs_ne_nil {} []
        ⟨{}, [], [some (atMostOne .blank), some (oneOrMore rootCharacters)]⟩
        [] [] []
    exact (reads_rootText _).trans group
  obtain ⟨left, enough, read⟩ := reads _ (Nat.lt_succ_self _)
  obtain ⟨turns, rfl⟩ := Nat.exists_eq_succ_of_ne_zero (Nat.ne_zero_of_lt enough)
  rw [Pattern.parse, read]
  rfl

/-- The pattern of the default operators is read. -/
example :
    Pattern.parse "([\\w_\\.\\$]+)\\s?(?:%>%|\\|>)".toList =
      .ok (rootPattern ["%>%", "|>"]) := rfl

theorem contains_rootCharacters : rootCharacters.contains = isNamePart := by
  funext character
  simp only [rootCharacters, Pattern.CharSet.unions,
    Pattern.CharSet.contains_union, Pattern.CharSet.contains_word,
    Pattern.CharSet.contains_single, Unicode.isWord_or_underscore_or,
    isNamePart, beq_eq_decide]
  rw [Bool.or_comm (decide (character = '.')), Bool.or_assoc]

/-- The operators match where one of them follows. -/
theorem PipeOperators.matchesAt_operatorPattern_iff
    (operators : PipeOperators)
    (text : List Char)
    (position : Nat) :
    MatchesAt text.toArray (operatorPattern operators.symbols) position ↔
      operators.follow (text.drop position) = true := by
  have always (position : Nat) : MatchesAt text.toArray (sequences []) position :=
    List.cons_ne_nil _ _
  rw [operatorPattern, matchesAt_afterBlank_iff operators.signs_ne_nil always,
    operators.follow_iff, OperatorFollows]
  simp only [List.mem_map, exists_exists_and_eq_and]

/-- The longest name is looked for first. -/
theorem PipeOperators.rootWithin?_eq_find?
    (operators : PipeOperators)
    (characters : List Char)
    (length : Nat) :
    operators.rootWithin? characters length =
      ((List.range' 1 length).reverse.find? fun taken =>
        operators.follow (characters.drop taken)).map characters.take := by
  induction length with
  | zero => rfl
  | succ length inductionHypothesis =>
      rw [rootWithin?, List.range'_1_concat, List.reverse_concat,
        List.find?_cons, Nat.add_comm 1 length]
      cases operators.follow (characters.drop (length + 1)) with
      | false => exact inductionHypothesis
      | true => rfl

/-- A root is looked for from each position in turn. -/
theorem PipeOperators.rootList?_eq_findSome?
    (operators : PipeOperators)
    (characters : List Char) :
    operators.rootList? characters =
      (List.range (characters.length + 1)).findSome? fun start =>
        operators.rootAtStart? (characters.drop start) := by
  induction characters with
  | nil => rfl
  | cons character rest inductionHypothesis =>
      rw [List.length_cons, List.range_succ_eq_map, List.findSome?_cons,
        List.findSome?_map, List.drop_zero, rootList?, inductionHypothesis]
      cases operators.rootAtStart? (character :: rest) with
      | none => rfl
      | some root => rfl

/-- What the name covers from a position on is the root there. -/
theorem PipeOperators.rootAtStart?_drop
    (operators : PipeOperators)
    (text : List Char)
    (start : Nat) :
    operators.rootAtStart? (text.drop start) =
      (((Pattern.ends text.toArray (oneOrMore rootCharacters) start).find?
        fun stop => MatchesAt text.toArray
          (operatorPattern operators.symbols) stop).map
            (Pattern.Span.mk start)).map (·.charactersOf text) := by
  -- a position of the text is told by how far it is from the start
  have shifted (length : Nat) :
      List.range' (start + 1) length =
        (List.range' 1 length).map (start + ·) := by
    rw [List.map_add_range']
  have test (taken : Nat) :
      decide (MatchesAt text.toArray (operatorPattern operators.symbols)
          (start + taken)) =
        operators.follow ((text.drop start).drop taken) := by
    rw [Bool.eq_iff_iff, decide_eq_true_iff,
      operators.matchesAt_operatorPattern_iff, List.drop_drop]
  have covered (taken : Nat) :
      (Pattern.Span.mk start (start + taken)).charactersOf text =
        (text.drop start).take taken := by
    rw [Pattern.Span.charactersOf, List.drop_take, Nat.add_sub_cancel_left]
  rw [Pattern.ends_oneOrMore, shifted, ← List.map_reverse, List.find?_map,
    rootAtStart?, rootWithin?_eq_find?, Pattern.runLength,
    contains_rootCharacters]
  simp only [Option.map_map, Function.comp_def, test, covered]

/-- The root of a row is what the name covers in the leftmost match. -/
theorem PipeOperators.root?_eq_firstPart?
    (operators : PipeOperators)
    (row : String) :
    operators.root? row =
      (Pattern.firstPart? (oneOrMore rootCharacters)
        (operatorPattern operators.symbols) row.toList).map fun part =>
          String.ofList (part.charactersOf row.toList) := by
  rw [root?, rootList?_eq_findSome?, Pattern.firstPart?]
  simp only [rootAtStart?_drop, List.map_findSome?, Function.comp_def,
    Option.map_map]

/-- A row names a root exactly if the pattern matches somewhere in it. -/
theorem PipeOperators.isSome_root?
    (operators : PipeOperators)
    (row : String) :
    (operators.root? row).isSome =
      (rootPattern operators.symbols).occursIn row.toList := by
  rw [root?_eq_firstPart?, Option.isSome_map, Pattern.isSome_firstPart?,
    rootPattern]

/-! ## Assignments -/

/-- The characters that do not open a parenthesis. -/
def unopened : Pattern.CharSet :=
  .complement (.single '(')

/-- The pattern of a row that starts a statement. -/
def assignmentPattern : Pattern :=
  sequences
    [.anchor .textStart, oneOrMore unopened, atMostOne .blank,
      choices (assignmentSigns.map literal), atMostOne .blank]

/-- The pattern of a row that starts a statement, as it is written. -/
theorem parse_assignmentPattern :
    Pattern.parse "^[^(]+\\s?(?:<-|=)\\s?".toList = .ok assignmentPattern := rfl

/-- The pattern matches if a sign follows a start without a parenthesis. -/
theorem occursIn_assignmentPattern_iff (text : List Char) :
    assignmentPattern.occursIn text = true ↔
      ∃ middle, 0 < middle ∧
        Pattern.Covers text.toArray unopened 0 middle ∧
          ∃ blanks : List Char, blanks.length ≤ 1 ∧
            (∀ blank ∈ blanks, Text.isBlank blank = true) ∧
              ∃ sign ∈ assignmentSigns, blanks ++ sign <+: text.drop middle := by
  have always (position : Nat) :
      MatchesAt text.toArray (sequences [atMostOne .blank]) position := by
    rw [Pattern.matchesAt_iff]
    exact ⟨position, (Pattern.mem_ends_atMostOne _).mpr (.inl rfl)⟩
  have given : assignmentSigns ≠ [] := List.cons_ne_nil _ _
  have fromStart (position middle : Nat) :
      middle ∈ Pattern.ends text.toArray (.anchor .textStart) position ↔
        position = 0 ∧ middle = 0 := by
    rw [Pattern.ends_anchor, Pattern.Anchor.holds]
    by_cases atStart : position = 0
    · simp [atStart]
    · simp [atStart]
  rw [Pattern.occursIn_iff, assignmentPattern]
  simp only [Pattern.matchesAt_sequences_cons (.anchor _), fromStart]
  constructor
  · rintro ⟨position, -, middle, ⟨-, rfl⟩, matched⟩
    obtain ⟨middle, reached, matched⟩ :=
      (Pattern.matchesAt_sequences_cons _ _).mp matched
    obtain ⟨positive, covers⟩ := (Pattern.mem_ends_oneOrMore _ _).mp reached
    exact ⟨middle, positive, covers,
      (matchesAt_afterBlank_iff given always middle).mp matched⟩
  · rintro ⟨middle, positive, covers, follows⟩
    refine ⟨0, Nat.zero_le _, 0, ⟨rfl, rfl⟩,
      (Pattern.matchesAt_sequences_cons _ _).mpr ⟨middle, ?_, ?_⟩⟩
    · exact (Pattern.mem_ends_oneOrMore _ _).mpr ⟨positive, covers⟩
    · exact (matchesAt_afterBlank_iff given always middle).mpr follows

/-- A start is covered if no parenthesis opens in it. -/
theorem covers_unopened_iff
    {text : List Char}
    {middle : Nat}
    (within : middle ≤ text.length) :
    Pattern.Covers text.toArray unopened 0 middle ↔ '(' ∉ text.take middle := by
  rw [Pattern.covers_iff_all_drop within, List.drop_zero, List.all_eq_true]
  simp only [unopened, Pattern.CharSet.contains_complement,
    Pattern.CharSet.contains_single, Bool.not_eq_true', decide_eq_false_iff_not]
  exact ⟨fun others opened => others '(' opened rfl,
    fun unopened character present same => unopened (same ▸ present)⟩

/-- A row starts a statement exactly if the pattern matches it. -/
theorem isAssignment_eq_occursIn (row : String) :
    isAssignment row = assignmentPattern.occursIn row.toList := by
  rw [Bool.eq_iff_iff, isAssignment_iff, occursIn_assignmentPattern_iff]
  constructor
  · rintro ⟨before, sign, after, placed, known, nonempty, unopened⟩
    rw [List.append_assoc] at placed
    refine ⟨before.length, List.length_pos_iff.mpr nonempty, ?_, [],
      Nat.zero_le 1, by simp, sign, known, after, ?_⟩
    · have within : before.length ≤ row.toList.length := by
        rw [placed, List.length_append]
        exact Nat.le_add_right _ _
      rw [covers_unopened_iff within, placed, List.take_left]
      exact unopened
    · rw [placed, List.drop_left, List.nil_append]
  · rintro ⟨middle, positive, covers, blanks, -, areBlank, sign, known, after,
      placed⟩
    have filled : ∀ sign ∈ assignmentSigns, sign ≠ [] := by decide
    have within : middle < row.toList.length := by
      rw [← List.drop_eq_nil_iff.not.trans Nat.not_le, ← placed]
      simp [filled sign known]
    refine ⟨row.toList.take middle ++ blanks, sign, after, ?_, known, ?_, ?_⟩
    · rw [List.append_assoc, List.append_assoc, ← List.append_assoc blanks,
        placed, List.take_append_drop]
    · intro nothing
      rw [List.append_eq_nil_iff, List.take_eq_nil_iff] at nothing
      rcases nothing.1 with rfl | empty
      · exact absurd positive (Nat.lt_irrefl 0)
      · rw [empty] at within
        exact absurd within (Nat.not_lt_zero middle)
    · rw [List.mem_append, not_or]
      refine ⟨(covers_unopened_iff within.le).mp covers, fun opened => ?_⟩
      exact absurd (areBlank '(' opened) (by decide)

/-! ## The search -/

/-- A list of operators is refused exactly if nothing is written for it. -/
theorem PipeOperators.ofList?_eq_none_iff (symbols : List String) :
    ofList? symbols = none ↔
      Pattern.alternatives (symbols.map String.toList) = [] := by
  have refused : ofList? symbols = none ↔ symbols = [] ∨ symbols = [""] := by
    unfold ofList?
    split
    · rename_i proper
      simp [proper]
    · rename_i improper
      simpa [imp_iff_not_or] using improper
  rw [refused]
  match symbols with
  | [] => simp [Pattern.alternatives, Text.joinWith]
  | [symbol] =>
      simp [Pattern.alternatives, Text.joinWith, Pattern.escaped_eq_nil_iff]
  | _ :: _ :: _ => simp [Pattern.alternatives, Text.joinWith]

/--
What a row does to a search that goes on is told by the patterns: the root is
what the name covers in the leftmost match of the first one, and a statement
starts where the second one matches.
-/
theorem PipeScan.step_eq_matched
    (operators : PipeOperators)
    (count : Nat)
    (row : String) :
    step operators (scanning count) row =
      if operators.occurIn row then
        match Pattern.firstPart? (oneOrMore rootCharacters)
            (operatorPattern operators.symbols) row.toList with
        | some part => found (String.ofList (part.charactersOf row.toList))
        | none => scanning count
      else if assignmentPattern.occursIn row.toList then
        hitAssignment
      else if rowLimit ≤ count + 1 then
        exhausted
      else
        scanning (count + 1) := by
  rw [step, operators.root?_eq_firstPart?, isAssignment_eq_occursIn]
  cases Pattern.firstPart? (oneOrMore rootCharacters)
      (operatorPattern operators.symbols) row.toList with
  | none => rfl
  | some part => rfl

end Buffer
end RCompletion
