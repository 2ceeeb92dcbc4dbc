import RCompletion.Proofs.Buffer.Extension

/-!
# Pipe chains and names

The operators of pipe chains usually end with a character that stands in no
name.  A row that goes on with characters of a name then plays the same part in
the search for the root of a chain, and a row with nothing but the start of a
call neither continues a chain nor starts a statement.
-/

namespace RCompletion
namespace Buffer

/-- Every operator ends with a character of neither a name nor a parenthesis. -/
def PipeOperators.Apart (operators : PipeOperators) : Prop :=
  ∀ symbol ∈ operators.symbols, ∃ last,
    symbol.toList.getLast? = some last ∧ isCalleePart last = false ∧
      isParenthesis last = false

namespace PipeOperators

theorem symbols_of_ofList?
    {symbols : List String}
    {operators : PipeOperators}
    (listed : ofList? symbols = some operators) :
    operators.symbols = symbols := by
  unfold ofList? at listed
  split at listed
  · rw [← Option.some.inj listed]
  · exact absurd listed (by simp)

/-- The default operators are apart from names. -/
theorem apart_of_default
    {operators : PipeOperators}
    (default : operators.symbols = ({} : Configuration).pipeOperators) :
    operators.Apart := by
  intro symbol known
  rw [default, List.mem_cons, List.mem_singleton] at known
  rcases known with rfl | rfl
  · exact ⟨'%', rfl, by decide, by decide⟩
  · exact ⟨'>', rfl, by decide, by decide⟩

variable {operators : PipeOperators} {first second : List Char}

theorem Apart.exists_last
    (apart : operators.Apart)
    {symbol : String}
    (known : symbol ∈ operators.symbols)
    {name : List Char}
    (parts : ∀ character ∈ name, isNamePart character = true) :
    ∃ last, symbol.toList.getLast? = some last ∧ last ∉ name := by
  obtain ⟨last, ends, outside, -⟩ := apart symbol known
  refine ⟨last, ends, fun present => ?_⟩
  rw [isCalleePart_of_isNamePart (parts last present)] at outside
  exact Bool.noConfusion outside

/-! ## Roots -/

theorem Apart.start_append
    (apart : operators.Apart)
    (parts : ∀ character ∈ second, isNamePart character = true)
    (first : List Char) :
    operators.start (first ++ second) = operators.start first := by
  rw [Bool.eq_iff_iff, start, start, List.any_eq_true, List.any_eq_true]
  refine exists_congr fun symbol => and_congr_right fun known => ?_
  obtain ⟨last, ends, absent⟩ := apart.exists_last known parts
  rw [List.isPrefixOf_iff_prefix, List.isPrefixOf_iff_prefix]
  exact Text.prefix_append_iff_of_getLast? ends absent

theorem Apart.start_nil (apart : operators.Apart) :
    operators.start [] = false := by
  rw [start, List.any_eq_false]
  intro symbol known starts
  obtain ⟨last, ends, -⟩ := apart symbol known
  rw [List.isPrefixOf_iff_prefix, List.prefix_nil] at starts
  rw [starts, List.getLast?_nil] at ends
  exact absurd ends (by simp)

/-- No operator follows within a name. -/
theorem Apart.start_of_parts
    (apart : operators.Apart)
    (parts : ∀ character ∈ second, isNamePart character = true) :
    operators.start second = false := by
  rw [← List.nil_append second, apart.start_append parts, apart.start_nil]

theorem Apart.follow_of_parts
    (apart : operators.Apart)
    (parts : ∀ character ∈ second, isNamePart character = true) :
    operators.follow second = false := by
  cases second with
  | nil => rw [follow_nil, apart.start_nil]
  | cons character rest =>
      obtain ⟨-, restParts⟩ := List.forall_mem_cons.mp parts
      rw [follow_cons, apart.start_of_parts parts,
        apart.start_of_parts restParts, Bool.and_false, Bool.or_false]

theorem Apart.follow_append
    (apart : operators.Apart)
    (parts : ∀ character ∈ second, isNamePart character = true)
    (first : List Char) :
    operators.follow (first ++ second) = operators.follow first := by
  cases first with
  | nil =>
      rw [List.nil_append, apart.follow_of_parts parts, follow_nil,
        apart.start_nil]
  | cons character rest =>
      rw [List.cons_append, follow_cons, follow_cons, ← List.cons_append,
        apart.start_append parts, apart.start_append parts]

/-- No root ends within the name that a list goes on with. -/
theorem Apart.rootWithin?_append
    (apart : operators.Apart)
    (parts : ∀ character ∈ second, isNamePart character = true)
    (first : List Char)
    (length : Nat) :
    operators.rootWithin? (first ++ second) length =
      operators.rootWithin? first (min length first.length) := by
  induction length with
  | zero => rw [Nat.zero_min, rootWithin?, rootWithin?]
  | succ length inductionHypothesis =>
      rw [rootWithin?, inductionHypothesis]
      -- a length that reaches into the name is given up, for no operator is there
      rcases Nat.lt_or_ge length first.length with within | beyond
      · rw [List.drop_append_of_le_length within,
          List.take_append_of_le_length within, apart.follow_append parts,
          Nat.min_eq_left within, Nat.min_eq_left (by omega), rootWithin?]
      · have dropped :
            (first ++ second).drop (length + 1) =
              second.drop (length + 1 - first.length) := by
          rw [List.drop_append, List.drop_eq_nil_of_le (by omega),
            List.nil_append]
        have rest : ∀ character ∈ second.drop (length + 1 - first.length),
            isNamePart character = true := by
          intro character present
          exact parts character (List.mem_of_mem_drop present)
        rw [dropped, apart.follow_of_parts rest, Nat.min_eq_right beyond,
          Nat.min_eq_right (by omega)]
        exact if_neg Bool.false_ne_true

theorem Apart.rootAtStart?_append
    (apart : operators.Apart)
    (parts : ∀ character ∈ second, isNamePart character = true)
    (first : List Char) :
    operators.rootAtStart? (first ++ second) =
      operators.rootAtStart? first := by
  have longest :
      min ((first ++ second).takeWhile isNamePart).length first.length =
        (first.takeWhile isNamePart).length := by
    rw [List.takeWhile_append]
    have bounded := (List.takeWhile_prefix isNamePart (l := first)).length_le
    split
    · rename_i whole
      rw [List.length_append, whole]
      omega
    · omega
  -- the name at the start may go on into the other list, where it is cut off
  rw [rootAtStart?, apart.rootWithin?_append parts, longest, rootAtStart?]

theorem Apart.rootList?_append
    (apart : operators.Apart)
    (parts : ∀ character ∈ second, isNamePart character = true)
    (first : List Char) :
    operators.rootList? (first ++ second) = operators.rootList? first := by
  induction first with
  | nil =>
      rw [List.nil_append, rootList?]
      induction second with
      | nil => rfl
      | cons character rest inductionHypothesis =>
          obtain ⟨-, restParts⟩ := List.forall_mem_cons.mp parts
          have none : operators.rootAtStart? (character :: rest) = none := by
            rw [← List.nil_append (character :: rest),
              apart.rootAtStart?_append parts]
            rfl
          rw [rootList?, none]
          exact inductionHypothesis restParts
  | cons character first inductionHypothesis =>
      rw [List.cons_append, rootList?, ← List.cons_append,
        apart.rootAtStart?_append parts, inductionHypothesis, rootList?]

theorem Apart.root?_append
    {further : String}
    (apart : operators.Apart)
    (parts : ∀ character ∈ further.toList, isNamePart character = true)
    (row : String) :
    operators.root? (row ++ further) = operators.root? row := by
  rw [root?, String.toList_append, apart.rootList?_append parts, root?]

/-! ## Operators -/

theorem Apart.occurIn_append
    {further : String}
    (apart : operators.Apart)
    (parts : ∀ character ∈ further.toList, isNamePart character = true)
    (row : String) :
    operators.occurIn (row ++ further) = operators.occurIn row := by
  rw [Bool.eq_iff_iff, occurIn, occurIn, List.any_eq_true, List.any_eq_true]
  refine exists_congr fun symbol => and_congr_right fun known => ?_
  obtain ⟨last, ends, absent⟩ := apart.exists_last known parts
  rw [Text.contains_iff, Text.contains_iff, String.toList_append]
  exact Text.infix_append_iff_of_getLast? ends absent

end PipeOperators

/-! ## Assignments -/

theorem hasAssignmentSign_append
    {second : List Char}
    (parts : ∀ character ∈ second, isNamePart character = true)
    (first : List Char) :
    hasAssignmentSign (first ++ second) = hasAssignmentSign first := by
  have noDash : '-' ∉ second := fun present =>
    absurd (parts '-' present) (by decide)
  have noEquals : '=' ∉ second := fun present =>
    absurd (parts '=' present) (by decide)
  rw [Bool.eq_iff_iff]
  simp only [hasAssignmentSign, Bool.or_eq_true, Text.occursIn_iff]
  exact or_congr (Text.infix_append_iff_of_getLast? rfl noDash)
    (Text.infix_append_iff_of_getLast? rfl noEquals)

/-- A row that is not empty stays an assignment, or none, as it goes on. -/
theorem isAssignment_append
    {row further : String}
    (nonempty : row ≠ "")
    (parts : ∀ character ∈ further.toList, isNamePart character = true) :
    isAssignment (row ++ further) = isAssignment row := by
  have noParenthesis :
      ∀ character ∈ further.toList, (character != '(') = true := by
    intro character present
    rw [bne_iff_ne]
    rintro rfl
    exact absurd (parts '(' present) (by decide)
  rw [isAssignment, String.toList_append, List.takeWhile_append,
    List.takeWhile_eq_self_iff.mpr noParenthesis, isAssignment]
  split
  · rename_i whole
    have all : row.toList.takeWhile (· != '(') = row.toList :=
      (List.takeWhile_prefix _).eq_of_length whole
    -- the first character, where no assignment sign is looked for, is the row's own
    have something : 1 ≤ row.toList.length := by
      rw [Nat.one_le_iff_ne_zero, Ne, List.length_eq_zero_iff,
        String.toList_eq_nil_iff]
      exact nonempty
    rw [all, List.drop_append_of_le_length something,
      hasAssignmentSign_append parts]
  · rfl

/-! ## The search -/

theorem PipeScan.step_append
    {operators : PipeOperators}
    {row further : String}
    (apart : operators.Apart)
    (nonempty : row ≠ "")
    (parts : ∀ character ∈ further.toList, isNamePart character = true)
    (state : PipeScan) :
    step operators state (row ++ further) = step operators state row := by
  cases state with
  | scanning count =>
      simp only [step, apart.occurIn_append parts, apart.root?_append parts,
        isAssignment_append nonempty parts]
  | found source => rfl
  | hitAssignment => rfl
  | exhausted => rfl

/-- A row has nothing but characters of function names and parentheses. -/
def IsCallText (row : String) : Prop :=
  ∀ character ∈ row.toList,
    isCalleePart character = true ∨ isParenthesis character = true

namespace IsCallText

variable {row : String}

theorem of_word
    (parts : ∀ character ∈ row.toList, isNamePart character = true) :
    IsCallText row := by
  intro character present
  exact .inl (isCalleePart_of_isNamePart (parts character present))

theorem of_opened
    {function : String}
    (callee : ∀ character ∈ function.toList, isCalleePart character = true)
    (callText : IsCallText row) :
    IsCallText (function ++ "(" ++ row) := by
  intro character present
  rw [String.toList_append, String.toList_append, List.mem_append,
    List.mem_append] at present
  rcases present with (inName | opening) | inRow
  · exact .inl (callee character inName)
  · rw [show "(".toList = ['('] from rfl, List.mem_singleton] at opening
    exact .inr (by rw [opening]; rfl)
  · exact callText character inRow

theorem not_mem
    (callText : IsCallText row)
    {character : Char}
    (outside : isCalleePart character = false)
    (other : isParenthesis character = false) :
    character ∉ row.toList := by
  intro present
  rcases callText character present with part | parenthesis
  · rw [part] at outside
    exact absurd outside (by simp)
  · rw [parenthesis] at other
    exact absurd other (by simp)

theorem occurIn_eq_false
    (callText : IsCallText row)
    {operators : PipeOperators}
    (apart : operators.Apart) :
    operators.occurIn row = false := by
  rw [PipeOperators.occurIn, List.any_eq_false]
  intro symbol known occurs
  obtain ⟨last, ends, outside, other⟩ := apart symbol known
  rw [Text.contains_iff] at occurs
  exact callText.not_mem outside other
    (occurs.subset (List.mem_of_getLast? ends))

theorem isAssignment_eq_false (callText : IsCallText row) :
    isAssignment row = false := by
  have within : ∀ character,
      character ∈ (row.toList.takeWhile (· != '(')).drop 1 →
        character ∈ row.toList := by
    intro character present
    exact (List.takeWhile_prefix _).subset (List.mem_of_mem_drop present)
  rw [← Bool.not_eq_true, isAssignment, hasAssignmentSign, Bool.or_eq_true,
    Text.occursIn_iff, Text.occursIn_iff]
  rintro (arrow | equals)
  · exact callText.not_mem (by decide) (by decide)
      (within '-' (arrow.subset (by simp)))
  · exact callText.not_mem (by decide) (by decide)
      (within '=' (equals.subset (by simp)))

/-- The search goes on above a row that only opens calls. -/
theorem step_start
    (callText : IsCallText row)
    {operators : PipeOperators}
    (apart : operators.Apart) :
    PipeScan.step operators PipeScan.start row = .scanning 1 := by
  simp only [PipeScan.step, PipeScan.start, callText.occurIn_eq_false apart,
    callText.isAssignment_eq_false, PipeScan.rowLimit, Bool.false_eq_true,
    if_false]
  rfl

end IsCallText

end Buffer
end RCompletion
