import RCompletion.Pattern.Parse
import RCompletion.Proofs.Buffer.Extension
import RCompletion.Proofs.Pattern.FirstPart
import Mathlib.Data.List.Induction

/-!
# Open calls

The call that a text is typed in is told by its last parenthesis: it opens the
call, and the longest name before it is what is called.  The same name is found
by matching a pattern, which has to look for the first place from which the end
of the text can be reached.
-/

namespace RCompletion
namespace Buffer

/-! ## The last parenthesis -/

/-- A parenthesis stands between other characters, and none stands after it. -/
structure IsLastParenthesis
    (characters before : List Char)
    (parenthesis : Char)
    (after : List Char) : Prop where
  /-- This is where it stands. -/
  placed : characters = before ++ parenthesis :: after
  /-- It is one. -/
  isParenthesis : isParenthesis parenthesis = true
  /-- It is the last one. -/
  last : ∀ character ∈ after, Buffer.isParenthesis character = false

/-- Characters have no parenthesis, or they have a last one. -/
theorem exists_isLastParenthesis (characters : List Char) :
    (∀ character ∈ characters, isParenthesis character = false) ∨
      ∃ before parenthesis after,
        IsLastParenthesis characters before parenthesis after := by
  induction characters using List.reverseRecOn with
  | nil => exact .inl (by simp)
  | append_singleton characters character inductionHypothesis =>
      by_cases isLast : isParenthesis character = true
      · exact .inr ⟨characters, character, [], rfl, isLast, by simp⟩
      · rw [Bool.not_eq_true] at isLast
        rcases inductionHypothesis with
          none | ⟨before, parenthesis, after, rfl, isParenthesis, last⟩
        · refine .inl (List.forall_mem_append.mpr ⟨none, ?_⟩)
          simpa using isLast
        · refine .inr ⟨before, parenthesis, after ++ [character],
            by simp, isParenthesis, ?_⟩
          exact List.forall_mem_append.mpr ⟨last, by simpa using isLast⟩

theorem eq_or_eq_of_isParenthesis
    {character : Char}
    (parenthesis : isParenthesis character = true) :
    character = '(' ∨ character = ')' := by
  simpa [isParenthesis] using parenthesis

/-- The name at the end of characters, if there is one. -/
def nameAtEnd? (characters : List Char) : Option String :=
  if suffixWhile isCalleePart characters = [] then
    none
  else
    some (String.ofList (suffixWhile isCalleePart characters))

theorem nameAtEnd?_eq_some_iff (characters : List Char) (name : String) :
    nameAtEnd? characters = some name ↔
      IsLongestSuffix isCalleePart characters name.toList ∧ name ≠ "" := by
  rw [nameAtEnd?, isLongestSuffix_iff]
  split
  · rename_i nothing
    rw [nothing, String.toList_eq_nil_iff]
    simp
  · rename_i something
    rw [Option.some.injEq, ← String.toList_inj, String.toList_ofList]
    constructor
    · intro same
      refine ⟨same.symm, ?_⟩
      rintro rfl
      exact something same
    · rintro ⟨same, -⟩
      exact same.symm

theorem nameAtEnd?_eq_none_iff (characters : List Char) :
    nameAtEnd? characters = none ↔
      ∀ character ∈ characters.getLast?, isCalleePart character = false := by
  rw [← suffixWhile_eq_nil_iff, nameAtEnd?]
  simp

/-! ## The call -/

/-- The last parenthesis opens the call of the name before it, or closes one. -/
theorem IsLastParenthesis.enclosingCall?_eq
    {typed : String}
    {before after : List Char}
    {parenthesis : Char}
    (isLast : IsLastParenthesis typed.toList before parenthesis after) :
    enclosingCall? typed =
      if parenthesis = '(' then nameAtEnd? before else none := by
  have reversed :
      typed.toList.reverse.dropWhile (!Buffer.isParenthesis ·) =
        parenthesis :: before.reverse := by
    have skipped :
        ∀ character ∈ after.reverse,
          (!Buffer.isParenthesis character) = true := by
      intro character present
      rw [isLast.last character (List.mem_reverse.mp present), Bool.not_false]
    rw [isLast.placed, List.reverse_append, List.reverse_cons,
      List.append_assoc, List.dropWhile_append_of_pos skipped,
      List.singleton_append, List.dropWhile_cons_of_neg]
    rw [isLast.isParenthesis]
    decide
  rcases eq_or_eq_of_isParenthesis isLast.isParenthesis with rfl | rfl
  · simp only [enclosingCall?, reversed, if_true, nameAtEnd?, suffixWhile,
      List.isEmpty_iff]
    congr
  · simp only [enclosingCall?, reversed]
    rfl

/--
A text is typed in the call of a name: its last parenthesis opens the call, and
the name is the longest one right before it.
-/
def IsTypedInCall (typed name : String) : Prop :=
  ∃ before after, IsLastParenthesis typed.toList before '(' after ∧
    IsLongestSuffix isCalleePart before name.toList ∧ name ≠ ""

theorem enclosingCall?_eq_some_iff (typed name : String) :
    enclosingCall? typed = some name ↔ IsTypedInCall typed name := by
  constructor
  · intro found
    rcases exists_isLastParenthesis typed.toList with
      unparenthesized | ⟨before, parenthesis, after, isLast⟩
    · rw [enclosingCall?_of_unparenthesized unparenthesized] at found
      exact absurd found (by simp)
    · rw [isLast.enclosingCall?_eq] at found
      split at found
      · rename_i opening
        subst opening
        exact ⟨before, after, isLast,
          (nameAtEnd?_eq_some_iff before name).mp found⟩
      · exact absurd found (by simp)
  · rintro ⟨before, after, isLast, named⟩
    rw [isLast.enclosingCall?_eq, if_pos rfl]
    exact (nameAtEnd?_eq_some_iff before name).mpr named

/-- No call is open if the last parenthesis closes one or has no name before it. -/
theorem enclosingCall?_eq_none_iff (typed : String) :
    enclosingCall? typed = none ↔
      (∀ character ∈ typed.toList, isParenthesis character = false) ∨
        (∃ before after, IsLastParenthesis typed.toList before ')' after) ∨
          ∃ before after, IsLastParenthesis typed.toList before '(' after ∧
            ∀ character ∈ before.getLast?, isCalleePart character = false := by
  constructor
  · intro nothing
    rcases exists_isLastParenthesis typed.toList with
      unparenthesized | ⟨before, parenthesis, after, isLast⟩
    · exact .inl unparenthesized
    · rcases eq_or_eq_of_isParenthesis isLast.isParenthesis with rfl | rfl
      · rw [isLast.enclosingCall?_eq, if_pos rfl, nameAtEnd?_eq_none_iff]
          at nothing
        exact .inr (.inr ⟨before, after, isLast, nothing⟩)
      · exact .inr (.inl ⟨before, after, isLast⟩)
  · rintro (unparenthesized | ⟨before, after, isLast⟩ |
      ⟨before, after, isLast, unnamed⟩)
    · exact enclosingCall?_of_unparenthesized unparenthesized
    · rw [isLast.enclosingCall?_eq, if_neg (by decide)]
    · rw [isLast.enclosingCall?_eq, if_pos rfl]
      exact (nameAtEnd?_eq_none_iff before).mpr unnamed

/-! ## The pattern of an open call -/

/-- The characters of the name of a called function, as a set. -/
def calleeCharacters : Pattern.CharSet :=
  .unions [.word, .single '.', .single ':', .single '$', .single '@']

/-- The characters other than parentheses, as a set. -/
def otherCharacters : Pattern.CharSet :=
  .complement (.unions [.single '(', .single ')'])

/-- The pattern of a name. -/
def callee : Pattern :=
  Pattern.oneOrMore calleeCharacters

/-- The pattern of a parenthesis that opens and is the last one. -/
def lastOpening : Pattern :=
  .sequence (.set (.single '(')) (Pattern.anyNumber otherCharacters).beforeEnd

/-- A name and the last parenthesis after it, as the pattern is written. -/
theorem parse_callee_lastOpening :
    Pattern.parse "([\\w\\.:\\$@]+)\\([^()]*$".toList =
      .ok (.sequence callee lastOpening) := rfl

theorem contains_calleeCharacters :
    calleeCharacters.contains = isCalleePart := by
  funext character
  simp only [calleeCharacters, Pattern.CharSet.unions,
    Pattern.CharSet.contains_union, Pattern.CharSet.contains_word,
    Pattern.CharSet.contains_single, isCalleePart, beq_eq_decide,
    Bool.or_assoc]

theorem contains_otherCharacters :
    otherCharacters.contains = (!isParenthesis ·) := by
  funext character
  simp only [otherCharacters, Pattern.CharSet.unions,
    Pattern.CharSet.contains_complement, Pattern.CharSet.contains_union,
    Pattern.CharSet.contains_single, isParenthesis, beq_eq_decide]

/-- The pattern matches from where a parenthesis opens that is the last one. -/
theorem matchesAt_lastOpening_iff (characters : List Char) (position : Nat) :
    Pattern.MatchesAt characters.toArray lastOpening position ↔
      characters[position]? = some '(' ∧
        ∀ character ∈ characters.drop (position + 1),
          isParenthesis character = false := by
  have ending (middle : Nat) (within : middle ≤ characters.length) :
      Pattern.MatchesAt characters.toArray
          (Pattern.anyNumber otherCharacters).beforeEnd middle ↔
        ∀ character ∈ characters.drop middle,
          isParenthesis character = false := by
    rw [Pattern.matchesAt_beforeEnd_iff, Pattern.mem_ends_anyNumber,
      List.size_toArray, Pattern.covers_iff_all_drop le_rfl,
      List.take_length, contains_otherCharacters, List.all_eq_true]
    simp only [within, true_and, Bool.not_eq_true']
  have opening :
      Pattern.memberAfter characters.toArray position (.single '(') = true ↔
        characters[position]? = some '(' := by
    rw [Pattern.memberAfter, List.getElem?_toArray]
    cases characters[position]? with
    | none => simp
    | some character => simp
  rw [lastOpening, Pattern.matchesAt_sequence_iff, Pattern.ends_set]
  by_cases opens : characters[position]? = some '('
  · obtain ⟨within, -⟩ := List.getElem?_eq_some_iff.mp opens
    rw [if_pos (opening.mpr opens)]
    simp only [List.mem_singleton, exists_eq_left, opens, true_and]
    exact ending (position + 1) within
  · rw [if_neg (mt opening.mp opens)]
    simp only [List.not_mem_nil, false_and, exists_false, opens]

/-- If the last parenthesis opens, it is where the pattern matches. -/
theorem IsLastParenthesis.matchesAt_lastOpening_iff
    {characters before after : List Char}
    {parenthesis : Char}
    (isLast : IsLastParenthesis characters before parenthesis after)
    (position : Nat) :
    Pattern.MatchesAt characters.toArray lastOpening position ↔
      position = before.length ∧ parenthesis = '(' := by
  obtain ⟨rfl, isParenthesis, last⟩ := isLast
  rw [Buffer.matchesAt_lastOpening_iff]
  constructor
  · rintro ⟨opens, unparenthesized⟩
    rcases Nat.lt_trichotomy position before.length with lower | rfl | higher
    · -- the last parenthesis would stand after this one
      have present :
          parenthesis ∈ (before ++ parenthesis :: after).drop (position + 1) := by
        rw [List.drop_append_of_le_length (by omega)]
        exact List.mem_append_right _ List.mem_cons_self
      rw [unparenthesized parenthesis present] at isParenthesis
      exact absurd isParenthesis (by simp)
    · rw [List.getElem?_append_right le_rfl, Nat.sub_self,
        List.getElem?_cons_zero, Option.some.injEq] at opens
      exact ⟨rfl, opens⟩
    · obtain ⟨offset, rfl⟩ := Nat.exists_eq_add_of_lt higher
      rw [List.getElem?_append_right (by omega),
        show before.length + offset + 1 - before.length = offset + 1 by omega,
        List.getElem?_cons_succ] at opens
      exact absurd (last '(' (List.mem_of_getElem? opens)) (by decide)
  · rintro ⟨rfl, rfl⟩
    constructor
    · rw [List.getElem?_append_right le_rfl, Nat.sub_self,
        List.getElem?_cons_zero]
    · rw [List.drop_append, List.drop_eq_nil_of_le (by omega),
        Nat.add_sub_cancel_left, List.nil_append, List.drop_one,
        List.tail_cons]
      exact last

/-- The name of the open call is what the pattern of a name covers. -/
theorem enclosingCall?_eq_firstPart? (typed : String) :
    enclosingCall? typed =
      (Pattern.firstPart? callee lastOpening typed.toList).map fun part =>
        String.ofList (part.charactersOf typed.toList) := by
  rcases exists_isLastParenthesis typed.toList with
    unparenthesized | ⟨before, parenthesis, after, isLast⟩
  · have never (position : Nat) :
        ¬Pattern.MatchesAt typed.toList.toArray lastOpening position := by
      rw [matchesAt_lastOpening_iff]
      rintro ⟨opens, -⟩
      exact absurd (unparenthesized '(' (List.mem_of_getElem? opens))
        (by decide)
    rw [enclosingCall?_of_unparenthesized unparenthesized,
      Pattern.firstPart?_eq_none never, Option.map_none]
  · rw [isLast.enclosingCall?_eq]
    by_cases opening : parenthesis = '('
    · have only (position : Nat) :
          Pattern.MatchesAt typed.toList.toArray lastOpening position ↔
            position = before.length := by
        rw [isLast.matchesAt_lastOpening_iff, and_iff_left opening]
      have within : before.length ≤ typed.toList.length := by
        rw [isLast.placed, List.length_append]
        exact Nat.le_add_right _ _
      have start : typed.toList.take before.length = before := by
        rw [isLast.placed, List.take_left]
      rw [if_pos opening, callee, Pattern.firstPart?_oneOrMore within only,
        start, contains_calleeCharacters, nameAtEnd?]
      split
      · rfl
      · simp only [Option.map_some, Pattern.Span.charactersOf, start,
          drop_eq_suffixWhile]
    · have never (position : Nat) :
          ¬Pattern.MatchesAt typed.toList.toArray lastOpening position := by
        rw [isLast.matchesAt_lastOpening_iff]
        exact fun matched => opening matched.2
      rw [if_neg opening, Pattern.firstPart?_eq_none never, Option.map_none]

/--
A text is typed in the call of a name exactly if its last parenthesis opens and
the name is the longest one right before it; otherwise it has no parenthesis,
or the last one closes, or no name stands before it.  Further text without
parentheses does not change that.  The name is also the first part of the
leftmost match of the pattern of an open call.
-/
theorem enclosingCall?_iff_and_append (typed : String) :
    (∀ name, enclosingCall? typed = some name ↔ IsTypedInCall typed name) ∧
      (enclosingCall? typed = none ↔
        (∀ character ∈ typed.toList, isParenthesis character = false) ∨
          (∃ before after, IsLastParenthesis typed.toList before ')' after) ∨
            ∃ before after, IsLastParenthesis typed.toList before '(' after ∧
              ∀ character ∈ before.getLast?, isCalleePart character = false) ∧
      (∀ further : String,
        (∀ character ∈ further.toList, isParenthesis character = false) →
          enclosingCall? (typed ++ further) = enclosingCall? typed) ∧
      enclosingCall? typed =
        (Pattern.firstPart? callee lastOpening typed.toList).map fun part =>
          String.ofList (part.charactersOf typed.toList) :=
  ⟨enclosingCall?_eq_some_iff typed, enclosingCall?_eq_none_iff typed,
    fun _ => enclosingCall?_append_of_unparenthesized,
    enclosingCall?_eq_firstPart? typed⟩

/-- A call of a qualified name is open; one around a closed call is not seen. -/
theorem enclosingCall?_median :
    (∀ character ∈ " na.rm".toList, isParenthesis character = false) ∧
      IsTypedInCall "p(q) + stats::median(y," "stats::median" ∧
      enclosingCall? ("p(q) + stats::median(y," ++ " na.rm") =
        some "stats::median" ∧
      enclosingCall? "foo(bar(x), " = none := by
  have unparenthesized :
      ∀ character ∈ " na.rm".toList, isParenthesis character = false := by
    simp [isParenthesis]
  have found :
      enclosingCall? "p(q) + stats::median(y," = some "stats::median" := rfl
  have closed :
      IsLastParenthesis "foo(bar(x), ".toList "foo(bar(x".toList ')'
        ", ".toList :=
    ⟨rfl, rfl, by simp [isParenthesis]⟩
  obtain ⟨named, -, appended, -⟩ :=
    enclosingCall?_iff_and_append "p(q) + stats::median(y,"
  exact ⟨unparenthesized, (named _).mp found,
    (appended " na.rm" unparenthesized).trans found,
    (enclosingCall?_iff_and_append "foo(bar(x), ").2.1.mpr
      (.inr (.inl ⟨_, _, closed⟩))⟩

end Buffer
end RCompletion
