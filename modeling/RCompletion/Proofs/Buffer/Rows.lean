import RCompletion.Buffer.Pipe
import RCompletion.Proofs.Buffer.Suffix
import RCompletion.Proofs.Text.Parts

/-!
# Kinds of rows

What the search for the root of a pipe chain makes of a row, said about the
characters of the row alone.  A row may contain an operator, and then name a
root: the leftmost name that an operator follows after at most one blank, as
long as it can be.  A row without an operator may look like the start of a
statement.
-/

namespace RCompletion
namespace Buffer

/-! ## Operators -/

/-- A row contains one of the operators. -/
def IsPipeRow (symbols : List String) (row : String) : Prop :=
  ∃ symbol ∈ symbols, symbol.toList <:+: row.toList

instance (symbols : List String) (row : String) :
    Decidable (IsPipeRow symbols row) :=
  inferInstanceAs (Decidable (∃ symbol ∈ symbols, symbol.toList <:+: row.toList))

/-- One of the operators follows, after at most one blank. -/
def OperatorFollows (symbols : List String) (characters : List Char) : Prop :=
  ∃ blanks : List Char, blanks.length ≤ 1 ∧
    (∀ blank ∈ blanks, Text.isBlank blank = true) ∧
      ∃ symbol ∈ symbols, blanks ++ symbol.toList <+: characters

theorem PipeOperators.occurIn_iff (operators : PipeOperators) (row : String) :
    operators.occurIn row = true ↔ IsPipeRow operators.symbols row := by
  simp only [occurIn, IsPipeRow, List.any_eq_true, Text.contains_iff]

theorem PipeOperators.start_iff
    (operators : PipeOperators)
    (characters : List Char) :
    operators.start characters = true ↔
      ∃ symbol ∈ operators.symbols, symbol.toList <+: characters := by
  simp only [start, List.any_eq_true, List.isPrefixOf_iff_prefix]

theorem PipeOperators.follow_iff
    (operators : PipeOperators)
    (characters : List Char) :
    operators.follow characters = true ↔
      OperatorFollows operators.symbols characters := by
  constructor
  · intro follows
    cases characters with
    | nil =>
        rw [follow_nil, start_iff] at follows
        exact ⟨[], Nat.zero_le 1, by simp, follows⟩
    | cons character rest =>
        rw [follow_cons, Bool.or_eq_true, Bool.and_eq_true, start_iff,
          start_iff] at follows
        rcases follows with atOnce | ⟨blank, symbol, known, starts⟩
        · exact ⟨[], Nat.zero_le 1, by simp, atOnce⟩
        · refine ⟨[character], Nat.le_refl 1, by simpa using blank, symbol,
            known, ?_⟩
          rw [List.singleton_append, List.prefix_cons_inj]
          exact starts
  · rintro ⟨blanks, few, blank, symbol, known, starts⟩
    match blanks with
    | [] =>
        have atOnce : operators.start characters = true :=
          (operators.start_iff characters).mpr ⟨symbol, known, starts⟩
        cases characters with
        | nil => rw [follow_nil, atOnce]
        | cons character rest => rw [follow_cons, atOnce, Bool.true_or]
    | [single] =>
        obtain ⟨rest, rfl⟩ := starts
        have afterwards : operators.start (symbol.toList ++ rest) = true :=
          (operators.start_iff _).mpr ⟨symbol, known, List.prefix_append _ _⟩
        rw [List.append_assoc, List.singleton_append, follow_cons,
          blank single (List.mem_singleton_self single), afterwards,
          Bool.true_and, Bool.or_true]
    | _ :: _ :: _ => simp at few

/-! ## Roots -/

/-- A name stands after other characters, and an operator follows it. -/
structure IsPiped
    (symbols : List String)
    (characters before name : List Char) : Prop where
  /-- It is not empty. -/
  named : name ≠ []
  /-- It has no other characters. -/
  parts : ∀ character ∈ name, isNamePart character = true
  /-- This is where it stands. -/
  followed : ∃ rest, characters = before ++ name ++ rest ∧
    OperatorFollows symbols rest

/-- Of the names that an operator follows, one starts first and is then longest. -/
structure IsFirstPiped
    (symbols : List String)
    (characters before name : List Char) : Prop where
  piped : IsPiped symbols characters before name
  first : ∀ otherBefore other,
    IsPiped symbols characters otherBefore other →
      before.length < otherBefore.length ∨
        before.length = otherBefore.length ∧ other.length ≤ name.length

/-- The root that a row names. -/
def HasRoot (symbols : List String) (row root : String) : Prop :=
  ∃ before, IsFirstPiped symbols row.toList before root.toList

namespace IsPiped

variable {symbols : List String} {character : Char}
  {rest before name : List Char}

theorem cons (piped : IsPiped symbols rest before name) :
    IsPiped symbols (character :: rest) (character :: before) name := by
  obtain ⟨after, rfl, follows⟩ := piped.followed
  exact ⟨piped.named, piped.parts, after, rfl, follows⟩

theorem of_cons
    (piped : IsPiped symbols (character :: rest) (character :: before) name) :
    IsPiped symbols rest before name := by
  obtain ⟨after, placed, follows⟩ := piped.followed
  exact ⟨piped.named, piped.parts, after, List.tail_eq_of_cons_eq placed,
    follows⟩

/-- What stands before a name is the start of the characters. -/
theorem exists_eq_cons
    (piped : IsPiped symbols (character :: rest) before name)
    (later : before ≠ []) :
    ∃ others, before = character :: others := by
  obtain ⟨after, placed, -⟩ := piped.followed
  obtain ⟨first, others, rfl⟩ := List.exists_cons_of_ne_nil later
  rw [List.cons_append, List.cons_append, List.cons.injEq] at placed
  exact ⟨others, by rw [placed.1]⟩

theorem not_nil : ¬IsPiped symbols [] before name := by
  intro piped
  obtain ⟨after, placed, -⟩ := piped.followed
  simp only [List.nil_eq, List.append_eq_nil_iff] at placed
  exact piped.named placed.1.2

end IsPiped

namespace PipeOperators

variable {operators : PipeOperators} {characters root : List Char}

/-- The names at the start of a list are the starts of the longest one. -/
theorem isPiped_nil_iff (name : List Char) :
    IsPiped operators.symbols characters [] name ↔
      ∃ length, 1 ≤ length ∧
        length ≤ (characters.takeWhile isNamePart).length ∧
          operators.follow (characters.drop length) = true ∧
            name = characters.take length := by
  constructor
  · intro piped
    obtain ⟨rest, rfl, follows⟩ := piped.followed
    have whole : name.takeWhile isNamePart = name :=
      List.takeWhile_eq_self_iff.mpr piped.parts
    refine ⟨name.length, List.length_pos_iff.mpr piped.named, ?_, ?_, ?_⟩
    · rw [List.nil_append, List.takeWhile_append_of_pos piped.parts,
        List.length_append]
      exact Nat.le_add_right _ _
    · rw [List.nil_append, List.drop_left, operators.follow_iff]
      exact follows
    · rw [List.nil_append, List.take_left]
  · rintro ⟨length, positive, within, follows, rfl⟩
    have bounded := within.trans (List.takeWhile_prefix _).length_le
    refine ⟨?_, ?_, characters.drop length, ?_,
      (operators.follow_iff _).mp follows⟩
    · rw [Ne, List.take_eq_nil_iff]
      rintro (nothing | rfl)
      · omega
      · simp at bounded
        omega
    · have passes : (characters.take length).all isNamePart = true := by
        rw [all_take_iff, Nat.min_eq_left bounded]
        exact within
      exact List.all_eq_true.mp passes
    · rw [List.nil_append, List.take_append_drop]

/-- What is found is as long as the bound allows. -/
theorem of_rootWithin?_eq_some
    {length : Nat}
    (found : operators.rootWithin? characters length = some root) :
    ∃ taken, 1 ≤ taken ∧ taken ≤ length ∧
      operators.follow (characters.drop taken) = true ∧
        root = characters.take taken ∧
          ∀ longer, longer ≤ length →
            operators.follow (characters.drop longer) = true →
              longer ≤ taken := by
  induction length with
  | zero => exact absurd found (by simp [rootWithin?])
  | succ length inductionHypothesis =>
      rw [rootWithin?] at found
      split at found
      · rename_i follows
        exact ⟨length + 1, Nat.le_add_left 1 length, Nat.le_refl _, follows,
          (Option.some.inj found).symm, fun longer bounded _ => bounded⟩
      · rename_i fails
        obtain ⟨taken, positive, within, follows, equal, longest⟩ :=
          inductionHypothesis found
        refine ⟨taken, positive, Nat.le_succ_of_le within, follows, equal, ?_⟩
        intro longer bounded longerFollows
        rcases Nat.lt_or_eq_of_le bounded with smaller | rfl
        · exact longest longer (Nat.le_of_lt_succ smaller) longerFollows
        · exact absurd longerFollows fails

theorem of_rootWithin?_eq_none
    {length : Nat}
    (nothing : operators.rootWithin? characters length = none) :
    ∀ taken, 1 ≤ taken → taken ≤ length →
      ¬operators.follow (characters.drop taken) = true := by
  induction length with
  | zero =>
      intro taken positive within
      omega
  | succ length inductionHypothesis =>
      rw [rootWithin?] at nothing
      split at nothing
      · exact absurd nothing (by simp)
      · rename_i fails
        intro taken positive within
        rcases Nat.lt_or_eq_of_le within with smaller | rfl
        · exact inductionHypothesis nothing taken positive
            (Nat.le_of_lt_succ smaller)
        · exact fails

theorem isFirstPiped_of_rootAtStart?
    (found : operators.rootAtStart? characters = some root) :
    IsFirstPiped operators.symbols characters [] root := by
  obtain ⟨taken, positive, within, follows, equal, longest⟩ :=
    of_rootWithin?_eq_some found
  refine ⟨(isPiped_nil_iff root).mpr
    ⟨taken, positive, within, follows, equal⟩, ?_⟩
  intro otherBefore other piped
  cases otherBefore with
  | cons first others => exact .inl (Nat.zero_lt_succ _)
  | nil =>
      obtain ⟨longer, -, longerWithin, longerFollows, rfl⟩ :=
        (isPiped_nil_iff other).mp piped
      have shorter := longest longer longerWithin longerFollows
      refine .inr ⟨rfl, ?_⟩
      rw [equal, List.length_take, List.length_take]
      omega

theorem not_isPiped_nil_of_rootAtStart?
    (nothing : operators.rootAtStart? characters = none)
    (name : List Char) :
    ¬IsPiped operators.symbols characters [] name := by
  rw [isPiped_nil_iff]
  rintro ⟨taken, positive, within, follows, -⟩
  exact of_rootWithin?_eq_none nothing taken positive within follows

/-- The root that is found is the first name that an operator follows. -/
theorem isFirstPiped_of_rootList?
    (found : operators.rootList? characters = some root) :
    ∃ before, IsFirstPiped operators.symbols characters before root := by
  induction characters with
  | nil => exact absurd found (by simp [rootList?])
  | cons character rest inductionHypothesis =>
      rw [rootList?] at found
      split at found
      · rename_i atStart
        rw [found] at atStart
        exact ⟨[], isFirstPiped_of_rootAtStart? atStart⟩
      · rename_i notAtStart
        obtain ⟨before, piped, first⟩ := inductionHypothesis found
        refine ⟨character :: before, piped.cons, ?_⟩
        intro otherBefore other otherPiped
        by_cases atStart : otherBefore = []
        · rw [atStart] at otherPiped
          exact absurd otherPiped
            (not_isPiped_nil_of_rootAtStart? notAtStart other)
        · obtain ⟨others, rfl⟩ := otherPiped.exists_eq_cons atStart
          have later := first others other otherPiped.of_cons
          simp only [List.length_cons]
          omega

theorem not_isPiped_of_rootList?
    (nothing : operators.rootList? characters = none)
    (before name : List Char) :
    ¬IsPiped operators.symbols characters before name := by
  induction characters generalizing before with
  | nil => exact IsPiped.not_nil
  | cons character rest inductionHypothesis =>
      rw [rootList?] at nothing
      split at nothing
      · exact absurd nothing (by simp)
      · rename_i notAtStart
        intro piped
        by_cases atStart : before = []
        · rw [atStart] at piped
          exact not_isPiped_nil_of_rootAtStart? notAtStart name piped
        · obtain ⟨others, rfl⟩ := piped.exists_eq_cons atStart
          exact inductionHypothesis nothing others piped.of_cons

end PipeOperators

/-- There is only one first name that an operator follows. -/
theorem IsFirstPiped.unique
    {symbols : List String}
    {characters before name otherBefore other : List Char}
    (one : IsFirstPiped symbols characters before name)
    (another : IsFirstPiped symbols characters otherBefore other) :
    name = other := by
  have sameLengths :
      before.length = otherBefore.length ∧ name.length = other.length := by
    have forward := one.first otherBefore other another.piped
    have backward := another.first before name one.piped
    omega
  obtain ⟨rest, placed, -⟩ := one.piped.followed
  obtain ⟨otherRest, otherPlaced, -⟩ := another.piped.followed
  rw [placed, List.append_assoc, List.append_assoc] at otherPlaced
  have afterBefore := (List.append_inj otherPlaced sameLengths.1).2
  exact (List.append_inj afterBefore sameLengths.2).1

/-- The search for a root finds the one that a row names, if it names one. -/
theorem PipeOperators.root?_eq_some_iff
    (operators : PipeOperators)
    (row root : String) :
    operators.root? row = some root ↔ HasRoot operators.symbols row root := by
  constructor
  · intro found
    obtain ⟨name, listed, rfl⟩ := Option.map_eq_some_iff.mp found
    obtain ⟨before, first⟩ := isFirstPiped_of_rootList? listed
    exact ⟨before, by rw [String.toList_ofList]; exact first⟩
  · rintro ⟨before, first⟩
    cases listed : operators.rootList? row.toList with
    | none =>
        exact absurd first.piped (not_isPiped_of_rootList? listed before _)
    | some name =>
        obtain ⟨foundBefore, foundFirst⟩ := isFirstPiped_of_rootList? listed
        rw [root?, listed, foundFirst.unique first, Option.map_some,
          String.ofList_toList]

/-! ## Assignments -/

/-- The signs of an assignment. -/
def assignmentSigns : List (List Char) := [['<', '-'], ['=']]

/--
An assignment sign stands in a row after at least one character, none of which
opens a parenthesis.
-/
def IsAssignmentRow (row : String) : Prop :=
  ∃ before sign after, row.toList = before ++ sign ++ after ∧
    sign ∈ assignmentSigns ∧ before ≠ [] ∧ '(' ∉ before

theorem hasAssignmentSign_iff (characters : List Char) :
    hasAssignmentSign characters = true ↔
      ∃ sign ∈ assignmentSigns, sign <:+: characters := by
  simp only [hasAssignmentSign, assignmentSigns, Bool.or_eq_true, Text.occursIn_iff,
    List.mem_cons, List.not_mem_nil, or_false, exists_eq_or_imp,
    exists_eq_left]

theorem isAssignment_iff (row : String) :
    isAssignment row = true ↔ IsAssignmentRow row := by
  rw [isAssignment, hasAssignmentSign_iff]
  constructor
  · rintro ⟨sign, known, start, rest, placed⟩
    have filled : ∀ sign ∈ assignmentSigns, sign ≠ [] := by decide
    have started : row.toList.takeWhile (· != '(') ≠ [] := by
      intro nothing
      rw [nothing, List.drop_nil, List.append_eq_nil_iff,
        List.append_eq_nil_iff] at placed
      exact filled sign known placed.1.2
    obtain ⟨first, others, unopened⟩ := List.exists_cons_of_ne_nil started
    rw [unopened, List.drop_one, List.tail_cons] at placed
    refine ⟨first :: start, sign,
      rest ++ row.toList.dropWhile (· != '('), ?_, known,
      List.cons_ne_nil _ _, ?_⟩
    · calc row.toList
          = row.toList.takeWhile (· != '(') ++
              row.toList.dropWhile (· != '(') :=
            List.takeWhile_append_dropWhile.symm
        _ = first :: (start ++ sign ++ rest) ++
              row.toList.dropWhile (· != '(') := by rw [unopened, placed]
        _ = _ := by simp
    · intro opened
      have present : '(' ∈ row.toList.takeWhile (· != '(') := by
        rw [unopened, ← placed, List.append_assoc, ← List.cons_append]
        exact List.mem_append_left _ opened
      exact absurd (List.mem_takeWhile_imp present) (by decide)
  · rintro ⟨before, sign, after, placed, known, nonempty, unopened⟩
    have unopenedSign : ∀ sign ∈ assignmentSigns, '(' ∉ sign := by decide
    have passes : ∀ character ∈ before ++ sign, (character != '(') = true := by
      intro character present
      rw [bne_iff_ne]
      rintro rfl
      rcases List.mem_append.mp present with inBefore | inSign
      · exact unopened inBefore
      · exact unopenedSign sign known inSign
    obtain ⟨first, others, rfl⟩ := List.exists_cons_of_ne_nil nonempty
    refine ⟨sign, known, others, after.takeWhile (· != '('), ?_⟩
    rw [placed, List.takeWhile_append_of_pos passes]
    rfl

end Buffer
end RCompletion
