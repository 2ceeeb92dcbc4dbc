import RCompletion.Proofs.Pattern.AtEnd

/-!
# The first of two parts

The leftmost match of two patterns one after the other consists of two parts.
The first part ends at the best end of the first pattern from which the second
one matches.
-/

namespace RCompletion
namespace Pattern

/-- A pattern matches from a position on. -/
def MatchesAt (text : Array Char) (pattern : Pattern) (position : Nat) : Prop :=
  ends text pattern position ≠ []

instance (text : Array Char) (pattern : Pattern) (position : Nat) :
    Decidable (MatchesAt text pattern position) :=
  inferInstanceAs (Decidable (_ ≠ []))

/-- The characters of a text that a match covers. -/
def Span.charactersOf (span : Span) (text : List Char) : List Char :=
  (text.take span.stop).drop span.start

/--
What the first of two patterns covers in the leftmost match of both, one after
the other.
-/
def firstPart? (first second : Pattern) (text : List Char) : Option Span :=
  (List.range (text.length + 1)).findSome? fun start =>
    ((ends text.toArray first start).find? fun stop =>
      MatchesAt text.toArray second stop).map (Span.mk start)

section

variable {text : Array Char} {first second : Pattern} {position : Nat}

theorem matchesAt_iff {pattern : Pattern} :
    MatchesAt text pattern position ↔
      ∃ stop, stop ∈ ends text pattern position := by
  rw [MatchesAt, ← List.isEmpty_eq_false_iff,
    List.isEmpty_eq_false_iff_exists_mem]

/-- A pattern occurs in a text if it matches from some position. -/
theorem occursIn_iff (pattern : Pattern) (text : List Char) :
    pattern.occursIn text = true ↔
      ∃ position, position ≤ text.length ∧
        MatchesAt text.toArray pattern position := by
  simp only [occursIn, find?, List.findSome?_isSome_iff, List.mem_range,
    List.size_toArray, Nat.lt_succ_iff, matchAt?, Option.isSome_map,
    List.isSome_head?, MatchesAt]

/-- Two patterns match if the second one does after the first one. -/
theorem matchesAt_sequence_iff :
    MatchesAt text (sequence first second) position ↔
      ∃ middle ∈ ends text first position, MatchesAt text second middle := by
  simp only [matchesAt_iff, ends, List.mem_eraseDups, List.mem_flatMap]
  constructor
  · rintro ⟨stop, middle, reached, ending⟩
    exact ⟨middle, reached, stop, ending⟩
  · rintro ⟨middle, reached, stop, ending⟩
    exact ⟨stop, middle, reached, ending⟩

/-- A pattern matches up to the end if it leads there. -/
theorem matchesAt_beforeEnd_iff (pattern : Pattern) :
    MatchesAt text pattern.beforeEnd position ↔
      text.size ∈ ends text pattern position := by
  have atEnd (middle : Nat) :
      MatchesAt text (anchor .textEnd) middle ↔ middle = text.size := by
    simp only [MatchesAt, ends_anchor, Anchor.holds, beq_iff_eq, ne_eq,
      ite_eq_right_iff, List.cons_ne_nil, imp_false, not_not]
  rw [beforeEnd, matchesAt_sequence_iff]
  simp only [atEnd, exists_eq_right]

end

/-- The first part starts where the match starts. -/
theorem start_firstPart? (first second : Pattern) (text : List Char) :
    (firstPart? first second text).map (·.start) =
      ((sequence first second).find? text).map (·.start) := by
  rw [firstPart?, find?, List.map_findSome?, List.map_findSome?]
  simp only [List.size_toArray]
  congr 1
  funext start
  -- either of them is this start if both patterns match from it
  have split :
      ((ends text.toArray first start).find? fun stop =>
          MatchesAt text.toArray second stop).isSome =
        (matchAt? (sequence first second) text.toArray start).isSome := by
    rw [Bool.eq_iff_iff, List.find?_isSome, matchAt?, Option.isSome_map,
      List.isSome_head?]
    simp only [decide_eq_true_iff]
    exact matchesAt_sequence_iff.symm
  cases part :
      (ends text.toArray first start).find? fun stop =>
        MatchesAt text.toArray second stop with
  | none =>
      rw [part, Option.isSome_none] at split
      have missed :
          matchAt? (sequence first second) text.toArray start = none := by
        rw [← Option.isNone_iff_eq_none, ← Option.isSome_eq_false_iff]
        exact split.symm
      simp only [Function.comp_apply, part, missed, Option.map_none]
  | some stop =>
      rw [part, Option.isSome_some] at split
      obtain ⟨span, matched⟩ := Option.isSome_iff_exists.mp split.symm
      obtain ⟨best, -, rfl⟩ := Option.map_eq_some_iff.mp matched
      simp only [Function.comp_apply, part, matched, Option.map_some]

/-- There is a first part exactly if both patterns match somewhere. -/
theorem isSome_firstPart? (first second : Pattern) (text : List Char) :
    (firstPart? first second text).isSome =
      (sequence first second).occursIn text := by
  have starts := congrArg Option.isSome (start_firstPart? first second text)
  rwa [Option.isSome_map, Option.isSome_map] at starts

/--
If the second pattern matches from one position only, one or more characters of
a set before it are the longest run of them that ends there.
-/
theorem firstPart?_oneOrMore
    {second : Pattern}
    {text : List Char}
    {stop : Nat}
    (within : stop ≤ text.length)
    (only : ∀ position,
      MatchesAt text.toArray second position ↔ position = stop)
    (members : CharSet) :
    firstPart? (oneOrMore members) second text =
      if Buffer.suffixWhile members.contains (text.take stop) = [] then
        none
      else
        some ⟨stop -
          (Buffer.suffixWhile members.contains (text.take stop)).length,
          stop⟩ := by
  have reaches :
      (fun start =>
          ((ends text.toArray (oneOrMore members) start).find? fun position =>
            MatchesAt text.toArray second position).map (Span.mk start)) =
        Option.map (fun start => ⟨start, stop⟩) ∘
          Option.guard fun start =>
            stop ∈ ends text.toArray (oneOrMore members) start := by
    funext start
    rw [find?_of_only (fun position => by
      rw [decide_eq_true_iff]; exact only position)]
    by_cases reached : stop ∈ ends text.toArray (oneOrMore members) start
    · simp [Option.guard, reached]
    · simp [Option.guard, reached]
  rw [firstPart?, reaches, ← List.map_findSome?, List.findSome?_guard,
    find?_covers within]
  split <;> rfl

/-- Without a match of the second pattern there is no first part. -/
theorem firstPart?_eq_none
    {second : Pattern}
    {text : List Char}
    (never : ∀ position, ¬MatchesAt text.toArray second position)
    (first : Pattern) :
    firstPart? first second text = none := by
  rw [firstPart?, List.findSome?_eq_none_iff]
  intro start _
  rw [Option.map_eq_none_iff, List.find?_eq_none]
  intro stop _
  rw [decide_eq_true_iff]
  exact never stop

end Pattern
end RCompletion
