import RCompletion.Proofs.Pattern.FirstPart
import Mathlib.Data.List.Nodup

/-!
# Pieces of patterns

Where the pieces lead that the patterns of rows are made of: a text that stands
for itself, a character that may be missing, and choices.  Of a run of
characters of a set, the longer starts come before the shorter ones, so that
the first part of a match is as long as the rest of the match allows.
-/

namespace RCompletion
namespace Pattern

/-- The pattern of a single text. -/
def literal (characters : List Char) : Pattern :=
  sequences (characters.map character)

/-- At most one character of a set, rather one than none. -/
def atMostOne (members : CharSet) : Pattern :=
  repetition (set members) 0 (some 1) true

/-! ## Sequences and choices -/

section

variable {text : Array Char} {position stop : Nat}

/-- Patterns one after the other lead on from where the first one leads. -/
theorem mem_ends_sequences_cons (pattern : Pattern) (patterns : List Pattern) :
    stop ∈ ends text (sequences (pattern :: patterns)) position ↔
      ∃ middle ∈ ends text pattern position,
        stop ∈ ends text (sequences patterns) middle := by
  cases patterns with
  | nil => simp [sequences]
  | cons next patterns =>
      simp only [sequences, ends, List.mem_eraseDups, List.mem_flatMap]

/-- Patterns one after the other match if they do after the first one. -/
theorem matchesAt_sequences_cons (pattern : Pattern) (patterns : List Pattern) :
    MatchesAt text (sequences (pattern :: patterns)) position ↔
      ∃ middle ∈ ends text pattern position,
        MatchesAt text (sequences patterns) middle := by
  simp only [matchesAt_iff, mem_ends_sequences_cons]
  constructor
  · rintro ⟨stop, middle, reached, ending⟩
    exact ⟨middle, reached, stop, ending⟩
  · rintro ⟨middle, reached, stop, ending⟩
    exact ⟨stop, middle, reached, ending⟩

/-- Some choice leads to where any of them leads. -/
theorem mem_ends_choices {patterns : List Pattern} (some : patterns ≠ []) :
    stop ∈ ends text (choices patterns) position ↔
      ∃ pattern ∈ patterns, stop ∈ ends text pattern position := by
  induction patterns with
  | nil => exact absurd rfl some
  | cons pattern patterns inductionHypothesis =>
      cases patterns with
      | nil => simp [choices]
      | cons next patterns =>
          have parts :
              choices (pattern :: next :: patterns) =
                choice pattern (choices (next :: patterns)) := rfl
          rw [parts, ends, List.mem_eraseDups, List.mem_append,
            inductionHypothesis (List.cons_ne_nil _ _)]
          simp only [List.mem_cons, exists_eq_or_imp]

/-- A character that may be missing is left out or passed. -/
theorem mem_ends_atMostOne (members : CharSet) :
    stop ∈ ends text (atMostOne members) position ↔
      stop = position ∨
        stop = position + 1 ∧ memberAfter text position members = true := by
  have once :
      ends text (atMostOne members) position =
        (atMostRounds (ends text (set members)) true 1 position).eraseDups := by
    have one : min (1 - 0) (text.size + 1) = 1 := by omega
    simp only [atMostOne, ends, exactRounds, one, List.flatMap_singleton]
  rw [once, List.mem_eraseDups, atMostRounds, List.mem_eraseDups]
  by_cases present : memberAfter text position members = true
  · simp [countedRounds, present, or_comm]
  · simp [countedRounds, present]

end

/-! ## Texts -/

theorem cons_prefix_drop_iff
    (text characters : List Char)
    (first : Char)
    (position : Nat) :
    first :: characters <+: text.drop position ↔
      text[position]? = some first ∧ characters <+: text.drop (position + 1) := by
  rcases Nat.lt_or_ge position text.length with within | beyond
  · rw [List.drop_eq_getElem_cons within, List.cons_prefix_cons,
      List.getElem?_eq_getElem within, Option.some.injEq, eq_comm]
  · rw [List.drop_eq_nil_of_le beyond, List.getElem?_eq_none beyond]
    simp

/-- A character leads on where it stands. -/
theorem mem_ends_character
    (text : List Char)
    (single : Char)
    (position stop : Nat) :
    stop ∈ ends text.toArray (character single) position ↔
      text[position]? = some single ∧ stop = position + 1 := by
  have stands :
      memberAfter text.toArray position (.single single) = true ↔
        text[position]? = some single := by
    rw [memberAfter, List.getElem?_toArray]
    cases text[position]? with
    | none => simp
    | some other => simp
  rw [character, ends_set]
  by_cases present : memberAfter text.toArray position (.single single) = true
  · simp [present, stands.mp present]
  · simp [present, mt stands.mpr present]

/-- A text leads behind itself where it stands. -/
theorem mem_ends_literal
    (text characters : List Char)
    (position stop : Nat) :
    stop ∈ ends text.toArray (literal characters) position ↔
      characters <+: text.drop position ∧
        stop = position + characters.length := by
  induction characters generalizing position with
  | nil => simp [literal, sequences]
  | cons first characters inductionHypothesis =>
      have parts :
          stop ∈ ends text.toArray (literal (first :: characters)) position ↔
            ∃ middle ∈ ends text.toArray (character first) position,
              stop ∈ ends text.toArray (literal characters) middle :=
        mem_ends_sequences_cons _ _
      rw [parts, cons_prefix_drop_iff]
      simp only [mem_ends_character, inductionHypothesis, List.length_cons]
      constructor
      · rintro ⟨middle, ⟨stands, rfl⟩, starts, rfl⟩
        exact ⟨⟨stands, starts⟩, by omega⟩
      · rintro ⟨⟨stands, starts⟩, rfl⟩
        exact ⟨position + 1, ⟨stands, rfl⟩, starts, by omega⟩

/-! ## Runs of characters -/

section

variable (text : List Char) (members : CharSet)

/-- The number of characters of a set that follow a position. -/
def runLength (position : Nat) : Nat :=
  ((text.drop position).takeWhile members.contains).length

theorem runLength_eq (position : Nat) :
    runLength text members position =
      if memberAfter text.toArray position members then
        runLength text members (position + 1) + 1
      else
        0 := by
  rw [memberAfter, List.getElem?_toArray]
  rcases Nat.lt_or_ge position text.length with within | beyond
  · rw [runLength, List.drop_eq_getElem_cons within, List.takeWhile_cons,
      List.getElem?_eq_getElem within, Option.any_some]
    split
    · rw [List.length_cons, runLength]
    · rfl
  · rw [runLength, List.drop_eq_nil_of_le beyond,
      List.getElem?_eq_none beyond]
    rfl

theorem runLength_le (position : Nat) :
    runLength text members position ≤ text.length := by
  have bounded := (List.takeWhile_prefix members.contains
    (l := text.drop position)).length_le
  rw [List.length_drop] at bounded
  exact bounded.trans (Nat.sub_le _ _)

/-- Rounds over a set reach every position of a run, the last one first. -/
theorem rounds_set (fuel position : Nat) :
    rounds (ends text.toArray (set members)) true fuel [] position =
      (List.range' (position + 1)
        (min fuel (runLength text members position))).reverse := by
  induction fuel generalizing position with
  | zero => rw [Nat.zero_min]; rfl
  | succ fuel inductionHypothesis =>
      rw [runLength_eq]
      cases first : memberAfter text.toArray position members with
      | false => rw [rounds_set_of_not first]; rfl
      | true =>
          rw [rounds_set_of_memberAfter first, inductionHypothesis, if_pos rfl,
            Nat.succ_min_succ, List.range'_succ, List.reverse_cons]

theorem eraseDups_of_nodup {α : Type} [BEq α] [LawfulBEq α]
    {elements : List α}
    (distinct : elements.Nodup) :
    elements.eraseDups = elements := by
  induction elements with
  | nil => rfl
  | cons element elements inductionHypothesis =>
      obtain ⟨absent, rest⟩ := List.nodup_cons.mp distinct
      have others : elements.filter (fun other => !other == element) = elements := by
        rw [List.filter_eq_self]
        intro other present
        rw [Bool.not_eq_true', beq_eq_false_iff_ne]
        rintro rfl
        exact absent present
      rw [List.eraseDups_cons, others, inductionHypothesis rest]

/-- One or more characters of a set are rather more than fewer. -/
theorem ends_oneOrMore (start : Nat) :
    ends text.toArray (oneOrMore members) start =
      (List.range' (start + 1) (runLength text members start)).reverse := by
  have further :
      ends text.toArray (oneOrMore members) start =
        ((exactRounds (ends text.toArray (set members)) 1 [start]).flatMap
          (anyRounds (ends text.toArray (set members)) true
            (text.length + 1))).eraseDups := rfl
  have distinct :
      (List.range' (start + 1) (runLength text members start)).reverse.Nodup :=
    List.nodup_reverse.mpr List.nodup_range'
  rw [further, exactRounds_one, ends_set]
  cases first : memberAfter text.toArray start members with
  | false =>
      rw [runLength_eq, first]
      rfl
  | true =>
      have more :
          anyRounds (ends text.toArray (set members)) true (text.length + 1)
              (start + 1) =
            (List.range' (start + 1) (runLength text members start)).reverse := by
        rw [anyRounds, if_pos rfl, ← rounds_set_of_memberAfter first,
          rounds_set, Nat.min_eq_right, eraseDups_of_nodup distinct]
        exact Nat.le_add_right_of_le (Nat.le_add_right_of_le (runLength_le _ _ _))
      rw [if_pos rfl, eraseDups_of_nodup (List.nodup_singleton _),
        List.flatMap_singleton, more, eraseDups_of_nodup distinct]

end

end Pattern
end RCompletion
