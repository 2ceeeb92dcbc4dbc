import RCompletion.Pattern.Match
import Mathlib.Tactic.SplitIfs

/-!
# Matches within a text

A match does not end before it starts, nor after the end of the text.  Both
follow from what a single step of a repetition keeps: positions that stay
between two bounds when one step is made stay there over any number of rounds.
-/

namespace RCompletion
namespace Pattern

/-! ## Rounds -/

section Rounds

variable {step : Nat → List Nat} {good : Nat → Prop}

/-- Every step from a good position leads to good positions. -/
def Keeps (step : Nat → List Nat) (good : Nat → Prop) : Prop :=
  ∀ position, good position → ∀ next ∈ step position, good next

theorem Keeps.rounds
    (keeps : Keeps step good)
    (greedy : Bool)
    {fuel : Nat}
    {found : List Nat}
    {position : Nat}
    (start : good position)
    (before : ∀ stop ∈ found, good stop) :
    ∀ stop ∈ rounds step greedy fuel found position, good stop := by
  induction fuel generalizing found position with
  | zero => exact before
  | succ fuel inductionHypothesis =>
      rw [Pattern.rounds]
      -- every branch of a round adds good positions to those found so far
      apply List.foldlRecOn (motive := fun found => ∀ stop ∈ found, good stop)
        (step position) _ before
      intro found sofar next present
      have reached : good next := keeps position start next present
      have added : ∀ stop ∈ found ++ [next], good stop :=
        List.forall_mem_append.mpr ⟨sofar, by simpa using reached⟩
      dsimp only
      split_ifs
      · exact sofar
      · exact added
      · exact inductionHypothesis reached sofar
      · exact List.forall_mem_append.mpr
          ⟨inductionHypothesis reached sofar, by simpa using reached⟩
      · exact inductionHypothesis reached added

theorem Keeps.anyRounds
    (keeps : Keeps step good)
    (greedy : Bool)
    (fuel : Nat) :
    Keeps (anyRounds step greedy fuel) good := by
  intro position start stop present
  have more : ∀ stop ∈ Pattern.rounds step greedy fuel [] position, good stop :=
    keeps.rounds greedy start (by simp)
  rw [Pattern.anyRounds, List.mem_eraseDups] at present
  cases greedy with
  | true =>
      rcases List.mem_append.mp present with later | here
      · exact more stop later
      · exact List.mem_singleton.mp here ▸ start
  | false =>
      rcases List.mem_cons.mp present with rfl | later
      · exact start
      · exact more stop later

theorem Keeps.countedRounds
    (keeps : Keeps step good)
    (greedy : Bool)
    {count : Nat}
    {found : List (Nat × Nat)}
    {position : Nat}
    (start : good position)
    (before : ∀ entry ∈ found, good entry.2) :
    ∀ entry ∈ countedRounds step greedy count found position, good entry.2 := by
  induction count generalizing found position with
  | zero =>
      rw [Pattern.countedRounds]
      split_ifs
      · exact before
      · exact List.forall_mem_append.mpr ⟨before, by simpa using start⟩
  | succ count inductionHypothesis =>
      have further (found : List (Nat × Nat))
          (sofar : ∀ entry ∈ found, good entry.2) :
          ∀ entry ∈ (step position).foldl
            (Pattern.countedRounds step greedy count) found, good entry.2 := by
        apply List.foldlRecOn
          (motive := fun found : List (Nat × Nat) =>
            ∀ entry ∈ found, good entry.2)
          (step position) _ sofar
        intro found sofar next present
        exact inductionHypothesis (keeps position start next present) sofar
      rw [Pattern.countedRounds]
      split_ifs
      · exact before
      · exact List.forall_mem_append.mpr
          ⟨further found before, by simpa using start⟩
      · refine further _ (List.forall_mem_append.mpr ⟨before, ?_⟩)
        simpa using start

theorem Keeps.atMostRounds
    (keeps : Keeps step good)
    (greedy : Bool)
    (count : Nat) :
    Keeps (atMostRounds step greedy count) good := by
  intro position start stop present
  rw [Pattern.atMostRounds, List.mem_eraseDups, List.mem_map] at present
  obtain ⟨entry, reached, rfl⟩ := present
  exact keeps.countedRounds greedy start (by simp) entry reached

theorem Keeps.exactRounds
    (keeps : Keeps step good)
    {count : Nat}
    {positions : List Nat}
    (start : ∀ position ∈ positions, good position) :
    ∀ stop ∈ exactRounds step count positions, good stop := by
  induction count generalizing positions with
  | zero => exact start
  | succ count inductionHypothesis =>
      apply inductionHypothesis
      intro next present
      rw [List.mem_eraseDups, List.mem_flatMap] at present
      obtain ⟨position, known, reached⟩ := present
      exact keeps position (start position known) next reached

end Rounds

/-! ## Patterns -/

/-- A character that belongs to a set stands before the end. -/
theorem lt_size_of_memberAfter
    {text : Array Char}
    {members : CharSet}
    {position : Nat}
    (present : memberAfter text position members = true) :
    position < text.size := by
  apply Decidable.byContradiction
  intro beyond
  rw [memberAfter, Array.getElem?_eq_none (by omega)] at present
  exact absurd present (by simp)

/-- From a position within a text a pattern leads on to positions within it. -/
theorem keeps_ends (text : Array Char) (pattern : Pattern) (start : Nat) :
    Keeps (ends text pattern)
      fun position => start ≤ position ∧ position ≤ text.size := by
  induction pattern with
  | empty =>
      intro position within stop present
      rw [ends_empty, List.mem_singleton] at present
      exact present ▸ within
  | set members =>
      intro position within stop present
      rw [ends_set] at present
      split_ifs at present with matched
      · have before : position < text.size := lt_size_of_memberAfter matched
        rw [List.mem_singleton] at present
        omega
      · exact absurd present List.not_mem_nil
  | anchor condition =>
      intro position within stop present
      rw [ends_anchor] at present
      split_ifs at present
      · exact List.mem_singleton.mp present ▸ within
      · exact absurd present List.not_mem_nil
  | sequence first second keepsFirst keepsSecond =>
      intro position within stop present
      rw [ends, List.mem_eraseDups, List.mem_flatMap] at present
      obtain ⟨middle, reached, present⟩ := present
      exact keepsSecond middle (keepsFirst position within middle reached)
        stop present
  | choice first second keepsFirst keepsSecond =>
      intro position within stop present
      rw [ends, List.mem_eraseDups, List.mem_append] at present
      rcases present with present | present
      · exact keepsFirst position within stop present
      · exact keepsSecond position within stop present
  | repetition body least most greedy keepsBody =>
      intro position within stop present
      simp only [ends, List.mem_eraseDups, List.mem_flatMap] at present
      obtain ⟨middle, reached, present⟩ := present
      have here := keepsBody.exactRounds (by simpa using within) middle reached
      cases most with
      | none => exact keepsBody.anyRounds greedy _ middle here stop present
      | some most => exact keepsBody.atMostRounds greedy _ middle here stop present

/-- A match lies within the text that it is found in. -/
theorem within_of_find?_eq_some
    {pattern : Pattern}
    {text : List Char}
    {span : Span}
    (found : pattern.find? text = some span) :
    span.start ≤ span.stop ∧ span.stop ≤ text.length := by
  obtain ⟨start, listed, matched⟩ := List.exists_of_findSome?_eq_some found
  obtain ⟨stop, best, rfl⟩ := Option.map_eq_some_iff.mp matched
  rw [List.mem_range, List.size_toArray] at listed
  have within : start ≤ start ∧ start ≤ text.toArray.size := by
    rw [List.size_toArray]
    omega
  have ended :=
    keeps_ends text.toArray pattern start start within stop
      (List.mem_of_head? best)
  rwa [List.size_toArray] at ended

/-- A match is not longer than the text that it is found in. -/
theorem length_le_of_find?_eq_some
    {pattern : Pattern}
    {text : List Char}
    {span : Span}
    (found : pattern.find? text = some span) :
    span.length ≤ text.length :=
  Nat.le_trans (Nat.sub_le _ _) (within_of_find?_eq_some found).2

end Pattern
end RCompletion
