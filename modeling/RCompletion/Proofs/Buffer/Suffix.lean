import RCompletion.Buffer.Typed
import Mathlib.Data.List.TakeWhile

/-!
# Longest suffixes

The longest suffix of a list whose elements all pass a test, told by its
length: what is left of the list after dropping a number of elements passes
exactly when it is no longer than that suffix.  This makes it the only one that
no other suffix that passes is longer than.
-/

namespace RCompletion
namespace Buffer

variable {α : Type}

/-- The longest suffix that passes is not longer than the list. -/
theorem length_suffixWhile_le (test : α → Bool) (elements : List α) :
    (suffixWhile test elements).length ≤ elements.length := by
  have ending : suffixWhile test elements <:+ elements :=
    ⟨_, dropWhile_reverse_append_suffixWhile test elements⟩
  exact ending.length_le

/-- What the longest suffix that passes is made of passes. -/
theorem passes_of_mem_suffixWhile
    {test : α → Bool}
    {elements : List α}
    {element : α}
    (present : element ∈ suffixWhile test elements) :
    test element = true := by
  rw [suffixWhile, List.mem_reverse] at present
  exact List.mem_takeWhile_imp present

/-- Where dropping elements that pass stops, an element does not pass. -/
theorem fails_of_head?_dropWhile
    {test : α → Bool}
    {elements : List α}
    {element : α}
    (stopped : (elements.dropWhile test).head? = some element) :
    element ∈ elements ∧ test element = false := by
  constructor
  · exact (List.dropWhile_sublist test).mem (List.mem_of_head? stopped)
  · have fails := List.head?_dropWhile_not test elements
    rw [stopped] at fails
    exact fails

/-- The first elements of a list pass up to the first one that does not. -/
theorem all_take_iff (test : α → Bool) (elements : List α) (count : Nat) :
    (elements.take count).all test = true ↔
      min count elements.length ≤ (elements.takeWhile test).length := by
  induction elements generalizing count with
  | nil => simp
  | cons element elements inductionHypothesis =>
      cases count with
      | zero => simp
      | succ count =>
          have later := inductionHypothesis count
          by_cases passes : test element = true
          · rw [List.take_succ_cons, List.all_cons, passes, Bool.true_and,
              later, List.takeWhile_cons_of_pos passes]
            simp only [List.length_cons]
            omega
          · rw [List.take_succ_cons, List.all_cons,
              List.takeWhile_cons_of_neg passes]
            simp [passes]

/-- A rest of a list passes exactly when the longest suffix is at least as long. -/
theorem all_drop_iff (test : α → Bool) (elements : List α) (start : Nat) :
    (elements.drop start).all test = true ↔
      elements.length ≤ start + (suffixWhile test elements).length := by
  have reversed :
      (elements.drop start).reverse =
        elements.reverse.take (elements.length - start) := by
    rw [List.take_reverse]
    rcases Nat.le_total start elements.length with within | beyond
    · rw [Nat.sub_sub_self within]
    · rw [List.drop_eq_nil_of_le beyond, List.drop_eq_nil_of_le (by omega)]
  rw [← List.all_reverse, reversed, all_take_iff, suffixWhile,
    List.length_reverse, List.length_reverse]
  omega

/-- A suffix passes, and no other one that does is longer. -/
structure IsLongestSuffix (test : α → Bool) (elements suffix : List α) : Prop where
  /-- It is a suffix. -/
  ending : suffix <:+ elements
  /-- All its elements pass. -/
  passes : ∀ element ∈ suffix, test element = true
  /-- Other suffixes that pass are not longer. -/
  longest : ∀ other, other <:+ elements →
    (∀ element ∈ other, test element = true) → other.length ≤ suffix.length

theorem isLongestSuffix_suffixWhile (test : α → Bool) (elements : List α) :
    IsLongestSuffix test elements (suffixWhile test elements) where
  ending := ⟨_, dropWhile_reverse_append_suffixWhile test elements⟩
  passes _ present := passes_of_mem_suffixWhile present
  longest := by
    intro other ending passes
    have rest : other = elements.drop (elements.length - other.length) :=
      List.suffix_iff_eq_drop.mp ending
    have all : other.all test = true := List.all_eq_true.mpr passes
    rw [rest, all_drop_iff] at all
    have shorter := ending.length_le
    omega

/-- Two longest suffixes of a list are the same. -/
theorem isLongestSuffix_iff {test : α → Bool} {elements suffix : List α} :
    IsLongestSuffix test elements suffix ↔
      suffix = suffixWhile test elements := by
  constructor
  · intro isLongest
    have other := isLongestSuffix_suffixWhile test elements
    have shorter := other.longest suffix isLongest.ending isLongest.passes
    have longer := isLongest.longest _ other.ending other.passes
    apply List.IsSuffix.eq_of_length
    · exact List.suffix_of_suffix_length_le isLongest.ending other.ending
        shorter
    · omega
  · rintro rfl
    exact isLongestSuffix_suffixWhile test elements

/-- The longest suffix that passes is what is left where it starts. -/
theorem drop_eq_suffixWhile (test : α → Bool) (elements : List α) :
    elements.drop (elements.length - (suffixWhile test elements).length) =
      suffixWhile test elements := by
  have isLongest := isLongestSuffix_suffixWhile test elements
  exact (List.suffix_iff_eq_drop.mp isLongest.ending).symm

/-- No suffix passes if the last element does not. -/
theorem suffixWhile_eq_nil_iff (test : α → Bool) (elements : List α) :
    suffixWhile test elements = [] ↔
      ∀ element ∈ elements.getLast?, test element = false := by
  rw [suffixWhile, List.reverse_eq_nil_iff, ← List.head?_reverse]
  cases elements.reverse with
  | nil => simp
  | cons last others =>
      by_cases passes : test last = true
      · simp [List.takeWhile_cons_of_pos passes, passes]
      · simp [List.takeWhile_cons_of_neg passes, passes]

/-- Elements that pass are added to the longest suffix that passes. -/
theorem suffixWhile_append_of_passes
    {test : α → Bool}
    {further : List α}
    (passes : ∀ element ∈ further, test element = true)
    (elements : List α) :
    suffixWhile test (elements ++ further) =
      suffixWhile test elements ++ further := by
  have reversed : ∀ element ∈ further.reverse, test element = true := by
    intro element present
    exact passes element (List.mem_reverse.mp present)
  rw [suffixWhile, List.reverse_append, List.takeWhile_append_of_pos reversed,
    List.reverse_append, List.reverse_reverse, suffixWhile]

/-- The suffix that passes a stronger test lies within the one for a weaker test. -/
theorem suffixWhile_suffixWhile
    {strong weak : α → Bool}
    (implies : ∀ element, strong element = true → weak element = true)
    (elements : List α) :
    suffixWhile strong (suffixWhile weak elements) =
      suffixWhile strong elements := by
  unfold suffixWhile
  rw [List.reverse_reverse, List.takeWhile_takeWhile]
  congr 2
  funext element
  rw [Bool.eq_iff_iff, decide_eq_true_iff]
  exact and_iff_left_of_imp (implies element)

end Buffer
end RCompletion
