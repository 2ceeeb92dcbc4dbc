import RCompletion.Json.Skip
import RCompletion.Proofs.Json.Strings
import Mathlib.Data.List.Forall2

/-!
# The layout of arrays and objects

An array or an object encloses its parts, which are separated by commas, with
any blanks between them.  The part of an object is a name in quotation marks, a
colon and a value.
-/

namespace RCompletion
namespace Json

/-! ## Blanks -/

/-- All characters of a text may stand between the parts of a larger one. -/
def AllBlank (text : List Char) : Prop :=
  ∀ character ∈ text, isBlank character = true

theorem allBlank_nil : AllBlank [] := by
  intro character present
  exact absurd present List.not_mem_nil

theorem allBlank_space : AllBlank [' '] := by
  intro character present
  rw [List.mem_singleton.mp present]
  decide

/-- Blanks before a character that is none are dropped, and no more. -/
theorem dropBlanks_append_cons
    {blanks : List Char}
    {first : Char}
    (blank : AllBlank blanks)
    (visible : isBlank first = false)
    (rest : List Char) :
    dropBlanks (blanks ++ first :: rest) = first :: rest := by
  have stops : ¬isBlank first = true := by
    rw [visible]
    exact Bool.false_ne_true
  rw [dropBlanks, List.dropWhile_append_of_pos blank,
    List.dropWhile_cons_of_neg stops]

/-! ## Beginnings and ends -/

/-- The characters that stand after a value of an array or an object. -/
def separators : List Char := [',', ']', '\x7D']

/-- A value may end before a text: before its end, a blank or a separator. -/
def Stops (text : List Char) : Prop :=
  ∀ first ∈ text.head?, isBlank first = true ∨ first ∈ separators

theorem stops_nil : Stops [] := by
  intro first present
  cases present

theorem stops_append_cons
    {gap : List Char}
    {first : Char}
    (blank : AllBlank gap)
    (separates : first ∈ separators)
    (rest : List Char) :
    Stops (gap ++ first :: rest) := by
  intro start present
  cases gap with
  | nil =>
      cases present
      exact .inr separates
  | cons space gap =>
      cases present
      exact .inl (blank start List.mem_cons_self)

theorem AllBlank.stops
    {gap : List Char}
    (blank : AllBlank gap) :
    Stops gap := by
  intro first present
  exact .inl (blank first (List.mem_of_mem_head? present))

/-- A text begins with something else than a blank or a separator. -/
def Begins (text : List Char) : Prop :=
  ∃ first rest, text = first :: rest ∧ isBlank first = false ∧
    first ∉ separators

theorem begins_of_not_stops
    {first : Char}
    {rest : List Char}
    (goesOn : ¬Stops (first :: rest)) :
    Begins (first :: rest) := by
  refine ⟨first, rest, rfl, ?_, ?_⟩
  · rw [← Bool.not_eq_true]
    intro blank
    apply goesOn
    intro start present
    cases present
    exact .inl blank
  · intro separates
    exact goesOn (stops_append_cons allBlank_nil separates rest)

/-! ## Parts -/

/-- Parts that each follow a comma, up to the end of what encloses them. -/
inductive Followed : List (List Char) → List Char → Prop
  | nil
      {gap : List Char}
      (blank : AllBlank gap) :
      Followed [] gap
  | cons
      {gap before part text : List Char}
      {parts : List (List Char)}
      (gapBlank : AllBlank gap)
      (beforeBlank : AllBlank before)
      (others : Followed parts text) :
      Followed (part :: parts) (gap ++ ',' :: (before ++ (part ++ text)))

theorem Followed.stops
    {parts : List (List Char)}
    {text : List Char}
    (followed : Followed parts text)
    {closing : Char}
    (closes : closing ∈ separators)
    (rest : List Char) :
    Stops (text ++ closing :: rest) := by
  cases followed with
  | nil blank => exact stops_append_cons blank closes rest
  | cons gapBlank beforeBlank others =>
      rw [List.append_assoc, List.cons_append]
      exact stops_append_cons gapBlank List.mem_cons_self _

/-- Every part takes at least its comma. -/
theorem Followed.length_le
    {parts : List (List Char)}
    {text : List Char}
    (followed : Followed parts text) :
    parts.length ≤ text.length := by
  induction followed with
  | nil blank => exact Nat.zero_le _
  | cons gapBlank beforeBlank others inductionHypothesis =>
      simp only [List.length_cons, List.length_append]
      omega

/-- The character that opens a frame. -/
def Frame.opening : Frame → Char
  | array => '['
  | object => '\x7B'

theorem Frame.closing_mem_separators (frame : Frame) :
    frame.closing ∈ separators := by
  cases frame <;> decide

theorem Frame.isBlank_closing (frame : Frame) :
    isBlank frame.closing = false := by
  cases frame <;> decide

/-- The text of a frame with its parts. -/
inductive Frame.Encloses (frame : Frame) : List (List Char) → List Char → Prop
  | empty
      {gap : List Char}
      (blank : AllBlank gap) :
      frame.Encloses [] (frame.opening :: (gap ++ [frame.closing]))
  | filled
      {gap part text : List Char}
      {parts : List (List Char)}
      (blank : AllBlank gap)
      (others : Followed parts text) :
      frame.Encloses (part :: parts)
        (frame.opening :: (gap ++ (part ++ (text ++ [frame.closing]))))

/-! ## Members -/

/-- The text of a member, given what stands between the quotation marks of its
name and the text of its value. -/
def IsMember (body value text : List Char) : Prop :=
  ∃ before after, AllBlank before ∧ AllBlank after ∧
    text = '"' :: (body ++ '"' :: (before ++ ':' :: (after ++ value)))

theorem IsMember.begins
    {body value text : List Char}
    (isMember : IsMember body value text) :
    Begins text := by
  obtain ⟨before, after, -, -, rfl⟩ := isMember
  exact ⟨'"', _, rfl, by decide, by decide⟩

theorem IsMember.length_le
    {body value text : List Char}
    (isMember : IsMember body value text) :
    value.length ≤ text.length := by
  obtain ⟨before, after, -, -, rfl⟩ := isMember
  simp only [List.length_cons, List.length_append]
  omega

/-- The text of a member with a name, in any spelling, and the text of a value. -/
def IsNamedMember (member : String × List Char) (text : List Char) : Prop :=
  ∃ body, Spells body member.1.toList ∧ IsMember body member.2 text

/-- The text of an object with members. -/
def IsObject (members : List (String × List Char)) (text : List Char) : Prop :=
  ∃ parts, List.Forall₂ IsNamedMember members parts ∧
    Frame.object.Encloses parts text

theorem readColon_append
    {before : List Char}
    (blank : AllBlank before)
    (rest : List Char) :
    readColon (before ++ ':' :: rest) = .ok rest := by
  have colon : isBlank ':' = false := by decide
  simp only [readColon, dropBlanks_append_cons blank colon]

/-- The name of a member is read, which leaves its value after blanks. -/
theorem IsNamedMember.exists_cons
    {member : String × List Char}
    {part : List Char}
    (isMember : IsNamedMember member part) :
    ∃ start after, part = '"' :: start ∧ AllBlank after ∧ ∀ rest, ∃ colon,
      readStringBody (start ++ rest) = .ok (member.1, colon) ∧
        readColon colon = .ok (after ++ (member.2 ++ rest)) := by
  obtain ⟨body, spells, before, after, beforeBlank, afterBlank, rfl⟩ := isMember
  refine ⟨_, after, rfl, afterBlank, fun rest => ⟨_, ?_,
    readColon_append beforeBlank _⟩⟩
  simp only [List.append_assoc, List.cons_append, spells.readStringBody_append]

end Json
end RCompletion
