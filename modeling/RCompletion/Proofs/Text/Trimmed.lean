import RCompletion.Text.Blank
import Mathlib.Data.List.TakeWhile

/-!
# Texts between blanks

Trimming a text drops the blanks on both sides of it, however many there are,
and a text that was trimmed has none left to drop.
-/

namespace RCompletion
namespace Text

/-- Characters that are all blanks. -/
def AllBlank (characters : List Char) : Prop :=
  ∀ character ∈ characters, isBlank character = true

instance (characters : List Char) : Decidable (AllBlank characters) :=
  List.decidableBAll _ characters

/-! ## Blanks at one end -/

/-- A text that does not start with a blank has none to lose at its start. -/
theorem dropBlanks_of_head?
    {characters : List Char}
    (visible : ∀ character ∈ characters.head?, isBlank character = false) :
    dropBlanks characters = characters := by
  cases characters with
  | nil => rfl
  | cons character rest =>
      exact dropBlanks_cons_of_not_blank (visible character rfl) rest

/-- Blanks are dropped from the end as far as the last character that is none. -/
theorem dropBlanksEnd_append_cons
    {character : Char}
    (visible : isBlank character = false)
    (before after : List Char) :
    dropBlanksEnd (before ++ character :: after) =
      before ++ character :: dropBlanksEnd after := by
  have reversed :
      (before ++ character :: after).reverse =
        after.reverse ++ character :: before.reverse := by simp
  rw [dropBlanksEnd, reversed, dropBlanks, List.dropWhile_append]
  cases rest : after.reverse.dropWhile isBlank with
  | nil => simp [dropBlanksEnd, dropBlanks, rest, visible]
  | cons last others => simp [dropBlanksEnd, dropBlanks, rest]

/-- What is left without the blanks at the end was there before. -/
theorem mem_of_mem_dropBlanksEnd
    {character : Char}
    {characters : List Char}
    (present : character ∈ dropBlanksEnd characters) :
    character ∈ characters := by
  rw [dropBlanksEnd, List.mem_reverse] at present
  exact List.mem_reverse.mp ((List.dropWhile_sublist _).mem present)

theorem dropBlanks_append
    {before : List Char}
    (blank : AllBlank before)
    (characters : List Char) :
    dropBlanks (before ++ characters) = dropBlanks characters :=
  List.dropWhile_append_of_pos blank

theorem dropBlanksEnd_append
    {after : List Char}
    (blank : AllBlank after)
    (characters : List Char) :
    dropBlanksEnd (characters ++ after) = dropBlanksEnd characters := by
  have blankBackwards : AllBlank after.reverse :=
    fun character present => blank character (List.mem_reverse.mp present)
  rw [dropBlanksEnd, List.reverse_append, dropBlanks_append blankBackwards,
    dropBlanksEnd]

/-- Blanks at the end stay there when those at the start are dropped. -/
theorem exists_dropBlanks_append
    {after : List Char}
    (blank : AllBlank after)
    (characters : List Char) :
    ∃ others, AllBlank others ∧
      dropBlanks (characters ++ after) = dropBlanks characters ++ others := by
  rw [dropBlanks, List.dropWhile_append]
  split
  case isTrue nothing =>
    refine ⟨[], by decide, ?_⟩
    rw [dropBlanks, List.isEmpty_iff.mp nothing, List.append_nil,
      List.dropWhile_eq_nil_iff]
    exact blank
  case isFalse => exact ⟨after, blank, rfl⟩

/-! ## Blanks on both sides -/

/-- Blanks around characters make no difference to what is left of them. -/
theorem trimmed_between
    {before after : List Char}
    (blankBefore : AllBlank before)
    (blankAfter : AllBlank after)
    (characters : List Char) :
    trimmed (before ++ characters ++ after) = trimmed characters := by
  obtain ⟨others, blank, parts⟩ :=
    exists_dropBlanks_append blankAfter characters
  rw [trimmed, List.append_assoc, dropBlanks_append blankBefore, parts,
    dropBlanksEnd_append blank, trimmed]

/-- Nothing is left of blanks. -/
theorem trimmed_of_allBlank
    {characters : List Char}
    (blank : AllBlank characters) :
    trimmed characters = [] := by
  have between := trimmed_between blank (fun _ nothing => absurd nothing
    List.not_mem_nil) []
  rwa [List.append_nil, List.append_nil, trimmed_nil] at between

/-- Characters are what is left of them between blanks. -/
theorem exists_trimmed_between (characters : List Char) :
    ∃ before after, AllBlank before ∧ AllBlank after ∧
      characters = before ++ trimmed characters ++ after := by
  let start := characters.takeWhile isBlank
  let stop := (dropBlanks characters).reverse.takeWhile isBlank
  have parts : dropBlanks characters = trimmed characters ++ stop.reverse := by
    rw [trimmed, dropBlanksEnd, ← List.reverse_append]
    exact List.reverse_eq_iff.mp List.takeWhile_append_dropWhile.symm
  refine ⟨start, stop.reverse, ?blankBefore, ?blankAfter, ?whole⟩
  case blankBefore =>
    exact fun character => List.mem_takeWhile_imp
  case blankAfter =>
    intro character present
    exact List.mem_takeWhile_imp (List.mem_reverse.mp present)
  case whole =>
    rw [List.append_assoc, ← parts]
    exact List.takeWhile_append_dropWhile.symm

/-- A text that was trimmed has no blanks to lose. -/
theorem trimmed_trimmed (characters : List Char) :
    trimmed (trimmed characters) = trimmed characters := by
  obtain ⟨before, after, blankBefore, blankAfter, parts⟩ :=
    exists_trimmed_between characters
  calc
    trimmed (trimmed characters) =
        trimmed (before ++ trimmed characters ++ after) :=
      (trimmed_between blankBefore blankAfter _).symm
    _ = trimmed characters := by rw [← parts]

@[simp]
theorem trim_trim (text : String) : trim (trim text) = trim text := by
  rw [← String.toList_inj, toList_trim, toList_trim, trimmed_trimmed]

end Text
end RCompletion
