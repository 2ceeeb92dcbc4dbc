import RCompletion.Candidate.Category
import RCompletion.Text.Blank
import RCompletion.Text.Split

/-!
# Candidates

A candidate is one suggestion of the completion menu: the word that is inserted
and matched against, the columns that the menu shows, and a template that can
be inserted in place of the word.
-/

namespace RCompletion

/-- One suggestion of the completion menu. -/
structure Candidate where
  /-- The word that is inserted and matched against. -/
  label : String
  /-- The kind of symbol. -/
  category : Category
  /-- The package that the symbol was found in, if it is known. -/
  package : Option String
  /-- The summary that the menu shows next to the label. -/
  menu : String
  /-- A template with numbered places to fill in. -/
  snippet : Option String
  /-- The arguments of a function, offered inside its calls. -/
  arguments : Option (List Candidate)
deriving Repr, BEq, Inhabited

/-- The width of the left column of the menu. -/
def menuWidth : Nat := 10

/-- A text cut or filled with spaces to the width of the menu column. -/
def menuColumn (text : String) : String :=
  let shown := text.toList.take menuWidth
  String.ofList (shown ++ List.replicate (menuWidth - shown.length) ' ')

/-- The menu column is as wide as it should be. -/
theorem length_menuColumn (text : String) :
    (menuColumn text).length = menuWidth := by
  simp only [menuColumn, String.length_ofList, List.length_append,
    List.length_take, List.length_replicate]
  omega

namespace Candidate

/-- A candidate that shows its category and has nothing else. -/
def plain (label : String) (category : Category) : Candidate where
  label := label
  category := category
  package := none
  menu := menuColumn category.tag
  snippet := none
  arguments := none

/-! ## Arguments -/

/-- The name and the default value of an argument. -/
structure ArgumentToken where
  /-- The name of the argument. -/
  name : String
  /-- The default value, empty if there is none. -/
  value : String
deriving Repr, DecidableEq

/--
The name and the default value of a token `name` or `name = value`.  A token
with more than one equals sign has no default value.
-/
def ArgumentToken.ofText (token : String) : ArgumentToken :=
  match (Text.fields '=' token).map Text.trim with
  | [name, value] => ⟨name, value⟩
  | name :: _ => ⟨name, ""⟩
  | [] => ⟨"", ""⟩

/-- The candidate of an argument. -/
def argument (token : String) : Candidate :=
  let parts := ArgumentToken.ofText token
  if parts.value = "" then
    { plain parts.name .argument with
      menu := menuColumn "param"
      snippet := some (parts.name ++ " = $1") }
  else
    { plain parts.name .argument with
      menu := menuColumn "param" ++ " = " ++ parts.value
      snippet := some
        (parts.name ++ " = $\x7B1:" ++ parts.value ++ "\x7D") }

@[simp]
theorem label_plain (label : String) (category : Category) :
    (plain label category).label = label := rfl

@[simp]
theorem category_plain (label : String) (category : Category) :
    (plain label category).category = category := rfl

@[simp]
theorem menu_plain (label : String) (category : Category) :
    (plain label category).menu = menuColumn category.tag := rfl

@[simp]
theorem category_argument (token : String) :
    (argument token).category = .argument := by
  simp only [argument]
  split <;> rfl

@[simp]
theorem label_argument (token : String) :
    (argument token).label = (ArgumentToken.ofText token).name := by
  simp only [argument]
  split <;> rfl

@[simp]
theorem arguments_argument (token : String) :
    (argument token).arguments = none := by
  simp only [argument]
  split <;> rfl

@[simp]
theorem package_argument (token : String) :
    (argument token).package = none := by
  simp only [argument]
  split <;> rfl

/-- The menu line of an argument is a fixed column and its default value. -/
theorem menu_argument (token : String) :
    let parts := ArgumentToken.ofText token
    (argument token).menu = menuColumn "param" ++
      if parts.value = "" then "" else " = " ++ parts.value := by
  simp only [argument]
  split
  · simp
  · simp only [String.append_assoc]

/-- The template of an argument is its name with a place for its value. -/
theorem snippet_argument (token : String) :
    let parts := ArgumentToken.ofText token
    (argument token).snippet = some (parts.name ++
      if parts.value = "" then " = $1"
      else " = $\x7B1:" ++ parts.value ++ "\x7D") := by
  simp only [argument]
  split
  · rfl
  · simp only [String.append_assoc]

end Candidate
end RCompletion
