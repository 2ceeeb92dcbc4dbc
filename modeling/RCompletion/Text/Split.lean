/-!
# Splitting and joining

A text is cut into fields at every occurrence of a separator character, and
into lines at its newlines.  A text without the separator is one field, and a
text always has at least one field; it may have no line.
-/

namespace RCompletion
namespace Text

/-! ## Fields -/

/-- The pieces of a list between the occurrences of a separator. -/
def splitAt [DecidableEq α] (separator : α) : List α → List (List α)
  | [] => [[]]
  | element :: rest =>
      if element = separator then
        [] :: splitAt separator rest
      else
        match splitAt separator rest with
        | [] => [[element]]
        | piece :: pieces => (element :: piece) :: pieces

/-- The fields of a text, cut at every occurrence of a separator. -/
def fields (separator : Char) (text : String) : List String :=
  (splitAt separator text.toList).map String.ofList

/-- The pieces of a list put together with a separator between them. -/
def joinWith (separator : List α) : List (List α) → List α
  | [] => []
  | [piece] => piece
  | piece :: next :: pieces =>
      piece ++ separator ++ joinWith separator (next :: pieces)

/-- Texts put together with a separator between them. -/
def join (separator : String) (texts : List String) : String :=
  String.ofList (joinWith separator.toList (texts.map String.toList))

@[simp]
theorem splitAt_nil [DecidableEq α] (separator : α) :
    splitAt separator [] = [[]] := rfl

/-- A separator closes a piece. -/
theorem splitAt_separator [DecidableEq α] (separator : α) (rest : List α) :
    splitAt separator (separator :: rest) = [] :: splitAt separator rest := by
  simp [splitAt]

/-- There is always at least one piece. -/
theorem splitAt_ne_nil [DecidableEq α] (separator : α) (elements : List α) :
    splitAt separator elements ≠ [] := by
  cases elements with
  | nil => simp
  | cons element rest =>
      rw [splitAt]
      split
      · simp
      · split <;> simp

/-- A list without the separator is one piece. -/
theorem splitAt_of_not_mem [DecidableEq α]
    {separator : α}
    {elements : List α}
    (absent : separator ∉ elements) :
    splitAt separator elements = [elements] := by
  induction elements with
  | nil => rfl
  | cons element rest inductionHypothesis =>
      simp only [List.mem_cons, not_or] at absent
      rw [splitAt, if_neg (fun equal => absent.1 equal.symm),
        inductionHypothesis absent.2]

/-- The first piece ends at the first separator. -/
theorem splitAt_append_separator [DecidableEq α]
    {separator : α}
    {elements : List α}
    (absent : separator ∉ elements)
    (rest : List α) :
    splitAt separator (elements ++ separator :: rest) =
      elements :: splitAt separator rest := by
  induction elements with
  | nil => simp [splitAt_separator]
  | cons element elements inductionHypothesis =>
      simp only [List.mem_cons, not_or] at absent
      rw [List.cons_append, splitAt, if_neg (fun equal => absent.1 equal.symm),
        inductionHypothesis absent.2]

/-! ## Lines -/

/-- A line without the carriage return at its end, if it has one. -/
def dropReturn (line : List Char) : List Char :=
  match line.reverse with
  | '\r' :: rest => rest.reverse
  | _ => line

/--
The lines of a list of characters: the pieces between its newlines, each
without a carriage return at its end when a newline follows, and without the
empty piece after a last newline.
-/
def lineList : List (List Char) → List (List Char)
  | [] => []
  | [last] => if last.isEmpty then [] else [last]
  | line :: next :: pieces => dropReturn line :: lineList (next :: pieces)

/-- The lines of a text. -/
def lines (text : String) : List String :=
  (lineList (splitAt '\n' text.toList)).map String.ofList

/-! ## Occurrences -/

/-- Whether a list occurs in another as a run of neighbours. -/
def occursIn [DecidableEq α] (needle : List α) : List α → Bool
  | [] => needle.isEmpty
  | element :: rest =>
      needle.isPrefixOf (element :: rest) || occursIn needle rest

/-- Whether a text contains another one. -/
def contains (text needle : String) : Bool :=
  occursIn needle.toList text.toList

/-- Whether a text starts with another one. -/
def startsWith (text start : String) : Bool :=
  start.toList.isPrefixOf text.toList

/-- A text without as many characters as another one has. -/
def dropLength (text start : String) : String :=
  String.ofList (text.toList.drop start.length)

/-- A text occurs in another exactly when it is an infix of it. -/
theorem occursIn_iff [DecidableEq α] (needle elements : List α) :
    occursIn needle elements = true ↔ needle <:+: elements := by
  induction elements with
  | nil => simp [occursIn]
  | cons element rest inductionHypothesis =>
      rw [occursIn, Bool.or_eq_true, inductionHypothesis,
        List.isPrefixOf_iff_prefix, List.infix_cons_iff]

end Text
end RCompletion
