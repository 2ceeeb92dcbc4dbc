import RCompletion.Candidate.Basic

/-!
# Selecting candidates

Candidates are selected by the start of their label, by their category and by
their package, always in their order.
-/

namespace RCompletion
namespace Selection

/-- A candidate whose label has lost as many characters as a start has. -/
def stripped (start : String) (candidate : Candidate) : Candidate :=
  { candidate with label := Text.dropLength candidate.label start }

/-- Whether a label starts as asked for and does not contain the hidden text. -/
def qualifies
    (start : String)
    (hidden : Option String)
    (candidate : Candidate) : Bool :=
  Text.startsWith candidate.label start &&
    !hidden.any (Text.contains candidate.label)

/--
The candidates whose label starts with a text and does not contain the hidden
one, without that start if asked for.  The empty start selects nothing.
-/
def byStart
    (candidates : List Candidate)
    (start : String)
    (hidden : Option String)
    (strip : Bool) : List Candidate :=
  if start = "" then
    []
  else
    let selected := candidates.filter (qualifies start hidden)
    if strip then selected.map (stripped start) else selected

/-- The candidates of a category, or all of them if none is asked for. -/
def byCategory
    (candidates : List Candidate)
    (category : Option Category) : List Candidate :=
  match category with
  | none => candidates
  | some category => candidates.filter (·.category = category)

/-- Whether the package of a candidate contains one of the names. -/
def belongsTo (packages : List String) (candidate : Candidate) : Bool :=
  candidate.package.any fun package => packages.any (Text.contains package)

/--
The candidates whose package contains one of the names.  Without names, all
candidates are selected.
-/
def byPackages
    (candidates : List Candidate)
    (packages : Option (List String)) : List Candidate :=
  match packages with
  | none => candidates
  | some [] => candidates
  | some packages => candidates.filter (belongsTo packages)

@[simp]
theorem byStart_empty
    (candidates : List Candidate)
    (hidden : Option String)
    (strip : Bool) :
    byStart candidates "" hidden strip = [] := by
  simp [byStart]

@[simp]
theorem byCategory_none (candidates : List Candidate) :
    byCategory candidates none = candidates := rfl

@[simp]
theorem byPackages_none (candidates : List Candidate) :
    byPackages candidates none = candidates := rfl

@[simp]
theorem byPackages_nil (candidates : List Candidate) :
    byPackages candidates (some []) = candidates := rfl

/-! ## Arguments of a function -/

/-- The arguments of a function, as far as a list of candidates knows them. -/
inductive Arguments where
  /-- No candidate describes the arguments. -/
  | unknown
  /-- A candidate describes them. -/
  | known (arguments : List Candidate)
deriving Repr, BEq

/-- The number of arguments, where unknown ones count as one. -/
def Arguments.count : Arguments → Nat
  | unknown => 1
  | known arguments => arguments.length

/-- Whether a candidate describes the arguments. -/
def Arguments.isKnown : Arguments → Bool
  | unknown => false
  | known _ => true

/-- The arguments to offer, none if they are unknown. -/
def Arguments.candidates : Arguments → List Candidate
  | unknown => []
  | known arguments => arguments

/-- The arguments that a candidate describes, if its label is the function's name. -/
def describedArguments? (function : String) (candidate : Candidate) :
    Option (List Candidate) :=
  if candidate.label = function then candidate.arguments else none

/-- The arguments that the first candidate for a function describes. -/
def argumentsOf (candidates : List Candidate) (function : String) : Arguments :=
  match candidates.findSome? (describedArguments? function) with
  | some arguments => .known arguments
  | none => .unknown

end Selection
end RCompletion
