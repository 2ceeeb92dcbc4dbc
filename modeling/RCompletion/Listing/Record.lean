import RCompletion.Candidate.Basic
import RCompletion.Listing.CallTemplate

/-!
# Records of a listing

A listing has one record a line.  Its fields are the word, its kind, a field
without use, the package, and further information, which for a function begins
with its arguments.  Main definitions: `Record.ofLine` reads a record,
`Record.line` writes it, and `Record.candidate?` turns it into a candidate.
-/

namespace RCompletion
namespace Listing

/-- The character between the fields of a record. -/
def fieldSeparator : Char := '\x06'

/-- The character after the arguments of a function. -/
def informationSeparator : Char := '\x08'

/-- The character between the arguments of a function. -/
def argumentSeparator : Char := '\t'

/-- The character between an argument and its default value. -/
def defaultSeparator : Char := '\x07'

/-! ## Records -/

/-- One record of a listing. -/
structure Record where
  /-- The symbol. -/
  word : String
  /-- The tag of its category. -/
  kind : String
  /-- The package that it belongs to, empty if there is none. -/
  package : String
  /-- Further information. -/
  information : String
deriving Repr, DecidableEq

/-- The record of a line, where missing fields at the end count as empty. -/
def Record.ofLine (line : String) : Record :=
  let fields := Text.fields fieldSeparator (Text.trim line)
  { word := fields[0]?.getD ""
    kind := fields[1]?.getD ""
    package := fields[3]?.getD ""
    information := fields[4]?.getD "" }

/-- The line of a record. -/
def Record.line (record : Record) : String :=
  Text.join (String.singleton fieldSeparator)
    [record.word, record.kind, "", record.package, record.information]

/-! ## Arguments of a function -/

/-- An argument as a listing writes it, with ` = ` before its default value. -/
def shownArgument (written : String) : String :=
  String.ofList (written.toList.flatMap fun character =>
    if character = defaultSeparator then " = ".toList else [character])

/-- The arguments that the information of a function begins with. -/
def functionArguments (information : String) : List String :=
  let written := (Text.fields informationSeparator information).headD ""
  ((Text.fields argumentSeparator written).filter (· ≠ "")).map shownArgument

/-- Characters with ` = ` written as the separator of default values. -/
def writtenCharacters : List Char → List Char
  | ' ' :: '=' :: ' ' :: rest => defaultSeparator :: writtenCharacters rest
  | character :: rest => character :: writtenCharacters rest
  | [] => []

/-- An argument in the form that a listing writes. -/
def writtenArgument (shown : String) : String :=
  String.ofList (writtenCharacters shown.toList)

/-! ## Candidates of records -/

/-- The arguments that are offered inside the calls of a function. -/
def offeredArguments (tokens : List String) : List Candidate :=
  (tokens.filter fun token => token ≠ noArguments ∧ token ≠ dots).map
    Candidate.argument

/-- The arguments of a function as its menu line shows them. -/
def signature (tokens : List String) : String :=
  if tokens.head? = some noArguments then "" else Text.join ", " tokens

/-- The candidate of a function with the given arguments. -/
def functionCandidate
    (word package : String)
    (tokens : List String) : Candidate :=
  let candidate :=
    { Candidate.plain word .function with
      package := if package = "" then none else some package }
  if tokens.isEmpty then
    { candidate with snippet := some (word ++ "($1)") }
  else
    { candidate with
      menu :=
        menuColumn ("\x7B" ++ package ++ "\x7D") ++ " " ++ word ++ "(" ++
          signature tokens ++ ")"
      snippet := some (callTemplate word tokens)
      arguments := some (offeredArguments tokens) }

@[simp]
theorem label_functionCandidate
    (word package : String)
    (tokens : List String) :
    (functionCandidate word package tokens).label = word := by
  simp only [functionCandidate]
  split <;> rfl

@[simp]
theorem category_functionCandidate
    (word package : String)
    (tokens : List String) :
    (functionCandidate word package tokens).category = .function := by
  simp only [functionCandidate]
  split <;> rfl

theorem menu_functionCandidate
    (word package : String)
    (tokens : List String) :
    (functionCandidate word package tokens).menu =
      if tokens.isEmpty then
        menuColumn "function"
      else
        menuColumn ("\x7B" ++ package ++ "\x7D") ++ " " ++ word ++ "(" ++
          signature tokens ++ ")" := by
  simp only [functionCandidate]
  split <;> rfl

theorem snippet_functionCandidate
    (word package : String)
    (tokens : List String) :
    (functionCandidate word package tokens).snippet =
      some (if tokens.isEmpty then word ++ "($1)"
        else callTemplate word tokens) := by
  simp only [functionCandidate]
  split <;> rfl

theorem arguments_functionCandidate
    (word package : String)
    (tokens : List String) :
    (functionCandidate word package tokens).arguments =
      if tokens.isEmpty then none else some (offeredArguments tokens) := by
  simp only [functionCandidate]
  split <;> rfl

/-- The template of a candidate that is neither function nor argument. -/
def objectSnippet (word : String) (category : Category) : Option String :=
  if category = .package then
    some (word ++ "::$1")
  else if category.isDataFrame then
    some (word ++ "$$1")
  else
    none

/-- The candidate of a record, unless it has neither a word nor a kind. -/
def Record.candidate? (record : Record) : Option Candidate :=
  if record.word = "" ∧ record.kind = "" then
    none
  else
    match Category.ofTag record.kind with
    | .argument => some (Candidate.argument record.word)
    | .function =>
        some (functionCandidate record.word record.package
          (functionArguments record.information))
    | category =>
        some { Candidate.plain record.word category with
          package := if record.package = "" then none else some record.package
          snippet := objectSnippet record.word category }

/-- The candidate of a line, unless it describes no symbol. -/
def candidate? (line : String) : Option Candidate :=
  (Record.ofLine line).candidate?

/-- The candidates of the lines that describe a symbol. -/
def candidates (lines : List String) : List Candidate :=
  lines.filterMap candidate?

/-- The candidate of an installed package. -/
def packageCandidate? (name : String) : Option Candidate :=
  (Record.mk name "package" "" "").candidate?

/-! ## Written records -/

/-- The record of an object. -/
def objectRecord (word kind package : String) : Record :=
  ⟨word, kind, package, ""⟩

/-- The record of a function, whose arguments are `name` or `name = value`. -/
def functionRecord (name package : String) (tokens : List String) : Record where
  word := name
  kind := "function"
  package := package
  information :=
    Text.join (String.singleton argumentSeparator)
        (tokens.map writtenArgument) ++
      String.singleton informationSeparator ++ "Description of " ++ name

/-- Listing an installed package gives a candidate for every name. -/
theorem packageCandidate?_eq (name : String) :
    packageCandidate? name =
      some { Candidate.plain name .package with
        snippet := some (name ++ "::$1") } := by
  simp [packageCandidate?, Record.candidate?, Category.ofTag, objectSnippet,
    Candidate.plain]

end Listing
end RCompletion
