import RCompletion.Listing.Record
import RCompletion.Proofs.Text.Fields
import RCompletion.Proofs.Text.Trimmed

/-!
# Written records

A record is written as a line and read back from it.  The separators within a
line are nested: fields in a record, a description after the arguments, the
arguments themselves, and in an argument its default value.  As long as no part
contains the separators of the levels around it, all of them are found again.
-/

namespace RCompletion
namespace Listing

/-! ## Default values -/

theorem not_mem_writtenCharacters
    {separator : Char}
    (other : separator ≠ defaultSeparator)
    {characters : List Char}
    (absent : separator ∉ characters) :
    separator ∉ writtenCharacters characters := by
  induction characters using writtenCharacters.induct with
  | case1 rest inductionHypothesis =>
      simp only [List.mem_cons, not_or] at absent
      rw [writtenCharacters, List.mem_cons, not_or]
      exact ⟨other, inductionHypothesis absent.2.2.2⟩
  | case2 character rest plain inductionHypothesis =>
      simp only [List.mem_cons, not_or] at absent
      rw [writtenCharacters, List.mem_cons, not_or]
      · exact ⟨absent.1, inductionHypothesis absent.2⟩
      · exact plain
  | case3 => exact List.not_mem_nil

theorem toList_writtenArgument (shown : String) :
    (writtenArgument shown).toList = writtenCharacters shown.toList :=
  String.toList_ofList

/-- A default value is shown again as it was before it was written. -/
theorem shownArgument_writtenArgument
    {shown : String}
    (absent : defaultSeparator ∉ shown.toList) :
    shownArgument (writtenArgument shown) = shown := by
  have shownCharacters : ∀ characters : List Char,
      defaultSeparator ∉ characters →
        (writtenCharacters characters).flatMap (fun character =>
            if character = defaultSeparator then " = ".toList
            else [character]) = characters := by
    intro characters
    induction characters using writtenCharacters.induct with
    | case1 rest inductionHypothesis =>
        intro absent
        simp only [List.mem_cons, not_or] at absent
        rw [writtenCharacters, List.flatMap_cons,
          inductionHypothesis absent.2.2.2, if_pos rfl]
        rfl
    | case2 character rest plain inductionHypothesis =>
        intro absent
        simp only [List.mem_cons, not_or] at absent
        rw [writtenCharacters, List.flatMap_cons,
          inductionHypothesis absent.2, if_neg (Ne.symm absent.1)]
        · rfl
        · exact plain
    | case3 =>
        intro _
        rfl
  rw [shownArgument, toList_writtenArgument,
    shownCharacters shown.toList absent, String.ofList_toList]

theorem writtenCharacters_eq_nil_iff (characters : List Char) :
    writtenCharacters characters = [] ↔ characters = [] := by
  cases characters using writtenCharacters.fun_cases with
  | case1 rest => simp [writtenCharacters]
  | case2 character rest plain =>
      rw [writtenCharacters]
      · simp
      · exact plain
  | case3 => simp [writtenCharacters]

theorem writtenArgument_ne_empty {shown : String} (filled : shown ≠ "") :
    writtenArgument shown ≠ "" := by
  rw [Ne, ← String.toList_eq_nil_iff, toList_writtenArgument,
    writtenCharacters_eq_nil_iff, String.toList_eq_nil_iff]
  exact filled

/-! ## Arguments -/

/-- The separators in a line, from the outermost to the innermost. -/
def separators : List Char :=
  [fieldSeparator, informationSeparator, argumentSeparator, defaultSeparator]

/-- An argument that a listing can hold. -/
structure IsToken (token : String) : Prop where
  /-- An empty argument is none. -/
  filled : token ≠ ""
  /-- No separator stands in it. -/
  absent : ∀ separator ∈ separators, separator ∉ token.toList

instance (token : String) : Decidable (IsToken token) :=
  -- only the separators are tried, not all characters
  have : Decidable (∀ separator ∈ separators, separator ∉ token.toList) :=
    List.decidableBAll _ separators
  decidable_of_iff
    (token ≠ "" ∧ ∀ separator ∈ separators, separator ∉ token.toList)
    ⟨fun ⟨filled, absent⟩ => ⟨filled, absent⟩,
      fun proper => ⟨proper.filled, proper.absent⟩⟩

/-- No separator gets into an argument with the one of its default value. -/
theorem not_mem_written
    {tokens : List String}
    (proper : ∀ token ∈ tokens, IsToken token)
    {separator : Char}
    (known : separator ∈ separators)
    (other : separator ≠ defaultSeparator) :
    ∀ text ∈ tokens.map writtenArgument, separator ∉ text.toList := by
  intro text present
  obtain ⟨token, listed, rfl⟩ := List.mem_map.mp present
  rw [toList_writtenArgument]
  exact not_mem_writtenCharacters other
    ((proper token listed).absent separator known)

/-- Arguments are read up to the description that follows them. -/
theorem functionArguments_written
    {tokens : List String}
    (proper : ∀ token ∈ tokens, IsToken token)
    {information : String}
    {description : List Char}
    (parts :
      information.toList =
        (Text.join (String.singleton argumentSeparator)
            (tokens.map writtenArgument)).toList ++
          informationSeparator :: description) :
    functionArguments information = tokens := by
  have filled : ∀ text ∈ tokens.map writtenArgument, text ≠ "" := by
    intro text present
    obtain ⟨token, listed, rfl⟩ := List.mem_map.mp present
    exact writtenArgument_ne_empty (proper token listed).filled
  have apart : ∀ text ∈ tokens.map writtenArgument,
      argumentSeparator ∉ text.toList :=
    not_mem_written proper (by decide) (by decide)
  have undescribed :
      informationSeparator ∉
        (Text.join (String.singleton argumentSeparator)
          (tokens.map writtenArgument)).toList :=
    Text.not_mem_join (by decide)
      (not_mem_written proper (by decide) (by decide))
  have first :
      (Text.fields informationSeparator information).headD "" =
        Text.join (String.singleton argumentSeparator)
          (tokens.map writtenArgument) := by
    rw [Text.fields, parts, Text.splitAt_append_separator undescribed]
    exact String.ofList_toList
  have shown : ∀ token ∈ tokens,
      shownArgument (writtenArgument token) = token := by
    intro token listed
    exact shownArgument_writtenArgument
      ((proper token listed).absent _ (by decide))
  rw [functionArguments, first, Text.filter_fields_join filled apart,
    List.map_map]
  exact (List.map_congr_left shown).trans (List.map_id _)

/-! ## Lines -/

/-- A record that a line can hold. -/
structure Record.FitsLine (record : Record) : Prop where
  word : fieldSeparator ∉ record.word.toList
  kind : fieldSeparator ∉ record.kind.toList
  package : fieldSeparator ∉ record.package.toList
  information : fieldSeparator ∉ record.information.toList
  /-- Blanks at the start of a line are lost. -/
  unindented : ∀ first ∈ record.word.toList.head?, Text.isBlank first = false

/-- A record without the blanks at the end of its information. -/
def Record.trimmedEnd (record : Record) : Record :=
  { record with
    information :=
      String.ofList (Text.dropBlanksEnd record.information.toList) }

theorem Record.fields_line {record : Record} (fits : record.FitsLine) :
    Text.fields fieldSeparator record.line =
      [record.word, record.kind, "", record.package, record.information] := by
  apply Text.fields_join (List.cons_ne_nil _ _)
  intro field known
  simp only [List.mem_cons, List.not_mem_nil, or_false] at known
  rcases known with rfl | rfl | rfl | rfl | rfl
  · exact fits.word
  · exact fits.kind
  · exact List.not_mem_nil
  · exact fits.package
  · exact fits.information

/-- The information stands at the end of a line, after a separator. -/
theorem Record.exists_toList_line (record : Record) :
    ∃ middle, ∀ information,
      { record with information := information }.line.toList =
        record.word.toList ++
          (fieldSeparator :: middle) ++ fieldSeparator :: information.toList := by
  refine ⟨record.kind.toList ++ fieldSeparator :: fieldSeparator ::
    record.package.toList, fun information => ?_⟩
  simp [Record.line, Text.join, Text.joinWith]

theorem Record.trim_line {record : Record} (fits : record.FitsLine) :
    Text.trim record.line = record.trimmedEnd.line := by
  obtain ⟨middle, parts⟩ := record.exists_toList_line
  have separates : Text.isBlank fieldSeparator = false := by decide
  have starts : ∀ first ∈ record.line.toList.head?,
      Text.isBlank first = false := by
    intro first known
    rw [parts record.information] at known
    cases word : record.word.toList with
    | nil =>
        rw [word, List.nil_append, List.cons_append, List.head?_cons,
          Option.mem_some_iff] at known
        rw [← known]
        exact separates
    | cons character rest =>
        rw [word] at known
        exact fits.unindented first (by rw [word]; exact known)
  rw [← String.toList_inj, Text.toList_trim, Text.trimmed,
    Text.dropBlanks_of_head? starts, parts record.information,
    Text.dropBlanksEnd_append_cons separates, trimmedEnd, parts,
    String.toList_ofList]

theorem Record.FitsLine.trimmedEnd {record : Record} (fits : record.FitsLine) :
    record.trimmedEnd.FitsLine where
  word := fits.word
  kind := fits.kind
  package := fits.package
  information := by
    intro present
    rw [Record.trimmedEnd, String.toList_ofList] at present
    exact fits.information (Text.mem_of_mem_dropBlanksEnd present)
  unindented := fits.unindented

/-- A line gives back the record that it was written for. -/
theorem Record.ofLine_line {record : Record} (fits : record.FitsLine) :
    Record.ofLine record.line = record.trimmedEnd := by
  rw [ofLine, trim_line fits, fields_line fits.trimmedEnd]
  rfl

/-! ## Functions -/

theorem toList_information_functionRecord
    (name package : String)
    (tokens : List String) :
    (functionRecord name package tokens).information.toList =
      (Text.join (String.singleton argumentSeparator)
          (tokens.map writtenArgument)).toList ++
        informationSeparator :: ("Description of ".toList ++ name.toList) := by
  simp only [functionRecord, String.toList_append, String.toList_singleton,
    List.append_assoc, List.cons_append, List.nil_append]

theorem Record.candidate?_of_function
    {record : Record}
    (kind : record.kind = "function") :
    record.candidate? =
      some (functionCandidate record.word record.package
        (functionArguments record.information)) := by
  have named : ¬(record.word = "" ∧ record.kind = "") := by
    rw [kind]
    exact fun nothing => absurd nothing.2 (by decide)
  rw [candidate?, if_neg named, kind]
  rfl

section

variable
  {name package : String}
  {tokens : List String}
  (nameFits : fieldSeparator ∉ name.toList)
  (unindented : ∀ first ∈ name.toList.head?, Text.isBlank first = false)
  (packageFits : fieldSeparator ∉ package.toList)
  (proper : ∀ token ∈ tokens, IsToken token)

include nameFits unindented packageFits proper

theorem fitsLine_functionRecord :
    (functionRecord name package tokens).FitsLine where
  word := nameFits
  kind := show fieldSeparator ∉ "function".toList by decide
  package := packageFits
  information := by
    rw [toList_information_functionRecord]
    simp only [List.mem_append, List.mem_cons, not_or]
    refine ⟨?_, by decide, by decide, nameFits⟩
    exact Text.not_mem_join (by decide)
      (not_mem_written proper (by decide) (by decide))
  unindented := unindented

/-- The line of a function gives the candidate with its arguments. -/
theorem candidate?_line_functionRecord :
    candidate? (functionRecord name package tokens).line =
      some (functionCandidate name package tokens) := by
  have fits :=
    fitsLine_functionRecord nameFits unindented packageFits proper
  have arguments :
      functionArguments
          (functionRecord name package tokens).trimmedEnd.information =
        tokens := by
    -- the blanks that are lost stand in the description
    apply functionArguments_written proper
    rw [Record.trimmedEnd, String.toList_ofList,
      toList_information_functionRecord,
      Text.dropBlanksEnd_append_cons (by decide)]
  rw [candidate?, Record.ofLine_line fits, Record.candidate?_of_function rfl,
    arguments]
  rfl

end

/-! ## Candidates -/

/--
A name and a package do not contain the field separator, and the name does not
start with a blank.  The line of a function with arguments that a listing can
hold gives the candidate with these arguments, and the line of an object the
one that its parts give.
-/
theorem candidate?_line
    {name package : String}
    (nameFits : fieldSeparator ∉ name.toList)
    (unindented : ∀ first ∈ name.toList.head?, Text.isBlank first = false)
    (packageFits : fieldSeparator ∉ package.toList) :
    (∀ tokens : List String, (∀ token ∈ tokens, IsToken token) →
      candidate? (functionRecord name package tokens).line = some {
        label := name
        category := .function
        package := if package = "" then none else some package
        menu :=
          if tokens = [] then
            menuColumn "function"
          else
            menuColumn ("\x7B" ++ package ++ "\x7D") ++ " " ++ name ++ "(" ++
              (if tokens.head? = some noArguments then ""
                else Text.join ", " tokens) ++ ")"
        snippet := some (
          if tokens = [] then name ++ "($1)" else callTemplate name tokens)
        arguments :=
          if tokens = [] then
            none
          else
            some ((tokens.filter fun token =>
              token ≠ noArguments ∧ token ≠ dots).map Candidate.argument) }) ∧
      ∀ kind : String, fieldSeparator ∉ kind.toList →
        candidate? (objectRecord name kind package).line =
          (Record.mk name kind package "").candidate? := by
  constructor
  · intro tokens proper
    rw [candidate?_line_functionRecord nameFits unindented packageFits proper]
    cases tokens with
    | nil => rfl
    | cons token tokens => rfl
  · intro kind kindFits
    have fits : (objectRecord name kind package).FitsLine :=
      ⟨nameFits, kindFits, packageFits, List.not_mem_nil, unindented⟩
    rw [candidate?, Record.ofLine_line fits]
    rfl

/--
A name may end with a blank and hold the separators of arguments, and equals
signs of an argument may overlap.
-/
theorem candidate?_line_overlapping :
    let name := "f\x08\t "
    let tokens := ["x = = y", "...", "NO_ARGS", " = "]
    (fieldSeparator ∉ name.toList ∧
        (∀ first ∈ name.toList.head?, Text.isBlank first = false) ∧
        fieldSeparator ∉ "a b\t".toList ∧
        (∀ token ∈ tokens, IsToken token) ∧
        fieldSeparator ∉ "tbl_df".toList) ∧
      (functionRecord name "a b\t" tokens).line =
        "f\x08\t \x06function\x06\x06a b\t\x06x\x07= y\t...\t" ++
          "NO_ARGS\t\x07\x08Description of f\x08\t " ∧
      (∃ candidate,
        candidate? (functionRecord name "a b\t" tokens).line =
            some candidate ∧
          candidate.menu =
            "\x7Ba b\t\x7D     f\x08\t (x = = y, ..., NO_ARGS,  = )" ∧
          candidate.snippet =
            some "f\x08\t ($\x7B1:...\x7D, $\x7B2:NO_ARGS\x7D)" ∧
          candidate.arguments.map (·.map (·.label)) = some ["x", ""]) ∧
      candidate? (objectRecord name "tbl_df" "a b\t").line =
        some {
          Candidate.plain name (.object "tbl_df") with
          package := some "a b\t"
          snippet := some (name ++ "$$1") } := by
  intro name tokens
  have nameFits : fieldSeparator ∉ name.toList := by decide
  have starts : name.toList.head? = some 'f' := by decide
  have unindented :
      ∀ first ∈ name.toList.head?, Text.isBlank first = false := by
    intro first known
    rw [starts, Option.mem_some_iff] at known
    rw [← known]
    decide
  have packageFits : fieldSeparator ∉ "a b\t".toList := by decide
  have proper : ∀ token ∈ tokens, IsToken token := by decide
  have kindFits : fieldSeparator ∉ "tbl_df".toList := by decide
  have both := candidate?_line nameFits unindented packageFits
  exact ⟨⟨nameFits, unindented, packageFits, proper, kindFits⟩, by decide,
    ⟨_, both.1 tokens proper, by decide, by decide, by decide⟩,
    both.2 "tbl_df" kindFits⟩

end Listing
end RCompletion
