import RCompletion.Configuration.Environment
import RCompletion.Configuration.Json
import RCompletion.Proofs.Json.Fields

/-!
# Configurations field by field

An object may hold any fields of a configuration and of its sections, in any
order and between unknown members.  Exactly these fields are taken over, and the
others have their default values.  The written forms of a configuration hold
all fields, and the printed source section may stand in an object by itself.
What is empty is then filled in from the environment, each path by itself.
-/

namespace RCompletion
namespace Configuration

open Json (Form FieldTexts StringText NaturalText StringsText)

/-! ## The source section -/

/-- The fields of the source section with the texts of their values. -/
def Source.fieldTexts (source : Source) : FieldTexts := [
  ("name", StringText source.name),
  ("priority", NaturalText source.priority),
  ("abbreviation", StringText source.abbreviation),
  ("scopes", StringsText source.scopes),
  ("word_pattern", StringText source.wordPattern),
  ("early_cache", NaturalText source.earlyCache),
  ("refresh_patterns", StringsText source.refreshPatterns)]

/-- The default source section with the chosen fields of another one. -/
def Source.pick (source : Source) (chosen : List String) : Source where
  name := if "name" ∈ chosen then source.name else ({} : Source).name
  priority :=
    if "priority" ∈ chosen then source.priority else ({} : Source).priority
  abbreviation :=
    if "abbreviation" ∈ chosen then source.abbreviation
    else ({} : Source).abbreviation
  scopes := if "scopes" ∈ chosen then source.scopes else ({} : Source).scopes
  wordPattern :=
    if "word_pattern" ∈ chosen then source.wordPattern
    else ({} : Source).wordPattern
  earlyCache :=
    if "early_cache" ∈ chosen then source.earlyCache
    else ({} : Source).earlyCache
  refreshPatterns :=
    if "refresh_patterns" ∈ chosen then source.refreshPatterns
    else ({} : Source).refreshPatterns

/-- The numbers of a source section fit into 32 bits. -/
structure Source.Fits (source : Source) : Prop where
  priority : source.priority ≤ Json.largestNatural32
  earlyCache : source.earlyCache ≤ Json.largestNatural32

/-- A field that is stored by itself is picked by its name. -/
theorem picks_storedField
    {name : String}
    {read : Json.Reader β}
    {store : α → β → α}
    {pick : List String → α}
    {isText : List Char → Prop}
    {value : β}
    (takes : ∀ text, isText text → read.Takes text value)
    (stored : ∀ seen, store (pick seen) value = pick (name :: seen)) :
    (storedField name read store).Picks pick (name, isText) where
  name := rfl
  optional := rfl
  takes := by
    intro seen text given
    have taken := (takes text given).map (store (pick seen))
    rw [stored] at taken
    exact taken

theorem Source.picks_shape
    {source : Source}
    (fits : source.Fits)
    (depth : Nat) :
    (shape (depth + 1)).Picks source.pick source.fieldTexts where
  stored := by
    simp only [shape, fieldTexts, List.forall₂_cons]
    refine ⟨picks_storedField (fun _ given => given.takes .string) ?_,
      picks_storedField (fun _ given => given.takes fits.priority) ?_,
      picks_storedField (fun _ given => given.takes .string) ?_,
      picks_storedField (fun _ given => given.takes depth) ?_,
      picks_storedField (fun _ given => given.takes .string) ?_,
      picks_storedField (fun _ given => given.takes fits.earlyCache) ?_,
      picks_storedField (fun _ given => given.takes depth) ?_, .nil⟩
    all_goals simp [pick]
  same := by
    intro seen others same
    simp only [FieldTexts.names, fieldTexts, List.map_cons, List.map_nil,
      List.forall_mem_cons] at same
    simp only [pick, same]

/-- The source section is read from an object as the fields that it holds. -/
theorem Source.takes_objectText
    {source : Source}
    (fits : source.Fits)
    {chosen : List String}
    {text : List Char}
    (isText : source.fieldTexts.ObjectText chosen text)
    (depth : Nat) :
    ((shape (depth + 1)).read (depth + 2) {}).Takes text (source.pick chosen) :=
  (picks_shape fits depth).takes isText (depth + 1)

/-! ## The section of the paths -/

/-- The fields of the section of the paths with the texts of their values. -/
def Paths.fieldTexts (paths : Paths) : FieldTexts := [
  ("completion_dir", StringText paths.completionDirectory.text),
  ("tmp_dir", StringText paths.temporaryDirectory.text),
  ("session_id", StringText paths.sessionId)]

/-- The default paths with the chosen ones of others. -/
def Paths.pick (paths : Paths) (chosen : List String) : Paths where
  completionDirectory :=
    if "completion_dir" ∈ chosen then paths.completionDirectory
    else ({} : Paths).completionDirectory
  temporaryDirectory :=
    if "tmp_dir" ∈ chosen then paths.temporaryDirectory
    else ({} : Paths).temporaryDirectory
  sessionId :=
    if "session_id" ∈ chosen then paths.sessionId else ({} : Paths).sessionId

theorem takes_readPath
    {path : Path}
    {text : List Char}
    (given : StringText path.text text) :
    readPath.Takes text path :=
  (given.takes .path).map Path.mk

theorem Paths.picks_shape (paths : Paths) :
    shape.Picks paths.pick paths.fieldTexts where
  stored := by
    simp only [shape, fieldTexts, List.forall₂_cons]
    refine ⟨picks_storedField (fun _ given => takes_readPath given) ?_,
      picks_storedField (fun _ given => takes_readPath given) ?_,
      picks_storedField (fun _ given => given.takes .string) ?_, .nil⟩
    all_goals simp [pick]
  same := by
    intro seen others same
    simp only [FieldTexts.names, fieldTexts, List.map_cons, List.map_nil,
      List.forall_mem_cons] at same
    simp only [pick, same]

/-! ## The configuration -/

/-- A choice of fields by their names: of the configuration itself, where a section
is one field, and of each of the two sections. -/
structure Choice where
  /-- The fields of the configuration. -/
  fields : List String
  /-- The fields of its source section, if that is chosen. -/
  source : List String
  /-- The fields of the section of its paths, if that is chosen. -/
  paths : List String
deriving Repr, DecidableEq

/-- The choice of all fields. -/
def Choice.all : Choice where
  fields := ["source", "package_loaders", "pipe_operators", "paths"]
  source := ["name", "priority", "abbreviation", "scopes", "word_pattern",
    "early_cache", "refresh_patterns"]
  paths := ["completion_dir", "tmp_dir", "session_id"]

/-- The fields of a configuration with the texts of their values, which are those
of objects that hold the chosen fields for the sections. -/
def fieldTexts (configuration : Configuration) (choice : Choice) :
    FieldTexts := [
  ("source", configuration.source.fieldTexts.ObjectText choice.source),
  ("package_loaders", StringsText configuration.packageLoaders),
  ("pipe_operators", StringsText configuration.pipeOperators),
  ("paths", configuration.paths.fieldTexts.ObjectText choice.paths)]

/-- The default configuration with the chosen fields of another one. -/
def pick (configuration : Configuration) (choice : Choice) : Configuration where
  source :=
    if "source" ∈ choice.fields then configuration.source.pick choice.source
    else {}
  packageLoaders :=
    if "package_loaders" ∈ choice.fields then configuration.packageLoaders
    else ({} : Configuration).packageLoaders
  pipeOperators :=
    if "pipe_operators" ∈ choice.fields then configuration.pipeOperators
    else ({} : Configuration).pipeOperators
  paths :=
    if "paths" ∈ choice.fields then configuration.paths.pick choice.paths
    else {}

/-- A document is an object that holds the chosen fields of a configuration, with
any blanks around it. -/
def HoldsChosen
    (configuration : Configuration)
    (choice : Choice)
    (document : String) : Prop :=
  ∃ before text after, Json.AllBlank before ∧ Json.AllBlank after ∧
    (configuration.fieldTexts choice).ObjectText choice.fields text ∧
      document.toList = before ++ (text ++ after)

section

variable {configuration : Configuration} (fits : configuration.source.Fits)

include fits

theorem picks_shape (choice : Choice) (depth : Nat) :
    (shape (depth + 2)).Picks
      (fun chosen => configuration.pick { choice with fields := chosen })
      (configuration.fieldTexts choice) where
  stored := by
    simp only [shape, fieldTexts, List.forall₂_cons]
    refine ⟨picks_storedField (fun _ given =>
        Source.takes_objectText fits given depth) ?_,
      picks_storedField (fun _ given => given.takes (depth + 1)) ?_,
      picks_storedField (fun _ given => given.takes (depth + 1)) ?_,
      picks_storedField (fun _ given =>
        (Paths.picks_shape configuration.paths).takes given (depth + 1)) ?_,
      .nil⟩
    all_goals simp [pick]
  same := by
    intro seen others same
    simp only [FieldTexts.names, fieldTexts, List.map_cons, List.map_nil,
      List.forall_mem_cons] at same
    simp only [pick, same]

/-- Exactly the fields that a document holds are taken over. -/
theorem ofJson_eq_ok_pick
    {choice : Choice}
    {document : String}
    (holds : configuration.HoldsChosen choice document) :
    ofJson document = .ok (configuration.pick choice) := by
  obtain ⟨before, text, after, beforeBlank, afterBlank, isText, same⟩ := holds
  -- of the 127 levels one goes to the configuration, one to a section and
  -- one to a list in a section
  have taken : read.Takes text (configuration.pick choice) :=
    (picks_shape fits choice 124).takes isText 126
  exact taken.readDocument beforeBlank afterBlank same

end

/-! ## Written forms -/

theorem pick_all (configuration : Configuration) :
    configuration.pick .all = configuration := by
  simp [pick, Source.pick, Paths.pick, Choice.all]

section

variable {write : Nat → Json → List Char} (form : Form write)

include form

theorem Source.objectText_write (source : Source) (level : Nat) :
    source.fieldTexts.ObjectText Choice.all.source
      (write level source.toJson) := by
  have distinct : Choice.all.source.Nodup := by decide
  refine ⟨_, FieldTexts.heldBy_names distinct ?_, form.isObject level _⟩
  simp only [fieldTexts, List.map_cons, List.map_nil, List.forall₂_cons,
    true_and]
  exact ⟨form.stringText _ _, form.natural _ _, form.stringText _ _,
    form.stringsText _ _, form.stringText _ _, form.natural _ _,
    form.stringsText _ _, .nil⟩

theorem Paths.objectText_write (paths : Paths) (level : Nat) :
    paths.fieldTexts.ObjectText Choice.all.paths
      (write level paths.toJson) := by
  have distinct : Choice.all.paths.Nodup := by decide
  refine ⟨_, FieldTexts.heldBy_names distinct ?_, form.isObject level _⟩
  simp only [fieldTexts, List.map_cons, List.map_nil, List.forall₂_cons,
    true_and]
  exact ⟨form.stringText _ _, form.stringText _ _, form.stringText _ _, .nil⟩

/-- Every form of a configuration holds all of its fields. -/
theorem holdsChosen_write (configuration : Configuration) :
    configuration.HoldsChosen .all
      (String.ofList (write 0 configuration.toJson)) := by
  have distinct : Choice.all.fields.Nodup := by decide
  refine ⟨[], _, [], Json.allBlank_nil, Json.allBlank_nil, ?_, by
    rw [String.toList_ofList, List.nil_append, List.append_nil]⟩
  refine ⟨_, FieldTexts.heldBy_names distinct ?_, form.isObject 0 _⟩
  simp only [fieldTexts, List.map_cons, List.map_nil, List.forall₂_cons,
    true_and]
  exact ⟨Source.objectText_write form _ _, form.stringsText _ _,
    form.stringsText _ _, Paths.objectText_write form _ _, .nil⟩

/-- Every form of a configuration is read as this configuration. -/
theorem ofJson_ofList_write
    {configuration : Configuration}
    (fits : configuration.source.Fits) :
    ofJson (String.ofList (write 0 configuration.toJson)) =
      .ok configuration := by
  rw [ofJson_eq_ok_pick fits (holdsChosen_write form configuration), pick_all]

end

/-- The choice of the whole source section. -/
def Choice.wholeSource : Choice :=
  ⟨["source"], Choice.all.source, []⟩

theorem pick_wholeSource (configuration : Configuration) :
    configuration.pick .wholeSource = { source := configuration.source } := by
  simp [pick, Source.pick, Choice.wholeSource, Choice.all]

/-- The printed source section stands in an object by itself. -/
theorem holdsChosen_pretty_source
    (configuration : Configuration)
    {blanks : String}
    (blank : Json.AllBlank blanks.toList) :
    configuration.HoldsChosen .wholeSource
      ("\x7b\"source\": " ++ configuration.source.toJson.pretty ++ blanks ++
        "\x7d") := by
  have isText := Source.objectText_write Json.form_pretty configuration.source 0
  refine ⟨[], _, [], Json.allBlank_nil, Json.allBlank_nil,
    ⟨[("source", configuration.source.toJson.prettyCharacters 0)], ?held,
      Json.isObject_recordText Json.allBlank_nil Json.allBlank_space
        blank _⟩, ?same⟩
  case held =>
    constructor
    case text => simpa [fieldTexts, Choice.wholeSource] using isText
    case unknown => simp [fieldTexts, FieldTexts.names]
    case once => exact (List.nodup_singleton _).filter _
    case chosen => simp [Choice.wholeSource]
  case same =>
    simp [Json.recordText, Json.memberText, Json.memberBody, Json.pretty,
      Json.writtenCharacter]

/-! ## Fallbacks -/

/-- An empty text takes the value of a variable that is set, and no other changes. -/
structure FilledFrom (exported : Option String) (before after : String) : Prop where
  filled : before = "" → ∀ value ∈ exported, after = value
  kept : before ≠ "" ∨ exported = none → after = before

theorem filledFrom_textOr (exported : Option String) (text : String) :
    FilledFrom exported text (textOr text exported) where
  filled := by
    rintro rfl value set
    rw [textOr, if_pos rfl, Option.mem_def.mp set, Option.getD_some]
  kept := by
    rintro (filled | unset)
    · exact if_neg filled
    · rw [textOr, unset, Option.getD_none]
      split
      case isTrue empty => exact empty.symm
      case isFalse => rfl

theorem textOr_textOr (text : String) (exported : Option String) :
    textOr (textOr text exported) exported = textOr text exported := by
  by_cases empty : text = ""
  · rw [textOr, textOr, if_pos empty]
    exact ite_self _
  · rw [textOr, textOr, if_neg empty, if_neg empty]

/-- Filling in the paths again changes nothing. -/
theorem withFallbacks_withFallbacks
    (configuration : Configuration)
    (environment : Environment) :
    (configuration.withFallbacks environment).withFallbacks environment =
      configuration.withFallbacks environment := by
  simp only [withFallbacks, Paths.withFallbacks, textOr_textOr]

/--
A document that holds chosen fields of a configuration, in any order and between
unknown members, is read as the default configuration with exactly these fields
replaced.  Reading therefore undoes writing, and the printed source section is
read in an object by itself.  Then only the empty paths are filled in, each from
its own variable, and filling them in again changes nothing.
-/
theorem ofJson_holding_and_withFallbacks
    {configuration : Configuration}
    (fits : configuration.source.Fits) :
    (∀ choice document, configuration.HoldsChosen choice document →
      ofJson document = .ok (configuration.pick choice)) ∧
    (∀ written ∈ [configuration.toJson.compact, configuration.toJson.pretty],
      ofJson written = .ok configuration) ∧
    (∀ blanks : String, Json.AllBlank blanks.toList →
      ofJson ("\x7b\"source\": " ++ configuration.source.toJson.pretty ++
          blanks ++ "\x7d") =
        .ok { source := configuration.source }) ∧
    ∀ lookup : String → Option String,
      let environment := Environment.ofLookup lookup
      let filled := configuration.withFallbacks environment
      filled = { configuration with paths := filled.paths } ∧
        FilledFrom (lookup "NVIMR_COMPLDIR")
          configuration.paths.completionDirectory.text
          filled.paths.completionDirectory.text ∧
        FilledFrom (lookup "NVIMR_TMPDIR")
          configuration.paths.temporaryDirectory.text
          filled.paths.temporaryDirectory.text ∧
        FilledFrom (lookup "NVIMR_ID") configuration.paths.sessionId
          filled.paths.sessionId ∧
        filled.withFallbacks environment = filled := by
  refine ⟨fun _ _ holds => ofJson_eq_ok_pick fits holds, ?written, ?source,
    ?fallbacks⟩
  case written =>
    have fromCompact := ofJson_ofList_write Json.form_compact fits
    have fromPretty := ofJson_ofList_write Json.form_pretty fits
    rw [List.forall_mem_cons, List.forall_mem_singleton]
    exact ⟨fromCompact, fromPretty⟩
  case source =>
    intro blanks blank
    rw [ofJson_eq_ok_pick fits (holdsChosen_pretty_source configuration blank),
      pick_wholeSource]
  case fallbacks =>
    intro lookup environment filled
    exact ⟨rfl, filledFrom_textOr _ _, filledFrom_textOr _ _,
      filledFrom_textOr _ _, withFallbacks_withFallbacks configuration _⟩

/-- A configuration of which one path is taken over, after an unknown member; the
rest is read back, and one of the other paths is filled in. -/
theorem ofJson_session_id :
    let configuration : Configuration :=
      { source := { name := "R\n\"", priority := 4294967295, scopes := [] }
        paths := { sessionId := "7" } }
    let choice : Choice := ⟨["paths"], [], ["session_id"]⟩
    let document :=
      " \x7b\"unit\":[-0.5],\"paths\":\x7b\"session_id\":\"7\"\x7d\x7d"
    let lookup := fun name =>
      if name ∈ ["NVIMR_TMPDIR", "NVIMR_ID"] then some "/t" else none
    let filled := configuration.withFallbacks (.ofLookup lookup)
    configuration.source.Fits ∧ configuration.HoldsChosen choice document ∧
      ofJson document = .ok { paths := { sessionId := "7" } } ∧
      ofJson configuration.toJson.pretty = .ok configuration ∧
      ofJson ("\x7b\"source\": " ++ configuration.source.toJson.pretty ++ "" ++
          "\x7d") =
        .ok { source := configuration.source } ∧
      filled.paths.completionDirectory.text = "" ∧
      filled.paths.temporaryDirectory.text = "/t" ∧
      filled.paths.sessionId = "7" := by
  intro configuration choice document lookup filled
  have fits : configuration.source.Fits := ⟨by decide, by decide⟩
  have object (members : List (String × List Char)) :
      Json.IsObject members (Json.recordText [] [] [] members) :=
    Json.isObject_recordText Json.allBlank_nil Json.allBlank_nil
      Json.allBlank_nil members
  have number : Json.IsNumber "-0.5".toList :=
    ⟨['-'], ['0'], ['.', '5'], [], by decide, .inl rfl,
      .inr ⟨['5'], 5, Text.isDecimal_toDigits 5, rfl⟩, .inl rfl, rfl⟩
  have unknown : Json.IsValue "[-0.5]".toList :=
    @Json.IsValue.composite .array ["-0.5".toList] _ _
      (List.forall_mem_singleton.mpr (.scalar (.number number)))
      (.cons rfl .nil) (.filled Json.allBlank_nil (.nil Json.allBlank_nil))
  let paths :=
    Json.recordText [] [] [] [("session_id", Json.writtenString "7")]
  have session :
      configuration.paths.fieldTexts.ObjectText choice.paths paths := by
    refine ⟨_, ⟨?_, ?_, ?_, ?_⟩, object _⟩
    · simpa [Paths.fieldTexts] using Json.stringText_writtenString "7"
    · simp [Paths.fieldTexts, FieldTexts.names]
    · exact (List.nodup_singleton _).filter _
    · simp [choice]
  have holds : configuration.HoldsChosen choice document := by
    refine ⟨[' '], _, [], Json.allBlank_space, Json.allBlank_nil,
      ⟨[("unit", "[-0.5]".toList), ("paths", paths)], ⟨?_, ?_, ?_, ?_⟩,
        object _⟩, ?_⟩
    · simpa [fieldTexts] using session
    · simpa [fieldTexts, FieldTexts.names] using unknown
    · simp [fieldTexts, FieldTexts.names]
    · simp [fieldTexts, FieldTexts.names, choice]
    · decide +kernel
  obtain ⟨chosen, written, source, fallbacks⟩ :=
    ofJson_holding_and_withFallbacks fits
  obtain ⟨-, directory, temporary, session, -⟩ := fallbacks lookup
  exact ⟨fits, holds, chosen choice document holds, written _ (by simp),
    source "" Json.allBlank_nil, directory.kept (.inr rfl),
    temporary.filled rfl "/t" rfl, session.kept (.inl (by decide))⟩

end Configuration
end RCompletion
