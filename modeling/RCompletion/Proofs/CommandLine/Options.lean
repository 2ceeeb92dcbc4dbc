import RCompletion.CommandLine.Request
import RCompletion.Proofs.Text.Decimal
import Mathlib.Data.List.Induction

/-!
# Options in any order

The arguments of the command line are options with their values and flags.  The
options are taken over one after the other, and each of them only changes what
is said by itself, so that the last value of every option counts wherever it
stands.
-/

namespace RCompletion
namespace CommandLine

/-! ## Numbers -/

/-- A text writes a number of 64 bits, possibly with a plus sign. -/
def WritesNumber (text : String) (number : Nat) : Prop :=
  number < Nat.pow 2 64 ∧ ∃ digits, Text.IsDecimal digits number ∧
    (text.toList = digits ∨ text.toList = '+' :: digits)

theorem writesNumber_toString
    {number : Nat}
    (fits : number < Nat.pow 2 64) :
    WritesNumber (toString number) number := by
  refine ⟨fits, _, Text.isDecimal_toDigits number, .inl ?_⟩
  rw [Nat.toString_eq_ofList_toDigits, String.toList_ofList]

theorem decimal?_eq_some_iff {digits : List Char} {number : Nat} :
    decimal? digits = some number ↔ Text.IsDecimal digits number := by
  rw [decimal?, Text.foldl_digits_eq_ofDigitChars]
  constructor
  · intro read
    split at read
    case isTrue => cases read
    case isFalse proper =>
      rw [Bool.or_eq_true, List.isEmpty_iff, Bool.not_eq_true', not_or,
        Bool.not_eq_false, List.all_eq_true] at proper
      exact ⟨proper.1, proper.2, Option.some.inj read⟩
  · rintro ⟨filled, isDigit, rfl⟩
    rw [if_neg]
    rw [Bool.or_eq_true, List.isEmpty_iff, Bool.not_eq_true', not_or,
      Bool.not_eq_false, List.all_eq_true]
    exact ⟨filled, isDigit⟩

/-- The digits of a text are what follows a plus sign, or the whole text. -/
theorem exists_digits_iff {text : String} {number : Nat} :
    (∃ digits, Text.IsDecimal digits number ∧
        (text.toList = digits ∨ text.toList = '+' :: digits)) ↔
      Text.IsDecimal
        (match text.toList with
          | '+' :: digits => digits
          | digits => digits) number := by
  have noSign {digits : List Char} (decimal : Text.IsDecimal digits number)
      (rest : List Char) : digits ≠ '+' :: rest := by
    intro signed
    have plus : '+'.isDigit = false := by decide
    exact decimal.head?_ne plus (by rw [signed, List.head?_cons])
  split
  case h_1 digits signed =>
    constructor
    · rintro ⟨others, decimal, same | same⟩
      · exact absurd (same.symm.trans signed) (noSign decimal digits)
      · rw [signed, List.cons.injEq] at same
        exact same.2 ▸ decimal
    · intro decimal
      exact ⟨digits, decimal, .inr signed⟩
  case h_2 unsigned =>
    constructor
    · rintro ⟨digits, decimal, same | same⟩
      · exact same ▸ decimal
      · exact absurd same (unsigned digits)
    · intro decimal
      exact ⟨_, decimal, .inl rfl⟩

/-- The numbers that are read are those that are written. -/
theorem number?_eq_some_iff {text : String} {number : Nat} :
    number? text = some number ↔ WritesNumber text number := by
  rw [number?, Option.filter_eq_some_iff, decide_eq_true_iff,
    decimal?_eq_some_iff, WritesNumber, exists_digits_iff]
  exact and_comm

/-! ## Items -/

/-- A part of the command line that is taken over as a whole. -/
inductive Item where
  /-- An option with its value. -/
  | setting (option value : String)
  /-- The flag that asks for the registration of the source. -/
  | sourceInfo
deriving Repr, DecidableEq

namespace Item

/-- The arguments of an item. -/
def arguments : Item → List String
  | setting option value => [option, value]
  | sourceInfo => ["--source-info"]

/-- An item is an option with a value that it can have, or the flag. -/
def IsValid : Item → Prop
  | setting option value =>
      option ∈ ["--file", "--config"] ∨
        option ∈ ["--line", "--column"] ∧
          ∃ number, WritesNumber value number
  | sourceInfo => True

instance : DecidablePred IsValid
  | setting option value =>
      decidable_of_iff
        (option ∈ ["--file", "--config"] ∨
          option ∈ ["--line", "--column"] ∧ (number? value).isSome) (by
        simp only [IsValid, Option.isSome_iff_exists, number?_eq_some_iff])
  | sourceInfo => .isTrue trivial

/-- The value that an item gives an option. -/
def valueOf? (option : String) : Item → Option String
  | setting other value => if other = option then some value else none
  | sourceInfo => none

end Item

/-- The last value that items give an option. -/
def lastValue? (option : String) (items : List Item) : Option String :=
  (items.filterMap (Item.valueOf? option)).getLast?

theorem lastValue?_concat
    (option : String)
    (items : List Item)
    (item : Item) :
    lastValue? option (items ++ [item]) =
      (item.valueOf? option).or (lastValue? option items) := by
  rw [lastValue?, lastValue?, List.filterMap_append, List.getLast?_append]
  cases given : item.valueOf? option with
  | none => simp [given]
  | some value => simp [given]

/-- The options after an item, which are the same if it is not valid. -/
def Options.after (options : Options) : Item → Options
  | .setting option value =>
      (options.withValue option value).toOption.getD options
  | .sourceInfo => { options with sourceInfo := true }

/-- The options after items, earliest first. -/
def Options.afterAll (options : Options) (items : List Item) : Options :=
  items.foldl after options

theorem Options.afterAll_concat
    (options : Options)
    (items : List Item)
    (item : Item) :
    options.afterAll (items ++ [item]) =
      (options.afterAll items).after item := by
  rw [afterAll, List.foldl_append]
  rfl

/-! ## One item -/

/-- A valid item is one of the options with a value that it can have, or the flag. -/
theorem Item.IsValid.cases
    {item : Item}
    (valid : item.IsValid) :
    (∃ path, item = .setting "--file" path) ∨
      (∃ path, item = .setting "--config" path) ∨
      (∃ text number, item = .setting "--line" text ∧
        number? text = some number) ∨
      (∃ text number, item = .setting "--column" text ∧
        number? text = some number) ∨
      item = .sourceInfo := by
  cases item with
  | sourceInfo => simp
  | setting option value =>
      simp only [IsValid, List.mem_cons, List.not_mem_nil, or_false] at valid
      rcases valid with (rfl | rfl) | ⟨isNumber, number, written⟩
      · exact .inl ⟨value, rfl⟩
      · exact .inr (.inl ⟨value, rfl⟩)
      · have read := number?_eq_some_iff.mpr written
        rcases isNumber with rfl | rfl
        · exact .inr (.inr (.inl ⟨value, number, rfl, read⟩))
        · exact .inr (.inr (.inr (.inl ⟨value, number, rfl, read⟩)))

namespace Options

variable {value : String} {number : Nat}

theorem withValue_line
    (options : Options)
    (read : number? value = some number) :
    options.withValue "--line" value =
      .ok { options with line := some number } := by
  simp [withValue, read]

theorem withValue_column
    (options : Options)
    (read : number? value = some number) :
    options.withValue "--column" value =
      .ok { options with column := some number } := by
  simp [withValue, read]

/-- What is taken over by an option is the value of a valid item. -/
theorem isValid_of_withValue_eq_ok
    {options next : Options}
    {option : String}
    (takes : takesValue option = true)
    (taken : options.withValue option value = .ok next) :
    (Item.setting option value).IsValid ∧
      options.after (.setting option value) = next := by
  refine ⟨?valid, by rw [after, taken]; rfl⟩
  by_cases isPath : option ∈ ["--file", "--config"]
  · exact .inl isPath
  · right
    simp only [takesValue, Bool.or_eq_true, beq_iff_eq, List.mem_cons,
      List.not_mem_nil, or_false, not_or] at takes isPath ⊢
    simp only [withValue, if_neg isPath.1, if_neg isPath.2] at taken
    refine ⟨by tauto, ?_⟩
    cases read : number? value with
    | none => rw [read] at taken; cases taken
    | some number => exact ⟨number, number?_eq_some_iff.mp read⟩

theorem parse_sourceInfo (options : Options) (rest : List String) :
    options.parse ("--source-info" :: rest) =
      parse { options with sourceInfo := true } rest := by
  rw [parse.eq_def]
  simp [takesValue]

theorem parse_version (options : Options) (rest : List String) :
    options.parse ("--version" :: rest) = .ok .version := by
  rw [parse.eq_def]
  simp [takesValue]

theorem parse_help (options : Options) (rest : List String) :
    options.parse ("--help" :: rest) = .ok .help := by
  rw [parse.eq_def]
  simp [takesValue]

/-- The arguments of a valid item are taken over together. -/
theorem parse_item
    (options : Options)
    {item : Item}
    (valid : item.IsValid)
    (rest : List String) :
    options.parse (item.arguments ++ rest) =
      (options.after item).parse rest := by
  obtain ⟨path, rfl⟩ | ⟨path, rfl⟩ | ⟨text, number, rfl, read⟩ |
    ⟨text, number, rfl, read⟩ | rfl := valid.cases
  · rfl
  · rfl
  · simp [Item.arguments, parse, takesValue, after, withValue_line options read,
      Except.toOption]
  · simp [Item.arguments, parse, takesValue, after,
      withValue_column options read, Except.toOption]
  · exact parse_sourceInfo options rest

/-- Items are taken over one after the other, whatever follows them. -/
theorem parse_items
    (options : Options)
    {items : List Item}
    (valid : ∀ item ∈ items, item.IsValid)
    (rest : List String) :
    options.parse (items.flatMap Item.arguments ++ rest) =
      (options.afterAll items).parse rest := by
  induction items generalizing options with
  | nil => rfl
  | cons item items inductionHypothesis =>
      obtain ⟨own, others⟩ := List.forall_mem_cons.mp valid
      rw [List.flatMap_cons, List.append_assoc, parse_item options own,
        inductionHypothesis _ others]
      rfl

/-! ## What counts at the end -/

/-- Options hold the last values of items. -/
structure HoldLast (options : Options) (items : List Item) : Prop where
  file : options.file = (lastValue? "--file" items).map Path.mk
  configuration :
    options.configuration = (lastValue? "--config" items).map Path.mk
  line : options.line = (lastValue? "--line" items).bind number?
  column : options.column = (lastValue? "--column" items).bind number?
  sourceInfo : options.sourceInfo = true ↔ .sourceInfo ∈ items

/-- One more item changes what it gives a value, and nothing else. -/
theorem HoldLast.after_item
    {options : Options}
    {items : List Item}
    (held : options.HoldLast items)
    {item : Item}
    (valid : item.IsValid) :
    (options.after item).HoldLast (items ++ [item]) := by
  obtain ⟨path, rfl⟩ | ⟨path, rfl⟩ | ⟨text, number, rfl, read⟩ |
    ⟨text, number, rfl, read⟩ | rfl := valid.cases
  case inl | inr.inl =>
    constructor
    all_goals
      simp [after, withValue, Except.toOption, lastValue?_concat,
        Item.valueOf?, held.file, held.configuration, held.line, held.column,
        held.sourceInfo]
  case inr.inr.inl | inr.inr.inr.inl =>
    constructor
    all_goals
      simp [after, withValue, read, Except.toOption, lastValue?_concat,
        Item.valueOf?, held.file, held.configuration, held.line, held.column,
        held.sourceInfo]
  case inr.inr.inr.inr =>
    constructor
    all_goals
      simp [after, lastValue?_concat, Item.valueOf?, held.file,
        held.configuration, held.line, held.column]

theorem holdLast_afterAll
    {items : List Item}
    (valid : ∀ item ∈ items, item.IsValid) :
    (afterAll {} items).HoldLast items := by
  induction items using List.reverseRecOn with
  | nil => exact ⟨rfl, rfl, rfl, rfl, by simp [afterAll]⟩
  | append_singleton items item inductionHypothesis =>
      obtain ⟨others, own⟩ := List.forall_mem_append.mp valid
      rw [afterAll_concat]
      exact (inductionHypothesis others).after_item (own item List.mem_cons_self)

/-- Arguments that ask for completions are those of valid items. -/
theorem exists_items_of_parse_eq_complete
    {options : Options}
    {arguments : List String}
    {completion : Completion}
    (asked : options.parse arguments = .ok (.complete completion)) :
    ∃ items, (∀ item ∈ items, item.IsValid) ∧
      arguments = items.flatMap Item.arguments ∧
      (options.afterAll items).request = .ok (.complete completion) := by
  fun_induction parse options arguments with
  | case1 options => exact ⟨[], by simp, rfl, asked⟩
  | case4 options option takes value rest next taken inductionHypothesis =>
      obtain ⟨valid, same⟩ := isValid_of_withValue_eq_ok takes taken
      obtain ⟨items, others, rfl, request⟩ := inductionHypothesis asked
      refine ⟨.setting option value :: items,
        List.forall_mem_cons.mpr ⟨valid, others⟩, rfl, ?_⟩
      rw [← same] at request
      exact request
  | case5 options rest _ inductionHypothesis =>
      obtain ⟨items, others, rfl, request⟩ := inductionHypothesis asked
      exact ⟨.sourceInfo :: items,
        List.forall_mem_cons.mpr ⟨trivial, others⟩, rfl, request⟩
  -- everything else ends in an error or in a request of another kind
  | case2 | case3 | case6 | case7 | case8 => cases asked

/-! ## Requests -/

theorem request_eq_complete_iff
    {options : Options}
    {completion : Completion} :
    options.request = .ok (.complete completion) ↔
      options.sourceInfo = false ∧
        options.file = some completion.file ∧
        options.configuration = completion.configuration ∧
        options.line = some (completion.cursor.line + 1) ∧
        options.column = some completion.cursor.column := by
  obtain ⟨file, line, column, configuration, sourceInfo⟩ := options
  obtain ⟨script, ⟨rows, characters⟩, settings⟩ := completion
  unfold request
  cases sourceInfo with
  | true => simp
  | false =>
      cases file <;> cases line <;> cases column
      case some.some.some path number position =>
        -- the number of rows above is one less than a line that is not zero
        by_cases zero : number = 0
        · simp [zero]
        · simp only [Bool.false_eq_true, if_false, if_neg zero]
          grind
      all_goals simp

end Options

/-- The last values of items are those of a request for completions. -/
structure Describe (items : List Item) (completion : Completion) : Prop where
  file : lastValue? "--file" items = some completion.file.text
  configuration :
    (lastValue? "--config" items).map Path.mk = completion.configuration
  /-- Lines are counted from one on. -/
  line : ∃ text, lastValue? "--line" items = some text ∧
    WritesNumber text (completion.cursor.line + 1)
  column : ∃ text, lastValue? "--column" items = some text ∧
    WritesNumber text completion.cursor.column

section

variable {items : List Item} (valid : ∀ item ∈ items, item.IsValid)

include valid

theorem parse_items_append (rest : List String) :
    parse (items.flatMap Item.arguments ++ rest) =
      (Options.afterAll {} items).parse rest :=
  Options.parse_items {} valid rest

theorem parse_items_eq_request :
    parse (items.flatMap Item.arguments) =
      (Options.afterAll {} items).request := by
  have parsed := parse_items_append valid []
  rw [List.append_nil] at parsed
  rw [parsed, Options.parse]

theorem request_afterAll_eq_complete_iff {completion : Completion} :
    (Options.afterAll {} items).request = .ok (.complete completion) ↔
      .sourceInfo ∉ items ∧ Describe items completion := by
  have held := Options.holdLast_afterAll valid
  rw [Options.request_eq_complete_iff, ← Bool.not_eq_true, held.sourceInfo,
    held.file, held.configuration, held.line, held.column]
  refine and_congr_right fun _ => ?_
  simp only [Option.map_eq_some_iff, Option.bind_eq_some_iff,
    number?_eq_some_iff]
  constructor
  · rintro ⟨⟨path, file, same⟩, configuration, line, column⟩
    exact ⟨by rw [file, ← same], configuration, line, column⟩
  · rintro ⟨file, configuration, line, column⟩
    exact ⟨⟨_, file, rfl⟩, configuration, line, column⟩

theorem request_afterAll_of_sourceInfo (asked : .sourceInfo ∈ items) :
    (Options.afterAll {} items).request =
      .ok (.sourceInfo ((lastValue? "--config" items).map Path.mk)) := by
  have held := Options.holdLast_afterAll valid
  rw [Options.request, if_pos (held.sourceInfo.mpr asked), held.configuration]

/-- The values of the column are numbers. -/
theorem exists_writesNumber_of_lastValue?
    {column : String}
    (last : lastValue? "--column" items = some column) :
    ∃ number, WritesNumber column number := by
  have given := List.mem_of_getLast? last
  rw [List.mem_filterMap] at given
  obtain ⟨item, present, value⟩ := given
  obtain ⟨path, rfl⟩ | ⟨path, rfl⟩ | ⟨text, number, rfl, read⟩ |
    ⟨text, number, rfl, read⟩ | rfl := (valid item present).cases
  case inr.inr.inr.inl =>
    cases value
    exact ⟨number, number?_eq_some_iff.mp read⟩
  -- the other items give the column no value
  all_goals cases value

theorem request_afterAll_of_line_zero
    (plain : .sourceInfo ∉ items)
    {file line column : String}
    (lastFile : lastValue? "--file" items = some file)
    (lastLine : lastValue? "--line" items = some line)
    (lastColumn : lastValue? "--column" items = some column)
    (zero : WritesNumber line 0) :
    (Options.afterAll {} items).request = .error .lineZero := by
  have held := Options.holdLast_afterAll valid
  have unasked : ¬ (Options.afterAll {} items).sourceInfo = true := by
    rw [held.sourceInfo]
    exact plain
  obtain ⟨number, written⟩ :=
    exists_writesNumber_of_lastValue? valid lastColumn
  rw [Options.request, if_neg unasked, held.file, held.line, held.column,
    lastFile, lastLine, lastColumn, Option.map_some, Option.bind_some,
    Option.bind_some, number?_eq_some_iff.mpr zero,
    number?_eq_some_iff.mpr written]
  rfl

end

/--
Arguments ask for completions exactly when they are options with values, in any
order and any number, of which the last ones describe what is asked for; so the
line is always at least one, and a line zero is an error.  With the flag for
the registration of the source anywhere between them they ask for that, and
with a flag for the usage or the version they ask for it, whatever follows.
-/
theorem parse_eq_complete_iff_and_flags :
    (∀ arguments completion,
      parse arguments = .ok (.complete completion) ↔
        ∃ items, (∀ item ∈ items, Item.IsValid item) ∧ .sourceInfo ∉ items ∧
          arguments = items.flatMap Item.arguments ∧
          Describe items completion) ∧
    (∀ items, (∀ item ∈ items, Item.IsValid item) →
      (.sourceInfo ∈ items →
        parse (items.flatMap Item.arguments) =
          .ok (.sourceInfo ((lastValue? "--config" items).map Path.mk))) ∧
      (∀ rest,
        parse (items.flatMap Item.arguments ++ "--help" :: rest) = .ok .help ∧
        parse (items.flatMap Item.arguments ++ "--version" :: rest) =
          .ok .version) ∧
      ∀ file line column,
        .sourceInfo ∉ items → lastValue? "--file" items = some file →
        lastValue? "--line" items = some line →
        lastValue? "--column" items = some column → WritesNumber line 0 →
        parse (items.flatMap Item.arguments) = .error .lineZero) ∧
    ∀ number < Nat.pow 2 64, WritesNumber (toString number) number := by
  refine ⟨?completions, ?others, fun number fits => writesNumber_toString fits⟩
  case completions =>
    intro arguments completion
    constructor
    · intro asked
      obtain ⟨items, valid, same, request⟩ :=
        Options.exists_items_of_parse_eq_complete asked
      obtain ⟨plain, described⟩ :=
        (request_afterAll_eq_complete_iff valid).mp request
      exact ⟨items, valid, plain, same, described⟩
    · rintro ⟨items, valid, plain, rfl, described⟩
      rw [parse_items_eq_request valid]
      exact (request_afterAll_eq_complete_iff valid).mpr ⟨plain, described⟩
  case others =>
    intro items valid
    refine ⟨?registration, ?flags, ?zero⟩
    case registration =>
      intro asked
      rw [parse_items_eq_request valid]
      exact request_afterAll_of_sourceInfo valid asked
    case flags =>
      intro rest
      rw [parse_items_append valid, parse_items_append valid]
      exact ⟨Options.parse_help _ rest, Options.parse_version _ rest⟩
    case zero =>
      intro file line column plain lastFile lastLine lastColumn zero
      rw [parse_items_eq_request valid]
      exact request_afterAll_of_line_zero valid plain lastFile lastLine
        lastColumn zero

/-- Options in an unusual order, some of them given twice and one of them with
the value of a flag; then with the flag for the source; then with the usage. -/
theorem parse_repeated_options :
    let items : List Item := [
      .setting "--column" "18446744073709551615", .setting "--line" "0",
      .setting "--file" "--help", .setting "--line" "+18446744073709551615",
      .setting "--config" "a.json", .setting "--config" "--line"]
    let written := items.flatMap Item.arguments
    let completion : Completion :=
      ⟨⟨"--help"⟩, ⟨18446744073709551614, 18446744073709551615⟩,
        some ⟨"--line"⟩⟩
    (∀ item ∈ items, Item.IsValid item) ∧ Describe items completion ∧
      parse written = .ok (.complete completion) ∧
      parse ((.sourceInfo :: items).flatMap Item.arguments) =
        .ok (.sourceInfo (some ⟨"--line"⟩)) ∧
      parse (written ++ ["--help", "--line"]) = .ok .help ∧
      parse ["--line", "0", "--column", "1", "--file", "a"] =
        .error .lineZero := by
  intro items written completion
  obtain ⟨complete, others, -⟩ := parse_eq_complete_iff_and_flags
  have valid : ∀ item ∈ items, Item.IsValid item := by decide
  have described : Describe items completion := by
    refine ⟨rfl, rfl, ⟨_, rfl, ?_⟩, ⟨_, rfl, ?_⟩⟩
    all_goals
      rw [← number?_eq_some_iff]
      decide
  refine ⟨valid, described, ?completions, ?registration, ?usage, ?zero⟩
  case completions =>
    exact (complete written completion).mpr
      ⟨items, valid, by decide, rfl, described⟩
  case registration =>
    exact (others (.sourceInfo :: items) (by decide)).1 List.mem_cons_self
  case usage => exact ((others items valid).2.1 ["--line"]).1
  case zero =>
    have zero : WritesNumber "0" 0 := writesNumber_toString (by decide)
    exact (others [.setting "--line" "0", .setting "--column" "1",
      .setting "--file" "a"] (by decide)).2.2 "a" "0" "1" (by decide) rfl rfl
        rfl zero

end CommandLine
end RCompletion
