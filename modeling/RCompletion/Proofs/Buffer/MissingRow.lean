import RCompletion.Proofs.Buffer.Field
import RCompletion.Proofs.Buffer.Search

/-!
# Rows below the last one

A cursor can stand on a row that its buffer does not have.  The word, the
quotes, the call and the insertion column are then those of an empty row.  The
search for the root of a pipe chain is not: it passes no row where the buffer
has none, while it counts an empty row as one without an operator.  So it can
reach further than it does after empty rows have been added.
-/

namespace RCompletion
namespace Buffer

/-- A buffer with empty rows added down to a line. -/
def extendedTo (line : Nat) (rows : List String) : List String :=
  rows ++ List.replicate (line + 1 - rows.length) ""

/-- A row continues a chain and names its root. -/
def IsRootRow (symbols : List String) (root row : String) : Prop :=
  IsPipeRow symbols row ∧ HasRoot symbols row root

/-! ## Empty rows -/

section Empty

variable {symbols : List String} {limit : Nat} {kind : String → Prop}

/-- An empty row contains no operator but the empty one. -/
theorem isPipeRow_empty_iff : IsPipeRow symbols "" ↔ "" ∈ symbols := by
  rw [IsPipeRow]
  constructor
  · rintro ⟨symbol, known, occurs⟩
    rw [String.toList_empty, List.infix_nil, String.toList_eq_nil_iff] at occurs
    exact occurs ▸ known
  · intro known
    exact ⟨"", known, List.infix_refl _⟩

theorem not_hasRoot_empty (root : String) : ¬HasRoot symbols "" root := by
  rintro ⟨before, first⟩
  exact IsPiped.not_nil first.piped

theorem isRootlessRow_empty_iff : IsRootlessRow symbols "" ↔ "" ∈ symbols := by
  rw [IsRootlessRow, isPipeRow_empty_iff]
  exact and_iff_left not_hasRoot_empty

theorem isPlainRow_empty_iff : IsPlainRow symbols "" ↔ "" ∉ symbols := by
  have noAssignment : ¬IsAssignmentRow "" := by
    rw [← isAssignment_iff]
    decide
  rw [IsPlainRow, isPipeRow_empty_iff]
  exact and_iff_left noAssignment

/-- The empty operator continues a chain on every empty row. -/
theorem reaches_replicate_of_mem
    (other : ¬kind "")
    (always : "" ∈ symbols)
    (count : Nat)
    (rows : List String) :
    Reaches symbols limit kind (List.replicate count "" ++ rows) ↔
      Reaches symbols limit kind rows := by
  induction count with
  | zero => rfl
  | succ count inductionHypothesis =>
      rw [List.replicate_succ, List.cons_append, reaches_cons_iff,
        isRootlessRow_empty_iff, isPlainRow_empty_iff, inductionHypothesis]
      simp only [other, always, not_true_eq_false, true_and, false_and,
        false_or, or_false]

/-- Without the empty operator every empty row counts. -/
theorem reaches_replicate_of_not_mem
    (other : ¬kind "")
    (never : "" ∉ symbols)
    (count : Nat)
    (rows : List String) :
    Reaches symbols limit kind (List.replicate count "" ++ rows) ↔
      ∃ fewer, limit = fewer + count ∧ Reaches symbols fewer kind rows := by
  induction count generalizing limit with
  | zero => simp
  | succ count inductionHypothesis =>
      rw [List.replicate_succ, List.cons_append, reaches_cons_iff,
        isRootlessRow_empty_iff, isPlainRow_empty_iff]
      simp only [other, never, not_false_eq_true, true_and, false_and,
        false_or, inductionHypothesis]
      constructor
      · rintro ⟨passed, rfl, fewer, rfl, reaches⟩
        exact ⟨fewer, rfl, reaches⟩
      · rintro ⟨fewer, rfl, reaches⟩
        exact ⟨fewer + count, rfl, fewer, rfl, reaches⟩

/-- What is reached is also reached if more rows may be passed. -/
theorem Reaches.mono
    {more : Nat}
    {rows : List String}
    (reaches : Reaches symbols limit kind rows)
    (within : limit ≤ more) :
    Reaches symbols more kind rows := by
  obtain ⟨before, row, after, parts, passed, few, isKind⟩ := reaches
  exact ⟨before, row, after, parts, passed, few.trans within, isKind⟩

end Empty

/-! ## The search -/

theorem PipeScan.source?_eq_some_iff (state : PipeScan) (root : String) :
    state.source? = some root ↔ state = found root := by
  cases state with
  | scanning count => simp [source?]
  | found source => simp [source?]
  | hitAssignment => simp [source?]
  | exhausted => simp [source?]

/-- The search finds the root of the row that it reaches. -/
theorem source?_scanPipe_eq_some_iff
    (operators : PipeOperators)
    (rows : List String)
    (cursor : Cursor)
    (root : String) :
    (scanPipe operators rows cursor).source? = some root ↔
      Reaches operators.symbols 1 (IsRootRow operators.symbols root)
        (rowsUpward rows cursor) := by
  rw [PipeScan.source?_eq_some_iff]
  exact PipeScan.run_eq_iff_reaches operators (by simp) rfl _

theorem beforeColumn_empty (column : Nat) : beforeColumn "" column = "" := by
  rw [beforeColumn, String.toList_empty, List.take_nil, String.ofList_nil]

section Missing

variable {rows : List String} {cursor : Cursor}

/-- Where the buffer has no row, the search goes through all its rows. -/
theorem rowsUpward_of_missing (missing : rows.length ≤ cursor.line) :
    rowsUpward rows cursor = rows.reverse := by
  simp only [rowsUpward, List.getElem?_eq_none missing,
    List.take_of_length_le missing]

theorem getElem?_extendedTo (missing : rows.length ≤ cursor.line) :
    (extendedTo cursor.line rows)[cursor.line]? = some "" := by
  rw [extendedTo, List.getElem?_append_right missing,
    List.getElem?_replicate_of_lt (by omega)]

/-- Added rows are passed before those of the buffer. -/
theorem rowsUpward_extendedTo (missing : rows.length ≤ cursor.line) :
    rowsUpward (extendedTo cursor.line rows) cursor =
      List.replicate (cursor.line + 1 - rows.length) "" ++ rows.reverse := by
  obtain ⟨between, line⟩ := Nat.exists_eq_add_of_le missing
  have above :
      (extendedTo cursor.line rows).take cursor.line =
        rows ++ List.replicate between "" := by
    rw [extendedTo, line, List.take_length_add_append, List.take_replicate]
    congr 2
    omega
  have count : cursor.line + 1 - rows.length = between + 1 := by omega
  simp only [rowsUpward, getElem?_extendedTo missing, above, count,
    List.reverse_append, List.reverse_replicate, List.replicate_succ,
    List.cons_append, beforeColumn_empty]

/-- Nothing is typed on a row that the buffer does not have. -/
theorem typed_of_missing (missing : rows.length ≤ cursor.line) :
    typed rows cursor = "" := by
  rw [typed, List.getElem?_eq_none missing, Option.getD_none,
    beforeColumn_empty]

theorem typed_extendedTo (missing : rows.length ≤ cursor.line) :
    typed (extendedTo cursor.line rows) cursor = "" := by
  rw [typed, getElem?_extendedTo missing, Option.getD_some,
    beforeColumn_empty]

/-! ## Contexts -/

namespace Detector

/-- Where nothing is typed, the context is that of an empty row in a chain. -/
theorem detect_of_typed_eq_empty
    (detector : Detector)
    (nothing : typed rows cursor = "") :
    detector.detect rows cursor =
      { word := ""
        function := none
        pipe := (scanPipe detector.operators rows cursor).source?
        inQuotes := false
        startColumn := detector.startColumn "" cursor.column } := by
  simp only [detect, nothing]
  rfl

theorem pipe_detect_of_missing
    (detector : Detector)
    (missing : rows.length ≤ cursor.line)
    (root : String) :
    (detector.detect rows cursor).pipe = some root ↔
      Reaches detector.operators.symbols 1
        (IsRootRow detector.operators.symbols root) rows.reverse := by
  rw [detector.detect_of_typed_eq_empty (typed_of_missing missing),
    source?_scanPipe_eq_some_iff, rowsUpward_of_missing missing]

/--
From an added row the root is found if the empty operator makes empty rows
count for nothing, or if the added row is the only one without an operator.
-/
theorem pipe_detect_extendedTo
    (detector : Detector)
    (missing : rows.length ≤ cursor.line)
    (root : String) :
    (detector.detect (extendedTo cursor.line rows) cursor).pipe = some root ↔
      ("" ∈ detector.operators.symbols ∧
          Reaches detector.operators.symbols 1
            (IsRootRow detector.operators.symbols root) rows.reverse) ∨
        (cursor.line = rows.length ∧
          Reaches detector.operators.symbols 0
            (IsRootRow detector.operators.symbols root) rows.reverse) := by
  have other : ¬IsRootRow detector.operators.symbols root "" :=
    fun isRoot => not_hasRoot_empty root isRoot.2
  rw [detector.detect_of_typed_eq_empty (typed_extendedTo missing),
    source?_scanPipe_eq_some_iff, rowsUpward_extendedTo missing]
  by_cases always : "" ∈ detector.operators.symbols
  · rw [reaches_replicate_of_mem other always]
    simp only [always, true_and]
    constructor
    · exact .inl
    · rintro (reaches | ⟨-, reaches⟩)
      · exact reaches
      · exact reaches.mono (Nat.zero_le 1)
  · rw [reaches_replicate_of_not_mem other always]
    simp only [always, false_and, false_or]
    constructor
    · rintro ⟨fewer, limit, reaches⟩
      obtain rfl : fewer = 0 := by omega
      exact ⟨by omega, reaches⟩
    · rintro ⟨line, reaches⟩
      exact ⟨0, by omega, reaches⟩

/--
On a row that the buffer does not have, all but the root of a chain is as on an
empty row, and a root that is found from an empty row is found there too.  The
contexts are the same exactly if the empty text is an operator, or if whatever
root is reached is reached from the first missing row and without passing a row
that has no operator.
-/
theorem detect_extendedTo_eq_iff
    {configuration : Configuration}
    {detector : Detector}
    (accepted : ofConfiguration configuration = .ok detector)
    (missing : rows.length ≤ cursor.line) :
    let symbols := configuration.pipeOperators
    let context := detector.detect rows cursor
    let extended := detector.detect (extendedTo cursor.line rows) cursor
    { extended with pipe := none } = { context with pipe := none } ∧
      (∀ root, extended.pipe = some root → context.pipe = some root) ∧
      (extended = context ↔
        "" ∈ symbols ∨
          ∀ root, Reaches symbols 1 (IsRootRow symbols root) rows.reverse →
            cursor.line = rows.length ∧
              Reaches symbols 0 (IsRootRow symbols root) rows.reverse) := by
  intro symbols context extended
  obtain ⟨listed, -, -⟩ := of_ofConfiguration_eq_ok accepted
  have known : detector.operators.symbols = symbols :=
    PipeOperators.symbols_of_ofList? listed
  have found (root : String) :
      context.pipe = some root ↔
        Reaches symbols 1 (IsRootRow symbols root) rows.reverse :=
    known ▸ detector.pipe_detect_of_missing missing root
  have foundExtended (root : String) :
      extended.pipe = some root ↔
        ("" ∈ symbols ∧
            Reaches symbols 1 (IsRootRow symbols root) rows.reverse) ∨
          (cursor.line = rows.length ∧
            Reaches symbols 0 (IsRootRow symbols root) rows.reverse) :=
    known ▸ detector.pipe_detect_extendedTo missing root
  have apart :
      { extended with pipe := none } = { context with pipe := none } := by
    simp only [extended, context,
      detector.detect_of_typed_eq_empty (typed_extendedTo missing),
      detector.detect_of_typed_eq_empty (typed_of_missing missing)]
  have equal_iff :
      extended = context ↔
        ∀ root, extended.pipe = some root ↔ context.pipe = some root := by
    rw [← Option.ext_iff]
    constructor
    · exact congrArg Context.pipe
    · intro pipe
      calc
        extended = { ({ extended with pipe := none } : Context) with
            pipe := extended.pipe } := rfl
        _ = { ({ context with pipe := none } : Context) with
            pipe := context.pipe } := by rw [apart, pipe]
        _ = context := rfl
  refine ⟨apart, ?_, ?_⟩
  · intro root
    rw [found, foundExtended]
    rintro (⟨-, reaches⟩ | ⟨-, reaches⟩)
    · exact reaches
    · exact reaches.mono (Nat.zero_le 1)
  · simp only [equal_iff, found, foundExtended]
    by_cases always : "" ∈ symbols
    · simp only [always, true_and, true_or, iff_true]
      intro root
      constructor
      · rintro (reaches | ⟨-, reaches⟩)
        · exact reaches
        · exact reaches.mono (Nat.zero_le 1)
      · exact .inl
    · simp only [always, false_and, false_or]
      constructor
      · intro same root reaches
        exact (same root).mpr reaches
      · intro implied root
        exact ⟨fun reaches => reaches.2.mono (Nat.zero_le 1), implied root⟩

end Detector

end Missing

/-- A chain that goes on right above is found from an added row as well. -/
theorem Detector.detect_below_chain :
    let rows := ["df %>%", "  select(x) |>"]
    let cursor : Cursor := ⟨2, 4⟩
    ofConfiguration {} = .ok Detector.default ∧
      rows.length ≤ cursor.line ∧
      Detector.default.detect (extendedTo cursor.line rows) cursor =
        Detector.default.detect rows cursor ∧
      ∀ root, Reaches ["%>%", "|>"] 1 (IsRootRow ["%>%", "|>"] root)
          rows.reverse →
        cursor.line = rows.length ∧
          Reaches ["%>%", "|>"] 0 (IsRootRow ["%>%", "|>"] root)
            rows.reverse := by
  intro rows cursor
  have missing : rows.length ≤ cursor.line := by decide
  have same :
      Detector.default.detect (extendedTo cursor.line rows) cursor =
        Detector.default.detect rows cursor := by decide
  have reached :=
    (detect_extendedTo_eq_iff ofConfiguration_default missing).2.2.mp same
  refine ⟨ofConfiguration_default, missing, same, ?_⟩
  exact reached.resolve_left (by decide)

/-- Below a row without an operator the root is found only if the row is missing. -/
theorem Detector.not_forall_detect_extendedTo_eq :
    ¬ ∀ (configuration : Configuration) (detector : Detector),
      ofConfiguration configuration = .ok detector →
      ∀ (rows : List String) (cursor : Cursor),
        rows.length ≤ cursor.line →
        detector.detect rows cursor =
          detector.detect (extendedTo cursor.line rows) cursor := by
  intro claimed
  have same :
      Detector.default.detect ["df %>%", "  head()"] ⟨2, 0⟩ =
        Detector.default.detect ["df %>%", "  head()", ""] ⟨2, 0⟩ :=
    claimed {} Detector.default ofConfiguration_default
      ["df %>%", "  head()"] ⟨2, 0⟩ (by decide)
  have pipes : some "df" = none := congrArg Context.pipe same
  exact absurd pipes (by decide)

end Buffer
end RCompletion
