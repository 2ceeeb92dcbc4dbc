import RCompletion.Proofs.Buffer.Chain
import RCompletion.Proofs.Buffer.Rows

/-!
# Where the search for a root ends

Going up from the cursor, the search passes rows that continue a chain without
naming its root, and a single row without an operator.  It ends at the first
row that names a root or that looks like the start of a statement, provided
that it gets that far, and is exhausted otherwise.
-/

namespace RCompletion
namespace Buffer

/-! ## Rows on the way -/

/-- A row continues a chain without naming its root. -/
def IsRootlessRow (symbols : List String) (row : String) : Prop :=
  IsPipeRow symbols row ∧ ∀ root, ¬HasRoot symbols row root

/-- A row neither continues a chain nor starts a statement. -/
def IsPlainRow (symbols : List String) (row : String) : Prop :=
  ¬IsPipeRow symbols row ∧ ¬IsAssignmentRow row

/--
Going up, a row of some kind is reached after rows without a root, of which at
most the given number have no operator, and none of these starts a statement.
-/
def Reaches
    (symbols : List String)
    (limit : Nat)
    (kind : String → Prop)
    (rows : List String) : Prop :=
  ∃ before row after, rows = before ++ row :: after ∧
    (∀ passed ∈ before,
      IsRootlessRow symbols passed ∨ IsPlainRow symbols passed) ∧
    before.countP (¬IsPipeRow symbols ·) ≤ limit ∧ kind row

section

variable {symbols : List String} {limit : Nat} {kind : String → Prop}

theorem not_reaches_nil : ¬Reaches symbols limit kind [] := by
  rintro ⟨before, row, after, parts, -⟩
  simp at parts

/-- A row is the one that is reached, or it is passed. -/
theorem reaches_cons_iff (row : String) (rows : List String) :
    Reaches symbols limit kind (row :: rows) ↔
      kind row ∨
        (IsRootlessRow symbols row ∧ Reaches symbols limit kind rows) ∨
          (IsPlainRow symbols row ∧
            ∃ fewer, limit = fewer + 1 ∧ Reaches symbols fewer kind rows) := by
  constructor
  · rintro ⟨before, reached, after, parts, passed, few, isKind⟩
    cases before with
    | nil =>
        rw [List.nil_append, List.cons.injEq] at parts
        exact .inl (parts.1 ▸ isKind)
    | cons first others =>
        rw [List.cons_append, List.cons.injEq] at parts
        obtain ⟨rfl, rfl⟩ := parts
        obtain ⟨firstPassed, othersPassed⟩ := List.forall_mem_cons.mp passed
        refine .inr ?_
        rcases firstPassed with rootless | plain
        · rw [List.countP_cons_of_neg (by simpa using rootless.1)] at few
          exact .inl ⟨rootless, others, reached, after, rfl, othersPassed,
            few, isKind⟩
        · rw [List.countP_cons_of_pos (by simpa using plain.1)] at few
          refine .inr ⟨plain, limit - 1, by omega, others, reached, after,
            rfl, othersPassed, by omega, isKind⟩
  · rintro (isKind | ⟨rootless, others, reached, after, rfl, passed, few,
      isKind⟩ | ⟨plain, fewer, rfl, others, reached, after, rfl, passed, few,
      isKind⟩)
    · exact ⟨[], row, rows, rfl, by simp, by simp, isKind⟩
    · refine ⟨row :: others, reached, after, rfl,
        List.forall_mem_cons.mpr ⟨.inl rootless, passed⟩, ?_, isKind⟩
      rw [List.countP_cons_of_neg (by simpa using rootless.1)]
      exact few
    · refine ⟨row :: others, reached, after, rfl,
        List.forall_mem_cons.mpr ⟨.inr plain, passed⟩, ?_, isKind⟩
      rw [List.countP_cons_of_pos (by simpa using plain.1)]
      exact Nat.succ_le_succ few

end

/-! ## The search -/

namespace PipeScan

/-- A search may end with a result at a row. -/
def EndsAt (symbols : List String) (result : PipeScan) (row : String) : Prop :=
  match result with
  | found root => IsPipeRow symbols row ∧ HasRoot symbols row root
  | hitAssignment => ¬IsPipeRow symbols row ∧ IsAssignmentRow row
  | _ => False

/-- What a row does to a search that goes on. -/
theorem step_scanning
    (operators : PipeOperators)
    (count : Nat)
    (row : String) :
    (∃ result, EndsAt operators.symbols result row ∧
        step operators (scanning count) row = result) ∨
      (IsRootlessRow operators.symbols row ∧
        step operators (scanning count) row = scanning count) ∨
      (IsPlainRow operators.symbols row ∧
        step operators (scanning count) row =
          if rowLimit ≤ count + 1 then exhausted
          else scanning (count + 1)) := by
  unfold step
  by_cases piped : operators.occurIn row = true
  · have pipeRow := (operators.occurIn_iff row).mp piped
    simp only [piped, if_true]
    cases named : operators.root? row with
    | some root =>
        exact .inl ⟨found root,
          ⟨pipeRow, (operators.root?_eq_some_iff row root).mp named⟩, rfl⟩
    | none =>
        refine .inr (.inl ⟨⟨pipeRow, fun root has => ?_⟩, rfl⟩)
        rw [← operators.root?_eq_some_iff, named] at has
        exact absurd has (by simp)
  · have noPipeRow := mt (operators.occurIn_iff row).mpr piped
    simp only [piped, Bool.false_eq_true, if_false]
    by_cases assigns : isAssignment row = true
    · exact .inl ⟨hitAssignment,
        ⟨noPipeRow, (isAssignment_iff row).mp assigns⟩, by rw [if_pos assigns]⟩
    · have plain := mt (isAssignment_iff row).mpr assigns
      exact .inr (.inr ⟨⟨noPipeRow, plain⟩, by rw [if_neg assigns]⟩)

section

variable {symbols : List String} {result other : PipeScan} {row : String}

theorem EndsAt.isScanning (ends : EndsAt symbols result row) :
    result.isScanning = false := by
  cases result with
  | scanning count => exact ends.elim
  | found root => rfl
  | hitAssignment => rfl
  | exhausted => rfl

/-- A search does not go past the row that it ends at. -/
theorem EndsAt.not_passed (ends : EndsAt symbols result row) :
    ¬IsRootlessRow symbols row ∧ ¬IsPlainRow symbols row := by
  cases result with
  | scanning count => exact ends.elim
  | found root =>
      exact ⟨fun rootless => rootless.2 root ends.2,
        fun plain => plain.1 ends.1⟩
  | hitAssignment =>
      exact ⟨fun rootless => ends.1 rootless.1, fun plain => plain.2 ends.2⟩
  | exhausted => exact ends.elim

/-- A row leaves no choice of the result that a search ends with. -/
theorem EndsAt.unique
    (one : EndsAt symbols result row)
    (another : EndsAt symbols other row) :
    result = other := by
  cases result with
  | scanning count => exact one.elim
  | found root =>
      cases other with
      | found otherRoot =>
          obtain ⟨before, first⟩ := one.2
          obtain ⟨otherBefore, otherFirst⟩ := another.2
          rw [String.toList_inj.mp (first.unique otherFirst)]
      | hitAssignment => exact absurd one.1 another.1
      | scanning count => exact another.elim
      | exhausted => exact another.elim
  | hitAssignment =>
      cases other with
      | found root => exact absurd another.1 one.1
      | hitAssignment => rfl
      | scanning count => exact another.elim
      | exhausted => exact another.elim
  | exhausted => exact one.elim

end

/--
A search that has passed some rows without an operator ends with a result if it
reaches a row for it while passing no more than are left.
-/
theorem run_eq_iff_reaches
    (operators : PipeOperators)
    {result : PipeScan}
    (ended : result ≠ exhausted)
    {count limit : Nat}
    (left : count + limit + 1 = rowLimit)
    (rows : List String) :
    run operators (scanning count) rows = result ↔
      Reaches operators.symbols limit (EndsAt operators.symbols result)
        rows := by
  induction rows generalizing count limit with
  | nil => exact iff_of_false (Ne.symm ended) not_reaches_nil
  | cons row rows inductionHypothesis =>
      have steps :
          run operators (scanning count) (row :: rows) =
            run operators (step operators (scanning count) row) rows := rfl
      rw [steps, reaches_cons_iff]
      rcases step_scanning operators count row with
        ⟨other, ends, stepped⟩ | ⟨rootless, stepped⟩ | ⟨plain, stepped⟩
      · rw [stepped, run_of_finished operators ends.isScanning]
        simp only [ends.not_passed, false_and, or_false]
        exact ⟨fun same => same ▸ ends, fun same => ends.unique same⟩
      · have passed : ¬EndsAt operators.symbols result row :=
          fun ends => ends.not_passed.1 rootless
        have noPlain : ¬IsPlainRow operators.symbols row :=
          fun plain => plain.1 rootless.1
        simp only [passed, rootless, noPlain, true_and, false_and, false_or,
          or_false]
        rw [stepped]
        exact inductionHypothesis left
      · have passed : ¬EndsAt operators.symbols result row :=
          fun ends => ends.not_passed.2 plain
        have noRootless : ¬IsRootlessRow operators.symbols row :=
          fun rootless => plain.1 rootless.1
        simp only [passed, plain, noRootless, true_and, false_and, false_or]
        rw [stepped]
        split
        · -- no further row without an operator may be passed
          rename_i last
          rw [run_of_finished operators rfl]
          refine iff_of_false (Ne.symm ended) ?_
          rintro ⟨fewer, rfl, -⟩
          omega
        · obtain ⟨fewer, rfl⟩ : ∃ fewer, limit = fewer + 1 :=
            ⟨limit - 1, by omega⟩
          have fewerLeft : count + 1 + fewer + 1 = rowLimit := by omega
          rw [inductionHypothesis fewerLeft]
          simp

/-- A search over rows does not go on after the last one. -/
theorem isScanning_run
    (operators : PipeOperators)
    (state : PipeScan)
    (rows : List String) :
    (run operators state rows).isScanning = false := by
  induction rows generalizing state with
  | nil => cases state <;> rfl
  | cons row rows inductionHypothesis =>
      rw [run]
      split
      · exact inductionHypothesis _
      · rename_i finished
        exact Bool.not_eq_true _ ▸ finished

end PipeScan

/-! ## Buffers -/

/-- The rows of a buffer down to that of the cursor, which is cut at its column. -/
def rowsToCursor (rows : List String) (cursor : Cursor) : List String :=
  (rows.take (cursor.line + 1)).mapIdx fun line row =>
    if line = cursor.line then beforeColumn row cursor.column else row

/-- The search goes through the rows down to the cursor, last one first. -/
theorem rowsUpward_eq_reverse (rows : List String) (cursor : Cursor) :
    rowsUpward rows cursor = (rowsToCursor rows cursor).reverse := by
  have above :
      (rows.take cursor.line).mapIdx (fun line row =>
          if line = cursor.line then beforeColumn row cursor.column
          else row) =
        rows.take cursor.line := by
    apply List.ext_getElem
    · rw [List.length_mapIdx]
    · intro line within _
      rw [List.length_mapIdx, List.length_take] at within
      rw [List.getElem_mapIdx, if_neg (by omega)]
  rw [rowsToCursor, List.take_add_one, List.mapIdx_append, above, rowsUpward]
  cases row : rows[cursor.line]? with
  | none => simp
  | some row =>
      obtain ⟨present, -⟩ := List.getElem?_eq_some_iff.mp row
      have length : (rows.take cursor.line).length = cursor.line :=
        List.length_take_of_le present.le
      simp [length]

/--
Whatever the accepted operators are, the search for the root of a pipe chain
finds exactly the root of the first row that it reaches going up, if that row
names one; it hits an assignment exactly if that row is one; and it is
exhausted exactly if it reaches neither.
-/
theorem scanPipe_eq_iff
    {symbols : List String}
    {operators : PipeOperators}
    (accepted : PipeOperators.ofList? symbols = some operators)
    (rows : List String)
    (cursor : Cursor) :
    let upward := (rowsToCursor rows cursor).reverse
    let isRoot := fun root row =>
      IsPipeRow symbols row ∧ HasRoot symbols row root
    let isStatement := fun row =>
      ¬IsPipeRow symbols row ∧ IsAssignmentRow row
    (∀ root, scanPipe operators rows cursor = .found root ↔
        Reaches symbols 1 (isRoot root) upward) ∧
      (scanPipe operators rows cursor = .hitAssignment ↔
        Reaches symbols 1 isStatement upward) ∧
      (scanPipe operators rows cursor = .exhausted ↔
        (∀ root, ¬Reaches symbols 1 (isRoot root) upward) ∧
          ¬Reaches symbols 1 isStatement upward) := by
  intro upward isRoot isStatement
  obtain rfl := PipeOperators.symbols_of_ofList? accepted
  have search :
      scanPipe operators rows cursor =
        PipeScan.run operators (.scanning 0) upward := by
    rw [scanPipe, rowsUpward_eq_reverse]
    rfl
  have found : ∀ root, scanPipe operators rows cursor = .found root ↔
      Reaches operators.symbols 1 (isRoot root) upward := by
    intro root
    rw [search]
    exact PipeScan.run_eq_iff_reaches operators (by simp) rfl upward
  have hit : scanPipe operators rows cursor = .hitAssignment ↔
      Reaches operators.symbols 1 isStatement upward := by
    rw [search]
    exact PipeScan.run_eq_iff_reaches operators (by simp) rfl upward
  refine ⟨found, hit, ?_⟩
  simp only [← found, ← hit]
  -- the only results that are left are those of a search that goes on
  have ended : (scanPipe operators rows cursor).isScanning = false :=
    PipeScan.isScanning_run _ _ _
  cases result : scanPipe operators rows cursor with
  | scanning count =>
      rw [result] at ended
      exact absurd ended (by simp [PipeScan.isScanning])
  | found root => simp
  | hitAssignment => simp
  | exhausted => simp

/--
With operators made of special characters, a root above a rootless row and a
plain one is reached; below a further plain row it is not.
-/
theorem scanPipe_special :
    let symbols := ["+.", "(|"]
    let near := ["x <- a.b$c\x09+. g(1)", "  h() (|", "  k(d) +. e"]
    let far := ["a.b$c +. g(1)", "  h() (|", "  p()", "  k(d) +. e"]
    let isRoot := fun row => IsPipeRow symbols row ∧ HasRoot symbols row "a.b$c"
    ∃ operators, PipeOperators.ofList? symbols = some operators ∧
      scanPipe operators near ⟨2, 5⟩ = .found "a.b$c" ∧
      Reaches symbols 1 isRoot (rowsToCursor near ⟨2, 5⟩).reverse ∧
      scanPipe operators far ⟨3, 5⟩ = .exhausted ∧
      ¬Reaches symbols 1 isRoot (rowsToCursor far ⟨3, 5⟩).reverse := by
  intro symbols near far isRoot
  have accepted :
      PipeOperators.ofList? symbols = some ⟨symbols, by decide⟩ := rfl
  exact ⟨_, accepted, by decide,
    ((scanPipe_eq_iff accepted near ⟨2, 5⟩).1 "a.b$c").mp (by decide),
    by decide,
    ((scanPipe_eq_iff accepted far ⟨3, 5⟩).2.2.mp (by decide)).1 "a.b$c"⟩

end Buffer
end RCompletion
