import RCompletion.Proofs.Json.Numbers

/-!
# Values that are skipped

Every value is skipped up to its end, however deeply its arrays and objects are
nested.  Every part of an array or an object takes no more turns than twice its
characters, so that the turns that are allowed are enough.
-/

namespace RCompletion
namespace Json

/-! ## Values -/

/-- The text of a value that is neither an array nor an object. -/
inductive IsScalar : List Char → Prop
  | literal
      {text : List Char}
      (listed : text ∈ ["null".toList, "true".toList, "false".toList]) :
      IsScalar text
  | number
      {text : List Char}
      (isNumber : IsNumber text) :
      IsScalar text
  | string
      {body : List Char}
      (isBody : IsStringBody body) :
      IsScalar ('"' :: (body ++ ['"']))

/-- A part of an array is a value, and a part of an object has a name before it. -/
def Frame.IsPart (frame : Frame) (value part : List Char) : Prop :=
  match frame with
  | array => part = value
  | object => ∃ body, IsStringBody body ∧ IsMember body value part

/-- The text of any value, with any blanks inside it. -/
inductive IsValue : List Char → Prop
  | scalar
      {text : List Char}
      (isScalar : IsScalar text) :
      IsValue text
  | composite
      {frame : Frame}
      {values parts : List (List Char)}
      {text : List Char}
      (each : ∀ value ∈ values, IsValue value)
      (isPart : List.Forall₂ frame.IsPart values parts)
      (encloses : frame.Encloses parts text) :
      IsValue text

/-! ## Beginnings -/

theorem IsScalar.begins
    {text : List Char}
    (isScalar : IsScalar text) :
    Begins text := by
  cases isScalar with
  | literal listed =>
      simp only [List.mem_cons, List.not_mem_nil, or_false] at listed
      rcases listed with rfl | rfl | rfl
      all_goals exact ⟨_, _, rfl, by decide, by decide⟩
  | number isNumber =>
      obtain ⟨first, rest, rfl, starts⟩ := isNumber.exists_cons
      exact begins_of_sign_or_digit starts rest
  | string isBody => exact ⟨'"', _, rfl, by decide, by decide⟩

theorem Frame.Encloses.begins
    {frame : Frame}
    {parts : List (List Char)}
    {text : List Char}
    (encloses : frame.Encloses parts text) :
    Begins text := by
  have opens (rest : List Char) : Begins (frame.opening :: rest) := by
    refine ⟨frame.opening, rest, rfl, ?_, ?_⟩ <;> cases frame <;> decide
  cases encloses with
  | empty blank => exact opens _
  | filled blank others => exact opens _

theorem IsValue.begins
    {text : List Char}
    (isValue : IsValue text) :
    Begins text := by
  cases isValue with
  | scalar isScalar => exact isScalar.begins
  | composite each isPart encloses => exact encloses.begins

section

variable {frame : Frame} {value part : List Char}

theorem Frame.IsPart.begins
    (isPart : frame.IsPart value part)
    (begins : Begins value) :
    Begins part := by
  cases frame with
  | array =>
      obtain rfl : part = value := isPart
      exact begins
  | object =>
      obtain ⟨body, -, isMember⟩ := isPart
      exact isMember.begins

theorem Frame.IsPart.length_le (isPart : frame.IsPart value part) :
    value.length ≤ part.length := by
  cases frame with
  | array =>
      obtain rfl : part = value := isPart
      exact Nat.le_refl _
  | object =>
      obtain ⟨body, -, isMember⟩ := isPart
      exact isMember.length_le

/-- The name of a part is skipped, which leaves its value after blanks. -/
theorem Frame.IsPart.skipName_append
    (isPart : frame.IsPart value part)
    {before : List Char}
    (blank : AllBlank before)
    (rest : List Char) :
    ∃ after, AllBlank after ∧
      frame.skipName (before ++ (part ++ rest)) =
        .ok (after ++ (value ++ rest)) := by
  cases frame with
  | array =>
      obtain rfl : part = value := isPart
      exact ⟨before, blank, rfl⟩
  | object =>
      obtain ⟨body, isBody, colonGap, after, colonBlank, afterBlank, rfl⟩ :=
        isPart
      have quote : isBlank '"' = false := by decide
      refine ⟨after, afterBlank, ?_⟩
      simp only [skipName, List.cons_append, List.append_assoc,
        dropBlanks_append_cons blank quote, isBody.skipStringBody_append,
        bind, Except.bind, readColon_append colonBlank]

end

/-! ## Starts -/

section

variable {text blanks rest : List Char} (blank : AllBlank blanks)

include blank

theorem IsNumber.skipStart_append
    (isNumber : IsNumber text)
    (stops : Stops rest) :
    skipStart (blanks ++ (text ++ rest)) = .ok (none, rest) := by
  have skipped := isNumber.skipNumber_append stops
  obtain ⟨first, more, rfl, starts⟩ := isNumber.exists_cons
  obtain ⟨_, _, same, visible, -⟩ := begins_of_sign_or_digit starts more
  cases same
  rw [List.cons_append] at skipped
  rw [List.cons_append, skipStart, dropBlanks_append_cons blank visible]
  split
  case h_8 same =>
    cases same
    rw [if_pos starts, skipped]
    rfl
  -- neither a sign nor a digit starts anything else
  case h_1 same => cases same
  all_goals
    rename_i same
    cases same
    exact absurd starts (by decide)

/-- A value that is no array and no object is skipped at once. -/
theorem IsScalar.skipStart_append
    (isScalar : IsScalar text)
    (stops : Stops rest) :
    skipStart (blanks ++ (text ++ rest)) = .ok (none, rest) := by
  cases isScalar with
  | literal listed =>
      simp only [List.mem_cons, List.not_mem_nil, or_false] at listed
      rcases listed with rfl | rfl | rfl
      all_goals
        simp only [String.reduceToList, List.cons_append, List.nil_append]
        rw [skipStart, dropBlanks_append_cons blank (by decide)]
        rfl
  | number isNumber => exact isNumber.skipStart_append blank stops
  | string isBody =>
      have quote : isBlank '"' = false := by decide
      simp only [skipStart, List.cons_append, List.append_assoc,
        List.nil_append, dropBlanks_append_cons blank quote,
        isBody.skipStringBody_append, Except.map]

theorem skipStart_opening (frame : Frame) :
    skipStart (blanks ++ frame.opening :: rest) = .ok (some frame, rest) := by
  have visible : isBlank frame.opening = false := by
    cases frame <;> decide
  rw [skipStart, dropBlanks_append_cons blank visible]
  cases frame <;> rfl

end

/-! ## Turns -/

section

variable {frame : Frame} {gap : List Char} (blank : AllBlank gap)

include blank

theorem skipFrames_closing
    {state : SkipState}
    (noValue : state ≠ .value)
    (fuel : Nat)
    (frames : List Frame)
    (rest : List Char) :
    skipFrames (fuel + 1) state (frame :: frames)
        (gap ++ frame.closing :: rest) =
      skipFrames fuel .filled frames rest := by
  cases state with
  | value => exact absurd rfl noValue
  | opened | filled =>
      simp only [skipFrames, dropBlanks_append_cons blank frame.isBlank_closing,
        if_true]

/-- The first part of a frame comes without a comma. -/
theorem skipFrames_opened
    {part : List Char}
    (begins : Begins part)
    (fuel : Nat)
    (frames : List Frame)
    (rest : List Char) :
    skipFrames (fuel + 1) .opened (frame :: frames) (gap ++ (part ++ rest)) =
      (frame.skipName (part ++ rest) >>=
        skipFrames fuel .value (frame :: frames)) := by
  obtain ⟨first, more, rfl, visible, goesOn⟩ := begins
  have noClosing : first ≠ frame.closing := by
    rintro rfl
    exact goesOn frame.closing_mem_separators
  simp only [List.cons_append, skipFrames, dropBlanks_append_cons blank visible,
    if_neg noClosing, if_true]

theorem skipFrames_comma
    (fuel : Nat)
    (frames : List Frame)
    (rest : List Char) :
    skipFrames (fuel + 1) .filled (frame :: frames) (gap ++ ',' :: rest) =
      (frame.skipName rest >>= skipFrames fuel .value (frame :: frames)) := by
  have comma : isBlank ',' = false := by decide
  have noClosing : ',' ≠ frame.closing := by
    cases frame <;> decide
  have filled : ¬SkipState.filled = .opened := by decide
  simp only [skipFrames, dropBlanks_append_cons blank comma, if_neg noClosing,
    if_neg filled, if_true]

end

/-! ## Nested values -/

/-- A text is skipped inside a frame, in fewer turns than twice its characters. -/
def IsSkipped (text : List Char) : Prop :=
  ∃ turns, turns < 2 * text.length ∧
    ∀ fuel frame frames blanks rest, AllBlank blanks → Stops rest →
      skipFrames (fuel + turns) .value (frame :: frames)
          (blanks ++ (text ++ rest)) =
        skipFrames fuel .filled (frame :: frames) rest

theorem IsScalar.isSkipped
    {text : List Char}
    (isScalar : IsScalar text) :
    IsSkipped text := by
  refine ⟨1, ?_, fun fuel frame frames blanks rest blank stops => ?_⟩
  · obtain ⟨first, more, rfl, -⟩ := isScalar.begins
    simp only [List.length_cons]
    omega
  · simp only [skipFrames, isScalar.skipStart_append blank stops, bind,
      Except.bind]

/-- A part is skipped with its name, in fewer turns than twice its characters. -/
theorem Frame.IsPart.isSkipped
    {frame : Frame}
    {value part before : List Char}
    (isPart : frame.IsPart value part)
    (skipped : IsSkipped value)
    (blank : AllBlank before) :
    ∃ turns, turns < 2 * part.length ∧ ∀ fuel frames rest, Stops rest →
      (frame.skipName (before ++ (part ++ rest)) >>=
          skipFrames (fuel + turns) .value (frame :: frames)) =
        skipFrames fuel .filled (frame :: frames) rest := by
  obtain ⟨turns, few, left⟩ := skipped
  have shorter := isPart.length_le
  refine ⟨turns, by omega, fun fuel frames rest stops => ?_⟩
  obtain ⟨after, afterBlank, named⟩ := isPart.skipName_append blank rest
  rw [named]
  exact left fuel frame frames after rest afterBlank stops

section

variable {frame : Frame} {values parts : List (List Char)} {text : List Char}

/-- Parts that follow commas are skipped with the end of their frame. -/
theorem skipFrames_followed
    (followed : Followed parts text)
    (skipped : ∀ value ∈ values, IsSkipped value)
    (isPart : List.Forall₂ frame.IsPart values parts) :
    ∃ turns, turns ≤ 2 * text.length + 1 ∧ ∀ fuel frames rest,
      skipFrames (fuel + turns) .filled (frame :: frames)
          (text ++ frame.closing :: rest) =
        skipFrames fuel .filled frames rest := by
  induction followed generalizing values with
  | @nil gap blank =>
      refine ⟨1, by omega, fun fuel frames rest => ?_⟩
      exact skipFrames_closing blank (by decide) fuel frames rest
  | @cons gap before part text parts gapBlank beforeBlank others
      inductionHypothesis =>
      obtain _ | @⟨value, _, values, _, own, isOthers⟩ := isPart
      obtain ⟨ownSkipped, othersSkipped⟩ := List.forall_mem_cons.mp skipped
      obtain ⟨ownTurns, ownFew, ownLeft⟩ := own.isSkipped ownSkipped beforeBlank
      obtain ⟨turns, few, left⟩ := inductionHypothesis othersSkipped isOthers
      refine ⟨turns + ownTurns + 1, ?_, fun fuel frames rest => ?_⟩
      · simp only [List.length_append, List.length_cons]
        omega
      · have stops := others.stops frame.closing_mem_separators rest
        simp only [List.append_assoc, List.cons_append]
        rw [← Nat.add_assoc, skipFrames_comma gapBlank, ← Nat.add_assoc,
          ownLeft _ _ _ stops, left]

/-- What a frame encloses is skipped with its end, once the frame is open. -/
theorem Frame.Encloses.skipFrames_opened
    (encloses : frame.Encloses parts text)
    (begins : ∀ value ∈ values, Begins value)
    (skipped : ∀ value ∈ values, IsSkipped value)
    (isPart : List.Forall₂ frame.IsPart values parts) :
    ∃ inner turns, text = frame.opening :: inner ∧
      turns < 2 * inner.length ∧ ∀ fuel frames rest,
        skipFrames (fuel + turns) .opened (frame :: frames) (inner ++ rest) =
          skipFrames fuel .filled frames rest := by
  cases encloses with
  | @empty gap blank =>
      refine ⟨_, 1, rfl, ?_, fun fuel frames rest => ?_⟩
      · simp only [List.length_append, List.length_singleton]
        omega
      · rw [List.append_assoc, List.singleton_append]
        exact skipFrames_closing blank (by decide) fuel frames rest
  | @filled gap part text parts blank others =>
      obtain _ | @⟨value, _, values, _, own, isOthers⟩ := isPart
      obtain ⟨ownSkipped, othersSkipped⟩ := List.forall_mem_cons.mp skipped
      obtain ⟨ownTurns, ownFew, ownLeft⟩ :=
        own.isSkipped ownSkipped allBlank_nil
      obtain ⟨turns, few, left⟩ :=
        skipFrames_followed others othersSkipped isOthers
      refine ⟨_, turns + ownTurns + 1, rfl, ?_, fun fuel frames rest => ?_⟩
      · simp only [List.length_append, List.length_singleton]
        omega
      · have stops := others.stops frame.closing_mem_separators rest
        have partBegins := own.begins (begins value List.mem_cons_self)
        have partLeft := ownLeft (fuel + turns) frames _ stops
        rw [List.nil_append] at partLeft
        simp only [List.append_assoc, List.singleton_append]
        rw [← Nat.add_assoc, Json.skipFrames_opened blank partBegins,
          ← Nat.add_assoc, partLeft, left]

end

theorem IsValue.isSkipped
    {text : List Char}
    (isValue : IsValue text) :
    IsSkipped text := by
  induction isValue with
  | scalar isScalar => exact isScalar.isSkipped
  | @composite frame values parts text each isPart encloses
      inductionHypothesis =>
      obtain ⟨inner, turns, rfl, few, left⟩ := encloses.skipFrames_opened
        (fun value listed => (each value listed).begins) inductionHypothesis
        isPart
      refine ⟨turns + 1, ?_, fun fuel outer frames blanks rest blank _ => ?_⟩
      · rw [List.length_cons]
        omega
      · simp only [List.cons_append, skipFrames, skipStart_opening blank, bind,
          Except.bind]
        exact left fuel (outer :: frames) rest

/-- Every value is skipped up to its end, after any blanks. -/
theorem IsValue.skipValue_append
    {text : List Char}
    (isValue : IsValue text)
    {blanks rest : List Char}
    (blank : AllBlank blanks)
    (stops : Stops rest) :
    skipValue (blanks ++ (text ++ rest)) = .ok rest := by
  cases isValue with
  | scalar isScalar =>
      simp only [skipValue, isScalar.skipStart_append blank stops, bind,
        Except.bind]
      rfl
  | @composite frame values parts _ each isPart encloses =>
      obtain ⟨inner, turns, rfl, few, left⟩ := encloses.skipFrames_opened
        (fun value listed => (each value listed).begins)
        (fun value listed => (each value listed).isSkipped) isPart
      -- what is left of the turns is enough to find that no frame is open
      obtain ⟨fuel, same⟩ : ∃ fuel,
          2 * (inner ++ rest).length + 2 = fuel + 1 + turns := by
        refine ⟨2 * (inner ++ rest).length + 1 - turns, ?_⟩
        rw [List.length_append]
        omega
      simp only [skipValue, List.cons_append, skipStart_opening blank, bind,
        Except.bind]
      rw [same, left, skipFrames]

end Json
end RCompletion
