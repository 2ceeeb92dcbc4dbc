import RCompletion.Proofs.Json.Records

/-!
# Forms of a value

The compact and the pretty form of a value have the same parts in the same
order, and differ only in the blanks between them.  What is said of every form
therefore holds of both.
-/

namespace RCompletion
namespace Json

/-- A way of writing values that has nothing but blanks between their parts. -/
structure Form (write : Nat → Json → List Char) : Prop where
  /-- A string is written as such. -/
  string : ∀ level value, write level (.string value) = writtenString value
  /-- A number is written as such. -/
  natural : ∀ level value, write level (.natural value) = writtenNatural value
  /-- The items of an array are written a level deeper. -/
  array : ∀ level items, ∃ gap closing,
    AllBlank gap ∧ AllBlank closing ∧
      write level (.array items) =
        arrayText gap closing (items.map (write (level + 1)))
  /-- The members of an object are written a level deeper. -/
  object : ∀ level members, ∃ gap valueGap closing,
    AllBlank gap ∧ AllBlank valueGap ∧ AllBlank closing ∧
      write level (.object members) =
        recordText gap valueGap closing
          (members.map fun (name, value) => (name, write (level + 1) value))

/-! ## The compact form -/

theorem compactItems_eq : ∀ items : List Json,
    compactItems items = separated [] (items.map compactCharacters)
  | [] => by
      rw [compactItems, List.map_nil, separated_nil]
  | [item] => by
      simp only [compactItems, List.map_cons, List.map_nil, separated_cons,
        followed_nil, List.append_nil, List.nil_append]
  | item :: next :: items => by
      rw [compactItems, compactItems_eq (next :: items)]
      simp only [List.map_cons, separated_cons, followed_cons, List.nil_append]

theorem compactMembers_eq : ∀ members : List (String × Json),
    compactMembers members =
      separated []
        ((members.map fun (name, value) =>
          (name, compactCharacters value)).map (memberText []))
  | [] => by
      rw [compactMembers, List.map_nil, List.map_nil, separated_nil]
  | [(name, value)] => by
      simp only [compactMembers, List.map_cons, List.map_nil, separated_cons,
        followed_nil, memberText_eq, List.append_nil, List.nil_append]
  | (name, value) :: next :: members => by
      rw [compactMembers, compactMembers_eq (next :: members)]
      simp only [List.map_cons, separated_cons, followed_cons, memberText_eq,
        List.nil_append, List.append_assoc, List.cons_append]

theorem form_compact : Form fun _ => compactCharacters where
  string := by
    intro level value
    rw [compactCharacters]
  natural := by
    intro level value
    rw [compactCharacters]
  array := by
    intro level items
    refine ⟨[], [], allBlank_nil, allBlank_nil, ?_⟩
    simp only [compactCharacters, compactItems_eq, arrayText, List.nil_append,
      List.cons_append]
  object := by
    intro level members
    refine ⟨[], [], [], allBlank_nil, allBlank_nil, allBlank_nil, ?_⟩
    simp only [compactCharacters, compactMembers_eq, recordText, List.nil_append,
      List.cons_append]

/-! ## The pretty form -/

theorem allBlank_newLine (level : Nat) : AllBlank (newLine level) := by
  intro character present
  rcases List.mem_cons.mp present with rfl | indentation
  · decide
  · rw [List.eq_of_mem_replicate indentation]
    decide

theorem prettyItems_eq (level : Nat) : ∀ items : List Json,
    prettyItems level items =
      separated (newLine level) (items.map (prettyCharacters level))
  | [] => by
      rw [prettyItems, List.map_nil, separated_nil]
  | [item] => by
      simp only [prettyItems, List.map_cons, List.map_nil, separated_cons,
        followed_nil, List.append_nil]
  | item :: next :: items => by
      rw [prettyItems, prettyItems_eq level (next :: items)]
      simp only [List.map_cons, separated_cons, followed_cons,
        List.append_assoc]

theorem prettyMembers_eq (level : Nat) : ∀ members : List (String × Json),
    prettyMembers level members =
      separated (newLine level)
        ((members.map fun (name, value) =>
          (name, prettyCharacters level value)).map (memberText [' ']))
  | [] => by
      rw [prettyMembers, List.map_nil, List.map_nil, separated_nil]
  | [(name, value)] => by
      simp only [prettyMembers, List.map_cons, List.map_nil, separated_cons,
        followed_nil, memberText_eq, List.append_nil, List.append_assoc,
        List.cons_append, List.nil_append]
  | (name, value) :: next :: members => by
      rw [prettyMembers, prettyMembers_eq level (next :: members)]
      simp only [List.map_cons, separated_cons, followed_cons, memberText_eq,
        List.append_assoc, List.cons_append, List.nil_append]

theorem form_pretty : Form prettyCharacters where
  string := by
    intro level value
    rw [prettyCharacters]
  natural := by
    intro level value
    rw [prettyCharacters]
  array := by
    intro level items
    cases items with
    | nil =>
        refine ⟨[], [], allBlank_nil, allBlank_nil, ?_⟩
        rw [prettyCharacters]
        rfl
    | cons item items =>
        refine ⟨newLine (level + 1), newLine level, allBlank_newLine _,
          allBlank_newLine _, ?_⟩
        simp only [prettyCharacters, prettyItems_eq, arrayText,
          List.append_assoc, List.cons_append]
  object := by
    intro level members
    cases members with
    | nil =>
        refine ⟨[], [' '], [], allBlank_nil, allBlank_space, allBlank_nil, ?_⟩
        rw [prettyCharacters]
        rfl
    | cons member members =>
        refine ⟨newLine (level + 1), [' '], newLine level, allBlank_newLine _,
          allBlank_space, allBlank_newLine _, ?_⟩
        simp only [prettyCharacters, prettyMembers_eq, recordText,
          List.append_assoc, List.cons_append]

/-! ## Layouts -/

section

variable {write : Nat → Json → List Char} (form : Form write)

include form

theorem Form.encloses (level : Nat) (items : List Json) :
    Frame.array.Encloses (items.map (write (level + 1)))
      (write level (.array items)) := by
  obtain ⟨gap, closing, gapBlank, closingBlank, written⟩ :=
    form.array level items
  rw [written]
  exact Frame.array.encloses_separated gapBlank closingBlank _

theorem Form.isObject (level : Nat) (members : List (String × Json)) :
    IsObject (members.map fun (name, value) => (name, write (level + 1) value))
      (write level (.object members)) := by
  obtain ⟨gap, valueGap, closing, gapBlank, valueGapBlank, closingBlank,
    written⟩ := form.object level members
  rw [written]
  exact isObject_recordText gapBlank valueGapBlank closingBlank _

/-! ## Beginnings -/

/-- Arrays and objects open with a bracket or a brace. -/
theorem Form.opens_array (level : Nat) (items : List Json) :
    Opens (write level (.array items)) := by
  obtain ⟨gap, closing, -, -, written⟩ := form.array level items
  rw [written]
  exact ⟨'[', _, rfl, by decide⟩

theorem Form.opens_object (level : Nat) (members : List (String × Json)) :
    Opens (write level (.object members)) := by
  obtain ⟨gap, valueGap, closing, -, -, -, written⟩ := form.object level members
  rw [written]
  exact ⟨'\x7B', _, rfl, by decide⟩

end

end Json
end RCompletion
