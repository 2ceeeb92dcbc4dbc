import RCompletion.Json.Reader

/-!
# What reading keeps

A record is read field by field.  A property of the value to start with that no
field gives up is one of the value that is read, from an object as well as from
an array of the fields.  The values of a list have every property that the
reader of one value gives.
-/

namespace RCompletion
namespace Json

/-! ## Results -/

theorem bind_eq_ok_iff
    {first : Except Error α}
    {next : α → Except Error β}
    {result : β} :
    first >>= next = .ok result ↔
      ∃ value, first = .ok value ∧ next value = .ok result := by
  cases first <;> simp [bind, Except.bind]

theorem map_eq_ok_iff
    {first : Except Error α}
    {change : α → β}
    {result : β} :
    first.map change = .ok result ↔
      ∃ value, first = .ok value ∧ change value = result := by
  cases first <;> simp [Except.map]

/-! ## Lists -/

/-- Every value that a reader gives has a property. -/
def Reader.Gives (read : Reader α) (property : α → Prop) : Prop :=
  ∀ text value rest, read text = .ok (value, rest) → property value

theorem Reader.Gives.elements
    {read : Reader α}
    {property : α → Prop}
    (gives : read.Gives property)
    (fuel : Nat)
    (first : Bool) :
    Reader.Gives (readElements read fuel first)
      fun values => ∀ value ∈ values, property value := by
  intro text values rest result
  induction fuel generalizing first text values rest with
  | zero => exact absurd result (by simp [readElements])
  | succ turns inductionHypothesis =>
      rw [readElements, bind_eq_ok_iff] at result
      obtain ⟨⟨value?, after⟩, -, result⟩ := result
      cases value? with
      | none =>
          simp only [bind_eq_ok_iff] at result
          obtain ⟨_, -, ended⟩ := result
          cases ended
          intro value present
          exact absurd present List.not_mem_nil
      | some value =>
          simp only [bind_eq_ok_iff] at result
          obtain ⟨⟨element, next⟩, readElement, ⟨elements, end_⟩, readOthers,
            combined⟩ := result
          cases combined
          rw [List.forall_mem_cons]
          exact ⟨gives _ _ _ readElement,
            inductionHypothesis false _ _ _ readOthers⟩

theorem Reader.Gives.list
    {read : Reader α}
    {property : α → Prop}
    (gives : read.Gives property)
    (depth : Nat) :
    (readList depth read).Gives
      fun values => ∀ value ∈ values, property value := by
  intro text values rest result
  unfold readList at result
  split at result
  · split at result
    · cases result
    · exact gives.elements _ _ _ _ _ result
  · cases result

/-- Without levels left no array is read. -/
theorem gives_readList_zero (read : Reader α) :
    (readList 0 read).Gives fun _ => False := by
  intro text values rest result
  unfold readList at result
  split at result
  · cases result
  · cases result

theorem Reader.Gives.nullable
    {read : Reader α}
    {property : α → Prop}
    (gives : read.Gives property) :
    (readNullable read).Gives fun value? => ∀ value ∈ value?, property value := by
  intro text value? rest result
  unfold readNullable at result
  split at result
  · obtain ⟨_, -, same⟩ := map_eq_ok_iff.mp result
    cases same
    intro value present
    exact absurd present (Option.not_mem_none value)
  · obtain ⟨⟨value, after⟩, taken, same⟩ := map_eq_ok_iff.mp result
    cases same
    intro other present
    cases present
    exact gives _ _ _ taken

/-! ## Records -/

variable {shape : RecordShape α} {property : α → Prop}

/-- No field of a record gives up a property as it is stored. -/
def RecordShape.Keeps (shape : RecordShape α) (property : α → Prop) : Prop :=
  ∀ field ∈ shape.fields, ∀ value, property value →
    (field.read value).Gives property

theorem RecordShape.Keeps.readMembers
    (keeps : shape.Keeps property)
    (fuel : Nat)
    (first : Bool)
    (seen : List String)
    {value : α}
    (before : property value) :
    Reader.Gives (shape.readMembers fuel first seen value) property := by
  intro text result rest read
  induction fuel generalizing first seen value text with
  | zero => cases read
  | succ turns inductionHypothesis =>
      rw [RecordShape.readMembers, bind_eq_ok_iff] at read
      obtain ⟨⟨start?, after⟩, -, read⟩ := read
      cases start? with
      | none =>
          simp only at read
          split at read
          · cases read
          · cases read
            exact before
      | some start =>
          simp only [bind_eq_ok_iff] at read
          obtain ⟨⟨name, named⟩, -, read⟩ := read
          split at read
          · simp only [bind_eq_ok_iff] at read
            obtain ⟨_, -, _, -, read⟩ := read
            exact inductionHypothesis _ _ before _ read
          · rename_i field found
            simp only at read
            split at read
            · cases read
            · simp only [bind_eq_ok_iff] at read
              obtain ⟨_, -, ⟨next, further⟩, stored, read⟩ := read
              have listed := List.mem_of_find?_eq_some found
              exact inductionHypothesis _ _
                (keeps field listed value before _ _ _ stored) _ read

theorem RecordShape.Keeps.readPositions
    (keeps : shape.Keeps property)
    (fields : List (Field α))
    (listed : ∀ field ∈ fields, field ∈ shape.fields)
    (position : Nat)
    {value : α}
    (before : property value) :
    Reader.Gives (shape.readPositions fields position value) property := by
  intro text result rest read
  induction fields generalizing position value text with
  | nil =>
      rw [RecordShape.readPositions, bind_eq_ok_iff] at read
      obtain ⟨_, -, same⟩ := read
      cases same
      exact before
  | cons field fields inductionHypothesis =>
      obtain ⟨own, others⟩ := List.forall_mem_cons.mp listed
      rw [RecordShape.readPositions, bind_eq_ok_iff] at read
      obtain ⟨⟨start?, after⟩, -, read⟩ := read
      cases start? with
      | none =>
          simp only at read
          split at read
          · cases read
          · exact inductionHypothesis others _ before _ read
      | some start =>
          simp only [bind_eq_ok_iff] at read
          obtain ⟨⟨next, further⟩, stored, read⟩ := read
          exact inductionHypothesis others _
            (keeps field own value before _ _ _ stored) _ read

/-- A record has every property of its first value that its fields keep. -/
theorem RecordShape.Keeps.read
    (keeps : shape.Keeps property)
    (depth : Nat)
    {start : α}
    (before : property start) :
    (shape.read depth start).Gives property := by
  intro text result rest taken
  unfold RecordShape.read at taken
  split at taken
  · split at taken
    · cases taken
    · exact keeps.readMembers _ _ _ before _ _ _ taken
  · split at taken
    · cases taken
    · exact keeps.readPositions _ (fun _ listed => listed) _ before _ _ _ taken
  · cases taken

/-- Without levels left no record is read. -/
theorem RecordShape.gives_read_zero (shape : RecordShape α) (start : α) :
    (shape.read 0 start).Gives fun _ => False := by
  intro text value rest result
  unfold RecordShape.read at result
  split at result
  · cases result
  · cases result
  · cases result

end Json
end RCompletion
