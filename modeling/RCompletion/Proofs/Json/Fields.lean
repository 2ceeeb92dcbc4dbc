import RCompletion.Proofs.Json.Forms
import Mathlib.Data.List.Nodup

/-!
# Chosen fields of a record

An object may hold some fields of a record and any unknown members, in any
order.  A record that stores every field by itself is read from it as the value
to start with where exactly these fields are replaced.
-/

namespace RCompletion
namespace Json

/-! ## Texts of values -/

/-- The text of a string, in any spelling. -/
def StringText (value : String) (text : List Char) : Prop :=
  ∃ body, Spells body value.toList ∧ text = '"' :: (body ++ ['"'])

/-- The text of a number. -/
def NaturalText (value : Nat) (text : List Char) : Prop :=
  text = writtenNatural value

/-- The text of an array of strings. -/
def StringsText (values : List String) (text : List Char) : Prop :=
  ∃ items, List.Forall₂ StringText values items ∧
    Frame.array.Encloses items text

theorem StringText.takes
    {value : String}
    {text : List Char}
    (isText : StringText value text)
    (wanted : Wanted) :
    (readText wanted).Takes text value := by
  obtain ⟨body, spells, rfl⟩ := isText
  exact takes_spelled spells wanted

theorem StringText.begins
    {value : String}
    {text : List Char}
    (isText : StringText value text) :
    Begins text := by
  obtain ⟨body, -, rfl⟩ := isText
  exact ⟨'"', _, rfl, by decide, by decide⟩

theorem NaturalText.takes
    {value : Nat}
    {text : List Char}
    (isText : NaturalText value text)
    (fits : value ≤ largestNatural32) :
    readNatural32.Takes text value := by
  obtain rfl : text = writtenNatural value := isText
  exact takes_writtenNatural fits

/-- What is related to a list has something related to each of its items. -/
theorem exists_mem_of_forall₂
    {related : α → β → Prop}
    {items : List α}
    {others : List β}
    (all : List.Forall₂ related items others)
    {item : α}
    (listed : item ∈ items) :
    ∃ other ∈ others, related item other := by
  induction all with
  | nil => cases listed
  | cons own _ inductionHypothesis =>
      rcases List.mem_cons.mp listed with rfl | later
      · exact ⟨_, List.mem_cons_self, own⟩
      · obtain ⟨other, present, isRelated⟩ := inductionHypothesis later
        exact ⟨other, List.mem_cons_of_mem _ present, isRelated⟩

theorem StringsText.takes
    {values : List String}
    {text : List Char}
    (isText : StringsText values text)
    (depth : Nat) :
    (readList (depth + 1) readString).Takes text values := by
  obtain ⟨items, each, encloses⟩ := isText
  have texts : List.Forall₂ (flip StringText) items values := each.flip
  apply encloses.takes
  · exact texts.imp fun item value isItem => StringText.takes isItem .string
  · intro item listed
    obtain ⟨value, -, isItem⟩ := exists_mem_of_forall₂ texts listed
    exact StringText.begins isItem

theorem stringText_writtenString (value : String) :
    StringText value (writtenString value) :=
  ⟨_, spells_written value.toList, rfl⟩

section

variable {write : Nat → Json → List Char} (form : Form write)

include form

theorem Form.stringText (level : Nat) (value : String) :
    StringText value (write level (.string value)) := by
  rw [form.string]
  exact stringText_writtenString value

theorem Form.stringsText (level : Nat) (values : List String) :
    StringsText values (write level (.array (values.map .string))) := by
  refine ⟨_, ?_, form.encloses level _⟩
  rw [List.forall₂_map_right_iff, List.forall₂_map_right_iff,
    List.forall₂_same]
  intro value _
  exact form.stringText (level + 1) value

end

/-! ## Objects -/

/-- Fields by their names, with what is asked of the texts of their values. -/
abbrev FieldTexts :=
  List (String × (List Char → Prop))

/-- The names of fields. -/
def FieldTexts.names (fields : FieldTexts) : List String :=
  fields.map (·.1)

/-- Members hold those fields that have a chosen name, each once, and any others
that are not fields. -/
structure FieldTexts.HeldBy
    (fields : FieldTexts)
    (chosen : List String)
    (members : List (String × List Char)) : Prop where
  text : ∀ member ∈ members, ∀ field ∈ fields,
    field.1 = member.1 → field.2 member.2
  unknown : ∀ member ∈ members, member.1 ∉ fields.names → IsValue member.2
  once : ((members.map (·.1)).filter (· ∈ fields.names)).Nodup
  chosen : ∀ name ∈ fields.names, name ∈ members.map (·.1) ↔ name ∈ chosen

/-- The text of an object that holds the fields with a chosen name. -/
def FieldTexts.ObjectText
    (fields : FieldTexts)
    (chosen : List String)
    (text : List Char) : Prop :=
  ∃ members, fields.HeldBy chosen members ∧ IsObject members text

/-- Members that are the fields in their order hold all of them. -/
theorem FieldTexts.heldBy_names
    {fields : FieldTexts}
    {members : List (String × List Char)}
    (distinct : fields.names.Nodup)
    (texts : List.Forall₂
      (fun member field => field.1 = member.1 ∧ field.2 member.2)
      members fields) :
    fields.HeldBy fields.names members := by
  have same : members.map (·.1) = fields.names := by
    rw [names, ← List.forall₂_eq_eq_eq, List.forall₂_map_left_iff,
      List.forall₂_map_right_iff]
    exact texts.imp fun member field own => own.1.symm
  refine ⟨?text, ?unknown, ?once, fun name _ => by rw [same]⟩
  case text =>
    intro member present field listed named
    obtain ⟨own, ownListed, ownNamed, ownText⟩ :=
      exists_mem_of_forall₂ texts present
    have equal : field = own :=
      List.inj_on_of_nodup_map distinct listed ownListed
        (named.trans ownNamed.symm)
    rw [equal]
    exact ownText
  case unknown =>
    intro member present unknown
    rw [← same] at unknown
    exact absurd (List.mem_map_of_mem present) unknown
  case once =>
    rw [same]
    exact distinct.filter _

/-! ## Storing -/

/-- A field is stored in what was picked by some names, which picks it too. -/
structure Field.Picks
    (field : Field α)
    (pick : List String → α)
    (expected : String × (List Char → Prop)) : Prop where
  name : field.name = expected.1
  optional : field.required = false
  takes : ∀ seen text, expected.2 text →
    (field.read (pick seen)).Takes text (pick (field.name :: seen))

/-- What is picked depends on the names of fields, each of which is stored. -/
structure RecordShape.Picks
    (shape : RecordShape α)
    (pick : List String → α)
    (fields : FieldTexts) : Prop where
  stored : List.Forall₂ (fun field expected => field.Picks pick expected)
    shape.fields fields
  same : ∀ seen others, (∀ name ∈ fields.names, name ∈ seen ↔ name ∈ others) →
    pick seen = pick others

section

variable {shape : RecordShape α} {pick : List String → α} {fields : FieldTexts}
  (picks : shape.Picks pick fields)

include picks

theorem RecordShape.Picks.names_eq :
    shape.fields.map (·.name) = fields.names := by
  rw [FieldTexts.names, ← List.forall₂_eq_eq_eq, List.forall₂_map_left_iff,
    List.forall₂_map_right_iff]
  exact picks.stored.imp fun field expected own => own.name

/-- Storing members picks their names too. -/
theorem RecordShape.Picks.stores
    {members : List (String × List Char)}
    (text : ∀ member ∈ members, ∀ field ∈ fields,
      field.1 = member.1 → field.2 member.2)
    (unknown : ∀ member ∈ members, member.1 ∉ fields.names → IsValue member.2)
    (seen : List String) :
    shape.Stores (pick seen) members
      (pick ((members.map (·.1)).reverse ++ seen)) := by
  induction members generalizing seen with
  | nil => exact .done _
  | cons member members inductionHypothesis =>
      obtain ⟨ownText, othersText⟩ := List.forall_mem_cons.mp text
      obtain ⟨ownUnknown, othersUnknown⟩ := List.forall_mem_cons.mp unknown
      have others := inductionHypothesis othersText othersUnknown
        (member.1 :: seen)
      rw [List.map_cons, List.reverse_cons, List.append_assoc,
        List.singleton_append]
      cases found : shape.fields.find? (·.name = member.1) with
      | some field =>
          obtain ⟨expected, listed, own⟩ := exists_mem_of_forall₂ picks.stored
            (List.mem_of_find?_eq_some found)
          have named := List.find?_some found
          rw [decide_eq_true_iff] at named
          have takes := own.takes seen member.2
            (ownText expected listed (own.name.symm.trans named))
          rw [named] at takes
          exact .member found takes others
      | none =>
          have noField : member.1 ∉ fields.names := by
            rw [← picks.names_eq]
            exact find?_eq_none_iff.mp found
          -- an unknown name picks nothing
          have same : pick (member.1 :: seen) = pick seen := by
            apply picks.same
            intro name isField
            rw [List.mem_cons]
            exact or_iff_right fun equal => noField (equal ▸ isField)
          rw [same] at others
          exact .unknown found (ownUnknown noField) others

/-- A record is read from an object as what the names that it holds pick. -/
theorem RecordShape.Picks.takes
    {chosen : List String}
    {text : List Char}
    (isText : fields.ObjectText chosen text)
    (depth : Nat) :
    (shape.read (depth + 1) (pick [])).Takes text (pick chosen) := by
  obtain ⟨members, held, isObject⟩ := isText
  have same : pick ((members.map (·.1)).reverse ++ []) = pick chosen := by
    apply picks.same
    intro name isField
    rw [List.append_nil, List.mem_reverse]
    exact held.chosen name isField
  have stores := picks.stores held.text held.unknown []
  rw [same] at stores
  refine takes_object isObject stores ⟨?distinct, ?complete⟩ depth
  case distinct =>
    rw [List.nil_append, known, picks.names_eq]
    exact held.once
  case complete =>
    intro field listed required
    obtain ⟨expected, -, own⟩ := exists_mem_of_forall₂ picks.stored listed
    rw [own.optional] at required
    cases required

end

end Json
end RCompletion
