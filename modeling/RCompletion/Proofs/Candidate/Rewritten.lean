import RCompletion.Candidate.Json
import RCompletion.Proofs.Json.Forms
import RCompletion.Proofs.Json.Kept

/-!
# Candidates that are written again

A candidate that was read is nested no deeper than the reader allows, and its
category is the one that its tag names.  Every form of such a candidate is read
as this candidate, so that reading and writing again changes nothing.
-/

namespace RCompletion
namespace Candidate

open Json (Form Opens)

/-! ## What is read -/

/-- A reader with so many levels left can give a candidate.  A candidate takes one
level, and the array of its arguments another. -/
def FitsIn : Nat → Candidate → Prop
  | 0, _ => False
  | 1, candidate =>
      Category.ofTag candidate.category.tag = candidate.category ∧
        candidate.arguments = none
  | depth + 2, candidate =>
      Category.ofTag candidate.category.tag = candidate.category ∧
        ∀ arguments ∈ candidate.arguments,
          ∀ argument ∈ arguments, FitsIn depth argument

/-- The fields keep a category that its tag names, and what arguments are read. -/
theorem keeps_shape
    {readArguments : Json.Reader (Option (List Candidate))}
    {property : Option (List Candidate) → Prop}
    (gives : readArguments.Gives property) :
    (shape readArguments).Keeps fun candidate =>
      Category.ofTag candidate.category.tag = candidate.category ∧
        property candidate.arguments := by
  intro field listed value ⟨named, known⟩ text next rest read
  simp only [shape, List.mem_cons, List.not_mem_nil, or_false] at listed
  rcases listed with rfl | rfl | rfl | rfl | rfl | rfl
  all_goals
    obtain ⟨⟨stored, after⟩, taken, same⟩ := Json.map_eq_ok_iff.mp read
    cases same
  · exact ⟨named, known⟩
  · exact ⟨by rw [Category.tag_ofTag], known⟩
  · exact ⟨named, known⟩
  · exact ⟨named, known⟩
  · exact ⟨named, known⟩
  · exact ⟨named, gives _ _ _ taken⟩

/-- Reading nests candidates no deeper than there are levels. -/
theorem gives_readAt : ∀ depth, (readAt depth).Gives (FitsIn depth)
  | 0 => Json.RecordShape.gives_read_zero _ _
  | 1 => by
      have noArguments :
          (Json.readNullable (Json.readList 0
            fun _ => .error .malformed)).Gives
              fun arguments : Option (List Candidate) => arguments = none := by
        intro text arguments rest read
        have none_ := (Json.gives_readList_zero _).nullable _ _ _ read
        exact Option.eq_none_iff_forall_not_mem.mpr none_
      exact (keeps_shape noArguments).read 1 ⟨rfl, rfl⟩
  | depth + 2 => by
      have arguments := ((gives_readAt depth).list (depth + 1)).nullable
      exact (keeps_shape arguments).read (depth + 2)
        ⟨rfl, fun _ present => absurd present (Option.not_mem_none _)⟩

/-! ## What is written -/

theorem listToJson_eq (candidates : List Candidate) :
    listToJson candidates = candidates.map toJson := by
  induction candidates with
  | nil => rw [listToJson, List.map_nil]
  | cons candidate candidates inductionHypothesis =>
      rw [listToJson, inductionHypothesis, List.map_cons]

/-- The members that are written for a candidate. -/
def members (candidate : Candidate) : List (String × Json) :=
  ("label", .string candidate.label) ::
    ("category", .string candidate.category.tag) ::
      (optionalMember "package" (candidate.package.map .string) ++
        ("menu", .string candidate.menu) ::
          (optionalMember "snippet" (candidate.snippet.map .string) ++
            optionalMember "arguments"
              (candidate.arguments.map fun arguments =>
                .array (arguments.map toJson))))

theorem toJson_eq (candidate : Candidate) :
    candidate.toJson = .object candidate.members := by
  obtain ⟨label, category, package, menu, snippet, arguments⟩ := candidate
  cases arguments with
  | none => simp [toJson, members, argumentsMember, optionalMember]
  | some arguments =>
      simp [toJson, members, argumentsMember, optionalMember, listToJson_eq]

/-- The members of a candidate with their values in a form. -/
def writtenMembers
    (write : Json → List Char)
    (members : List (String × Json)) : List (String × List Char) :=
  members.map fun (name, value) => (name, write value)

/-- A value that may be missing is stored if it is written, and else stays missing. -/
theorem stores_optionalMember
    {shape : Json.RecordShape α}
    {write : Json → List Char}
    (store : α → Option β → α)
    {encode : β → Json}
    {read : Json.Reader (Option β)}
    {name : String}
    {required : Bool}
    {value final : α}
    {stored? : Option β}
    {others : List (String × Json)}
    (found : shape.fields.find? (·.name = name) = some
      { name := name
        required := required
        read := fun value text =>
          (read text).map fun (stored?, rest) => (store value stored?, rest) })
    (taken : ∀ stored ∈ stored?,
      read.Takes (write (encode stored)) (some stored))
    (missing : store value none = value)
    (stores : shape.Stores (store value stored?)
      (writtenMembers write others) final) :
    shape.Stores value
      (writtenMembers write
        (optionalMember name (stored?.map encode) ++ others)) final := by
  cases stored? with
  | none =>
      rw [missing] at stores
      exact stores
  | some stored =>
      exact .member found ((taken stored rfl).map (store value)) stores

/-- The members of a candidate, stored one after the other, make the candidate. -/
theorem stores_members
    {write : Json → List Char}
    {readArguments : Json.Reader (Option (List Candidate))}
    {candidate : Candidate}
    (string : ∀ value, write (.string value) = Json.writtenString value)
    (named : Category.ofTag candidate.category.tag = candidate.category)
    (taken : ∀ arguments ∈ candidate.arguments,
      readArguments.Takes (write (.array (arguments.map toJson)))
        (some arguments)) :
    (shape readArguments).Stores blank
      (writtenMembers write candidate.members) candidate := by
  have takesString (value : String) :
      Json.readString.Takes (write (.string value)) value := by
    rw [string]
    exact Json.takes_writtenString value
  have takesNullable (value : String) :
      (Json.readNullable Json.readString).Takes (write (.string value))
        (some value) := by
    apply (takesString value).nullable
    rw [string]
    exact ⟨'"', _, rfl, by decide⟩
  obtain ⟨label, category, package, menu, snippet, arguments⟩ := candidate
  -- each member adds its value to what the members before it made of the blank
  refine .member rfl
    ((takesString label).map fun label => { blank with label := label }) ?_
  refine .member rfl
    ((takesString category.tag).map fun tag =>
      { blank with label := label, category := .ofTag tag }) ?_
  rw [named]
  refine stores_optionalMember
    (fun candidate package => { candidate with package := package })
    rfl (fun package _ => takesNullable package) rfl ?_
  refine .member rfl
    ((takesString menu).map fun menu =>
      { blank with
        label := label, category := category, package := package,
        menu := menu }) ?_
  refine stores_optionalMember
    (fun candidate snippet => { candidate with snippet := snippet })
    rfl (fun snippet _ => takesNullable snippet) rfl ?_
  rw [← List.append_nil (optionalMember "arguments" _)]
  exact stores_optionalMember
    (fun candidate arguments => { candidate with arguments := arguments })
    rfl taken rfl (.done _)

/-- The members of a candidate have different names, and the needed ones are there. -/
theorem distinct_and_complete_members
    (write : Json → List Char)
    (readArguments : Json.Reader (Option (List Candidate)))
    (candidate : Candidate) :
    ((writtenMembers write candidate.members).map (·.1)).Nodup ∧
      (shape readArguments).Complete
        ((writtenMembers write candidate.members).map (·.1)) := by
  obtain ⟨label, category, package, menu, snippet, arguments⟩ := candidate
  cases package <;> cases snippet <;> cases arguments <;>
    simp [writtenMembers, members, optionalMember, Json.RecordShape.Complete,
      shape]

/-- A candidate is read from every form of it if its arguments are. -/
theorem takes_shape
    {write : Nat → Json → List Char}
    (form : Form write)
    {readArguments : Json.Reader (Option (List Candidate))}
    {candidate : Candidate}
    {level : Nat}
    (named : Category.ofTag candidate.category.tag = candidate.category)
    (taken : ∀ arguments ∈ candidate.arguments,
      readArguments.Takes
        (write (level + 1) (.array (arguments.map toJson)))
        (some arguments))
    (depth : Nat) :
    ((shape readArguments).read (depth + 1) blank).Takes
      (write level candidate.toJson) candidate := by
  obtain ⟨gap, valueGap, closing, gapBlank, valueGapBlank, closingBlank,
    written⟩ := form.object level candidate.members
  obtain ⟨distinct, complete⟩ :=
    distinct_and_complete_members (write (level + 1)) readArguments candidate
  rw [toJson_eq, written]
  exact Json.RecordShape.takes_recordText gapBlank valueGapBlank closingBlank
    (stores_members (form.string (level + 1)) named taken) distinct complete
    depth

/-- A candidate that fits is read from every form of it. -/
theorem takes_readAt
    {write : Nat → Json → List Char}
    (form : Form write) :
    ∀ {depth : Nat} {candidate : Candidate}, candidate.FitsIn depth →
      ∀ level, (readAt depth).Takes (write level candidate.toJson) candidate
  | 0, _, fits, _ => fits.elim
  | 1, candidate, ⟨named, noArguments⟩, level => by
      -- no level is left for an array, and none was read
      refine takes_shape form named (fun arguments known => ?_) 0
      rw [noArguments] at known
      exact absurd known (Option.not_mem_none arguments)
  | depth + 2, candidate, ⟨named, fits⟩, level => by
      refine takes_shape form named (fun arguments known => ?_) (depth + 1)
      refine Json.Reader.Takes.nullable ?_ (form.opens_array _ _)
      obtain ⟨gap, closing, gapBlank, closingBlank, written⟩ :=
        form.array (level + 1) (arguments.map toJson)
      rw [written, List.map_map]
      apply Json.takes_arrayText gapBlank closingBlank
      · rw [List.forall₂_map_left_iff, List.forall₂_same]
        intro argument offered
        exact takes_readAt form (fits arguments known argument offered) _
      · intro item listed
        obtain ⟨argument, -, rfl⟩ := List.mem_map.mp listed
        rw [Function.comp_apply, toJson_eq]
        exact form.opens_object _ _

/-! ## Documents -/

/-- A document nests candidates no deeper than the reader allows. -/
theorem fitsIn_of_ofJson_eq_ok
    {text : String}
    {candidate : Candidate}
    (read : ofJson text = .ok candidate) :
    candidate.FitsIn Json.depthLimit := by
  rw [ofJson, Json.readDocument, Json.bind_eq_ok_iff] at read
  obtain ⟨⟨value, rest⟩, taken, ended⟩ := read
  simp only at ended
  split at ended
  · cases ended
    exact gives_readAt _ _ _ _ taken
  · cases ended

/-- A document in any form of a candidate that fits is read as the candidate. -/
theorem ofJson_ofList_write
    {write : Nat → Json → List Char}
    (form : Form write)
    {candidate : Candidate}
    (fits : candidate.FitsIn Json.depthLimit)
    (level : Nat) :
    ofJson (String.ofList (write level candidate.toJson)) = .ok candidate := by
  have taken :=
    takes_readAt form fits level [] [] Json.allBlank_nil Json.stops_nil
  rw [List.append_nil, List.nil_append] at taken
  rw [ofJson, Json.readDocument, String.toList_ofList, taken]
  rfl

/-- A candidate that was read is read again from its compact and its pretty text,
so that writing what is read gives the same two texts. -/
theorem ofJson_compact_and_pretty
    {text : String}
    {candidate : Candidate}
    (read : ofJson text = .ok candidate) :
    ∀ written ∈ [candidate.toJson.compact, candidate.toJson.pretty],
      ofJson written = .ok candidate ∧
        (ofJson written).map (fun again =>
            (again.toJson.compact, again.toJson.pretty)) =
          .ok (candidate.toJson.compact, candidate.toJson.pretty) := by
  have fits := fitsIn_of_ofJson_eq_ok read
  have fromCompact : ofJson candidate.toJson.compact = .ok candidate :=
    ofJson_ofList_write Json.form_compact fits 0
  have fromPretty : ofJson candidate.toJson.pretty = .ok candidate :=
    ofJson_ofList_write Json.form_pretty fits 0
  intro written listed
  have fromWritten : ofJson written = .ok candidate := by
    rcases List.mem_pair.mp listed with rfl | rfl
    · exact fromCompact
    · exact fromPretty
  rw [fromWritten]
  exact ⟨rfl, rfl⟩

/-- An object with an unknown field, whose argument is an array of its fields. -/
theorem compact_and_pretty_of_unknown_field :
    let text :=
      "\x7b\"menu\":\"\\u0071\",\"unit\":[1]," ++
        "\"arguments\":[[\"x\",\"argument\",null,\"\"]]," ++
        "\"category\":\"function\",\"label\":\"f\"\x7d"
    let compact :=
      "\x7b\"label\":\"f\",\"category\":\"function\",\"menu\":\"q\"," ++
        "\"arguments\":[\x7b\"label\":\"x\",\"category\":\"argument\"," ++
        "\"menu\":\"\"\x7d]\x7d"
    ∃ candidate,
      ofJson text = .ok candidate ∧ candidate.toJson.compact = compact ∧
        ofJson compact = .ok candidate ∧
        ofJson candidate.toJson.pretty = .ok candidate := by
  intro text compact
  have evaluated :
      (ofJson text).toOption.map (·.toJson.compact) = some compact := by
    decide +kernel
  cases read : ofJson text with
  | error problem =>
      rw [read] at evaluated
      cases evaluated
  | ok candidate =>
      rw [read] at evaluated
      have written : candidate.toJson.compact = compact :=
        Option.some.inj evaluated
      have again := ofJson_compact_and_pretty read
      have fromCompact := (again _ List.mem_cons_self).1
      have fromPretty :=
        (again _ (List.mem_cons_of_mem _ List.mem_cons_self)).1
      rw [written] at fromCompact
      exact ⟨candidate, rfl, written, fromCompact, fromPretty⟩

end Candidate
end RCompletion
