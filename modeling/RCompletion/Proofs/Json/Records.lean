import RCompletion.Proofs.Json.Skipped
import RCompletion.Proofs.Json.Taken

/-!
# Records that readers take

The members of an object are read one after the other.  Each of them is stored
in what the members before it made, or skipped if its name is none of a field.
Members are taken for what storing them makes, in any order, as long as no field
is given twice and none is missing that has to be given.
-/

namespace RCompletion
namespace Json

/-! ## Members -/

theorem nextMember_end
    {closing : List Char}
    (blank : AllBlank closing)
    (first : Bool)
    (rest : List Char) :
    nextMember first (closing ++ '\x7D' :: rest) = .ok (none, rest) := by
  have brace : isBlank '\x7D' = false := by decide
  simp only [nextMember, dropBlanks_append_cons blank brace]

theorem nextMember_first
    {gap : List Char}
    (blank : AllBlank gap)
    (rest : List Char) :
    nextMember true (gap ++ '"' :: rest) = .ok (some rest, rest) := by
  have quote : isBlank '"' = false := by decide
  have goesOn : '"' ≠ '\x7D' := by decide
  simp only [nextMember, dropBlanks_append_cons blank quote, if_true]

theorem nextMember_comma
    {gap before : List Char}
    (gapBlank : AllBlank gap)
    (beforeBlank : AllBlank before)
    (rest : List Char) :
    nextMember false (gap ++ ',' :: (before ++ '"' :: rest)) =
      .ok (some rest, rest) := by
  have comma : isBlank ',' = false := by decide
  have quote : isBlank '"' = false := by decide
  have goesOn : ',' ≠ '\x7D' := by decide
  simp only [nextMember, dropBlanks_append_cons gapBlank comma,
    Bool.false_eq_true, if_false, if_true,
    dropBlanks_append_cons beforeBlank quote]

/-! ## Storing -/

variable {shape : RecordShape α}

/-- Storing members one after the other makes a value of another one, where unknown
members change nothing. -/
inductive RecordShape.Stores (shape : RecordShape α) :
    α → List (String × List Char) → α → Prop
  | done (value : α) : shape.Stores value [] value
  | member
      {value next final : α}
      {name : String}
      {text : List Char}
      {members : List (String × List Char)}
      {field : Field α}
      (found : shape.fields.find? (·.name = name) = some field)
      (takes : (field.read value).Takes text next)
      (others : shape.Stores next members final) :
      shape.Stores value ((name, text) :: members) final
  | unknown
      {value final : α}
      {name : String}
      {text : List Char}
      {members : List (String × List Char)}
      (found : shape.fields.find? (·.name = name) = none)
      (isValue : IsValue text)
      (others : shape.Stores value members final) :
      shape.Stores value ((name, text) :: members) final

/-- Those of some names that are names of fields. -/
def RecordShape.known (shape : RecordShape α) (names : List String) :
    List String :=
  names.filter (· ∈ shape.fields.map (·.name))

/-- No field is missing that has to be given. -/
def RecordShape.Complete (shape : RecordShape α) (names : List String) : Prop :=
  ∀ field ∈ shape.fields, field.required = true → field.name ∈ names

theorem RecordShape.Complete.missing?_eq_none
    {names : List String}
    (complete : shape.Complete names) :
    shape.missing? names = none := by
  rw [missing?, List.find?_eq_none]
  intro field listed lacking
  rw [Bool.and_eq_true, Bool.not_eq_true', ← Bool.not_eq_true,
    List.contains_iff_mem] at lacking
  exact lacking.2 (complete field listed lacking.1)

theorem RecordShape.find?_eq_none_iff {name : String} :
    shape.fields.find? (·.name = name) = none ↔
      name ∉ shape.fields.map (·.name) := by
  rw [List.find?_eq_none, List.mem_map, not_exists]
  simp only [decide_eq_true_iff, not_and]

/-- What is known of names after some of them were seen: no field is given twice
and none is missing. -/
structure RecordShape.Allows
    (shape : RecordShape α)
    (seen names : List String) : Prop where
  distinct : (seen ++ shape.known names).Nodup
  complete : shape.Complete (seen ++ names)

section

variable {name : String} {seen names : List String}

/-- The name of a field joins the names that were seen. -/
theorem RecordShape.Allows.of_find?_eq_some
    (allows : shape.Allows seen (name :: names))
    {field : Field α}
    (found : shape.fields.find? (·.name = name) = some field) :
    name ∉ seen ∧ shape.Allows (name :: seen) names := by
  have known : name ∈ shape.fields.map (·.name) := by
    have same := List.find?_some found
    rw [decide_eq_true_iff] at same
    exact List.mem_map.mpr ⟨field, List.mem_of_find?_eq_some found, same⟩
  have kept : shape.known (name :: names) = name :: shape.known names :=
    List.filter_cons_of_pos (decide_eq_true known)
  have distinct := allows.distinct
  rw [kept, List.perm_middle.nodup_iff] at distinct
  refine ⟨fun present => ?_, distinct, fun field listed required => ?_⟩
  · exact (List.nodup_cons.mp distinct).1 (List.mem_append_left _ present)
  · exact List.perm_middle.mem_iff.mp (allows.complete field listed required)

/-- The name of no field is passed over. -/
theorem RecordShape.Allows.of_find?_eq_none
    (allows : shape.Allows seen (name :: names))
    (found : shape.fields.find? (·.name = name) = none) :
    shape.Allows seen names := by
  have unknown := find?_eq_none_iff.mp found
  have dropped : shape.known (name :: names) = shape.known names :=
    List.filter_cons_of_neg (by simpa using unknown)
  refine ⟨dropped ▸ allows.distinct, fun field listed required => ?_⟩
  have present := allows.complete field listed required
  rw [List.perm_middle.mem_iff, List.mem_cons] at present
  refine present.resolve_left fun same => ?_
  exact unknown (List.mem_map.mpr ⟨field, listed, same⟩)

end

/-! ## Reading members -/

section

variable {member : String × List Char} {members : List (String × List Char)}
  {value final : α} {seen : List String}

/-- A member is read before the ones that follow it, and stored or skipped. -/
theorem RecordShape.Stores.readMembers_cons
    (stores : shape.Stores value (member :: members) final)
    (allows : shape.Allows seen ((member :: members).map (·.1)))
    {part : List Char}
    (isMember : IsNamedMember member part) :
    ∃ start next seenNext, part = '"' :: start ∧
      shape.Stores next members final ∧
      shape.Allows seenNext (members.map (·.1)) ∧
      ∀ fuel first text rest, Stops rest →
        nextMember first text = .ok (some (start ++ rest), start ++ rest) →
        shape.readMembers (fuel + 1) first seen value text =
          shape.readMembers fuel false seenNext next rest := by
  obtain ⟨start, after, rfl, blank, named⟩ := isMember.exists_cons
  cases stores with
  | member found takes others =>
      obtain ⟨fresh, allowsNext⟩ := allows.of_find?_eq_some found
      refine ⟨start, _, _, rfl, others, allowsNext,
        fun fuel first text rest stops goesOn => ?_⟩
      obtain ⟨colon, nameRead, colonRead⟩ := named rest
      have unseen := List.contains_iff_mem.not.mpr fresh
      simp only [readMembers, goesOn, bind, Except.bind, nameRead, found,
        if_neg unseen, colonRead, takes after rest blank stops]
  | unknown found isValue others =>
      refine ⟨start, _, _, rfl, others, allows.of_find?_eq_none found,
        fun fuel first text rest stops goesOn => ?_⟩
      obtain ⟨colon, nameRead, colonRead⟩ := named rest
      simp only [readMembers, goesOn, bind, Except.bind, nameRead, found,
        colonRead, isValue.skipValue_append blank stops]

theorem RecordShape.readMembers_end
    {closing : List Char}
    (blank : AllBlank closing)
    (complete : shape.Complete seen)
    (fuel : Nat)
    (first : Bool)
    (value : α)
    (rest : List Char) :
    shape.readMembers (fuel + 1) first seen value (closing ++ '\x7D' :: rest) =
      .ok (value, rest) := by
  simp only [readMembers, nextMember_end blank, bind, Except.bind,
    complete.missing?_eq_none]
  rfl

/-- Members that follow commas are read one after the other. -/
theorem RecordShape.readMembers_followed
    {parts : List (List Char)}
    {text : List Char}
    (followed : Followed parts text)
    (named : List.Forall₂ IsNamedMember members parts)
    (stores : shape.Stores value members final)
    (allows : shape.Allows seen (members.map (·.1)))
    (rest : List Char)
    {fuel : Nat}
    (enough : parts.length < fuel) :
    shape.readMembers fuel false seen value (text ++ '\x7D' :: rest) =
      .ok (final, rest) := by
  induction followed generalizing members value seen fuel with
  | nil blank =>
      cases named
      cases stores
      obtain ⟨turns, rfl⟩ := Nat.exists_eq_add_one.mpr enough
      have complete := allows.complete
      rw [List.map_nil, List.append_nil] at complete
      exact readMembers_end blank complete turns false _ rest
  | cons gapBlank beforeBlank others inductionHypothesis =>
      obtain _ | ⟨isMember, othersNamed⟩ := named
      obtain ⟨turns, rfl⟩ := Nat.exists_eq_add_one.mpr
        (Nat.zero_lt_of_lt enough)
      obtain ⟨start, next, seenNext, rfl, storesOthers, allowsOthers, step⟩ :=
        stores.readMembers_cons allows isMember
      simp only [List.cons_append, List.append_assoc]
      rw [step turns false _ _ (others.stops (by decide) rest)
        (nextMember_comma gapBlank beforeBlank _)]
      exact inductionHypothesis othersNamed storesOthers allowsOthers
        (Nat.lt_of_succ_lt_succ enough)

/-- A record is taken for what storing its members makes of the first value. -/
theorem RecordShape.takes_object
    {text : List Char}
    (isObject : IsObject members text)
    (stores : shape.Stores value members final)
    (allows : shape.Allows [] (members.map (·.1)))
    (depth : Nat) :
    (shape.read (depth + 1) value).Takes text final := by
  intro blanks rest blank _
  have brace : isBlank '\x7B' = false := by decide
  obtain ⟨parts, named, encloses⟩ := isObject
  cases encloses with
  | empty gapBlank =>
      cases named
      cases stores
      simp only [Frame.opening, Frame.closing, read, List.cons_append,
        dropBlanks_append_cons blank brace, if_neg (Nat.succ_ne_zero depth),
        List.append_assoc, List.nil_append]
      exact readMembers_end gapBlank allows.complete _ true _ rest
  | filled gapBlank others =>
      obtain _ | ⟨isMember, othersNamed⟩ := named
      obtain ⟨start, next, seenNext, rfl, storesOthers, allowsOthers, step⟩ :=
        stores.readMembers_cons allows isMember
      simp only [Frame.opening, Frame.closing, read, List.cons_append,
        dropBlanks_append_cons blank brace, if_neg (Nat.succ_ne_zero depth),
        List.append_assoc, List.nil_append]
      rw [step _ true _ _ (others.stops (by decide) rest)
        (nextMember_first gapBlank _)]
      apply readMembers_followed others othersNamed storesOthers allowsOthers
      have bounded := others.length_le
      simp only [List.length_append, List.length_cons]
      omega

end

/-! ## The same gaps everywhere -/

/-- A member after its first quotation mark, given the gap before its value. -/
def memberBody (gap : List Char) (member : String × List Char) : List Char :=
  member.1.toList.flatMap writtenCharacter ++ '"' :: ':' :: (gap ++ member.2)

/-- The text of a member, given the gap before its value. -/
def memberText (gap : List Char) (member : String × List Char) : List Char :=
  '"' :: memberBody gap member

/-- A member is its written name and, after a colon and a gap, its value. -/
theorem memberText_eq (gap : List Char) (name : String) (text : List Char) :
    memberText gap (name, text) =
      writtenString name ++ ':' :: (gap ++ text) := by
  simp only [memberText, memberBody, writtenString, List.cons_append,
    List.append_assoc, List.nil_append]

/-- The text of a record, given the gaps before a member, a value and the end. -/
def recordText
    (gap valueGap closing : List Char)
    (members : List (String × List Char)) : List Char :=
  '\x7B' :: (separated gap (members.map (memberText valueGap)) ++
    (closing ++ ['\x7D']))

variable {gap valueGap closing : List Char}

theorem isNamedMember_memberText
    (blank : AllBlank gap)
    (member : String × List Char) :
    IsNamedMember member (memberText gap member) :=
  ⟨_, spells_written member.1.toList, [], gap, allBlank_nil, blank, rfl⟩

theorem isObject_recordText
    (gapBlank : AllBlank gap)
    (valueGapBlank : AllBlank valueGap)
    (closingBlank : AllBlank closing)
    (members : List (String × List Char)) :
    IsObject members (recordText gap valueGap closing members) := by
  refine ⟨members.map (memberText valueGap), ?_,
    Frame.object.encloses_separated gapBlank closingBlank _⟩
  rw [List.forall₂_map_right_iff, List.forall₂_same]
  intro member _
  exact isNamedMember_memberText valueGapBlank member

/-- A record is taken for what storing its members makes of the first value. -/
theorem RecordShape.takes_recordText
    (gapBlank : AllBlank gap)
    (valueGapBlank : AllBlank valueGap)
    (closingBlank : AllBlank closing)
    {start final : α}
    {members : List (String × List Char)}
    (stores : shape.Stores start members final)
    (distinct : (members.map (·.1)).Nodup)
    (complete : shape.Complete (members.map (·.1)))
    (depth : Nat) :
    (shape.read (depth + 1) start).Takes
      (recordText gap valueGap closing members) final := by
  refine takes_object
    (isObject_recordText gapBlank valueGapBlank closingBlank members) stores
    ⟨?_, ?_⟩ depth
  · rw [List.nil_append]
    exact distinct.filter _
  · rw [List.nil_append]
    exact complete

end Json
end RCompletion
