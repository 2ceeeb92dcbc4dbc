import RCompletion.Json.Reader
import RCompletion.Proofs.Json.Numbers
import Mathlib.Data.List.TakeWhile

/-!
# Texts that readers take

A reader takes a text for a value if it reads the value after any blanks and
leaves what follows the text, where a value may end.  A string is taken for what
it spells, and a number for what its digits write.  An array is taken for the
values that its items are taken for, with any blanks between them.
-/

namespace RCompletion
namespace Json

/-- A text starts as strings, arrays and objects do. -/
def Opens (text : List Char) : Prop :=
  ∃ first rest, text = first :: rest ∧ first ∈ ['"', '[', '\x7B']

theorem Opens.begins
    {text : List Char}
    (opens : Opens text) :
    Begins text := by
  obtain ⟨first, rest, rfl, opening⟩ := opens
  simp only [List.mem_cons, List.not_mem_nil, or_false] at opening
  rcases opening with rfl | rfl | rfl
  all_goals exact ⟨_, rest, rfl, by decide, by decide⟩

/-- A value that opens is not null. -/
theorem Opens.ne_null
    {first : Char}
    {rest : List Char}
    (opens : Opens (first :: rest)) :
    first ≠ 'n' := by
  rintro rfl
  obtain ⟨_, _, same, opening⟩ := opens
  cases same
  revert opening
  decide

/-! ## Values -/

/-- A reader takes a text for a value, after any blanks and before whatever follows
where a value may end. -/
def Reader.Takes (read : Reader α) (text : List Char) (value : α) : Prop :=
  ∀ blanks rest, AllBlank blanks → Stops rest →
    read (blanks ++ (text ++ rest)) = .ok (value, rest)

theorem Reader.Takes.map
    {read : Reader α}
    {text : List Char}
    {value : α}
    (takes : read.Takes text value)
    (change : α → β) :
    Reader.Takes
      (fun text => (read text).map fun (value, rest) => (change value, rest))
      text (change value) := by
  intro blanks rest blank stops
  simp only [takes blanks rest blank stops, Except.map]

/-- A string of any kind is taken for what it spells. -/
theorem takes_spelled
    {body : List Char}
    {value : String}
    (spells : Spells body value.toList)
    (wanted : Wanted) :
    (readText wanted).Takes ('"' :: (body ++ ['"'])) value := by
  intro blanks rest blank _
  have quote : isBlank '"' = false := by decide
  simp only [readText, List.cons_append, List.append_assoc, List.nil_append,
    dropBlanks_append_cons blank quote, spells.readStringBody_append]

theorem takes_writtenString (value : String) :
    readString.Takes (writtenString value) value :=
  takes_spelled (spells_written value.toList) .string

/-- A number that fits is taken for what its digits write. -/
theorem takes_writtenNatural
    {number : Nat}
    (fits : number ≤ largestNatural32) :
    readNatural32.Takes (writtenNatural number) number := by
  intro blanks rest blank stops
  have small : number < bound64 := by
    have bounds : largestNatural32 < bound64 := by decide
    omega
  have taken := readNumber_writtenNatural small stops
  obtain ⟨first, more, same, starts⟩ := exists_cons_writtenNatural number
  obtain ⟨_, _, same', visible, -⟩ := begins_of_sign_or_digit starts more
  cases same'
  rw [same, List.cons_append] at taken ⊢
  have inRange : (0 : Int) ≤ number ∧ (number : Int) ≤ largestNatural32 := by
    omega
  simp only [readNatural32, dropBlanks_append_cons blank visible, if_pos starts,
    taken, bind, Except.bind, if_pos inRange, Int.toNat_natCast]
  rfl

/-- What may be null is taken for its value where one opens. -/
theorem Reader.Takes.nullable
    {read : Reader α}
    {text : List Char}
    {value : α}
    (takes : read.Takes text value)
    (opens : Opens text) :
    (readNullable read).Takes text (some value) := by
  intro blanks rest blank stops
  obtain ⟨first, more, rfl, visible, -⟩ := opens.begins
  have taken := takes [] rest allBlank_nil stops
  rw [List.cons_append] at taken ⊢
  rw [readNullable, dropBlanks_append_cons blank visible]
  split
  · rename_i same
    exact absurd (List.cons.inj same).1 opens.ne_null
  · rw [List.nil_append] at taken
    rw [taken]
    rfl

/-! ## Arrays -/

theorem nextElement_end
    {closing : List Char}
    (blank : AllBlank closing)
    (first : Bool)
    (rest : List Char) :
    nextElement first (closing ++ ']' :: rest) = .ok (none, ']' :: rest) := by
  have bracket : isBlank ']' = false := by decide
  simp only [nextElement, dropBlanks_append_cons blank bracket]

theorem readArrayEnd_append
    {closing : List Char}
    (blank : AllBlank closing)
    (rest : List Char) :
    readArrayEnd (closing ++ ']' :: rest) = .ok rest := by
  have bracket : isBlank ']' = false := by decide
  simp only [readArrayEnd, dropBlanks_append_cons blank bracket]

section

variable {gap item : List Char} (gapBlank : AllBlank gap) (begins : Begins item)

include gapBlank begins

theorem nextElement_first (rest : List Char) :
    nextElement true (gap ++ (item ++ rest)) =
      .ok (some (item ++ rest), item ++ rest) := by
  obtain ⟨start, more, rfl, visible, goesOn⟩ := begins
  have noEnd : start ≠ ']' := by
    rintro rfl
    exact goesOn (by decide)
  simp only [List.cons_append, nextElement,
    dropBlanks_append_cons gapBlank visible, if_true]

theorem nextElement_comma
    {before : List Char}
    (beforeBlank : AllBlank before)
    (rest : List Char) :
    nextElement false (gap ++ ',' :: (before ++ (item ++ rest))) =
      .ok (some (item ++ rest), item ++ rest) := by
  obtain ⟨start, more, rfl, visible, goesOn⟩ := begins
  have comma : isBlank ',' = false := by decide
  have commaGoesOn : ',' ≠ ']' := by decide
  have noEnd : start ≠ ']' := by
    rintro rfl
    exact goesOn (by decide)
  simp only [List.cons_append, nextElement,
    dropBlanks_append_cons gapBlank comma, Bool.false_eq_true, if_false, if_true,
    dropBlanks_append_cons beforeBlank visible]
  split
  · rename_i nothing
    exact absurd nothing (List.cons_ne_nil _ _)
  · rename_i same
    exact absurd (List.cons.inj same).1 noEnd
  · rfl

end

section

variable {read : Reader α}

/-- A value of an array is read before the ones that follow it. -/
theorem readElements_of_next
    {item text rest : List Char}
    {value : α}
    {first : Bool}
    (next : nextElement first text = .ok (some (item ++ rest), item ++ rest))
    (takes : read.Takes item value)
    (stops : Stops rest)
    (fuel : Nat) :
    readElements read (fuel + 1) first text =
      (readElements read fuel false rest).map fun (values, after) =>
        (value :: values, after) := by
  have taken : read (item ++ rest) = .ok (value, rest) :=
    takes [] rest allBlank_nil stops
  simp only [readElements, next, bind, Except.bind, taken]
  cases readElements read fuel false rest <;> rfl

theorem readElements_end
    {closing : List Char}
    (blank : AllBlank closing)
    (fuel : Nat)
    (first : Bool)
    (rest : List Char) :
    readElements read (fuel + 1) first (closing ++ ']' :: rest) =
      .ok ([], rest) := by
  have ended := readArrayEnd_append allBlank_nil rest
  rw [List.nil_append] at ended
  simp only [readElements, nextElement_end blank, bind, Except.bind, ended]
  rfl

variable {items : List (List Char)} {values : List α} {text : List Char}

/-- Items that follow commas are read one after the other. -/
theorem readElements_followed
    (followed : Followed items text)
    (taken : List.Forall₂ read.Takes items values)
    (beginning : ∀ item ∈ items, Begins item)
    (rest : List Char)
    {fuel : Nat}
    (enough : items.length < fuel) :
    readElements read fuel false (text ++ ']' :: rest) =
      .ok (values, rest) := by
  induction followed generalizing values fuel with
  | nil blank =>
      cases taken
      obtain ⟨turns, rfl⟩ := Nat.exists_eq_add_one.mpr enough
      exact readElements_end blank turns false rest
  | cons gapBlank beforeBlank others inductionHypothesis =>
      obtain _ | ⟨takes, takesOthers⟩ := taken
      obtain ⟨turns, rfl⟩ := Nat.exists_eq_add_one.mpr
        (Nat.zero_lt_of_lt enough)
      obtain ⟨begins, othersBegin⟩ := List.forall_mem_cons.mp beginning
      simp only [List.cons_append, List.append_assoc]
      rw [readElements_of_next (nextElement_comma gapBlank begins beforeBlank _)
          takes (others.stops (by decide) rest),
        inductionHypothesis takesOthers othersBegin
          (Nat.lt_of_succ_lt_succ enough)]
      rfl

/-- An array is taken for the values that its items are taken for. -/
theorem Frame.Encloses.takes
    (encloses : Frame.array.Encloses items text)
    (taken : List.Forall₂ read.Takes items values)
    (beginning : ∀ item ∈ items, Begins item)
    (depth : Nat) :
    (readList (depth + 1) read).Takes text values := by
  intro blanks rest blank _
  have bracket : isBlank '[' = false := by decide
  cases encloses with
  | empty gapBlank =>
      cases taken
      simp only [opening, closing, readList, List.cons_append,
        dropBlanks_append_cons blank bracket, if_neg (Nat.succ_ne_zero depth),
        List.append_assoc, List.nil_append]
      exact readElements_end gapBlank _ true rest
  | filled gapBlank others =>
      obtain _ | ⟨takes, takesOthers⟩ := taken
      obtain ⟨begins, othersBegin⟩ := List.forall_mem_cons.mp beginning
      simp only [opening, closing, readList, List.cons_append,
        dropBlanks_append_cons blank bracket, if_neg (Nat.succ_ne_zero depth),
        List.append_assoc, List.nil_append]
      rw [readElements_of_next (nextElement_first gapBlank begins _) takes
          (others.stops (by decide) rest),
        readElements_followed others takesOthers othersBegin]
      · rfl
      · have bounded := others.length_le
        simp only [List.length_append, List.length_cons]
        omega

end

/-! ## Documents -/

/-- A document is read as the value that the text between its blanks is taken for. -/
theorem Reader.Takes.readDocument
    {read : Reader α}
    {text : List Char}
    {value : α}
    (takes : read.Takes text value)
    {before after : List Char}
    (beforeBlank : AllBlank before)
    (afterBlank : AllBlank after)
    {document : String}
    (same : document.toList = before ++ (text ++ after)) :
    readDocument read document = .ok value := by
  have ended : dropBlanks after = [] := List.dropWhile_eq_nil_iff.mpr afterBlank
  simp only [Json.readDocument, same, takes before after beforeBlank
    afterBlank.stops, bind, Except.bind, ended, List.isEmpty_nil, if_true]
  rfl

/-! ## The same gaps everywhere -/

/-- Parts that each follow a comma and a gap. -/
def followed (gap : List Char) (parts : List (List Char)) : List Char :=
  parts.flatMap fun part => ',' :: (gap ++ part)

/-- Parts with commas between them, each after a gap. -/
def separated (gap : List Char) : List (List Char) → List Char
  | [] => []
  | part :: parts => gap ++ (part ++ followed gap parts)

@[simp] theorem followed_nil (gap : List Char) : followed gap [] = [] := rfl

@[simp] theorem separated_nil (gap : List Char) : separated gap [] = [] := rfl

@[simp] theorem followed_cons
    (gap part : List Char)
    (parts : List (List Char)) :
    followed gap (part :: parts) =
      ',' :: (gap ++ (part ++ followed gap parts)) := by
  simp only [followed, List.flatMap_cons, List.cons_append, List.append_assoc]

@[simp] theorem separated_cons
    (gap part : List Char)
    (parts : List (List Char)) :
    separated gap (part :: parts) = gap ++ (part ++ followed gap parts) := rfl

variable {gap closing : List Char}

theorem followed_append
    (gapBlank : AllBlank gap)
    (closingBlank : AllBlank closing)
    (parts : List (List Char)) :
    Followed parts (followed gap parts ++ closing) := by
  induction parts with
  | nil => exact .nil closingBlank
  | cons part parts inductionHypothesis =>
      rw [followed_cons, List.cons_append, List.append_assoc, List.append_assoc]
      exact .cons allBlank_nil gapBlank inductionHypothesis

theorem Frame.encloses_separated
    (frame : Frame)
    (gapBlank : AllBlank gap)
    (closingBlank : AllBlank closing)
    (parts : List (List Char)) :
    frame.Encloses parts
      (frame.opening ::
        (separated gap parts ++ (closing ++ [frame.closing]))) := by
  cases parts with
  | nil => exact .empty closingBlank
  | cons part parts =>
      rw [separated_cons, List.append_assoc, List.append_assoc,
        ← List.append_assoc (followed gap parts)]
      exact .filled gapBlank (followed_append gapBlank closingBlank parts)

/-- The text of an array, given the gap before an item and before the end. -/
def arrayText (gap closing : List Char) (items : List (List Char)) : List Char :=
  '[' :: (separated gap items ++ (closing ++ [']']))

/-- An array is taken for the values that its items are taken for. -/
theorem takes_arrayText
    {read : Reader α}
    (gapBlank : AllBlank gap)
    (closingBlank : AllBlank closing)
    {items : List (List Char)}
    {values : List α}
    (taken : List.Forall₂ read.Takes items values)
    (opening : ∀ item ∈ items, Opens item)
    (depth : Nat) :
    (readList (depth + 1) read).Takes (arrayText gap closing items) values :=
  (Frame.array.encloses_separated gapBlank closingBlank items).takes taken
    (fun item listed => (opening item listed).begins) depth

end Json
end RCompletion
