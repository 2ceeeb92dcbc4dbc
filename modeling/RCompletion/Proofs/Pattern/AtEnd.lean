import RCompletion.Proofs.Buffer.Suffix
import RCompletion.Proofs.Pattern.Within

/-!
# Matches at the end of a text

A pattern that is followed by the end of the text matches from the first
position from which it can reach that end.  For one or more characters of a set
this is where the longest suffix of such characters starts.
-/

namespace RCompletion
namespace Pattern

/-- A pattern followed by the end of the text. -/
def beforeEnd (pattern : Pattern) : Pattern :=
  sequence pattern (anchor .textEnd)

/-- One or more characters of a set, as many as possible. -/
def oneOrMore (members : CharSet) : Pattern :=
  repetition (set members) 1 none true

/-- Any number of characters of a set, as many as possible. -/
def anyNumber (members : CharSet) : Pattern :=
  repetition (set members) 0 none true

/-! ## Reaching the end -/

/-- A test that only one element passes finds it in a list that has it. -/
theorem find?_of_only {α : Type} [DecidableEq α]
    {test : α → Bool}
    {element : α}
    (only : ∀ other, test other = true ↔ other = element)
    (elements : List α) :
    elements.find? test = if element ∈ elements then some element else none := by
  cases found : elements.find? test with
  | none =>
      rw [List.find?_eq_none] at found
      rw [if_neg]
      intro present
      exact found element present ((only element).mpr rfl)
  | some other =>
      obtain rfl := (only other).mp (List.find?_some found)
      rw [if_pos (List.mem_of_find?_eq_some found)]

/-- Of several positions, only the end of the text is followed by the end. -/
theorem findSome?_textEnd (text : Array Char) (positions : List Nat) :
    positions.findSome?
        (fun position => (ends text (anchor .textEnd) position).head?) =
      if text.size ∈ positions then some text.size else none := by
  have single :
      (fun position => (ends text (anchor .textEnd) position).head?) =
        Option.guard (· == text.size) := by
    funext position
    simp only [ends_anchor, Anchor.holds, Option.guard]
    by_cases atEnd : position == text.size
    · simp [atEnd]
    · simp [atEnd]
  rw [single, List.findSome?_guard]
  exact find?_of_only (fun _ => beq_iff_eq) positions

/-- A match at the end ends there, and starts where the end can be reached from. -/
theorem matchAt?_beforeEnd
    (pattern : Pattern)
    (text : Array Char)
    (start : Nat) :
    pattern.beforeEnd.matchAt? text start =
      if text.size ∈ ends text pattern start then
        some ⟨start, text.size⟩
      else
        none := by
  have first (positions : List Nat) :
      positions.eraseDups.head? = positions.head? := by
    cases positions with
    | nil => rfl
    | cons position positions => rw [List.eraseDups_cons]; rfl
  rw [matchAt?, beforeEnd, ends, first, List.head?_flatMap,
    findSome?_textEnd]
  split <;> rfl

/-! ## Rounds over a set -/

section Rounds

variable (text : Array Char) (members : CharSet)

/-- All characters from one position up to another belong to a set. -/
def Covers (start stop : Nat) : Prop :=
  ∀ index, start ≤ index → index < stop →
    memberAfter text index members = true

variable {text members}

/-- What is covered from a position starts with its character. -/
theorem covers_iff_of_lt
    {start stop : Nat}
    (before : start < stop) :
    Covers text members start stop ↔
      memberAfter text start members = true ∧
        Covers text members (start + 1) stop := by
  constructor
  · intro covers
    exact ⟨covers start le_rfl before,
      fun index after => covers index (by omega)⟩
  · rintro ⟨first, later⟩ index after within
    rcases Nat.eq_or_lt_of_le after with same | beyond
    · exact same ▸ first
    · exact later index beyond within

/-- Without a member there is no round. -/
theorem rounds_set_of_not
    {position : Nat}
    (absent : memberAfter text position members = false)
    (fuel : Nat) :
    rounds (ends text (set members)) true fuel [] position = [] := by
  cases fuel with
  | zero => rfl
  | succ fuel => simp [rounds, absent]

/-- Rounds over a set lead on. -/
theorem lt_of_mem_rounds_set
    {fuel position stop : Nat}
    (reached : stop ∈ rounds (ends text (set members)) true fuel [] position) :
    position < stop := by
  induction fuel generalizing position with
  | zero => exact absurd reached List.not_mem_nil
  | succ fuel inductionHypothesis =>
      cases first : memberAfter text position members with
      | false =>
          rw [rounds_set_of_not first] at reached
          exact absurd reached List.not_mem_nil
      | true =>
          simp only [rounds, ends_set, first, if_true, List.foldl_cons,
            List.foldl_nil, List.contains_nil, Bool.false_eq_true, if_false,
            Nat.succ_ne_self] at reached
          have further :
              stop ∈ rounds (ends text (set members)) true fuel []
                  (position + 1) ∨ stop = position + 1 := by
            split at reached
            · exact .inl reached
            · simpa using reached
          rcases further with deeper | rfl
          · exact Nat.lt_of_succ_lt (inductionHypothesis deeper)
          · exact Nat.lt_succ_self position

/-- With a member, the rounds after it come before it. -/
theorem rounds_set_of_memberAfter
    {position : Nat}
    (present : memberAfter text position members = true)
    (fuel : Nat) :
    rounds (ends text (set members)) true (fuel + 1) [] position =
      rounds (ends text (set members)) true fuel [] (position + 1) ++
        [position + 1] := by
  -- the next position is not among those reached from it
  have unreached :
      (rounds (ends text (set members)) true fuel []
        (position + 1)).contains (position + 1) = false := by
    rw [← Bool.not_eq_true, List.contains_iff_mem]
    exact fun reached => Nat.lt_irrefl _ (lt_of_mem_rounds_set reached)
  simp only [rounds, ends_set, present, if_true, List.foldl_cons,
    List.foldl_nil, List.contains_nil, Bool.false_eq_true, if_false,
    Nat.succ_ne_self, unreached]

/-- Rounds over a set reach the positions up to which all characters belong to it. -/
theorem mem_rounds_set (fuel position stop : Nat) :
    stop ∈ rounds (ends text (set members)) true fuel [] position ↔
      position < stop ∧ stop ≤ position + fuel ∧
        Covers text members position stop := by
  induction fuel generalizing position stop with
  | zero =>
      simp only [rounds, List.not_mem_nil, false_iff]
      omega
  | succ fuel inductionHypothesis =>
      cases first : memberAfter text position members with
      | false =>
          rw [rounds_set_of_not first]
          simp only [List.not_mem_nil, false_iff]
          rintro ⟨before, -, covers⟩
          rw [covers_iff_of_lt before, first] at covers
          exact absurd covers.1 (by simp)
      | true =>
          rw [rounds_set_of_memberAfter first, List.mem_append,
            List.mem_singleton, inductionHypothesis]
          constructor
          · rintro (⟨before, bound, covers⟩ | rfl)
            · refine ⟨by omega, by omega, ?_⟩
              rw [covers_iff_of_lt (by omega)]
              exact ⟨first, covers⟩
            · refine ⟨by omega, by omega, ?_⟩
              rw [covers_iff_of_lt (by omega)]
              exact ⟨first, fun index after within => by omega⟩
          · rintro ⟨before, bound, covers⟩
            rw [covers_iff_of_lt before] at covers
            by_cases same : stop = position + 1
            · exact .inr same
            · exact .inl ⟨by omega, by omega, covers.2⟩

/-- Any number of rounds over a set reaches the positions that it covers. -/
theorem mem_anyRounds_set (start stop : Nat) :
    stop ∈ anyRounds (ends text (set members)) true (text.size + 1) start ↔
      start ≤ stop ∧ Covers text members start stop := by
  have rounds_or :
      stop ∈ anyRounds (ends text (set members)) true (text.size + 1) start ↔
        stop ∈ rounds (ends text (set members)) true (text.size + 1) [] start ∨
          stop = start := by
    rw [anyRounds, List.mem_eraseDups, if_pos rfl, List.mem_append,
      List.mem_singleton]
  rw [rounds_or, mem_rounds_set]
  constructor
  · rintro (⟨before, -, covers⟩ | rfl)
    · exact ⟨before.le, covers⟩
    · exact ⟨le_rfl, fun index after within => by omega⟩
  · rintro ⟨before, covers⟩
    rcases Nat.eq_or_lt_of_le before with same | before
    · exact .inr same.symm
    · -- no more rounds than characters are needed
      have within : stop - 1 < text.size :=
        lt_size_of_memberAfter (covers (stop - 1) (by omega) (by omega))
      exact .inl ⟨before, by omega, covers⟩

/-- An unbounded repetition goes on from where its least rounds lead. -/
theorem mem_ends_repetition (least start stop : Nat) :
    stop ∈ ends text (repetition (set members) least none true) start ↔
      ∃ middle ∈ exactRounds (ends text (set members)) least [start],
        middle ≤ stop ∧ Covers text members middle stop := by
  have further :
      ends text (repetition (set members) least none true) start =
        ((exactRounds (ends text (set members)) least [start]).flatMap
          (anyRounds (ends text (set members)) true
            (text.size + 1))).eraseDups := rfl
  rw [further, List.mem_eraseDups, List.mem_flatMap]
  simp only [mem_anyRounds_set]

/-- Any number of characters of a set reaches the positions that they cover. -/
theorem mem_ends_anyNumber (start stop : Nat) :
    stop ∈ ends text (anyNumber members) start ↔
      start ≤ stop ∧ Covers text members start stop := by
  rw [anyNumber, mem_ends_repetition]
  simp only [exactRounds, List.mem_singleton, exists_eq_left]

/-- One or more characters of a set reach the positions that they cover. -/
theorem mem_ends_oneOrMore (start stop : Nat) :
    stop ∈ ends text (oneOrMore members) start ↔
      start < stop ∧ Covers text members start stop := by
  rw [oneOrMore, mem_ends_repetition, exactRounds_one, ends_set]
  simp only [List.mem_eraseDups]
  constructor
  · rintro ⟨middle, reached, before, covers⟩
    split at reached
    · rename_i present
      obtain rfl := List.mem_singleton.mp reached
      exact ⟨before, (covers_iff_of_lt before).mpr ⟨present, covers⟩⟩
    · exact absurd reached List.not_mem_nil
  · rintro ⟨before, covers⟩
    obtain ⟨present, later⟩ := (covers_iff_of_lt before).mp covers
    rw [if_pos present]
    exact ⟨start + 1, List.mem_singleton_self _, before, later⟩

end Rounds

/-! ## The leftmost match -/

/-- What a set covers up to a position is a rest of the text before it. -/
theorem covers_iff_all_drop
    {text : List Char}
    {stop : Nat}
    (ending : stop ≤ text.length)
    (members : CharSet)
    (start : Nat) :
    Covers text.toArray members start stop ↔
      ((text.take stop).drop start).all members.contains = true := by
  rw [List.all_eq_true]
  constructor
  · intro covers character present
    obtain ⟨offset, within, found⟩ := List.getElem_of_mem present
    rw [List.getElem_drop, List.getElem_take] at found
    rw [List.length_drop, List.length_take_of_le ending] at within
    have held := covers (start + offset) (by omega) (by omega)
    rw [memberAfter, List.getElem?_toArray,
      List.getElem?_eq_getElem (by omega), found] at held
    exact held
  · intro holds index after within
    rw [memberAfter, List.getElem?_toArray,
      List.getElem?_eq_getElem (by omega)]
    refine holds _ (List.mem_drop_iff_getElem.mpr ⟨index - start, ?_, ?_⟩)
    · rw [List.length_take_of_le ending]
      omega
    · simp only [Nat.add_sub_cancel' after, List.getElem_take]

/-- A set covers a text up to a position from where its longest suffix starts. -/
theorem find?_covers
    {text : List Char}
    {stop : Nat}
    (ending : stop ≤ text.length)
    (members : CharSet) :
    ((List.range (text.length + 1)).find? fun start =>
        stop ∈ ends text.toArray (oneOrMore members) start) =
      if Buffer.suffixWhile members.contains (text.take stop) = [] then
        none
      else
        some (stop -
          (Buffer.suffixWhile members.contains (text.take stop)).length) := by
  have reaches (start : Nat) :
      stop ∈ ends text.toArray (oneOrMore members) start ↔
        start < stop ∧ stop ≤ start +
          (Buffer.suffixWhile members.contains (text.take stop)).length := by
    rw [mem_ends_oneOrMore, covers_iff_all_drop ending, Buffer.all_drop_iff,
      List.length_take_of_le ending]
  have bounded :=
    Buffer.length_suffixWhile_le members.contains (text.take stop)
  rw [List.length_take_of_le ending] at bounded
  simp only [reaches]
  split
  · rename_i nothing
    rw [nothing, List.length_nil, List.find?_eq_none]
    intro start _
    rw [decide_eq_true_iff]
    omega
  · rename_i something
    have present := List.length_pos_iff.mpr something
    refine List.find?_range_eq_some.mpr ⟨?_, ?_, ?_⟩
    · rw [decide_eq_true_iff]
      omega
    · rw [List.mem_range]
      omega
    · intro earlier before
      rw [Bool.not_eq_true', decide_eq_false_iff_not]
      omega

/-- The leftmost match at the end starts at the first position that reaches the end. -/
theorem find?_beforeEnd (pattern : Pattern) (text : List Char) :
    pattern.beforeEnd.find? text =
      ((List.range (text.length + 1)).find? fun start =>
        text.length ∈ ends text.toArray pattern start).map
          fun start => ⟨start, text.length⟩ := by
  have guarded :
      pattern.beforeEnd.matchAt? text.toArray =
        Option.map (fun start => ⟨start, text.length⟩) ∘
          Option.guard fun start =>
            text.length ∈ ends text.toArray pattern start := by
    funext start
    rw [matchAt?_beforeEnd, List.size_toArray, Function.comp_apply]
    by_cases reached : text.length ∈ ends text.toArray pattern start
    · simp [Option.guard, reached]
    · simp [Option.guard, reached]
  rw [find?, guarded, ← List.map_findSome?, List.findSome?_guard,
    List.size_toArray]

/-- What matches at the end starts where the longest suffix of members starts. -/
theorem find?_beforeEnd_oneOrMore (members : CharSet) (text : List Char) :
    (oneOrMore members).beforeEnd.find? text =
      if Buffer.suffixWhile members.contains text = [] then
        none
      else
        some ⟨text.length -
          (Buffer.suffixWhile members.contains text).length, text.length⟩ := by
  rw [find?_beforeEnd, find?_covers le_rfl, List.take_length]
  split <;> rfl

end Pattern
end RCompletion
