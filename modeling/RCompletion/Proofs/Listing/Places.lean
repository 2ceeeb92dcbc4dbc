import RCompletion.Listing.CallTemplate
import RCompletion.Proofs.Text.Fields
import RCompletion.Proofs.Text.Parts
import Mathlib.Data.List.Induction

/-!
# Places of call templates

Which arguments of a function get a place in its call template, told by what
stands before them in the signature, and how the places are numbered.  A token
at the end of a signature changes nothing before it, so that all is shown by
adding tokens at the end.
-/

namespace RCompletion
namespace Listing

/--
A token that stands after others gets a place: it has no default value, and if
it is `...` then no token before it lacks one.
-/
def IsPlaced (earlier : List String) (token : String) : Prop :=
  '=' ∉ token.toList ∧
    (token ≠ dots ∨ ∀ other ∈ earlier, '=' ∈ other.toList)

instance (earlier : List String) (token : String) :
    Decidable (IsPlaced earlier token) :=
  inferInstanceAs (Decidable (_ ∧ _))

/-- The tokens that get a place after all those that stand before them. -/
def placedTokens (tokens : List String) : List String :=
  (tokens.zipIdx.filter fun entry =>
    IsPlaced (tokens.take entry.2) entry.1).map Prod.fst

/-- Places for tokens, numbered from one. -/
def numberedPlaces (tokens : List String) : List String :=
  tokens.mapIdx fun index token => place (index + 1) token

/-! ## Tokens without a place -/

/-- Without a place are the tokens with a default value, and later `...`. -/
theorem not_isPlaced_iff (earlier : List String) (token : String) :
    ¬IsPlaced earlier token ↔
      '=' ∈ token.toList ∨
        token = dots ∧ ∃ other ∈ earlier, '=' ∉ other.toList := by
  rw [IsPlaced, not_and_or, not_not, not_or, not_not]
  simp only [not_forall, exists_prop]

/-- A token without a place does not matter to those after it. -/
theorem isPlaced_insert_iff
    {before : List String}
    {inserted : String}
    (skipped : ¬IsPlaced before inserted)
    (after : List String)
    (token : String) :
    IsPlaced (before ++ inserted :: after) token ↔
      IsPlaced (before ++ after) token := by
  have alike :
      (∀ other ∈ before ++ inserted :: after, '=' ∈ other.toList) ↔
        ∀ other ∈ before ++ after, '=' ∈ other.toList := by
    rw [List.forall_mem_append, List.forall_mem_append, List.forall_mem_cons]
    rcases (not_isPlaced_iff before inserted).mp skipped with
      assigned | ⟨-, other, present, mandatory⟩
    · simp only [assigned, true_and]
    · have some : ¬∀ other ∈ before, '=' ∈ other.toList :=
        fun all => mandatory (all other present)
      simp only [some, false_and]
  rw [IsPlaced, IsPlaced, alike]

/-! ## One more token -/

theorem mandatory_concat (tokens : List String) (token : String) :
    mandatory (tokens ++ [token]) =
      mandatory tokens ++ if '=' ∈ token.toList then [] else [token] := by
  have single : "=".toList = ['='] := by decide
  rw [mandatory, List.filter_append, List.filter_singleton, mandatory]
  congr 1
  by_cases assigned : '=' ∈ token.toList
  · have found : Text.contains token "=" = true := by
      rwa [Text.contains_iff, single, List.singleton_infix_iff]
    simp [assigned, found]
  · have missed : Text.contains token "=" = false := by
      rwa [← Bool.not_eq_true, Text.contains_iff, single,
        List.singleton_infix_iff]
    simp [assigned, missed]

theorem mandatory_eq_nil_iff (tokens : List String) :
    mandatory tokens = [] ↔ ∀ other ∈ tokens, '=' ∈ other.toList := by
  have single : "=".toList = ['='] := by decide
  simp only [mandatory, List.filter_eq_nil_iff, Bool.not_eq_true',
    Bool.not_eq_false, Text.contains_iff, single, List.singleton_infix_iff]

/-- A further token is added to those with a place if it gets one. -/
theorem placed_concat (tokens : List String) (token : String) :
    placed (tokens ++ [token]) =
      placed tokens ++ if IsPlaced tokens token then [token] else [] := by
  unfold placed
  rw [mandatory_concat]
  by_cases assigned : '=' ∈ token.toList
  · have skipped : ¬IsPlaced tokens token := fun isPlaced => isPlaced.1 assigned
    rw [if_pos assigned, if_neg skipped, List.append_nil, List.append_nil]
  · rw [if_neg assigned]
    cases known : mandatory tokens with
    | nil =>
        have isPlaced : IsPlaced tokens token :=
          ⟨assigned, .inr ((mandatory_eq_nil_iff tokens).mp known)⟩
        rw [if_pos isPlaced]
        rfl
    | cons first rest =>
        have notAll : ¬∀ other ∈ tokens, '=' ∈ other.toList := by
          rw [← mandatory_eq_nil_iff, known]
          exact List.cons_ne_nil _ _
        have isPlaced_iff : IsPlaced tokens token ↔ token ≠ dots := by
          simp only [IsPlaced, assigned, notAll, not_false_eq_true, true_and,
            or_false]
        simp only [List.cons_append, List.filter_append, List.filter_singleton,
          isPlaced_iff, Bool.cond_eq_ite, bne_iff_ne]

theorem placedTokens_concat (tokens : List String) (token : String) :
    placedTokens (tokens ++ [token]) =
      placedTokens tokens ++ if IsPlaced tokens token then [token] else [] := by
  have before :
      (tokens.zipIdx.filter fun entry =>
          IsPlaced ((tokens ++ [token]).take entry.2) entry.1) =
        tokens.zipIdx.filter fun entry =>
          IsPlaced (tokens.take entry.2) entry.1 := by
    apply List.filter_congr
    intro entry present
    have within : entry.2 < tokens.length := by
      simpa using List.snd_lt_of_mem_zipIdx present
    rw [List.take_append_of_le_length within.le]
  rw [placedTokens, List.zipIdx_append, List.filter_append, before,
    List.map_append, placedTokens]
  congr 1
  simp only [Nat.zero_add, List.zipIdx_singleton, List.filter_singleton,
    List.take_left, Bool.cond_decide]
  split <;> rfl

/-- The arguments with a place are those that get one by their position. -/
theorem placed_eq_placedTokens (tokens : List String) :
    placed tokens = placedTokens tokens := by
  induction tokens using List.reverseRecOn with
  | nil => rfl
  | append_singleton tokens token inductionHypothesis =>
      rw [placed_concat, placedTokens_concat, inductionHypothesis]

/-- A token without a place can be inserted. -/
theorem placed_insert
    {before : List String}
    {inserted : String}
    (skipped : ¬IsPlaced before inserted)
    (after : List String) :
    placed (before ++ inserted :: after) = placed (before ++ after) := by
  induction after using List.reverseRecOn with
  | nil => rw [placed_concat, if_neg skipped, List.append_nil, List.append_nil]
  | append_singleton after token inductionHypothesis =>
      rw [← List.cons_append, ← List.append_assoc, ← List.append_assoc,
        placed_concat, placed_concat, inductionHypothesis]
      simp only [isPlaced_insert_iff skipped]

/-! ## Templates -/

theorem placesFrom_eq_mapIdx (number : Nat) (tokens : List String) :
    placesFrom number tokens =
      tokens.mapIdx fun index token => place (number + index) token := by
  induction tokens generalizing number with
  | nil => rfl
  | cons token tokens inductionHypothesis =>
      rw [placesFrom_cons, inductionHypothesis, List.mapIdx_cons]
      simp only [Nat.add_zero, Nat.add_assoc, Nat.add_comm 1]

theorem placesFrom_one (tokens : List String) :
    placesFrom 1 tokens = numberedPlaces tokens := by
  simp only [placesFrom_eq_mapIdx, numberedPlaces, Nat.add_comm 1]

/-- A further token gets the next number. -/
theorem numberedPlaces_concat (tokens : List String) (token : String) :
    numberedPlaces (tokens ++ [token]) =
      numberedPlaces tokens ++ [place (tokens.length + 1) token] := by
  rw [numberedPlaces, List.mapIdx_concat, numberedPlaces]

/-- A call of a function with fields between its parentheses. -/
def writtenCall (function : String) (fields : List String) : String :=
  function ++ "(" ++ ", ".intercalate fields ++ ")"

section Templates

variable {tokens : List String}

/-- The template of a function with several arguments has their places only. -/
theorem callTemplate_of_several
    (described : tokens.head? ≠ some noArguments)
    (several : 2 ≤ tokens.length)
    (function : String) :
    callTemplate function tokens =
      writtenCall function (numberedPlaces (placed tokens)) := by
  have notSingle : tokens.length ≠ 1 := by omega
  simp only [callTemplate, if_neg described, if_neg notSingle, placesFrom_one,
    Text.join_eq_intercalate, writtenCall]

/-- The template of a function with one argument ends with an unnumbered place. -/
theorem callTemplate_of_single
    (described : tokens.head? ≠ some noArguments)
    (single : tokens.length = 1)
    (function : String) :
    callTemplate function tokens =
      writtenCall function (numberedPlaces (placed tokens) ++ ["$1"]) := by
  simp only [callTemplate, if_neg described, if_pos single, placesFrom_one,
    Text.join_eq_intercalate, writtenCall]

/-- Inserting a token does not make a described function one without arguments. -/
theorem head?_insert_ne
    {before after : List String}
    {inserted : String}
    (described : (before ++ after).head? ≠ some noArguments)
    (skipped : ¬IsPlaced before inserted) :
    (before ++ inserted :: after).head? ≠ some noArguments := by
  cases before with
  | cons first others => exact described
  | nil =>
      have named : IsPlaced [] noArguments := by decide
      rw [List.nil_append, List.head?_cons, Ne, Option.some.injEq]
      rintro rfl
      exact skipped named

end Templates

/--
The call template of a described function with several arguments is a call with
one field for each token that gets a place, numbered from one in the order of
the signature.  Inserting a token with a default value, or `...` after a token
without one, leaves it as it is; a further token with a place adds one field
with the next number.  With a single argument an unnumbered field follows.
-/
theorem callTemplate_eq_writtenCall
    (function : String)
    {tokens : List String}
    (described : tokens.head? ≠ some noArguments) :
    let fields := numberedPlaces (placedTokens tokens)
    (2 ≤ tokens.length →
      callTemplate function tokens = writtenCall function fields ∧
      (∀ before after inserted, tokens = before ++ after →
        ('=' ∈ inserted.toList ∨
          inserted = dots ∧ ∃ other ∈ before, '=' ∉ other.toList) →
        callTemplate function (before ++ inserted :: after) =
          callTemplate function tokens) ∧
      ∀ token, IsPlaced tokens token →
        callTemplate function (tokens ++ [token]) =
          writtenCall function (fields ++ [place (fields.length + 1) token])) ∧
    (tokens.length = 1 →
      callTemplate function tokens =
        writtenCall function (fields ++ ["$1"])) := by
  intro fields
  have byPosition : numberedPlaces (placed tokens) = fields := by
    rw [placed_eq_placedTokens]
  refine ⟨fun several => ⟨?_, ?_, ?_⟩, fun single => ?_⟩
  · rw [callTemplate_of_several described several, byPosition]
  · rintro before after inserted rfl unplaced
    have skipped : ¬IsPlaced before inserted :=
      (not_isPlaced_iff before inserted).mpr unplaced
    have longer : 2 ≤ (before ++ inserted :: after).length := by
      simp only [List.length_append, List.length_cons] at several ⊢
      omega
    rw [callTemplate_of_several (head?_insert_ne described skipped) longer,
      placed_insert skipped, callTemplate_of_several described several]
  · intro token isPlaced
    have stillDescribed : (tokens ++ [token]).head? ≠ some noArguments := by
      rw [List.head?_append_of_ne_nil _ (List.ne_nil_of_length_pos (by omega))]
      exact described
    have longer : 2 ≤ (tokens ++ [token]).length := by
      rw [List.length_append]
      omega
    have count : fields.length = (placed tokens).length := by
      rw [← byPosition, numberedPlaces, List.length_mapIdx]
    rw [callTemplate_of_several stillDescribed longer, placed_concat,
      if_pos isPlaced, numberedPlaces_concat, byPosition, count]
  · rw [callTemplate_of_single described single, byPosition]

/-- A first mandatory `...` gets a place, a second one does not. -/
theorem callTemplate_dots :
    let tokens := ["sep = 1", "...", "x"]
    tokens.head? ≠ some noArguments ∧
      callTemplate "f" tokens = "f($\x7B1:...\x7D, $\x7B2:x\x7D)" ∧
      callTemplate "f" ["sep = 1", "...", "...", "x"] =
        callTemplate "f" tokens ∧
      callTemplate "f" ["sep = 1", "...", "x", "y"] =
        "f($\x7B1:...\x7D, $\x7B2:x\x7D, $\x7B3:y\x7D)" ∧
      callTemplate "f" ["x = 1"] = "f($1)" := by
  have described :
      (["sep = 1", "...", "x"] : List String).head? ≠ some noArguments := by
    decide
  have singleDescribed :
      (["x = 1"] : List String).head? ≠ some noArguments := by decide
  obtain ⟨written, inserted, appended⟩ :=
    (callTemplate_eq_writtenCall "f" described).1 (by decide)
  refine ⟨described, written.trans (by decide),
    inserted ["sep = 1", "..."] ["x"] "..." rfl
      (.inr ⟨rfl, "...", by decide, by decide⟩),
    (appended "y" (by decide)).trans (by decide), ?_⟩
  exact ((callTemplate_eq_writtenCall "f" singleDescribed).2 rfl).trans
    (by decide)

end Listing
end RCompletion
