import RCompletion.Proofs.Engine.Offered
import RCompletion.Proofs.Engine.Reached
import RCompletion.Proofs.Listing.Snippet

/-!
# Snippets that are offered

Stored candidates have snippets that start with their labels.  An object that
is offered without a start of its label keeps its snippet, which still begins
with that start.  Inserting the label and inserting the snippet then name
different things.
-/

namespace RCompletion

/-- A rest keeps a snippet that starts with the whole label. -/
theorem Candidate.RestAfter.prefix_snippet
    {start snippet : String}
    {stored offered : Candidate}
    (after : RestAfter start stored offered)
    (completes : stored.CompletesLabel)
    (known : snippet ∈ offered.snippet) :
    start.toList ++ offered.label.toList <+: snippet.toList := by
  rw [after.snippet_eq] at known
  have whole := completes snippet known
  rwa [after.label, String.toList_append] at whole

/-- A rest is completed by a snippet only if it starts the whole label as well. -/
theorem Candidate.RestAfter.completesLabel_iff
    {start : String}
    {stored offered : Candidate}
    (after : RestAfter start stored offered)
    (completes : stored.CompletesLabel) :
    offered.CompletesLabel ↔
      (stored.snippet.isSome = true →
        offered.label.toList <+: start.toList ++ offered.label.toList) := by
  constructor
  · intro restCompletes known
    obtain ⟨snippet, template⟩ := Option.isSome_iff_exists.mp known
    have present : snippet ∈ offered.snippet := after.snippet_eq.trans template
    -- both start the snippet, and the rest is the shorter one
    apply List.prefix_of_prefix_length_le (restCompletes snippet present)
      (after.prefix_snippet completes present)
    rw [List.length_append]
    omega
  · intro restStarts snippet present
    have known : stored.snippet.isSome = true := by
      rw [← after.snippet_eq, Option.mem_def.mp present]
      rfl
    exact (restStarts known).trans (after.prefix_snippet completes present)

namespace Engine

variable {σ : Type} [Session σ]

/-- Everything that a store of complete snippets offers is complete but for rests. -/
theorem completesLabel_or_restAfter
    {store : Store}
    {configuration : Configuration}
    {context : Buffer.Context}
    {candidate : Candidate}
    (every : store.Every Candidate.CompletesThroughout)
    (offers : store.Offers configuration context candidate) :
    candidate.CompletesLabel ∨
      configuration.needsSession context = true ∧
        ∃ start ∈ context.lostStart?, ∃ object ∈ store.sessionObjects,
          Candidate.RestAfter start object candidate := by
  cases offers with
  | package present =>
      exact .inl (every.installedPackages candidate present).own
  | function present =>
      exact .inl (every.loadedFunctions candidate present).own
  | object present =>
      exact .inl (every.sessionObjects candidate present).own
  | @rest start object _ needed lost present after =>
      exact .inr ⟨needed, start, lost, object, present, after⟩
  | @argument described _ arguments present known member =>
      left
      rcases present with loaded | own
      · exact (every.loadedFunctions described loaded).arguments arguments
          known candidate member
      · exact (every.sessionObjects described own).arguments arguments
          known candidate member

/--
In every response of a reached engine a snippet starts with the label of its
candidate, or with what that label lost and the label.  All snippets start with
their labels exactly when no object with a snippet loses a start whose rest does
not start the whole label too.
-/
theorem completesLabel_candidates_iff
    {configuration : Configuration}
    {engine : Engine σ}
    (reached : Reached configuration engine)
    (disk : Disk)
    (rows : List String)
    (cursor : Buffer.Cursor) :
    let context := engine.detect rows cursor
    let completed := (engine.complete disk rows cursor).value
    (∀ candidate ∈ completed.2.candidates, candidate.CompletesLabel ∨
      ∃ start ∈ context.lostStart?, ∀ snippet ∈ candidate.snippet,
        start.toList ++ candidate.label.toList <+: snippet.toList) ∧
      ((∀ candidate ∈ completed.2.candidates, candidate.CompletesLabel) ↔
        (configuration.needsSession context = true →
          ∀ start ∈ context.lostStart?,
            ∀ object ∈ completed.1.store.sessionObjects,
              object.snippet.isSome = true →
                ∀ rest, object.label = start ++ rest →
                  rest.toList <+: start.toList ++ rest.toList)) := by
  intro context completed
  have every :
      completed.1.store.Every Candidate.CompletesThroughout :=
    (reached.complete disk rows cursor).every
      Listing.gives_completesThroughout
  have answered :
      completed.2.candidates =
        completed.1.store.answer configuration context := by
    have value := value_complete engine disk rows cursor
    rw [reached.configuration_eq] at value
    have store := congrArg (·.1.store) value
    have candidates := congrArg (·.2.candidates) value
    exact candidates.trans (congrArg (·.answer configuration context) store.symm)
  rw [answered]
  refine ⟨?_, ?_, ?_⟩
  · intro candidate offered
    rcases completesLabel_or_restAfter every
        (Store.offers_of_mem_answer offered) with
      completes | ⟨-, start, lost, object, present, after⟩
    · exact .inl completes
    · exact .inr ⟨start, lost, fun snippet known =>
        after.prefix_snippet (every.sessionObjects object present).own known⟩
  · intro complete needed start lost object present known rest label
    have after :
        Candidate.RestAfter start object { object with label := rest } :=
      ⟨label, rfl⟩
    have completes := complete _
      (Store.mem_answer_of_restAfter needed lost present after)
    exact (after.completesLabel_iff
      (every.sessionObjects object present).own).mp completes known
  · intro restsStart candidate offered
    rcases completesLabel_or_restAfter every
        (Store.offers_of_mem_answer offered) with
      completes | ⟨needed, start, lost, object, present, after⟩
    · exact completes
    · rw [after.completesLabel_iff (every.sessionObjects object present).own]
      intro known
      exact restsStart needed start lost object present known _ after.label

/-- An engine whose session serves a table with another table in a column. -/
def nestedEngine : Engine Session.Rehearsed :=
  ofSession {
    files := [
      (({} : Configuration).paths.objectListingFile,
        ["df\x06data.frame", "df$inner\x06data.frame"]),
      (({} : Configuration).paths.loadedPackagesFile, ["base"])] }

theorem reached_nestedEngine : Reached {} nestedEngine := by
  have created :
      ofConfiguration {} nestedEngine.session = .ok ⟨nestedEngine, []⟩ := rfl
  exact .created created

/-- The snippet of the outer table completes its label. -/
theorem completesLabel_outer :
    let completed := (nestedEngine.complete .empty ["d"] ⟨0, 1⟩).value
    completed.2.candidates.map (fun candidate =>
        (candidate.label, candidate.snippet)) = [("df", some "df$$1")] ∧
      ∀ candidate ∈ completed.2.candidates, candidate.CompletesLabel := by
  refine ⟨rfl, (completesLabel_candidates_iff reached_nestedEngine .empty
    ["d"] ⟨0, 1⟩).2.mpr ?_⟩
  intro _ start lost
  exact absurd lost (Option.not_mem_none start)

/-- After `df$` the label `inner` is offered with the snippet `df$inner$$1`. -/
theorem not_forall_completesLabel :
    ¬∀ (configuration : Configuration) (engine : Engine Session.Rehearsed),
      Reached configuration engine →
        ∀ (disk : Disk) (rows : List String) (cursor : Buffer.Cursor),
          ∀ candidate ∈ (engine.complete disk rows cursor).value.2.candidates,
            candidate.CompletesLabel := by
  intro completes
  have inner := completes {} nestedEngine reached_nestedEngine .empty ["df$"]
    ⟨0, 3⟩ _ (.head _) "df$inner$$1" rfl
  exact absurd inner (by decide)

end Engine
end RCompletion
