import RCompletion.Proofs.Engine.Blocks
import RCompletion.Proofs.Engine.Offered
import RCompletion.Proofs.Engine.Reached
import RCompletion.Proofs.Listing.WellFormed

/-!
# Candidates that are handed out

A property that records give, with the arguments that they describe, and that
does not look at the label is one of every candidate in a response.  So every
candidate that a reached engine stores or hands out is well formed.
-/

namespace RCompletion

/-- A rest has all parts of the stored candidate but its label. -/
theorem Candidate.RestAfter.wellFormed
    {start : String}
    {stored offered : Candidate}
    (after : RestAfter start stored offered)
    (wellFormed : stored.WellFormed) :
    offered.WellFormed := by
  rw [after.others]
  exact ⟨wellFormed.object, wellFormed.tag, wellFormed.snippet,
    wellFormed.menu, wellFormed.column, wellFormed.arguments⟩

/-- What is offered has a property of the stored candidates that rests keep. -/
theorem Store.Offers.of_every
    {property : Candidate → Prop}
    {store : Store}
    {configuration : Configuration}
    {context : Buffer.Context}
    {candidate : Candidate}
    (offers : store.Offers configuration context candidate)
    (every : store.Every (Candidate.Throughout property))
    (rests : ∀ {start stored offered},
      Candidate.RestAfter start stored offered →
        property stored → property offered) :
    property candidate := by
  cases offers with
  | package present => exact (every.installedPackages candidate present).own
  | function present => exact (every.loadedFunctions candidate present).own
  | object present => exact (every.sessionObjects candidate present).own
  | @rest start object _ needed lost present after =>
      exact rests after (every.sessionObjects object present).own
  | @argument described _ arguments present known member =>
      rcases present with loaded | own
      · exact (every.loadedFunctions described loaded).arguments arguments
          known candidate member
      · exact (every.sessionObjects described own).arguments arguments
          known candidate member

/-- A property of stored candidates and their arguments is one of the candidates. -/
theorem Store.Every.own
    {property : Candidate → Prop}
    {store : Store}
    (every : store.Every (Candidate.Throughout property)) :
    store.Every property where
  installedPackages := fun candidate present =>
    (every.installedPackages candidate present).own
  packageSymbols := fun candidate present =>
    (every.packageSymbols candidate present).own
  loadedFunctions := fun candidate present =>
    (every.loadedFunctions candidate present).own
  sessionObjects := fun candidate present =>
    (every.sessionObjects candidate present).own

namespace Engine

variable {σ : Type} [Session σ]

/--
Whatever listings an engine got, whatever its session serves and whatever it was
asked, the candidates in its four collections and in its responses are well
formed.
-/
theorem every_wellFormed_and_candidates_wellFormed
    {configuration : Configuration}
    {engine : Engine σ}
    (reached : Reached configuration engine) :
    engine.store.Every Candidate.WellFormed ∧
      ∀ (disk : Disk) (rows : List String) (cursor : Buffer.Cursor),
        ∀ candidate ∈ (engine.complete disk rows cursor).value.2.candidates,
          candidate.WellFormed := by
  refine ⟨(reached.every Listing.gives_wellFormed).own, ?_⟩
  intro disk rows cursor candidate offered
  have every :=
    (reached.complete disk rows cursor).every Listing.gives_wellFormed
  rw [value_complete] at offered every
  exact (Store.offers_of_mem_answer offered).of_every every
    Candidate.RestAfter.wellFormed

theorem reached_ofSession (session : σ) : Reached {} (ofSession session) := by
  have created :
      ofConfiguration {} session =
        .ok ((ofConfiguration {} session).toOption.get rfl) := rfl
  exact .created created

theorem reached_chainEngine : Reached {} chainEngine := by
  unfold chainEngine
  exact ((reached_ofSession _).supplied _).supplied _

/-- In a call of `cor` its arguments and the table are handed out. -/
theorem wellFormed_in_call :
    let completed := (chainEngine.complete .empty ["cor(d"] ⟨0, 5⟩).value
    completed.2.candidates.map (fun candidate =>
        (candidate.label, candidate.menu, candidate.snippet)) =
      [("x", "param     ", some "x = $1"), ("y", "param     ", some "y = $1"),
        ("df", "data.frame", some "df$$1")] ∧
      ∀ candidate ∈ completed.2.candidates, candidate.WellFormed :=
  ⟨rfl, (every_wellFormed_and_candidates_wellFormed reached_chainEngine).2
    .empty ["cor(d"] ⟨0, 5⟩⟩

end Engine
end RCompletion
