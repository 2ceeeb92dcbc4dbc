import RCompletion.Proofs.Engine.Run
import RCompletion.Proofs.Store.Every

/-!
# Reached engines

An engine may get further listings between any two calls.  Whatever it was
given and asked, it still has the configuration that it was created with, and
its candidates come from records.
-/

namespace RCompletion
namespace Engine

variable {σ : Type} [Session σ]

/-- Engines of a configuration after any supplies and calls, in any order. -/
inductive Reached (configuration : Configuration) : Engine σ → Prop
  | created
      {session : σ}
      {created : Logged (Engine σ)}
      (succeeded : ofConfiguration configuration session = .ok created) :
      Reached configuration created.value
  | supplied
      {engine : Engine σ}
      (reached : Reached configuration engine)
      (next : Supply) :
      Reached configuration (engine.supply next)
  | called
      {engine : Engine σ}
      (reached : Reached configuration engine)
      (next : Call σ) :
      Reached configuration (engine.call next)

variable {configuration : Configuration} {engine : Engine σ}

theorem Reached.configuration_eq
    (reached : Reached configuration engine) :
    engine.configuration = configuration := by
  induction reached with
  | created succeeded => exact (of_ofConfiguration_eq_ok succeeded).1
  | supplied reached next inductionHypothesis =>
      rw [supply_eq]
      exact inductionHypothesis
  | called reached next inductionHypothesis =>
      exact (call_keeps _ next).1.trans inductionHypothesis

/-- A request reaches the engine that it leaves behind. -/
theorem Reached.complete
    (reached : Reached configuration engine)
    (disk : Disk)
    (rows : List String)
    (cursor : Buffer.Cursor) :
    Reached configuration (engine.complete disk rows cursor).value.1 :=
  reached.called (.complete disk rows cursor)

/-- What holds of the candidates of records holds of all candidates reached. -/
theorem Reached.every
    {property : Candidate → Prop}
    (reached : Reached configuration engine)
    (gives : Listing.Gives property) :
    engine.store.Every property := by
  induction reached with
  | created succeeded =>
      obtain ⟨-, -, store⟩ := of_ofConfiguration_eq_ok succeeded
      rw [store]
      exact Store.every_empty
  | supplied reached next inductionHypothesis =>
      rw [supply_eq]
      exact inductionHypothesis.addPackageListings gives _
  | called reached next inductionHypothesis =>
      obtain ⟨reports, reported⟩ := store_call _ next
      rw [reported]
      exact inductionHypothesis.receiveAll gives reports

end Engine
end RCompletion
