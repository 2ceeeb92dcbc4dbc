import RCompletion.Session.Nvimcom
import RCompletion.Session.Offline
import RCompletion.Session.Rehearsed

/-!
# Steady sessions

The sessions here take requests without waiting for the files: what they read
afterwards is what the disk, or the memory of a rehearsed session, holds anyway.
-/

namespace RCompletion
namespace Session

/-- Requests do not change what a session reads. -/
class Steady (σ : Type) [Session σ] : Prop where
  /-- A request for objects does not. -/
  readRecords_requestObjects
    (session : σ) (destination : Path) (disk : Disk) (path : Path) :
    readRecords (requestObjects session destination).session disk path =
      readRecords session disk path
  /-- A request for lines does not. -/
  readRecords_requestLines
    (session : σ) (expression : String) (destination : Path)
    (disk : Disk) (path : Path) :
    readRecords (requestLines session expression destination).session disk
        path =
      readRecords session disk path
  /-- A file marked for removal is still there. -/
  readRecords_registerForDeletion
    (session : σ) (marked : Path) (disk : Disk) (path : Path) :
    readRecords (registerForDeletion session marked) disk path =
      readRecords session disk path

/-- Two sessions read the same from every disk. -/
def ReadsAlike {σ : Type} [Session σ] (left right : σ) : Prop :=
  ∀ disk path, readRecords left disk path = readRecords right disk path

section ReadsAlike

variable {σ : Type} [Session σ]

theorem ReadsAlike.refl (session : σ) : ReadsAlike session session :=
  fun _ _ => rfl

theorem ReadsAlike.symm
    {left right : σ}
    (alike : ReadsAlike left right) :
    ReadsAlike right left :=
  fun disk path => (alike disk path).symm

theorem ReadsAlike.trans
    {left middle right : σ}
    (first : ReadsAlike left middle)
    (second : ReadsAlike middle right) :
    ReadsAlike left right :=
  fun disk path => (first disk path).trans (second disk path)

end ReadsAlike

instance : Steady Offline where
  readRecords_requestObjects _ _ _ _ := rfl
  readRecords_requestLines _ _ _ _ _ := rfl
  readRecords_registerForDeletion _ _ _ _ := rfl

instance [Transport τ] : Steady (Nvimcom τ) where
  readRecords_requestObjects _ _ _ _ := rfl
  readRecords_requestLines _ _ _ _ _ := rfl
  readRecords_registerForDeletion _ _ _ _ := rfl

instance : Steady Rehearsed where
  readRecords_requestObjects _ _ _ _ := rfl
  readRecords_requestLines _ _ _ _ _ := rfl
  readRecords_registerForDeletion _ _ _ _ := rfl

end Session
end RCompletion
