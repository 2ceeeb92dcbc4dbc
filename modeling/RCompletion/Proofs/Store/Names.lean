import RCompletion.Proofs.Disk.Rewritten
import RCompletion.Proofs.Text.Parts
import RCompletion.Store.Directory

/-!
# Names of the listings in a directory

The names of the listings in a directory are those of its files that contain
the marker of listings, in the order of their bytes and each once.  This says
which names they are and where each stands among them, so that the order of the
entries of a disk does not matter.
-/

namespace RCompletion

namespace Disk

/-! ## Order of bytes -/

/-- Bytes come before other bytes. -/
def BytesLT (left right : ByteArray) : Prop :=
  left.data.toList < right.data.toList

theorem bytesLE_iff {left right : ByteArray} :
    bytesLE left right = true ↔ left.data.toList ≤ right.data.toList := by
  simp [bytesLE]

theorem bytesLE_trans
    (first second third : ByteArray)
    (left : bytesLE first second = true)
    (right : bytesLE second third = true) :
    bytesLE first third = true :=
  bytesLE_iff.mpr (List.le_trans (bytesLE_iff.mp left) (bytesLE_iff.mp right))

theorem bytesLE_total (left right : ByteArray) :
    (bytesLE left right || bytesLE right left) = true := by
  rw [Bool.or_eq_true, bytesLE_iff, bytesLE_iff]
  exact List.le_total _ _

theorem BytesLT.ne {left right : ByteArray} (before : BytesLT left right) :
    left ≠ right := by
  rintro rfl
  exact List.lt_irrefl _ before

theorem BytesLT.asymm
    {left right : ByteArray}
    (before : BytesLT left right) :
    ¬ BytesLT right left :=
  List.lt_asymm before

theorem bytesLT_of_bytesLE_of_ne
    {left right : ByteArray}
    (before : bytesLE left right = true)
    (differ : left ≠ right) :
    BytesLT left right := by
  unfold BytesLT
  refine Decidable.of_not_not fun notBefore => differ ?_
  have same : left.data.toList = right.data.toList :=
    List.le_antisymm (bytesLE_iff.mp before) notBefore
  exact ByteArray.ext (Array.toList_inj.mp same)

/-- Bytes in their order are told by their members. -/
theorem eq_of_pairwise_bytesLT
    {names others : List ByteArray}
    (ordered : names.Pairwise BytesLT)
    (othersOrdered : others.Pairwise BytesLT)
    (same : ∀ name, name ∈ names ↔ name ∈ others) :
    names = others := by
  have permuted : names.Perm others :=
    (List.perm_ext_iff_of_nodup (ordered.imp BytesLT.ne)
      (othersOrdered.imp BytesLT.ne)).mpr same
  exact permuted.eq_of_pairwise
    (fun _ _ _ _ before after => absurd after before.asymm)
    ordered othersOrdered

end Disk

namespace Store

open Disk (BytesLT)

/-! ## Names of files -/

/-- The name of a child that is a file. -/
def fileName? (child : FileName × Node) : Option FileName :=
  match child.2 with
  | .file _ => some child.1
  | .directory => none

theorem fileNames_eq (contents : List (FileName × Node)) :
    fileNames contents = (contents.filterMap fileName?).mergeSort nameLE := rfl

theorem fileName?_eq_some_iff {child : FileName × Node} {name : FileName} :
    fileName? child = some name ↔
      ∃ bytes, child = (name, .file bytes) := by
  obtain ⟨other, node⟩ := child
  cases node <;> simp [fileName?]

theorem mem_fileNames_iff
    {contents : List (FileName × Node)}
    {name : FileName} :
    name ∈ fileNames contents ↔ ∃ bytes, (name, .file bytes) ∈ contents := by
  rw [fileNames_eq, List.mem_mergeSort, List.mem_filterMap]
  simp only [fileName?_eq_some_iff]
  constructor
  · rintro ⟨child, present, bytes, rfl⟩
    exact ⟨bytes, present⟩
  · rintro ⟨bytes, present⟩
    exact ⟨_, present, bytes, rfl⟩

/-- The names of files come in order, each once. -/
theorem pairwise_fileNames
    {contents : List (FileName × Node)}
    (distinct : contents.Pairwise fun child other => child.1 ≠ other.1) :
    (fileNames contents).Pairwise BytesLT := by
  have nodup : (contents.filterMap fileName?).Nodup := by
    refine distinct.filterMap _ ?_
    intro child other differ name known next nextKnown
    obtain ⟨bytes, rfl⟩ := fileName?_eq_some_iff.mp known
    obtain ⟨others, rfl⟩ := fileName?_eq_some_iff.mp nextKnown
    exact differ
  have once : (fileNames contents).Nodup :=
    (List.mergeSort_perm _ _).nodup_iff.mpr nodup
  have ordered :
      (fileNames contents).Pairwise fun left right =>
        Disk.bytesLE left right = true :=
    List.pairwise_mergeSort Disk.bytesLE_trans Disk.bytesLE_total _
  exact (ordered.and once).imp fun ⟨before, differ⟩ =>
    Disk.bytesLT_of_bytesLE_of_ne before differ

/-! ## Names of listings -/

/-- The bytes of a text come before those of another one. -/
def Precedes (left right : String) : Prop :=
  BytesLT left.toUTF8 right.toUTF8

theorem mem_listingNames_iff {names : List FileName} {name : String} :
    name ∈ listingNames names ↔
      "omnils".toList <:+: name.toList ∧ name.toUTF8 ∈ names := by
  have marked :
      Listing.isListingName name = true ↔ "omnils".toList <:+: name.toList :=
    Text.contains_iff name Listing.marker
  rw [listingNames, List.mem_filter, List.mem_filterMap, marked, and_comm]
  simp only [Text.fromUTF8?_eq_some_iff, exists_eq_right]

theorem pairwise_listingNames
    {names : List FileName}
    (ordered : names.Pairwise BytesLT) :
    (listingNames names).Pairwise Precedes := by
  refine List.Pairwise.filter _ (ordered.filterMap _ ?_)
  intro name other before text decoded next nextDecoded
  rw [Text.fromUTF8?_eq_some_iff.mp decoded,
    Text.fromUTF8?_eq_some_iff.mp nextDecoded] at before
  exact before

/-- A file in a directory is a listing after its name. -/
def HoldsListing
    (disk : Disk)
    (directory : Path)
    (name : String)
    (contents : ByteArray) : Prop :=
  "omnils".toList <:+: name.toList ∧
    disk.HoldsFile directory name.toUTF8 contents

section

variable
  {disk : Disk}
  {directory : Path}
  {contents : List (FileName × Node)}
  (wellFormed : disk.WellFormed)
  (lists : disk.list? directory = some contents)

include wellFormed lists

theorem pairwise_fileNames_of_list? :
    (fileNames contents).Pairwise BytesLT :=
  pairwise_fileNames (Disk.pairwise_ne_of_list? wellFormed lists)

theorem mem_fileNames_iff_of_list? {name : FileName} :
    name ∈ fileNames contents ↔
      ∃ bytes, disk.HoldsFile directory name bytes := by
  rw [mem_fileNames_iff]
  simp only [Disk.file_mem_iff_of_list? wellFormed lists]

theorem mem_listingNames_iff_of_list? {name : String} :
    name ∈ listingNames (fileNames contents) ↔
      ∃ bytes, HoldsListing disk directory name bytes := by
  rw [mem_listingNames_iff, mem_fileNames_iff_of_list? wellFormed lists]
  simp only [HoldsListing, exists_and_left]

end

/-! ## Rewritten disks -/

/-- Files have the same names on a rewritten disk, in the same order. -/
theorem map_fileNames_list?
    {disk other : Disk}
    (rewritten : disk.Rewritten other)
    (wellFormed : disk.WellFormed)
    (directory : Path) :
    (other.list? directory).map fileNames =
      (disk.list? directory).map fileNames := by
  have missing :
      other.list? directory = none ↔ disk.list? directory = none :=
    rewritten.list?_eq_none_iff wellFormed
  cases lists : disk.list? directory with
  | none => rw [missing.mpr lists]
  | some contents =>
      cases otherLists : other.list? directory with
      | none =>
          rw [missing.mp otherLists] at lists
          cases lists
      | some others =>
          have otherWellFormed := rewritten.wellFormed wellFormed
          have sameNames (name : FileName) :
              name ∈ fileNames others ↔ name ∈ fileNames contents := by
            rw [mem_fileNames_iff_of_list? otherWellFormed otherLists,
              mem_fileNames_iff_of_list? wellFormed lists,
              rewritten.exists_holdsFile_iff wellFormed]
          -- both are in order, so that their members tell them
          have same : fileNames others = fileNames contents :=
            Disk.eq_of_pairwise_bytesLT
              (pairwise_fileNames_of_list? otherWellFormed otherLists)
              (pairwise_fileNames_of_list? wellFormed lists) sameNames
          rw [Option.map_some, Option.map_some, same]

end Store
end RCompletion
