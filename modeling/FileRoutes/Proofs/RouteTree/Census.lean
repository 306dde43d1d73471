import FileRoutes.Proofs.RouteTree.Coherence

/-!
# Counting files

`Indexed` is phrased for proofs.  Here it is read the way a user of a tree would put it: a file
that is in the tree sits at one node, once, and the index, the number of files and a search of
the whole tree all agree on it.
-/

namespace FileRoutes
namespace RouteTree

/-- How many files of this name sit at the node in a slot. -/
def occurrences (tree : RouteTree) (path : Text) (slot : Nat) : Nat :=
  (tree.filesAt slot).countP (·.path = path)

/-- The files at all nodes. -/
def attached (tree : RouteTree) : List PageFile :=
  (List.range tree.slots.length).flatMap tree.filesAt

variable {tree : RouteTree}

theorem mem_attached_iff {file : PageFile} :
    file ∈ tree.attached ↔ ∃ slot, file ∈ tree.filesAt slot := by
  constructor
  · intro isAttached
    rcases List.mem_flatMap.mp isAttached with ⟨slot, _, listed⟩
    exact ⟨slot, listed⟩
  · rintro ⟨slot, listed⟩
    rcases mem_filesAt_iff.mp listed with ⟨node, found, -⟩
    exact List.mem_flatMap.mpr ⟨slot, List.mem_range.mpr (lt_length_of_node? found), listed⟩

namespace Indexed

/-- No node holds more than one file of a name. -/
theorem occurrences_le_one (indexed : tree.Indexed) (path : Text) (slot : Nat) :
    tree.occurrences path slot ≤ 1 := by
  have unique := List.nodup_iff_count_le_one.mp (indexed.paths_nodup slot) path
  have counted : tree.occurrences path slot =
      ((tree.filesAt slot).map PageFile.path).count path := by
    rw [List.count, List.countP_map]
    apply List.countP_congr
    intro file _
    simp
  rwa [counted]

theorem occurrences_eq_one_iff (indexed : tree.Indexed) {path : Text} {slot : Nat} :
    tree.occurrences path slot = 1 ↔ tree.index.find? path = some slot := by
  rw [indexed.find?_eq_some_iff]
  constructor
  · intro once
    rcases List.countP_pos_iff.mp (once.symm ▸ Nat.one_pos) with ⟨file, listed, named⟩
    exact ⟨file, listed, of_decide_eq_true named⟩
  · rintro ⟨file, listed, named⟩
    apply le_antisymm (indexed.occurrences_le_one path slot)
    exact List.countP_pos_iff.mpr ⟨file, listed, decide_eq_true named⟩

theorem occurrences_eq_zero (indexed : tree.Indexed) {path : Text} {slot : Nat}
    (other : tree.index.find? path ≠ some slot) : tree.occurrences path slot = 0 := by
  have few := indexed.occurrences_le_one path slot
  have notOnce := mt indexed.occurrences_eq_one_iff.mp other
  omega

/-- No name comes up twice at some nodes, since it belongs to one of them. -/
theorem nodup_flatMap_filesAt (indexed : tree.Indexed) {slots : List Nat} (unique : slots.Nodup) :
    ((slots.flatMap tree.filesAt).map PageFile.path).Nodup := by
  rw [List.map_flatMap, List.nodup_flatMap]
  constructor
  · intro slot _
    exact indexed.paths_nodup slot
  · apply unique.imp
    intro first second different path isFirst isSecond
    rcases List.mem_map.mp isFirst with ⟨file, listed, named⟩
    rcases List.mem_map.mp isSecond with ⟨other, otherListed, otherNamed⟩
    have found := indexed.find?_eq_some_iff.mpr ⟨other, otherListed, otherNamed⟩
    exact different (indexed.slot_eq found listed named)

theorem nodup_attached (indexed : tree.Indexed) : (tree.attached.map PageFile.path).Nodup :=
  indexed.nodup_flatMap_filesAt List.nodup_range

/-- The index has an entry for every file and for nothing else. -/
theorem fileCount_eq (indexed : tree.Indexed) : tree.fileCount = tree.attached.length := by
  have perm : tree.index.names.Perm (tree.attached.map PageFile.path) := by
    apply (List.perm_ext_iff_of_nodup indexed.names_nodup indexed.nodup_attached).mpr
    intro path
    rw [FileIndex.mem_names_iff, List.mem_map]
    simp only [indexed.find?_eq_some_iff, mem_attached_iff]
    constructor
    · rintro ⟨slot, file, listed, named⟩
      exact ⟨file, ⟨slot, listed⟩, named⟩
    · rintro ⟨file, ⟨slot, listed⟩, named⟩
      exact ⟨slot, file, listed, named⟩
  simpa [fileCount, FileIndex.names] using perm.length_eq

end Indexed

/-- Searching the whole tree finds what the index names. -/
theorem Coherent.search?_eq (coherent : tree.Coherent) (path : Text) :
    tree.search? path = tree.index.find? path := by
  have indexed := coherent.indexed
  cases searched : tree.search? path with
  | some slot =>
      exact (indexed.find?_eq_some_iff_holdsAt.mpr (holdsAt_of_searchFrom searched)).symm
  | none =>
      cases found : tree.index.find? path with
      | none => rfl
      | some slot =>
          have isFound := coherent.linked.rooted.search?_isSome
            (indexed.find?_eq_some_iff_holdsAt.mp found)
          rw [searched] at isFound
          cases isFound

end RouteTree
end FileRoutes
