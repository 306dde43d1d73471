import FileRoutes.Proofs.RouteTree.Order
import FileRoutes.Proofs.RouteTree.Pruning

/-!
# The index knows where every file is

`Indexed` says that the index and the nodes agree on every file, and that no node holds a name
twice.  Taking a file out and seating one keep this; making and pruning nodes cannot break it,
since they move no file.  While it holds, the index need not be doubted: the slot it names holds
the file, and a file that it does not name is nowhere, so a search finds nothing new.
-/

namespace FileRoutes
namespace RouteTree

/-- The index names exactly the files at the nodes, each of which has one place. -/
structure Indexed (tree : RouteTree) : Prop where
  find?_eq_some_iff : ∀ {path slot}, tree.index.find? path = some slot ↔
    ∃ file ∈ tree.filesAt slot, file.path = path
  paths_nodup : ∀ slot, ((tree.filesAt slot).map PageFile.path).Nodup
  names_nodup : tree.index.names.Nodup

variable {tree : RouteTree}

theorem holdsAt_iff_filesAt {path : Text} {slot : Nat} :
    tree.holdsAt path slot = true ↔ ∃ file ∈ tree.filesAt slot, file.path = path := by
  unfold holdsAt filesAt
  cases tree.node? slot <;> simp [Node.holds]

theorem filter_filesAt_of_absent {path : Text} {slot : Nat}
    (absent : ∀ file ∈ tree.filesAt slot, file.path ≠ path) :
    (tree.filesAt slot).filter (·.path ≠ path) = tree.filesAt slot :=
  List.filter_eq_self.mpr fun file listed => decide_eq_true (absent file listed)

theorem index_detach (tree : RouteTree) (path : Text) :
    (tree.detach path).1.index = tree.index.erase path := by
  unfold detach
  split
  · rfl
  · exact index_prune _ _

theorem find?_detach (tree : RouteTree) (path : Text) :
    (tree.detach path).1.index.find? path = none := by
  rw [index_detach, FileIndex.find?_erase, if_pos rfl]

/-- Where no other slot holds a file than the one that is found for it, the file is taken from
that one and every other file stays. -/
theorem filesAt_detach_of_iff {path : Text}
    (sole : ∀ {slot}, tree.slotOf? path = some slot ↔ tree.holdsAt path slot = true) (slot : Nat) :
    (tree.detach path).1.filesAt slot = (tree.filesAt slot).filter (·.path ≠ path) := by
  have stays {other : Nat} (absent : tree.slotOf? path ≠ some other) :
      tree.filesAt other = (tree.filesAt other).filter (·.path ≠ path) := by
    symm
    apply filter_filesAt_of_absent
    intro file listed named
    exact absent (sole.mpr (holdsAt_iff_filesAt.mpr ⟨file, listed, named⟩))
  unfold detach
  cases found : tree.slotOf? path with
  | none => exact stays (found ▸ nofun)
  | some home =>
      rcases holdsAt_iff.mp (sole.mp found) with ⟨node, nodeFound, -⟩
      have erased : { tree with index := tree.index.erase path }.node? home = some node :=
        nodeFound
      dsimp only
      rw [filesAt_prune, filesAt_modify erased]
      split
      · next isHome =>
        rw [isHome, filesAt_of_node? nodeFound]
        rfl
      · next isOther =>
        apply stays
        rw [found]
        intro equal
        exact isOther (Option.some.inj equal).symm

namespace Indexed

theorem find?_eq_some_iff_holdsAt (indexed : tree.Indexed) {path : Text} {slot : Nat} :
    tree.index.find? path = some slot ↔ tree.holdsAt path slot = true :=
  indexed.find?_eq_some_iff.trans holdsAt_iff_filesAt.symm

theorem contains_iff (indexed : tree.Indexed) {path : Text} :
    tree.contains path = true ↔ ∃ slot, ∃ file ∈ tree.filesAt slot, file.path = path := by
  rw [contains, FileIndex.contains, Option.isSome_iff_exists]
  simp only [indexed.find?_eq_some_iff]

/-- No other node holds the file than the one the index names. -/
theorem slot_eq (indexed : tree.Indexed) {path : Text} {slot other : Nat}
    (found : tree.index.find? path = some slot) {file : PageFile}
    (listed : file ∈ tree.filesAt other) (named : file.path = path) : other = slot :=
  Option.some.inj ((indexed.find?_eq_some_iff.mpr ⟨file, listed, named⟩).symm.trans found)

theorem path_ne (indexed : tree.Indexed) {path : Text} (absent : tree.index.find? path = none)
    {slot : Nat} {file : PageFile} (listed : file ∈ tree.filesAt slot) : file.path ≠ path := by
  intro named
  rw [indexed.find?_eq_some_iff.mpr ⟨file, listed, named⟩] at absent
  cases absent

/-- Two trees with the same files at their nodes and the same index are indexed alike. -/
theorem of_same (indexed : tree.Indexed) {other : RouteTree}
    (files : ∀ slot, other.filesAt slot = tree.filesAt slot) (index : other.index = tree.index) :
    other.Indexed where
  find?_eq_some_iff {path slot} := by rw [index, files, indexed.find?_eq_some_iff]
  paths_nodup slot := files slot ▸ indexed.paths_nodup slot
  names_nodup := index ▸ indexed.names_nodup

/-! ## Taking a file out -/

theorem slotOf?_eq (indexed : tree.Indexed) (path : Text) :
    tree.slotOf? path = tree.index.find? path := by
  unfold slotOf?
  cases found : tree.index.find? path with
  | some slot =>
      have holds : (tree.node? slot).any (Node.holds path) = true :=
        indexed.find?_eq_some_iff_holdsAt.mp found
      simp [holds]
  | none =>
      cases searched : tree.search? path with
      | none => rfl
      | some slot =>
          rw [indexed.find?_eq_some_iff_holdsAt.mpr (holdsAt_of_searchFrom searched)] at found
          cases found

theorem detach_fst (indexed : tree.Indexed) (path : Text) :
    (tree.detach path).1 = match tree.index.find? path with
      | none => { tree with index := tree.index.erase path }
      | some slot => ({ tree with index := tree.index.erase path }.modify slot
          (Node.dropFile path)).prune slot := by
  unfold detach
  rw [indexed.slotOf?_eq]
  cases tree.index.find? path <;> rfl

/-- Taking a file out takes it from every node's files and leaves the others. -/
theorem filesAt_detach (indexed : tree.Indexed) (path : Text) (slot : Nat) :
    (tree.detach path).1.filesAt slot = (tree.filesAt slot).filter (·.path ≠ path) := by
  apply filesAt_detach_of_iff
  intro slot
  rw [indexed.slotOf?_eq, indexed.find?_eq_some_iff_holdsAt]

theorem detach (indexed : tree.Indexed) (path : Text) : (tree.detach path).1.Indexed where
  find?_eq_some_iff {other slot} := by
    rw [index_detach, indexed.filesAt_detach, FileIndex.find?_erase]
    by_cases same : other = path
    · simp [same]
    · rw [if_neg same, indexed.find?_eq_some_iff]
      constructor
      · rintro ⟨file, listed, rfl⟩
        exact ⟨file, List.mem_filter.mpr ⟨listed, by simpa using same⟩, rfl⟩
      · rintro ⟨file, listed, named⟩
        exact ⟨file, (List.mem_filter.mp listed).1, named⟩
  paths_nodup slot := by
    rw [indexed.filesAt_detach]
    exact (indexed.paths_nodup slot).sublist (List.filter_sublist.map _)
  names_nodup := by
    rw [index_detach]
    exact FileIndex.nodup_names_erase indexed.names_nodup path

/-! ## Seating a file -/

theorem filesAt_seatFile {slot : Nat} {node : Node} (found : tree.node? slot = some node)
    (file : PageFile) (replaced : Option PageFile) (other : Nat) :
    (tree.seatFile slot file replaced).filesAt other =
      if other = slot then file.takeSeat node.files else tree.filesAt other :=
  filesAt_modify found (Node.putFile file) other

theorem find?_seatFile (tree : RouteTree) (slot : Nat) (file : PageFile)
    (replaced : Option PageFile) (path : Text) :
    (tree.seatFile slot file replaced).index.find? path =
      if path = file.path then some slot
      else if replaced.map PageFile.path = some path then none
      else tree.index.find? path := by
  unfold seatFile
  rw [FileIndex.find?_insert]
  cases replaced with
  | none => simp [modify]
  | some existing => simp [modify, FileIndex.find?_erase, eq_comm]

/-- Names tell which file gives way, since no other one bears its name. -/
theorem replaced_eq_iff (indexed : tree.Indexed) {slot : Nat} {node : Node} {file : PageFile}
    (found : tree.node? slot = some node) {replaced : Option PageFile}
    (isReplaced : node.files.find? (·.seat = file.seat) = replaced) {other : Nat}
    {held : PageFile} (listed : held ∈ tree.filesAt other) :
    replaced = some held ↔ replaced.map PageFile.path = some held.path := by
  constructor
  · rintro rfl
    rfl
  · intro named
    rcases Option.map_eq_some_iff.mp named with ⟨existing, rfl, samePath⟩
    have seated := List.mem_of_find?_eq_some isReplaced
    rw [← filesAt_of_node? found] at seated
    have home := indexed.find?_eq_some_iff.mpr ⟨existing, seated, samePath⟩
    have equal := indexed.slot_eq home listed rfl
    subst equal
    have unique := indexed.paths_nodup other
    exact congrArg some (List.inj_on_of_nodup_map unique seated listed samePath)

/-- After a file has been seated, its node holds it, and every node holds what it held before
except for the file that gave way. -/
theorem mem_filesAt_seatFile_iff (indexed : tree.Indexed) {slot : Nat} {node : Node}
    {file : PageFile} (found : tree.node? slot = some node) {replaced : Option PageFile}
    (isReplaced : node.files.find? (·.seat = file.seat) = replaced) {other : Nat}
    {held : PageFile} :
    held ∈ (tree.seatFile slot file replaced).filesAt other ↔
      (other = slot ∧ held = file) ∨
        (held ∈ tree.filesAt other ∧ replaced.map PageFile.path ≠ some held.path) := by
  have byName (listed : held ∈ tree.filesAt other) :=
    not_congr (indexed.replaced_eq_iff found isReplaced listed)
  rw [filesAt_seatFile found]
  by_cases isSlot : other = slot
  · subst isSlot
    have unique := indexed.paths_nodup other
    rw [filesAt_of_node? found] at unique byName ⊢
    rw [if_pos rfl, PageFile.mem_takeSeat_iff unique, isReplaced, and_congr_right byName]
    simp
  · rw [if_neg isSlot]
    simp only [isSlot, false_and, false_or]
    apply (and_iff_left_of_imp _).symm
    intro listed named
    have gaveWay := (indexed.replaced_eq_iff found isReplaced listed).mpr named
    have seated := List.mem_of_find?_eq_some (isReplaced.trans gaveWay)
    rw [← filesAt_of_node? found] at seated
    have home := indexed.find?_eq_some_iff.mpr ⟨held, seated, rfl⟩
    exact isSlot (indexed.slot_eq home listed rfl)

theorem seatFile (indexed : tree.Indexed) {slot : Nat} {node : Node} {file : PageFile}
    (found : tree.node? slot = some node) (fresh : tree.index.find? file.path = none)
    {replaced : Option PageFile} (isReplaced : node.files.find? (·.seat = file.seat) = replaced) :
    (tree.seatFile slot file replaced).Indexed where
  find?_eq_some_iff {path other} := by
    rw [find?_seatFile]
    simp only [indexed.mem_filesAt_seatFile_iff found isReplaced]
    by_cases isFile : path = file.path
    · subst isFile
      rw [if_pos rfl, Option.some.injEq]
      constructor
      · rintro rfl
        exact ⟨file, .inl ⟨rfl, rfl⟩, rfl⟩
      · rintro ⟨held, ⟨isSlot, -⟩ | ⟨listed, -⟩, named⟩
        · exact isSlot.symm
        · exact absurd named (indexed.path_ne fresh listed)
    · rw [if_neg isFile]
      by_cases gaveWay : replaced.map PageFile.path = some path
      · rw [if_pos gaveWay]
        apply iff_of_false (Option.some_ne_none other).symm
        rintro ⟨held, ⟨-, rfl⟩ | ⟨-, kept⟩, rfl⟩
        · exact isFile rfl
        · exact kept gaveWay
      · rw [if_neg gaveWay, indexed.find?_eq_some_iff]
        constructor
        · rintro ⟨held, listed, rfl⟩
          exact ⟨held, .inr ⟨listed, gaveWay⟩, rfl⟩
        · rintro ⟨held, ⟨-, rfl⟩ | ⟨listed, -⟩, named⟩
          · exact absurd named.symm isFile
          · exact ⟨held, listed, named⟩
  paths_nodup other := by
    rw [filesAt_seatFile found]
    split
    · next isSlot =>
      have unique := indexed.paths_nodup slot
      rw [filesAt_of_node? found] at unique
      apply PageFile.nodup_paths_takeSeat unique
      intro existing listed
      exact indexed.path_ne fresh (filesAt_of_node? found ▸ listed)
    · exact indexed.paths_nodup other
  names_nodup := by
    unfold RouteTree.seatFile
    refine FileIndex.nodup_names_insert ?_ file.path slot
    cases replaced with
    | none => exact indexed.names_nodup
    | some existing => exact FileIndex.nodup_names_erase indexed.names_nodup existing.path

end Indexed

end RouteTree
end FileRoutes
