import FileRoutes.Proofs.RouteTree.Descent

/-!
# Every change leaves a tree in order

`Coherent` gathers what holds of every tree that the library makes: its slots hold a tree, no node
below the root is bare, and the index knows where every file is.  Each operation keeps all three
together, since each of them is needed for the others.  A search finds a file because the slots
hold a tree, and pruning takes no file away because it takes only bare nodes.
-/

namespace FileRoutes
namespace RouteTree

/-- What holds of every tree that the library makes. -/
structure Coherent (tree : RouteTree) : Prop where
  linked : tree.Linked
  settled : tree.SettledBut 0
  indexed : tree.Indexed

variable {tree : RouteTree}

theorem coherent_empty : RouteTree.empty.Coherent where
  linked := linked_empty
  settled slot node found inner := by
    have inside := lt_length_of_node? found
    exact absurd (Nat.lt_one_iff.mp inside) inner
  indexed := {
    find?_eq_some_iff := fun {path slot} => by
      simp only [filesAt_empty, List.not_mem_nil, false_and, exists_false, iff_false]
      rintro ⟨⟩
    paths_nodup := fun slot => filesAt_empty slot ▸ List.nodup_nil
    names_nodup := List.nodup_nil }

/-- The tree without a file, whose node may be bare now. -/
def dropAt (tree : RouteTree) (path : Text) (home : Nat) : RouteTree :=
  { tree with index := tree.index.erase path }.modify home (Node.dropFile path)

theorem sameLinks_dropAt (tree : RouteTree) (path : Text) (home : Nat) :
    SameLinks tree (tree.dropAt path home) := by
  have filesOnly : ∀ node, links (Node.dropFile path node) = links node := fun _ => rfl
  have same := sameLinks_modify filesOnly tree home
  exact ⟨same.nodes, same.free, same.length⟩

namespace Coherent

/-- The root holds no file, so a slot that holds one is below it. -/
theorem ne_root_of_mem (coherent : tree.Coherent) {slot : Nat} {file : PageFile}
    (listed : file ∈ tree.filesAt slot) : slot ≠ 0 := by
  rintro rfl
  rw [coherent.linked.filesAt_root] at listed
  cases listed

theorem isOpen (coherent : tree.Coherent) : tree.Open 0 :=
  coherent.linked.open_root coherent.settled

/-- The generation plays no part in the order of a tree. -/
theorem touch (coherent : tree.Coherent) : tree.touch.Coherent where
  linked := coherent.linked.of_sameLinks ⟨fun _ => rfl, rfl, rfl⟩ coherent.linked.filesAt_root
  settled := coherent.settled
  indexed := coherent.indexed.of_same (fun _ => rfl) rfl

/-! ## Taking a file out -/

theorem linked_dropAt (coherent : tree.Coherent) {home : Nat} (inner : home ≠ 0) (path : Text) :
    (tree.dropAt path home).Linked := by
  have dropped := coherent.linked.modify inner (Node.dropFile path) fun _ => rfl
  exact dropped.of_sameLinks ⟨fun _ => rfl, rfl, rfl⟩ dropped.filesAt_root

theorem settledBut_dropAt (coherent : tree.Coherent) (path : Text) (home : Nat) :
    (tree.dropAt path home).SettledBut home :=
  (coherent.settled.excuse home).modify (Node.dropFile path)

/-- Taking a file out can leave one node bare, the one that held it, and pruning starts there. -/
theorem detach (coherent : tree.Coherent) (path : Text) : (tree.detach path).1.Coherent := by
  suffices inOrder : (tree.detach path).1.Linked ∧ (tree.detach path).1.SettledBut 0 from
    ⟨inOrder.1, inOrder.2, coherent.indexed.detach path⟩
  rw [coherent.indexed.detach_fst]
  cases found : tree.index.find? path with
  | none =>
      refine ⟨coherent.linked.of_sameLinks ⟨fun _ => rfl, rfl, rfl⟩ ?_, coherent.settled⟩
      exact coherent.linked.filesAt_root
  | some home =>
      rcases coherent.indexed.find?_eq_some_iff.mp found with ⟨file, listed, -⟩
      have dropped := coherent.linked_dropAt (coherent.ne_root_of_mem listed) path
      exact dropped.prune (coherent.settledBut_dropAt path home)

theorem remove (coherent : tree.Coherent) (path : Text) : (tree.remove path).1.Coherent :=
  coherent.touch.detach path

theorem cleared (coherent : tree.Coherent) (path : Text) : (tree.cleared path).Coherent := by
  unfold RouteTree.cleared
  split
  · exact coherent.detach path
  · exact coherent

theorem cleared_eq_prune (coherent : tree.Coherent) {path : Text} {home : Nat}
    (found : tree.index.find? path = some home) :
    tree.cleared path = (tree.dropAt path home).prune home := by
  have contained : tree.contains path = true := by
    rw [contains, FileIndex.contains, found]
    rfl
  rw [RouteTree.cleared, if_pos contained, coherent.indexed.detach_fst, found]
  rfl

/-- Clearing the place of a file takes it from its node and leaves the others in theirs. -/
theorem filesAt_cleared (coherent : tree.Coherent) (path : Text) (slot : Nat) :
    (tree.cleared path).filesAt slot = (tree.filesAt slot).filter (·.path ≠ path) := by
  unfold RouteTree.cleared
  split
  · exact coherent.indexed.filesAt_detach path slot
  · next absent =>
    symm
    apply filter_filesAt_of_absent
    intro file listed named
    exact absent (coherent.indexed.contains_iff.mpr ⟨slot, file, listed, named⟩)

theorem find?_cleared (tree : RouteTree) (path : Text) :
    (tree.cleared path).index.find? path = none := by
  unfold RouteTree.cleared contains FileIndex.contains
  cases found : tree.index.find? path with
  | none => exact found
  | some slot => exact find?_detach tree path

end Coherent

/-! ## Seating a file -/

/-- A file that is seated fills the node that may have been made for it. -/
theorem Open.seatFile {slot : Nat} (isOpen : tree.Open slot) (indexed : tree.Indexed)
    (inner : slot ≠ 0) {node : Node} (found : tree.node? slot = some node) {file : PageFile}
    (fresh : tree.index.find? file.path = none) {replaced : Option PageFile}
    (isReplaced : node.files.find? (·.seat = file.seat) = replaced) :
    (tree.seatFile slot file replaced).Coherent where
  linked := by
    have seated := isOpen.linked.modify inner (Node.putFile file) fun _ => rfl
    exact seated.of_sameLinks ⟨fun _ => rfl, rfl, rfl⟩ seated.filesAt_root
  settled := by
    have settled : (tree.seatFile slot file replaced).SettledBut slot :=
      isOpen.settled.modify (Node.putFile file)
    apply settled.of_busy
    intro filled filledFound _
    apply Node.isBare_eq_false_iff.mpr
    left
    rw [← filesAt_of_node? filledFound, Indexed.filesAt_seatFile found, if_pos rfl]
    exact file.takeSeat_ne_nil node.files
  indexed := indexed.seatFile found fresh isReplaced

end RouteTree
end FileRoutes
