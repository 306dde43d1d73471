import FileRoutes.Proofs.RouteTree.Insertion

/-!
# Removing a file under an index that may be wrong

The index is asked first, and believed only if the node that it names holds the file.  Otherwise
the whole tree is searched, and a search misses no file.  So as long as a file sits at one node at
most, the index decides how long its removal takes and nothing else: it may name a wrong slot, an
empty one or none at all.
-/

namespace FileRoutes
namespace RouteTree

def withIndex (tree : RouteTree) (index : FileIndex) : RouteTree :=
  { tree with index := index }

/-- No two nodes hold a file of this name. -/
def HoldsOnce (tree : RouteTree) (path : Text) : Prop :=
  ∀ first second, tree.holdsAt path first = true → tree.holdsAt path second = true → first = second

variable {tree : RouteTree} {path : Text}

theorem Indexed.holdsOnce (indexed : tree.Indexed) (path : Text) : tree.HoldsOnce path := by
  intro first second firstHolds secondHolds
  have named := indexed.find?_eq_some_iff_holdsAt.mpr firstHolds
  have namedToo := indexed.find?_eq_some_iff_holdsAt.mpr secondHolds
  exact Option.some.inj (named.symm.trans namedToo)

/-! ## Finding the file -/

/-- A slot that is found holds the file, whether the index knew it or not. -/
theorem holdsAt_of_slotOf? {slot : Nat} (found : tree.slotOf? path = some slot) :
    tree.holdsAt path slot = true := by
  unfold slotOf? at found
  cases named : (tree.index.find? path).filter fun slot =>
      (tree.node? slot).any (Node.holds path) with
  | some known =>
      rw [named] at found
      rcases Option.some.inj found with rfl
      exact (Option.filter_eq_some_iff.mp named).2
  | none =>
      rw [named] at found
      exact holdsAt_of_searchFrom found

/-- No file is missed, since where the index fails the tree is searched. -/
theorem Rooted.slotOf?_isSome (rooted : tree.Rooted) {slot : Nat}
    (holds : tree.holdsAt path slot = true) : (tree.slotOf? path).isSome := by
  unfold slotOf?
  cases (tree.index.find? path).filter fun slot => (tree.node? slot).any (Node.holds path) with
  | some known => rfl
  | none => exact rooted.search?_isSome holds

theorem Rooted.slotOf?_eq_some_iff (rooted : tree.Rooted) (once : tree.HoldsOnce path)
    {slot : Nat} : tree.slotOf? path = some slot ↔ tree.holdsAt path slot = true := by
  constructor
  · exact holdsAt_of_slotOf?
  · intro holds
    rcases Option.isSome_iff_exists.mp (rooted.slotOf?_isSome holds) with ⟨known, found⟩
    rwa [once slot known holds (holdsAt_of_slotOf? found)]

/-- Whether the slots hold a tree is up to the slots. -/
theorem Rooted.of_slots_eq {other : RouteTree} (rooted : tree.Rooted)
    (same : other.slots = tree.slots) : other.Rooted := by
  cases other
  cases same
  exact ⟨rooted.root, rooted.below_of_mem, rooted.mem_of_below, rooted.children_nodup,
    rooted.acyclic, rooted.reaches_root⟩

theorem Rooted.slotOf?_withIndex (rooted : tree.Rooted) (once : tree.HoldsOnce path)
    (index : FileIndex) : (tree.withIndex index).slotOf? path = tree.slotOf? path := by
  have onceToo : (tree.withIndex index).HoldsOnce path := once
  apply Option.ext
  intro slot
  have rootedToo : (tree.withIndex index).Rooted := rooted.of_slots_eq rfl
  rw [rootedToo.slotOf?_eq_some_iff onceToo, rooted.slotOf?_eq_some_iff once]
  rfl

/-! ## Taking it out -/

/-- Up to the index itself, a file is taken out in the same way under any index. -/
theorem Rooted.detach_withIndex (rooted : tree.Rooted) (once : tree.HoldsOnce path)
    (index : FileIndex) :
    (tree.withIndex index).detach path =
      ((tree.detach path).1.withIndex (index.erase path), (tree.detach path).2) := by
  unfold detach
  rw [rooted.slotOf?_withIndex once]
  cases tree.slotOf? path with
  | none => rfl
  | some slot =>
      let dropped := tree.modify slot (Node.dropFile path)
      have pruned := prune_withBooks dropped (index.erase path) tree.generation slot
      have prunedToo := prune_withBooks dropped (tree.index.erase path) tree.generation slot
      refine Prod.ext (pruned.trans ?_) rfl
      exact (congrArg (RouteTree.withIndex · (index.erase path)) prunedToo).symm

/-- A file is taken out if a node holds it. -/
theorem Rooted.detach_snd (rooted : tree.Rooted) (path : Text) :
    (tree.detach path).2 = true ↔ ∃ slot, tree.holdsAt path slot = true := by
  unfold detach
  cases found : tree.slotOf? path with
  | none =>
      apply iff_of_false Bool.false_ne_true
      rintro ⟨slot, holds⟩
      have isSome := rooted.slotOf?_isSome holds
      rw [found] at isSome
      cases isSome
  | some slot => exact iff_of_true rfl ⟨slot, holdsAt_of_slotOf? found⟩

/-- As long as no two nodes hold a file, any two indexes lead to the same nodes and to the same
answer, which is whether a node holds the file.  It is taken from that node, and every other file
stays where it is. -/
theorem remove_withIndex (rooted : tree.Rooted) (once : tree.HoldsOnce path)
    (index : FileIndex) :
    (tree.withIndex index).remove path =
        ((tree.remove path).1.withIndex (index.erase path), (tree.remove path).2) ∧
      ((tree.remove path).2 = true ↔ ∃ slot, tree.holdsAt path slot = true) ∧
      ∀ slot, (tree.remove path).1.filesAt slot = (tree.filesAt slot).filter (·.path ≠ path) := by
  have touched : tree.touch.Rooted := rooted.of_slots_eq rfl
  have onceTouched : tree.touch.HoldsOnce path := once
  exact ⟨touched.detach_withIndex onceTouched index, touched.detach_snd path,
    filesAt_detach_of_iff (touched.slotOf?_eq_some_iff onceTouched)⟩

/-- An index that mixes up one file and knows a slot that is not there for the other does no
harm. -/
theorem remove_under_wrong_index :
    let tree := ((RouteTree.empty.add (.file ['a', '/', 'b'] 0) {}).1.add (.file ['c'] 0) {}).1
    let wrong : FileIndex := [(['a', '/', 'b'], 3), (['c'], 7)]
    tree.index = [(['c'], 3), (['a', '/', 'b'], 2)] ∧
      ((tree.withIndex wrong).remove ['c']).2 = true ∧
      ((tree.withIndex wrong).remove ['c']).1.slots = (tree.remove ['c']).1.slots ∧
      ((tree.withIndex wrong).remove ['a', '/', 'b']).1.slots =
        (tree.remove ['a', '/', 'b']).1.slots := by
  intro tree wrong
  have coherent : tree.Coherent := (coherent_empty.add _ _ none).add _ _ none
  have rooted := coherent.linked.rooted
  have removed := remove_withIndex rooted (coherent.indexed.holdsOnce ['c']) wrong
  have removedToo := remove_withIndex rooted (coherent.indexed.holdsOnce ['a', '/', 'b']) wrong
  refine ⟨by decide +kernel, ?_, ?_, ?_⟩
  · rw [removed.1]
    exact removed.2.1.mpr ⟨3, by decide +kernel⟩
  · rw [removed.1]
    rfl
  · rw [removedToo.1]
    rfl

end RouteTree
end FileRoutes
