import FileRoutes.Proofs.RouteTree.Census

/-!
# Well-formed trees

`Linked` and `SettledBut` are phrased for proofs.  `WellFormed` says the same in terms of what is
to be seen in the slots: which of them are free, which nodes are children of which, how many times
each is listed, and where the files are.
-/

namespace FileRoutes
namespace RouteTree

open Relation

/-- The slots of a tree hold a tree without dead nodes. -/
structure WellFormed (tree : RouteTree) : Prop where
  /-- The root is live; it has no parent and no files. -/
  root : ∃ node, tree.node? 0 = some node ∧ node.parent = none ∧ node.files = []
  free_nodup : tree.free.Nodup
  /-- The free list lists the empty slots. -/
  mem_free_iff : ∀ slot, slot ∈ tree.free ↔ tree.slots[slot]? = some none
  slot_eq : ∀ slot node, tree.node? slot = some node → node.slot = slot
  /-- Parents and children name each other. -/
  below_iff : ∀ slot above, tree.Below slot above ↔
    ∃ upper, tree.node? above = some upper ∧ slot ∈ upper.children
  /-- Every node below the root is listed once by one node, and by no other. -/
  listed_once : ∀ slot node, tree.node? slot = some node → slot ≠ 0 →
    ∃ above upper, tree.node? above = some upper ∧ upper.children.count slot = 1 ∧
      ∀ other lower, tree.node? other = some lower → slot ∈ lower.children → other = above
  reaches_root : ∀ slot node, tree.node? slot = some node → ReflTransGen tree.Below slot 0
  /-- Siblings differ in their keys. -/
  keys_nodup : ∀ slot node, tree.node? slot = some node →
    ((tree.childrenOf node).map Node.key).Nodup
  key_eq : ∀ slot node, tree.node? slot = some node → slot ≠ 0 →
    node.key = node.segment.spelling
  /-- Below every node but the root, or at it, a file sits. -/
  file_below : ∀ slot node, tree.node? slot = some node → slot ≠ 0 →
    ∃ lower, ReflTransGen tree.Below lower slot ∧ tree.filesAt lower ≠ []

variable {tree : RouteTree}

theorem Linked.below_iff (linked : tree.Linked) {slot above : Nat} :
    tree.Below slot above ↔ ∃ upper, tree.node? above = some upper ∧ slot ∈ upper.children :=
  ⟨linked.mem_of_below, fun ⟨_, found, listed⟩ => linked.below_of_mem found listed⟩

theorem Linked.keys_nodup (linked : tree.Linked) {slot : Nat} {node : Node}
    (found : tree.node? slot = some node) : ((tree.childrenOf node).map Node.key).Nodup := by
  apply List.pairwise_map.mpr
  apply List.pairwise_filterMap.mpr
  apply (linked.children_nodup found).imp_of_mem
  intro first second firstListed secondListed different firstNode firstFound secondNode secondFound
  have parent_eq {child : Nat} {lower : Node} (listed : child ∈ node.children)
      (lowerFound : tree.node? child = some lower) : lower.parent = some slot := by
    rcases linked.below_of_mem found listed with ⟨other, otherFound, isChild⟩
    have equal := node?_inj lowerFound otherFound
    subst equal
    exact isChild
  have sameParent := (parent_eq firstListed firstFound).trans
    (parent_eq secondListed secondFound).symm
  intro sameKey
  exact different (linked.slots_eq firstFound secondFound sameParent sameKey)

/-- A node without children that is not bare holds a file, and any other has a child with a file
below it. -/
theorem Coherent.file_below (coherent : tree.Coherent) {slot : Nat} {node : Node}
    (found : tree.node? slot = some node) (inner : slot ≠ 0) :
    ∃ lower, ReflTransGen tree.Below lower slot ∧ tree.filesAt lower ≠ [] := by
  suffices all : slot ≠ 0 → ∃ lower, ReflTransGen tree.Below lower slot ∧
      tree.filesAt lower ≠ [] from all inner
  refine coherent.linked.rooted.induction_below (motive := fun slot => slot ≠ 0 →
    ∃ lower, ReflTransGen tree.Below lower slot ∧ tree.filesAt lower ≠ []) ?_ found
  intro slot node found inductionHypothesis inner
  rcases Node.isBare_eq_false_iff.mp (coherent.settled slot node found inner inner) with
    files | children
  · exact ⟨slot, .refl, by rwa [filesAt_of_node? found]⟩
  · rcases List.exists_mem_of_ne_nil _ children with ⟨child, listed⟩
    have below := coherent.linked.below_of_mem found listed
    have childInner : child ≠ 0 := fun isRoot =>
      coherent.linked.not_below_root slot (isRoot ▸ below)
    rcases inductionHypothesis child listed childInner with ⟨lower, chain, files⟩
    exact ⟨lower, chain.tail below, files⟩

theorem Coherent.wellFormed (coherent : tree.Coherent) : tree.WellFormed where
  root := coherent.linked.root
  free_nodup := coherent.linked.free_nodup
  mem_free_iff slot := by
    rw [coherent.linked.mem_free_iff, node?, List.getElem?_eq_some_iff]
    constructor
    · rintro ⟨inside, empty⟩
      exact ⟨inside, by simpa [inside] using empty⟩
    · rintro ⟨inside, empty⟩
      exact ⟨inside, by simp [inside, empty]⟩
  slot_eq _ _ := coherent.linked.slot_eq
  below_iff _ _ := coherent.linked.below_iff
  listed_once slot node found inner := by
    rcases Option.ne_none_iff_exists'.mp (coherent.linked.parent_ne_none found inner) with
      ⟨above, isChild⟩
    have below : tree.Below slot above := ⟨node, found, isChild⟩
    rcases coherent.linked.mem_of_below below with ⟨upper, upperFound, listed⟩
    refine ⟨above, upper, upperFound, ?_, fun other lower lowerFound lowerListed => ?_⟩
    · exact List.count_eq_one_of_mem (coherent.linked.children_nodup upperFound) listed
    · exact tree.below_rightUnique (coherent.linked.below_of_mem lowerFound lowerListed) below
  reaches_root _ _ := coherent.linked.reaches_root
  keys_nodup _ _ := coherent.linked.keys_nodup
  key_eq _ _ found _ := coherent.linked.key_eq found
  file_below _ _ := coherent.file_below

/-- A tree without nodes below the root is one without files. -/
theorem Coherent.isEmpty_iff (coherent : tree.Coherent) :
    tree.isEmpty = true ↔ tree.fileCount = 0 := by
  rcases coherent.linked.root with ⟨root, rootFound, -⟩
  have isRoot : tree.root = root := by rw [RouteTree.root, rootFound, Option.getD_some]
  rw [isEmpty, isRoot, List.isEmpty_iff, coherent.indexed.fileCount_eq, List.length_eq_zero_iff]
  constructor
  · intro childless
    apply List.eq_nil_iff_forall_not_mem.mpr
    intro file isAttached
    rcases mem_attached_iff.mp isAttached with ⟨slot, listed⟩
    rcases mem_filesAt_iff.mp listed with ⟨node, found, -⟩
    rcases (coherent.linked.reaches_root found).cases_tail with isSlot | ⟨child, -, below⟩
    · exact coherent.ne_root_of_mem listed isSlot.symm
    · rcases coherent.linked.mem_of_below below with ⟨upper, upperFound, childListed⟩
      have equal := node?_inj upperFound rootFound
      subst equal
      rw [childless] at childListed
      cases childListed
  · intro noFiles
    apply List.eq_nil_iff_forall_not_mem.mpr
    intro child listed
    have below := coherent.linked.below_of_mem rootFound listed
    rcases id below with ⟨node, found, -⟩
    have inner : child ≠ 0 := fun isRoot => coherent.linked.not_below_root 0 (isRoot ▸ below)
    rcases coherent.file_below found inner with ⟨lower, -, files⟩
    rcases List.exists_mem_of_ne_nil _ files with ⟨file, fileListed⟩
    have isAttached := mem_attached_iff.mpr ⟨lower, fileListed⟩
    rw [noFiles] at isAttached
    cases isAttached

end RouteTree
end FileRoutes
