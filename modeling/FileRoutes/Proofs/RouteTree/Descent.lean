import FileRoutes.Proofs.RouteTree.Index

/-!
# Going down to a position

A file is seated after the nodes on the way to its position have been made.  Until then the last
of them is bare.  `Open` says that no other node is: it holds where the way starts, and each new
node takes over from the one above it.

No node on the way down changes its files.  So a position where files sit was there before, and
going to it makes no node at all.
-/

namespace FileRoutes
namespace RouteTree

/-! ## Going to a position -/

/-- The slots hold a tree, and the node in one of them is the only one that may be bare. -/
structure Open (tree : RouteTree) (slot : Nat) : Prop where
  linked : tree.Linked
  found : ∃ node, tree.node? slot = some node
  settled : tree.SettledBut slot

variable {tree : RouteTree}

/-- Where no node below the root is bare, a way may start at the root. -/
theorem Linked.open_root (linked : tree.Linked) (settled : tree.SettledBut 0) : tree.Open 0 :=
  ⟨linked, linked.root.imp fun _ root => root.1, settled⟩

theorem mem_children_of_child? {above : Nat} {key : Text} {child : Node}
    (isChild : tree.child? above key = some child) :
    ∃ upper slot, tree.node? above = some upper ∧ slot ∈ upper.children ∧
      tree.node? slot = some child := by
  rcases Option.bind_eq_some_iff.mp isChild with ⟨upper, found, searched⟩
  rcases List.mem_filterMap.mp (List.mem_of_find?_eq_some searched) with ⟨slot, listed, childFound⟩
  exact ⟨upper, slot, found, listed, childFound⟩

/-- The child that is found has its own slot, the parent that it was looked for under, and the
key. -/
theorem Linked.of_child? (linked : tree.Linked) {above : Nat} {key : Text} {child : Node}
    (isChild : tree.child? above key = some child) :
    tree.node? child.slot = some child ∧ child.parent = some above ∧ child.key = key := by
  have named := List.find?_some (Option.bind_eq_some_iff.mp isChild).choose_spec.2
  rcases mem_children_of_child? isChild with ⟨upper, slot, found, listed, childFound⟩
  rcases linked.slot_eq childFound with rfl
  rcases linked.below_of_mem found listed with ⟨node, nodeFound, isBelow⟩
  rcases node?_inj nodeFound childFound with rfl
  exact ⟨nodeFound, isBelow, of_decide_eq_true named⟩

theorem newChild_snd (tree : RouteTree) (above : Nat) (segment : Segment) :
    (tree.newChild above segment).2 = tree.takeSlot.1 :=
  rfl

namespace Open

variable {slot above : Nat}

/-- The child that is there already is below a node which is not bare for that reason. -/
theorem child (isOpen : tree.Open above) {key : Text} {child : Node}
    (isChild : tree.child? above key = some child) :
    tree.Open child.slot ∧ child.slot ≠ 0 := by
  rcases mem_children_of_child? isChild with ⟨upper, slot, found, listed, childFound⟩
  rcases isOpen.linked.slot_eq childFound with rfl
  have below := isOpen.linked.below_of_mem found listed
  have busy : ∀ node, tree.node? above = some node → above ≠ 0 → node.isBare = false := by
    intro node nodeFound _
    have equal := node?_inj found nodeFound
    subst equal
    exact Node.isBare_eq_false_iff.mpr (.inr (List.ne_nil_of_mem listed))
  constructor
  · exact ⟨isOpen.linked, ⟨child, childFound⟩, isOpen.settled.of_busy busy child.slot⟩
  · intro isRoot
    exact isOpen.linked.not_below_root above (isRoot ▸ below)

/-- The new node is bare. -/
theorem node?_newChild (isOpen : tree.Open above) (segment : Segment) :
    (tree.newChild above segment).1.node? tree.takeSlot.1 =
      some (.bare tree.takeSlot.1 segment above) := by
  rcases isOpen.found with ⟨upper, found⟩
  rw [isOpen.linked.node?_newChild found, if_pos rfl]

/-- The new node takes over as the one that may be bare. -/
theorem newChild (isOpen : tree.Open above) {segment : Segment}
    (absent : tree.child? above segment.spelling = none) :
    (tree.newChild above segment).1.Open (tree.newChild above segment).2 ∧
      (tree.newChild above segment).2 ≠ 0 := by
  rcases isOpen.found with ⟨upper, found⟩
  rw [newChild_snd]
  have settled : (tree.newChild above segment).1.SettledBut tree.takeSlot.1 := by
    intro other node nodeFound inner notNew
    rw [isOpen.linked.node?_newChild found, if_neg notNew] at nodeFound
    split at nodeFound
    · rcases Option.some.inj nodeFound with rfl
      apply Node.isBare_eq_false_iff.mpr
      exact .inr (List.append_ne_nil_of_right_ne_nil _ (List.cons_ne_nil _ _))
    · next notAbove => exact isOpen.settled other node nodeFound inner notAbove
  constructor
  · exact ⟨isOpen.linked.newChild found absent, ⟨_, isOpen.node?_newChild segment⟩, settled⟩
  · intro isRoot
    rcases isOpen.linked.root with ⟨root, rootFound, -⟩
    have empty := isOpen.linked.node?_takeSlot_eq_none
    rw [isRoot, rootFound] at empty
    cases empty

theorem childOrNew (isOpen : tree.Open above) (segment : Segment) :
    (tree.childOrNew above segment).1.Open (tree.childOrNew above segment).2 ∧
      (tree.childOrNew above segment).2 ≠ 0 := by
  unfold RouteTree.childOrNew
  split
  · next child isChild => exact isOpen.child isChild
  · next absent => exact isOpen.newChild absent

theorem reach (isOpen : tree.Open slot) (segments : List Segment) :
    (tree.reach slot segments).1.Open (tree.reach slot segments).2 := by
  induction segments generalizing tree slot with
  | nil => exact isOpen
  | cons segment later inductionHypothesis =>
      exact inductionHypothesis (isOpen.childOrNew segment).1

theorem reach_ne_root (isOpen : tree.Open slot) {segments : List Segment}
    (someWay : slot ≠ 0 ∨ segments ≠ []) : (tree.reach slot segments).2 ≠ 0 := by
  induction segments generalizing tree slot with
  | nil =>
      apply someWay.resolve_right
      intro nonempty
      exact nonempty rfl
  | cons segment later inductionHypothesis =>
      rcases isOpen.childOrNew segment with ⟨next, inner⟩
      exact inductionHypothesis next (.inl inner)

/-! ## What going down leaves alone -/

theorem filesAt_newChild (isOpen : tree.Open above) (segment : Segment) (other : Nat) :
    (tree.newChild above segment).1.filesAt other = tree.filesAt other := by
  rcases isOpen.found with ⟨upper, found⟩
  unfold filesAt
  rw [isOpen.linked.node?_newChild found]
  split
  · next isNew =>
    subst isNew
    rw [isOpen.linked.node?_takeSlot_eq_none]
    rfl
  · split
    · next isAbove =>
      subst isAbove
      rw [found]
      rfl
    · rfl

theorem filesAt_childOrNew (isOpen : tree.Open above) (segment : Segment) (other : Nat) :
    (tree.childOrNew above segment).1.filesAt other = tree.filesAt other := by
  unfold RouteTree.childOrNew
  split
  · rfl
  · exact isOpen.filesAt_newChild segment other

theorem filesAt_reach (isOpen : tree.Open slot) (segments : List Segment) (other : Nat) :
    (tree.reach slot segments).1.filesAt other = tree.filesAt other := by
  induction segments generalizing tree slot with
  | nil => rfl
  | cons segment later inductionHypothesis =>
      exact (inductionHypothesis (isOpen.childOrNew segment).1).trans
        (isOpen.filesAt_childOrNew segment other)

end Open

theorem index_takeSlot (tree : RouteTree) : tree.takeSlot.2.index = tree.index := by
  unfold takeSlot
  split <;> rfl

theorem index_reach (tree : RouteTree) (slot : Nat) (segments : List Segment) :
    (tree.reach slot segments).1.index = tree.index := by
  induction segments generalizing tree slot with
  | nil => rfl
  | cons segment later inductionHypothesis =>
      refine (inductionHypothesis _ _).trans ?_
      unfold childOrNew
      split
      · rfl
      · exact index_takeSlot tree

/-! ## A position where files sit was there before -/

theorem child?_eq_none_of_isBare {slot : Nat} {node : Node} (found : tree.node? slot = some node)
    (bare : node.isBare = true) (key : Text) : tree.child? slot key = none := by
  rcases Node.isBare_iff.mp bare with ⟨-, childless⟩
  simp [child?, found, childrenOf, childless]

/-- From a bare node on, every node is new. -/
theorem Open.filesAt_reach_of_isBare {slot : Nat} (isOpen : tree.Open slot) {node : Node}
    (found : tree.node? slot = some node) (bare : node.isBare = true) (segments : List Segment) :
    tree.filesAt (tree.reach slot segments).2 = [] := by
  induction segments generalizing tree slot node with
  | nil => exact (filesAt_of_node? found).trans (Node.isBare_iff.mp bare).1
  | cons segment later inductionHypothesis =>
      have absent := child?_eq_none_of_isBare found bare segment.spelling
      have next := inductionHypothesis (isOpen.newChild absent).1
        (isOpen.node?_newChild segment) rfl
      rw [isOpen.filesAt_newChild] at next
      simpa only [RouteTree.reach, RouteTree.childOrNew, absent] using next

theorem Open.reach_eq_self {slot : Nat} (isOpen : tree.Open slot) (segments : List Segment)
    (busy : tree.filesAt (tree.reach slot segments).2 ≠ []) :
    (tree.reach slot segments).1 = tree := by
  induction segments generalizing tree slot with
  | nil => rfl
  | cons segment later inductionHypothesis =>
      simp only [RouteTree.reach, RouteTree.childOrNew] at busy ⊢
      cases isChild : tree.child? slot segment.spelling with
      | some child =>
          rw [isChild] at busy
          exact inductionHypothesis (isOpen.child isChild).1 busy
      | none =>
          rw [isChild] at busy
          have fresh := (isOpen.newChild isChild).1.filesAt_reach_of_isBare
            (isOpen.node?_newChild segment) rfl later
          rw [isOpen.filesAt_newChild] at fresh
          exact absurd fresh busy

end RouteTree
end FileRoutes
