import FileRoutes.Proofs.RouteTree.Steps

/-!
# Pruning leaves no bare node

A node below the root is there for a file: its own, or one further down.  Removing a file may
break this at one node.  Pruning climbs from there, and at each step the node it has come to is
the only one that may be bare; so where it stops, none is.  Pruning takes no file away, because
a node that goes has none.
-/

namespace FileRoutes

theorem Node.isBare_iff {node : Node} :
    node.isBare = true ↔ node.files = [] ∧ node.children = [] := by
  simp [isBare, isPage]

theorem Node.isBare_eq_false_iff {node : Node} :
    node.isBare = false ↔ node.files ≠ [] ∨ node.children ≠ [] := by
  rw [← Bool.not_eq_true, isBare_iff, not_and_or]

namespace RouteTree

/-- No node below the root is bare, save perhaps the one in a slot.  Slot zero excuses none. -/
def SettledBut (tree : RouteTree) (slot : Nat) : Prop :=
  ∀ other node, tree.node? other = some node → other ≠ 0 → other ≠ slot → node.isBare = false

variable {tree : RouteTree} {slot above : Nat}

theorem SettledBut.of_busy (settled : tree.SettledBut slot)
    (busy : ∀ node, tree.node? slot = some node → slot ≠ 0 → node.isBare = false) (other : Nat) :
    tree.SettledBut other := by
  intro lower node found inner _
  by_cases isSlot : lower = slot
  · exact busy node (isSlot ▸ found) (isSlot ▸ inner)
  · exact settled lower node found inner isSlot

theorem SettledBut.excuse (settled : tree.SettledBut 0) (slot : Nat) : tree.SettledBut slot :=
  fun other node found inner _ => settled other node found inner inner

/-- A change of one node concerns no other. -/
theorem SettledBut.modify (settled : tree.SettledBut slot) (change : Node → Node) :
    (tree.modify slot change).SettledBut slot := by
  intro other node found inner different
  rw [node?_modify, if_neg different] at found
  exact settled other node found inner different

/-! ## The files of the nodes -/

theorem filesAt_modify {node : Node} (found : tree.node? slot = some node)
    (change : Node → Node) (other : Nat) :
    (tree.modify slot change).filesAt other =
      if other = slot then (change node).files else tree.filesAt other := by
  unfold filesAt
  rw [node?_modify]
  by_cases isSlot : other = slot
  · simp [isSlot, found]
  · simp [isSlot]

theorem filesAt_modify_of_kept (change : Node → Node)
    (kept : ∀ node, (change node).files = node.files) (tree : RouteTree) (slot other : Nat) :
    (tree.modify slot change).filesAt other = tree.filesAt other := by
  unfold filesAt
  rw [node?_modify]
  split
  · rw [Option.map_map]
    exact congrArg (fun files => (Option.map files _).getD []) (funext kept)
  · rfl

theorem filesAt_vacate {leaf : Node} (found : tree.node? slot = some leaf)
    (bare : leaf.isBare = true) (other : Nat) :
    (tree.vacate slot).filesAt other = tree.filesAt other := by
  rcases Node.isBare_iff.mp bare with ⟨noFiles, -⟩
  unfold filesAt
  rw [node?_vacate]
  by_cases isSlot : other = slot
  · simp [isSlot, found, noFiles]
  · simp [isSlot]

theorem filesAt_takeOut {leaf : Node} (found : tree.node? slot = some leaf)
    (bare : leaf.isBare = true) (above other : Nat) :
    (tree.takeOut slot above).filesAt other = tree.filesAt other :=
  (filesAt_modify_of_kept (Node.dropChild slot) (fun _ => rfl) _ above other).trans
    (filesAt_vacate found bare other)

/-! ## Pruning -/

theorem filesAt_prune (tree : RouteTree) (slot other : Nat) :
    (tree.prune slot).filesAt other = tree.filesAt other := by
  fun_induction prune tree slot with
  | case1 => rfl
  | case2 => rfl
  | case3 tree slot _ leaf found bare _ => exact filesAt_vacate found bare other
  | case4 tree slot _ leaf found bare above _ inductionHypothesis =>
      exact inductionHypothesis.trans (filesAt_takeOut found bare above other)
  | case5 => rfl

theorem index_prune (tree : RouteTree) (slot : Nat) : (tree.prune slot).index = tree.index := by
  fun_induction prune tree slot with
  | case1 | case2 | case3 | case5 => rfl
  | case4 tree slot _ leaf found bare above _ inductionHypothesis => exact inductionHypothesis

/-- Pruning changes nothing at a node that something keeps. -/
theorem prune_eq_self {node : Node} (found : tree.node? slot = some node)
    (busy : node.isBare = false) : tree.prune slot = tree := by
  unfold prune
  split
  · rfl
  · split
    · rfl
    · next other otherFound =>
      have equal := node?_inj found otherFound
      subst equal
      simp [busy]

/-- A bare node goes, and pruning climbs to the one above it. -/
theorem prune_of_isBare {leaf : Node} (inner : slot ≠ 0) (found : tree.node? slot = some leaf)
    (bare : leaf.isBare = true) :
    tree.prune slot = match leaf.parent with
      | none => tree.vacate slot
      | some above => (tree.takeOut slot above).prune above := by
  rw [prune, if_neg inner]
  split
  · next absent =>
    rw [found] at absent
    cases absent
  · next node nodeFound =>
    have equal := node?_inj found nodeFound
    subst equal
    exact if_pos bare

def withBooks (tree : RouteTree) (index : FileIndex) (generation : Nat) : RouteTree :=
  { tree with index := index, generation := generation }

/-- Pruning reads the nodes alone. -/
theorem prune_withBooks (tree : RouteTree) (index : FileIndex) (generation slot : Nat) :
    (tree.withBooks index generation).prune slot =
      (tree.prune slot).withBooks index generation := by
  fun_induction prune tree slot with
  | case1 tree => rw [prune, if_pos rfl]
  | case2 tree slot inner absent =>
      rw [prune, if_neg inner]
      split
      · rfl
      · next node found =>
        have foundThere : tree.node? slot = some node := found
        rw [absent] at foundThere
        cases foundThere
  | case3 tree slot inner leaf found bare orphan =>
      rw [@prune_of_isBare (tree.withBooks index generation) slot leaf inner found bare, orphan]
      rfl
  | case4 tree slot inner leaf found bare above isChild inductionHypothesis =>
      rw [@prune_of_isBare (tree.withBooks index generation) slot leaf inner found bare, isChild]
      exact inductionHypothesis
  | case5 tree slot inner node found busy =>
      have kept : node.isBare = false := by simpa using busy
      exact @prune_eq_self (tree.withBooks index generation) slot node found kept

theorem SettledBut.takeOut (settled : tree.SettledBut slot) :
    (tree.takeOut slot above).SettledBut above := by
  intro lower node found inner notAbove
  rw [node?_takeOut] at found
  by_cases isSlot : lower = slot
  · rw [if_pos isSlot] at found
    cases found
  · rw [if_neg isSlot, if_neg notAbove] at found
    exact settled lower node found inner isSlot

/-- Pruning from the only node that may be bare leaves a tree without bare nodes.  What the
climb keeps: the links, and that no other node is bare than the one it has come to. -/
theorem Linked.prune (linked : tree.Linked) (settled : tree.SettledBut slot) :
    (tree.prune slot).Linked ∧ (tree.prune slot).SettledBut 0 := by
  fun_induction RouteTree.prune tree slot with
  | case1 tree => exact ⟨linked, settled⟩
  | case2 tree slot _ absent =>
      refine ⟨linked, settled.of_busy ?_ 0⟩
      intro node found
      rw [absent] at found
      cases found
  | case3 tree slot inner leaf found bare orphan =>
      exact absurd orphan (linked.parent_ne_none found inner)
  | case4 tree slot inner leaf found bare above isChild inductionHypothesis =>
      rcases Node.isBare_iff.mp bare with ⟨-, childless⟩
      exact inductionHypothesis (linked.takeOut found isChild childless) settled.takeOut
  | case5 tree slot inner node found busy =>
      refine ⟨linked, settled.of_busy ?_ 0⟩
      intro other otherFound _
      have equal := node?_inj found otherFound
      subst equal
      simpa using busy

end RouteTree
end FileRoutes
