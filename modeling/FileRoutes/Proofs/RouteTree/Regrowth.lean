import FileRoutes.Proofs.RouteTree.Housing

/-!
# Nodes that are made again

When pruning has taken out the nodes on the way to a position, and the way is gone down again, the
same nodes are made again.  Slots are used in the reverse order of becoming empty.  Pruning empties
them from the bottom to the top, and going down fills them from the top to the bottom, so every node
gets its old slot.  It may stand elsewhere among its siblings, since it is the last of them now, and
it has the tokens of the segment that it was made for.

A second round of pruning and going down changes nothing any more.
-/

namespace FileRoutes
namespace RouteTree

variable {tree : RouteTree}

/-! ## Going where a way leads -/

theorem reach_concat (tree : RouteTree) (slot : Nat) (segments : List Segment) (segment : Segment) :
    tree.reach slot (segments ++ [segment]) =
      (tree.reach slot segments).1.childOrNew (tree.reach slot segments).2 segment := by
  induction segments generalizing tree slot with
  | nil => rfl
  | cons first later inductionHypothesis => exact inductionHypothesis _ _

theorem Linked.child?_eq (linked : tree.Linked) {slot above : Nat} {node : Node}
    (found : tree.node? slot = some node) (isChild : node.parent = some above) :
    tree.child? above node.key = some node := by
  cases isFound : tree.child? above node.key with
  | none =>
      rw [linked.key_eq found] at isFound
      exact absurd (linked.key_eq found) (linked.key_ne_of_child?_eq_none isFound found isChild)
  | some child =>
      rcases linked.of_child? isFound with ⟨childFound, isBelow, named⟩
      rcases linked.slots_eq childFound found (isBelow.trans isChild.symm) named with rfl
      rw [node?_inj childFound found]

/-- A way that is there is gone down without making a node. -/
theorem Linked.reach_of_leads (linked : tree.Linked) {keys : List Text} {slot : Nat}
    (leads : tree.Leads keys slot) {segments : List Segment}
    (spelled : segments.map Segment.spelling = keys) : tree.reach 0 segments = (tree, slot) := by
  induction leads generalizing segments with
  | root =>
      rcases List.map_eq_nil_iff.mp spelled with rfl
      rfl
  | @child keys above slot node _ found isChild inductionHypothesis =>
      rcases List.map_eq_append_iff.mp spelled with ⟨front, last, rfl, isFront, isLast⟩
      rcases List.map_eq_singleton_iff.mp isLast with ⟨segment, rfl, named⟩
      rw [reach_concat, inductionHypothesis isFront, childOrNew, named,
        linked.child?_eq found isChild]
      exact congrArg (Prod.mk tree) (linked.slot_eq found)

/-- The way to a node goes through the one above it. -/
theorem Linked.exists_front (linked : tree.Linked) {keys : List Text} {slot above : Nat}
    (leads : tree.Leads keys slot) {node : Node} (found : tree.node? slot = some node)
    (isChild : node.parent = some above) :
    ∃ front, keys = front ++ [node.key] ∧ tree.Leads front above := by
  cases leads with
  | root => exact absurd ⟨node, found, isChild⟩ (linked.not_below_root above)
  | @child front other _ same leadsAbove sameFound isBelow =>
      rcases node?_inj sameFound found with rfl
      rcases Option.some.inj (isBelow.symm.trans isChild) with rfl
      exact ⟨front, rfl, leadsAbove⟩

theorem Linked.exists_takeOut_above (linked : tree.Linked) {slot above : Nat} {leaf : Node}
    (found : tree.node? slot = some leaf) (isChild : leaf.parent = some above) :
    ∃ upper, (tree.takeOut slot above).node? above = some upper := by
  have isBelow : tree.Below slot above := ⟨leaf, found, isChild⟩
  have different : above ≠ slot := by
    rintro rfl
    exact linked.acyclic above (.single isBelow)
  rcases linked.mem_of_below isBelow with ⟨top, topFound, -⟩
  rcases keep_takeOut above topFound different with ⟨kept, upperFound, -⟩
  exact ⟨_, upperFound⟩

theorem Leads.exists_node {keys : List Text} {slot : Nat} (leads : tree.Leads keys slot)
    (inner : slot ≠ 0) : ∃ node, tree.node? slot = some node := by
  cases leads with
  | root => exact absurd rfl inner
  | child _ found _ => exact ⟨_, found⟩

theorem childOrNew_withBooks (tree : RouteTree) (index : FileIndex) (generation above : Nat)
    (segment : Segment) :
    (tree.withBooks index generation).childOrNew above segment =
      ((tree.childOrNew above segment).1.withBooks index generation,
        (tree.childOrNew above segment).2) := by
  have taken : (tree.withBooks index generation).takeSlot =
      (tree.takeSlot.1, tree.takeSlot.2.withBooks index generation) := by
    unfold takeSlot withBooks
    dsimp only
    split <;> rfl
  have sameChild : (tree.withBooks index generation).child? above segment.spelling =
      tree.child? above segment.spelling := rfl
  unfold childOrNew
  rw [sameChild]
  split
  · rfl
  · unfold newChild
    rw [taken]
    rfl

/-- The way down reads and writes the nodes alone. -/
theorem reach_withBooks (tree : RouteTree) (index : FileIndex) (generation slot : Nat)
    (segments : List Segment) :
    (tree.withBooks index generation).reach slot segments =
      ((tree.reach slot segments).1.withBooks index generation, (tree.reach slot segments).2) := by
  induction segments generalizing tree slot with
  | nil => rfl
  | cons segment later inductionHypothesis =>
      rw [reach, childOrNew_withBooks]
      exact inductionHypothesis _ _

/-! ## Trees with the same nodes -/

/-- The second tree has the nodes of the first in the same slots, perhaps with other tokens and with
their children in another order, and the same slots are free in the same order. -/
structure Regrown (first second : RouteTree) : Prop where
  node? : ∀ {slot node}, first.node? slot = some node → ∃ segment children,
    second.node? slot = some { node with segment := segment, children := children } ∧
      children.Perm node.children
  free : second.free = first.free
  length : second.slots.length = first.slots.length

namespace Regrown

variable {first second : RouteTree}

theorem refl (tree : RouteTree) : Regrown tree tree where
  node? {_ node} found := ⟨node.segment, node.children, found, .refl _⟩
  free := rfl
  length := rfl

theorem keeps (regrown : Regrown first second) : Keeps first second := by
  intro slot node found
  rcases regrown.node? found with ⟨segment, children, foundToo, -⟩
  exact ⟨_, foundToo, rfl, rfl⟩

/-- There are no other nodes, since all other slots are free. -/
theorem keeps_back (regrown : Regrown first second) (linked : first.Linked)
    (linkedToo : second.Linked) : Keeps second first := by
  intro slot other otherFound
  cases found : first.node? slot with
  | none =>
      have inside := regrown.length ▸ lt_length_of_node? otherFound
      have isFree := regrown.free ▸ linked.mem_free_iff.mpr ⟨inside, found⟩
      rw [(linkedToo.mem_free_iff.mp isFree).2] at otherFound
      cases otherFound
  | some node =>
      rcases regrown.keeps slot node found with ⟨same, sameFound, sameKey, sameParent⟩
      rcases node?_inj otherFound sameFound with rfl
      exact ⟨node, rfl, sameKey.symm, sameParent.symm⟩

end Regrown

theorem eq_of_node?_eq {first second : RouteTree}
    (nodes : ∀ slot, second.node? slot = first.node? slot)
    (length : second.slots.length = first.slots.length) (free : second.free = first.free)
    (index : second.index = first.index) (generation : second.generation = first.generation) :
    second = first := by
  have slots : second.slots = first.slots := by
    apply List.ext_getElem length
    intro slot inside insideToo
    have same := nodes slot
    rwa [RouteTree.node?, RouteTree.node?, List.getElem?_eq_getElem inside,
      List.getElem?_eq_getElem insideToo] at same
  cases first
  cases second
  simp_all

/-! ## One node -/

/-- A bare node, and a tree that has grown again from what is left without it. -/
structure Trimmed (tree : RouteTree) (slot above : Nat) (leaf : Node) (rest : RouteTree) :
    Prop where
  linked : tree.Linked
  found : tree.node? slot = some leaf
  bare : leaf.isBare = true
  isChild : leaf.parent = some above
  restLinked : rest.Linked
  regrown : Regrown (tree.takeOut slot above) rest

namespace Trimmed

variable {rest : RouteTree} {slot above : Nat} {leaf : Node}

/-- The node is missing, since no sibling of it has its key. -/
theorem child?_eq_none (trimmed : tree.Trimmed slot above leaf rest) :
    rest.child? above leaf.key = none := by
  have outLinked := trimmed.linked.takeOut trimmed.found trimmed.isChild
    (Node.isBare_iff.mp trimmed.bare).2
  apply Option.eq_none_iff_forall_ne_some.mpr
  intro child isFound
  rcases trimmed.restLinked.of_child? isFound with ⟨childFound, isBelow, sameKey⟩
  rcases trimmed.regrown.keeps_back outLinked trimmed.restLinked child.slot child childFound with
    ⟨out, outFound, outKey, outParent⟩
  rcases find_takeOut outFound with ⟨different, old, kept, oldFound, rfl, -⟩
  have sameParent := outParent.trans (isBelow.trans trimmed.isChild.symm)
  exact different (trimmed.linked.slots_eq oldFound trimmed.found sameParent (outKey.trans sameKey))

/-- Its slot is the next to be used. -/
theorem takeSlot_eq (trimmed : tree.Trimmed slot above leaf rest) :
    rest.takeSlot = (slot, { rest with free := tree.free }) := by
  have free : rest.free = slot :: tree.free := trimmed.regrown.free
  rw [takeSlot, free]

/-- The node above has its other children. -/
theorem exists_above (trimmed : tree.Trimmed slot above leaf rest) :
    ∃ top segment children, tree.node? above = some top ∧ slot ∈ top.children ∧
      rest.node? above = some { top with segment := segment, children := children } ∧
      children.Perm (top.children.filter (· ≠ slot)) := by
  rcases trimmed.linked.mem_of_below ⟨leaf, trimmed.found, trimmed.isChild⟩ with
    ⟨top, topFound, listed⟩
  have different : above ≠ slot := by
    rintro rfl
    rw [node?_inj topFound trimmed.found, (Node.isBare_iff.mp trimmed.bare).2] at listed
    cases listed
  have outFound : (tree.takeOut slot above).node? above = some (top.dropChild slot) := by
    rw [node?_takeOut, if_neg different, if_pos rfl, topFound, Option.map_some]
  rcases trimmed.regrown.node? outFound with ⟨segment, children, upperFound, permuted⟩
  exact ⟨top, segment, children, topFound, listed, upperFound, permuted⟩

/-- When the node is made again, it is there as it was. -/
theorem regrown_newChild (trimmed : tree.Trimmed slot above leaf rest) {segment : Segment}
    (named : segment.spelling = leaf.key) : Regrown tree (rest.newChild above segment).1 where
  node? {other node} nodeFound := by
    rcases trimmed.exists_above with
      ⟨top, changed, children, topFound, listed, upperFound, permuted⟩
    rw [trimmed.restLinked.node?_newChild upperFound, trimmed.takeSlot_eq]
    by_cases isSlot : other = slot
    · subst isSlot
      rcases node?_inj nodeFound trimmed.found with rfl
      rcases Node.isBare_iff.mp trimmed.bare with ⟨noFiles, childless⟩
      refine ⟨segment, [], ?_, childless ▸ .refl _⟩
      rw [if_pos rfl, Node.bare, named, noFiles, trimmed.isChild,
        trimmed.linked.slot_eq nodeFound]
    · rw [if_neg isSlot]
      by_cases isAbove : other = above
      · subst isAbove
        rcases node?_inj nodeFound topFound with rfl
        refine ⟨changed, children ++ [slot], if_pos rfl, (permuted.append_right _).trans ?_⟩
        have unique := trimmed.linked.children_nodup nodeFound
        have others : node.children.filter (· ≠ slot) = node.children.erase slot := by
          rw [unique.erase_eq_filter]
          exact List.filter_congr fun child _ => Bool.eq_iff_iff.mpr (by simp)
        rw [others]
        exact (List.perm_append_singleton _ _).trans (List.perm_cons_erase listed).symm
      · rw [if_neg isAbove]
        apply trimmed.regrown.node?
        rw [node?_takeOut, if_neg isSlot, if_neg isAbove, nodeFound]
  free := congrArg (·.2.free) trimmed.takeSlot_eq
  length := by
    rw [length_newChild, trimmed.takeSlot_eq]
    exact trimmed.regrown.length.trans (length_takeOut tree slot above)

/-- Taking the node out once more undoes this. -/
theorem takeOut_newChild (trimmed : tree.Trimmed slot above leaf rest) (segment : Segment) :
    (rest.newChild above segment).1.takeOut slot above = rest := by
  rcases trimmed.exists_above with ⟨top, changed, children, -, -, upperFound, -⟩
  have taken := trimmed.takeSlot_eq
  have empty : rest.node? slot = none := by
    have free := trimmed.restLinked.node?_takeSlot_eq_none
    rwa [taken] at free
  apply eq_of_node?_eq
  · intro other
    rw [node?_takeOut, trimmed.restLinked.node?_newChild upperFound, taken]
    by_cases isSlot : other = slot
    · rw [if_pos isSlot, isSlot, empty]
    · rw [if_neg isSlot, if_neg isSlot]
      by_cases isAbove : other = above
      · have apart : ∀ child ∈ children, child ≠ slot := by
          rintro _ listed rfl
          rcases trimmed.restLinked.below_of_mem upperFound listed with ⟨node, nodeFound, -⟩
          rw [empty] at nodeFound
          cases nodeFound
        rw [if_pos isAbove, if_pos isAbove, isAbove, upperFound]
        simpa [Node.addChild, Node.dropChild, List.filter_append] using apart
      · rw [if_neg isAbove, if_neg isAbove]
  · rw [length_takeOut, length_newChild, taken]
  · have free : (rest.newChild above segment).1.free = rest.takeSlot.2.free := rfl
    have freed : ((rest.newChild above segment).1.takeOut slot above).free =
        slot :: (rest.newChild above segment).1.free := rfl
    rw [freed, free, taken]
    exact trimmed.regrown.free.symm
  · exact congrArg (·.2.index) taken
  · exact congrArg (·.2.generation) taken

/-- Pruning from it goes on above it. -/
theorem prune_newChild (trimmed : tree.Trimmed slot above leaf rest) (inner : slot ≠ 0)
    (segment : Segment) : (rest.newChild above segment).1.prune slot = rest.prune above := by
  rcases trimmed.exists_above with ⟨top, changed, children, -, -, topFound, -⟩
  have there := trimmed.restLinked.node?_newChild topFound segment slot
  rw [trimmed.takeSlot_eq, if_pos rfl] at there
  rw [prune_of_isBare inner there rfl]
  exact congrArg (RouteTree.prune · above) (trimmed.takeOut_newChild segment)

end Trimmed

/-! ## A whole way -/

/-- What is taken out from a node upwards is made again on the way down to it, and is taken out in
the same way once more. -/
theorem Linked.regrown_reach (linked : tree.Linked) {slot : Nat} (settled : tree.SettledBut slot)
    {segments : List Segment} (leads : tree.Leads (segments.map Segment.spelling) slot) :
    let reached := (tree.prune slot).reach 0 segments
    reached.2 = slot ∧ Regrown tree reached.1 ∧ reached.1.prune slot = tree.prune slot := by
  fun_induction RouteTree.prune tree slot generalizing segments with
  | case1 tree =>
      intro reached
      have stays : reached = (tree, 0) := linked.reach_of_leads leads rfl
      rw [stays]
      exact ⟨rfl, .refl tree, by rw [RouteTree.prune, if_pos rfl]⟩
  | case2 tree slot inner absent =>
      rcases leads.exists_node inner with ⟨node, found⟩
      rw [absent] at found
      cases found
  | case3 tree slot inner leaf found bare orphan =>
      exact absurd orphan (linked.parent_ne_none found inner)
  | case4 tree slot inner leaf found bare above isChild inductionHypothesis =>
      intro reached
      -- The way above is made again first, up to the node whose child was taken out.
      rcases linked.exists_front leads found isChild with ⟨front, spelled, leadsAbove⟩
      rcases List.map_eq_append_iff.mp spelled with ⟨start, last, rfl, isStart, isLast⟩
      rcases List.map_eq_singleton_iff.mp isLast with ⟨segment, rfl, named⟩
      have outLinked := linked.takeOut found isChild (Node.isBare_iff.mp bare).2
      rcases linked.exists_takeOut_above found isChild with ⟨upper, upperFound⟩
      have outLeads := leadsAbove.left (within_takeOut tree slot above).keeps outLinked upperFound
      rcases inductionHypothesis outLinked settled.takeOut (isStart ▸ outLeads) with
        ⟨atAbove, regrown, prunedAgain⟩
      let rest := ((tree.takeOut slot above).prune above).reach 0 start
      have pruned := outLinked.prune settled.takeOut
      have isOpen := pruned.1.open_root pruned.2
      have trimmed : tree.Trimmed slot above leaf rest.1 :=
        ⟨linked, found, bare, isChild, (isOpen.reach start).linked, regrown⟩
      have remade : reached = rest.1.newChild above segment := by
        have onward : reached = rest.1.childOrNew rest.2 segment := reach_concat _ _ _ _
        rw [onward, atAbove, childOrNew, named, trimmed.child?_eq_none]
      rw [remade]
      refine ⟨?_, trimmed.regrown_newChild named, ?_⟩
      · rw [newChild_snd, trimmed.takeSlot_eq]
      · exact (trimmed.prune_newChild inner segment).trans prunedAgain
  | case5 tree slot inner node found busy =>
      intro reached
      have stays : reached = (tree, slot) := linked.reach_of_leads leads rfl
      rw [stays]
      exact ⟨rfl, .refl tree, prune_eq_self found (by simpa using busy)⟩

end RouteTree
end FileRoutes
