import FileRoutes.Proofs.RouteTree.Insertion
import FileRoutes.Proofs.RouteTree.WellFormed

/-!
# Trees within one another

Making nodes and taking them out does not move the others: a node keeps its slot, its segment and
its parent for as long as it is there, and its children keep their order.  `Within` says so of two
trees, one of which has grown out of the other or has been pruned from it.  A new node comes behind
its siblings, so children stand in the order in which they were made.

Which nodes a tree in order has is settled by its files, since every node is there for a file.  So
of two such trees within a third, the files alone decide whether they are the same.
-/

namespace FileRoutes
namespace RouteTree

open Relation

/-- Every node of the first tree is a node of the second, perhaps with other files, and there with
more children, perhaps. -/
def Within (first second : RouteTree) : Prop :=
  ∀ slot node, first.node? slot = some node → ∃ files children,
    second.node? slot = some { node with files := files, children := children } ∧
      node.children.Sublist children

namespace Within

variable {first second third : RouteTree}

theorem refl (tree : RouteTree) : Within tree tree :=
  fun _ node found => ⟨node.files, node.children, found, .refl _⟩

theorem trans (within : Within first second) (further : Within second third) :
    Within first third := by
  intro slot node found
  rcases within slot node found with ⟨files, children, middleFound, fewer⟩
  rcases further slot _ middleFound with ⟨lastFiles, lastChildren, lastFound, fewerToo⟩
  exact ⟨lastFiles, lastChildren, lastFound, fewer.trans fewerToo⟩

theorem below (within : Within first second) {slot above : Nat}
    (isBelow : first.Below slot above) : second.Below slot above := by
  rcases isBelow with ⟨node, found, isChild⟩
  rcases within slot node found with ⟨files, children, otherFound, -⟩
  exact ⟨_, otherFound, isChild⟩

theorem node?_eq_none (within : Within first second) {slot : Nat}
    (empty : second.node? slot = none) : first.node? slot = none := by
  apply Option.eq_none_iff_forall_ne_some.mpr
  intro node found
  rcases within slot node found with ⟨files, children, kept, -⟩
  rw [empty] at kept
  cases kept

end Within

/-! ## The steps -/

variable {tree : RouteTree}

/-- A change of files leaves each of the two trees within the other. -/
theorem SameLinks.within {first second : RouteTree} (same : SameLinks first second) :
    Within first second := by
  intro slot node found
  rcases same.symm.find found with ⟨other, files, otherFound, equal⟩
  subst equal
  exact ⟨other.files, other.children, otherFound, .refl _⟩

theorem within_vacate (tree : RouteTree) (slot : Nat) : Within (tree.vacate slot) tree := by
  intro other node found
  rw [node?_vacate] at found
  split at found
  · cases found
  · exact ⟨node.files, node.children, found, .refl _⟩

theorem within_takeOut (tree : RouteTree) (slot above : Nat) :
    Within (tree.takeOut slot above) tree := by
  intro other node found
  rcases find_takeOut found with ⟨-, old, kept, oldFound, equal, -⟩
  subst equal
  exact ⟨old.files, old.children, oldFound, List.filter_sublist⟩

theorem within_prune (tree : RouteTree) (slot : Nat) : Within (tree.prune slot) tree := by
  fun_induction prune tree slot with
  | case1 | case2 | case5 => exact .refl _
  | case3 => exact within_vacate _ _
  | case4 tree slot _ leaf _ _ above _ inductionHypothesis =>
      exact inductionHypothesis.trans (within_takeOut tree slot above)

theorem within_detach (tree : RouteTree) (path : Text) : Within (tree.detach path).1 tree := by
  unfold detach
  dsimp only
  split
  · exact Within.refl tree
  · next slot _ =>
    exact (within_prune _ slot).trans (sameLinks_dropAt tree path slot).symm.within

theorem within_remove (tree : RouteTree) (path : Text) : Within (tree.remove path).1 tree :=
  within_detach tree.touch path

theorem within_cleared (tree : RouteTree) (path : Text) : Within (tree.cleared path) tree := by
  unfold cleared
  split
  · exact within_detach tree path
  · exact .refl tree

theorem Open.within_childOrNew {above : Nat} (isOpen : tree.Open above) (segment : Segment) :
    Within tree (tree.childOrNew above segment).1 := by
  unfold RouteTree.childOrNew
  split
  · exact .refl tree
  · rcases isOpen.found with ⟨upper, found⟩
    intro other node nodeFound
    rcases isOpen.linked.keep_newChild found segment nodeFound with ⟨added, kept, -⟩
    exact ⟨node.files, _, kept, List.sublist_append_left _ _⟩

theorem Open.within_reach {slot : Nat} (isOpen : tree.Open slot) (segments : List Segment) :
    Within tree (tree.reach slot segments).1 := by
  induction segments generalizing tree slot with
  | nil => exact .refl tree
  | cons segment later inductionHypothesis =>
      exact (isOpen.within_childOrNew segment).trans
        (inductionHypothesis (isOpen.childOrNew segment).1)

theorem sameLinks_seatFile (tree : RouteTree) (slot : Nat) (file : PageFile)
    (replaced : Option PageFile) : SameLinks tree (tree.seatFile slot file replaced).touch := by
  have filesOnly : ∀ node, links (Node.putFile file node) = links node := fun _ => rfl
  have same := sameLinks_modify filesOnly tree slot
  exact ⟨same.nodes, same.free, same.length⟩

theorem within_seatFile (tree : RouteTree) (slot : Nat) (file : PageFile)
    (replaced : Option PageFile) : Within tree (tree.seatFile slot file replaced).touch :=
  (sameLinks_seatFile tree slot file replaced).within

/-- What was left after the old place of a file was cleared is still there when the file has been
inserted. -/
theorem Coherent.within_insert (coherent : tree.Coherent) (file : PageFile)
    (strategy : DuplicateStrategy) :
    Within (tree.cleared file.path) (tree.insert file strategy).1 := by
  rcases coherent.insert_eq file strategy with kept | ⟨node, -, seated⟩
  · rw [kept]
    exact .refl (tree.cleared file.path)
  · rw [seated]
    have reached := (coherent.cleared file.path).isOpen.within_reach file.position
    exact reached.trans (within_seatFile _ _ file _)

/-! ## Where a new child comes -/

/-- The slots of the children of the node in a slot, in order. -/
def childSlots (tree : RouteTree) (slot : Nat) : List Nat :=
  ((tree.node? slot).map Node.children).getD []

/-- The second tree has the nodes of the first, and new ones, perhaps: each comes behind the
children that its parent had, and no parent gets more than one. -/
structure GrowsTo (first second : RouteTree) : Prop where
  within : Within first second
  added : ∀ slot, ∃ added, second.childSlots slot = first.childSlots slot ++ added ∧
    added.length ≤ 1 ∧ ∀ child ∈ added, first.node? child = none

theorem GrowsTo.refl (tree : RouteTree) : GrowsTo tree tree :=
  ⟨.refl tree, fun _ => ⟨[], (List.append_nil _).symm, Nat.zero_le 1, by simp⟩⟩

theorem SameLinks.childSlots_eq {first second : RouteTree} (same : SameLinks first second)
    (slot : Nat) : second.childSlots slot = first.childSlots slot := by
  unfold childSlots
  cases found : second.node? slot with
  | none =>
      have agree := same.nodes slot
      rw [found, Option.map_none, eq_comm, Option.map_eq_none_iff] at agree
      rw [agree]
  | some node =>
      rcases same.find found with ⟨old, files, oldFound, rfl⟩
      rw [oldFound]
      rfl

theorem Linked.childSlots_newChild (linked : tree.Linked) {above : Nat} {upper : Node}
    (found : tree.node? above = some upper) (segment : Segment) (slot : Nat) :
    (tree.newChild above segment).1.childSlots slot =
      tree.childSlots slot ++ if slot = above then [tree.takeSlot.1] else [] := by
  unfold childSlots
  rw [linked.node?_newChild found]
  by_cases isNew : slot = tree.takeSlot.1
  · subst isNew
    have empty := linked.node?_takeSlot_eq_none
    have notAbove : tree.takeSlot.1 ≠ above := by
      intro equal
      rw [equal, found] at empty
      cases empty
    rw [if_pos rfl, if_neg notAbove, empty]
    rfl
  · rw [if_neg isNew]
    by_cases isAbove : slot = above
    · subst isAbove
      rw [if_pos rfl, if_pos rfl, found]
      rfl
    · rw [if_neg isAbove, if_neg isAbove, List.append_nil]

theorem Open.below_childOrNew {above : Nat} (isOpen : tree.Open above) (segment : Segment) :
    (tree.childOrNew above segment).1.Below (tree.childOrNew above segment).2 above := by
  unfold RouteTree.childOrNew
  split
  · next child isChild =>
    rcases isOpen.linked.of_child? isChild with ⟨found, isBelow, -⟩
    exact ⟨child, found, isBelow⟩
  · rcases isOpen.found with ⟨upper, found⟩
    exact (isOpen.linked.below_newChild found).mpr (.inl ⟨rfl, rfl⟩)

/-- A step down gives a child to no other node than the one that it starts from. -/
theorem Open.childSlots_childOrNew {above : Nat} (isOpen : tree.Open above) (segment : Segment)
    (slot : Nat) : ∃ added,
      (tree.childOrNew above segment).1.childSlots slot = tree.childSlots slot ++ added ∧
        added.length ≤ 1 ∧ (∀ child ∈ added, tree.node? child = none) ∧
        (slot ≠ above → added = []) := by
  unfold RouteTree.childOrNew
  split
  · exact ⟨[], (List.append_nil _).symm, Nat.zero_le 1, by simp, fun _ => rfl⟩
  · rcases isOpen.found with ⟨upper, found⟩
    refine ⟨_, isOpen.linked.childSlots_newChild found segment slot, ?_, ?_,
      fun notAbove => if_neg notAbove⟩
    · split <;> simp
    · intro child isNew
      split at isNew
      · rw [List.mem_singleton.mp isNew]
        exact isOpen.linked.node?_takeSlot_eq_none
      · cases isNew

/-- On the way down each node gets one child at most.  The nodes above the one where the way starts
get none, which keeps a later step from giving a second child to that node. -/
theorem Open.childSlots_reach {slot : Nat} (isOpen : tree.Open slot) (segments : List Segment)
    (other : Nat) : ∃ added,
      (tree.reach slot segments).1.childSlots other = tree.childSlots other ++ added ∧
        added.length ≤ 1 ∧ (∀ child ∈ added, tree.node? child = none) ∧
        (TransGen tree.Below slot other → added = []) := by
  induction segments generalizing tree slot with
  | nil => exact ⟨[], (List.append_nil _).symm, Nat.zero_le 1, by simp, fun _ => rfl⟩
  | cons segment later inductionHypothesis =>
      have within := isOpen.within_childOrNew segment
      have isBelow := isOpen.below_childOrNew segment
      rcases isOpen.childSlots_childOrNew segment other with ⟨here, step, one, new, elsewhere⟩
      rcases inductionHypothesis (isOpen.childOrNew segment).1 with
        ⟨below, run, oneToo, newToo, unchanged⟩
      rw [RouteTree.reach, run, step, List.append_assoc]
      refine ⟨_, rfl, ?_⟩
      by_cases isSlot : other = slot
      · subst isSlot
        rw [unchanged (.single isBelow), List.append_nil]
        exact ⟨one, new, fun chain => absurd chain (isOpen.linked.acyclic other)⟩
      · rw [elsewhere isSlot, List.nil_append]
        refine ⟨oneToo, fun child listed => within.node?_eq_none (newToo child listed), ?_⟩
        intro chain
        exact unchanged (.head isBelow (TransGen.mono (fun _ _ => within.below) _ _ chain))

/-- Whether or not the file is kept out, the tree grows from what was left of it. -/
theorem Coherent.growsTo_insert (coherent : tree.Coherent) (file : PageFile)
    (strategy : DuplicateStrategy) :
    GrowsTo (tree.cleared file.path) (tree.insert file strategy).1 := by
  refine ⟨coherent.within_insert file strategy, fun slot => ?_⟩
  rcases coherent.insert_eq file strategy with keptOut | ⟨node, -, seated⟩
  · rw [keptOut]
    exact (GrowsTo.refl (tree.cleared file.path)).added slot
  · have isOpen := (coherent.cleared file.path).isOpen
    rcases isOpen.childSlots_reach file.position slot with ⟨added, grown, single, fresh, -⟩
    rw [seated, (sameLinks_seatFile _ _ file _).childSlots_eq]
    exact ⟨added, grown, single, fresh⟩

/-! ## Files settle the nodes -/

section Settled

variable {first second whole : RouteTree}

/-- Two trees within a third one have the parents of their nodes from it. -/
theorem Linked.below_of_within (linked : first.Linked) (linkedToo : second.Linked)
    (within : Within first whole) (withinToo : Within second whole) {slot above : Nat}
    (isBelow : first.Below slot above) {other : Node} (found : second.node? slot = some other) :
    second.Below slot above := by
  have inner : slot ≠ 0 := fun isRoot => linked.not_below_root above (isRoot ▸ isBelow)
  rcases Option.ne_none_iff_exists'.mp (linkedToo.parent_ne_none found inner) with
    ⟨parent, isChild⟩
  have belowToo : second.Below slot parent := ⟨other, found, isChild⟩
  have equal := whole.below_rightUnique (within.below isBelow) (withinToo.below belowToo)
  exact equal ▸ belowToo

/-- A node of the first tree is there for a file.  The second tree has that file as well, hence
the nodes above it, and these are the same ones. -/
theorem Coherent.live_of_within (coherent : first.Coherent) (linked : second.Linked)
    (within : Within first whole) (withinToo : Within second whole)
    (files : ∀ slot, second.filesAt slot = first.filesAt slot) {slot : Nat} {node : Node}
    (found : first.node? slot = some node) : ∃ other, second.node? slot = some other := by
  by_cases isRoot : slot = 0
  · exact isRoot ▸ linked.root.imp fun _ root => root.1
  rcases coherent.file_below found isRoot with ⟨lower, chain, busy⟩
  have start : ∃ other, second.node? lower = some other := by
    rw [← files] at busy
    rcases List.exists_mem_of_ne_nil _ busy with ⟨file, listed⟩
    exact (mem_filesAt_iff.mp listed).imp fun _ found => found.1
  clear found isRoot
  induction chain with
  | refl => exact start
  | tail _ isBelow inductionHypothesis =>
      rcases inductionHypothesis with ⟨other, otherFound⟩
      have belowToo := coherent.linked.below_of_within linked within withinToo isBelow otherFound
      exact (linked.mem_of_below belowToo).imp fun _ found => found.1

theorem Coherent.children_subset_of_within (coherent : first.Coherent) (linked : second.Linked)
    (within : Within first whole) (withinToo : Within second whole)
    (files : ∀ slot, second.filesAt slot = first.filesAt slot) {slot : Nat} {node other : Node}
    (found : first.node? slot = some node) (otherFound : second.node? slot = some other) :
    node.children ⊆ other.children := by
  intro child listed
  have isBelow := coherent.linked.below_of_mem found listed
  rcases id isBelow with ⟨lower, lowerFound, -⟩
  rcases coherent.live_of_within linked within withinToo files lowerFound with ⟨same, sameFound⟩
  have belowToo := coherent.linked.below_of_within linked within withinToo isBelow sameFound
  rcases linked.mem_of_below belowToo with ⟨upper, upperFound, listedToo⟩
  exact node?_inj upperFound otherFound ▸ listedToo

/-- Two trees in order within a third one have the same nodes if they have the same files. -/
theorem Coherent.node?_eq_of_within (coherent : first.Coherent) (coherentToo : second.Coherent)
    (linked : whole.Linked) (within : Within first whole) (withinToo : Within second whole)
    (files : ∀ slot, second.filesAt slot = first.filesAt slot) (slot : Nat) :
    second.node? slot = first.node? slot := by
  have filesToo (slot : Nat) : first.filesAt slot = second.filesAt slot := (files slot).symm
  cases found : first.node? slot with
  | none =>
      apply Option.eq_none_iff_forall_ne_some.mpr
      intro other otherFound
      rcases coherentToo.live_of_within coherent.linked withinToo within filesToo otherFound with
        ⟨node, nodeFound⟩
      rw [found] at nodeFound
      cases nodeFound
  | some node =>
      rcases coherent.live_of_within coherentToo.linked within withinToo files found with
        ⟨other, otherFound⟩
      rcases within slot node found with ⟨wholeFiles, children, wholeFound, fewer⟩
      rcases withinToo slot other otherFound with ⟨otherFiles, otherChildren, foundToo, fewerToo⟩
      have agree := node?_inj wholeFound foundToo
      obtain rfl : children = otherChildren := congrArg Node.children agree
      have unique := linked.children_nodup wholeFound
      have sameMembers : other.children.Perm node.children := by
        apply (List.perm_ext_iff_of_nodup (unique.sublist fewerToo) (unique.sublist fewer)).mpr
        intro child
        constructor
        · exact fun listed => coherentToo.children_subset_of_within coherent.linked
            withinToo within filesToo otherFound found listed
        · exact fun listed => coherent.children_subset_of_within coherentToo.linked
            within withinToo files found otherFound listed
      have sameChildren : other.children = node.children :=
        (List.Nodup.perm_iff_eq_of_sublist unique fewerToo fewer).mp sameMembers
      have sameFiles : other.files = node.files := by
        rw [← filesAt_of_node? found, ← filesAt_of_node? otherFound, files]
      rw [otherFound]
      cases node
      cases other
      simp_all

end Settled

end RouteTree
end FileRoutes
