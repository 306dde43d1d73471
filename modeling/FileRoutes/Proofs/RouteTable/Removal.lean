import FileRoutes.Proofs.RouteTable.Undoing
import FileRoutes.Proofs.RouteTree.Generation
import FileRoutes.Proofs.RouteTree.StaleIndex

/-!
# What a removal leaves

A removal takes a file out, and the nodes that were there for it alone.  `Without` says what is
left: which nodes, each with its slot, its segment and its parent, and with the files and children
that are left of its own in their order.  Nothing has to be known of the climb that prunes.  What
is left is in order and within the old tree, so a node is left if a file below it is.

The walk of what is left is what is left of the walk.  Where a node is left out, so is all that the
walk comes to below it, so leaving out does not tear a tour apart.
-/

namespace FileRoutes
namespace RouteTree

open Relation

def hasNode (tree : RouteTree) (slot : Nat) : Bool :=
  (tree.node? slot).isSome

/-- Another file than this one sits at a node or below it. -/
def Outlasts (tree : RouteTree) (path : Text) (slot : Nat) : Prop :=
  ∃ lower, ReflTransGen tree.Below lower slot ∧ ∃ file ∈ tree.filesAt lower, file.path ≠ path

/-- A node without a file, and with the children that a tree still has. -/
def remnant (rest : RouteTree) (path : Text) (node : Node) : Node :=
  { node with
    files := node.files.filter (·.path ≠ path)
    children := node.children.filter rest.hasNode }

/-- A visit as it is paid when a file is gone. -/
def Visit.remnant (rest : RouteTree) (path : Text) (visit : Visit) : Visit :=
  ⟨rest.remnant path visit.node, visit.depth, visit.parent.map (rest.remnant path)⟩

/-- The second tree is what a removal of a file leaves of the first. -/
structure Without (tree rest : RouteTree) (path : Text) : Prop where
  /-- A node goes unless it is the root or another file is at it or below it. -/
  hasNode_iff : ∀ slot, rest.hasNode slot = true ↔
    tree.hasNode slot = true ∧ (slot = 0 ∨ tree.Outlasts path slot)
  node? : ∀ {slot}, rest.hasNode slot = true →
    rest.node? slot = (tree.node? slot).map (rest.remnant path)
  walk : rest.walk =
    (tree.walk.filter (rest.hasNode ·.node.slot)).map (Visit.remnant rest path)
  index : rest.index = tree.index.erase path
  generation : rest.generation = tree.generation + 1

variable {tree rest : RouteTree} {path : Text} {slot : Nat}

theorem hasNode_iff : tree.hasNode slot = true ↔ ∃ node, tree.node? slot = some node :=
  Option.isSome_iff_exists

theorem hasNode_of_node? {node : Node} (found : tree.node? slot = some node) :
    tree.hasNode slot = true :=
  hasNode_iff.mpr ⟨node, found⟩

theorem Outlasts.above {above : Nat} (outlasts : tree.Outlasts path slot)
    (below : tree.Below slot above) : tree.Outlasts path above := by
  rcases outlasts with ⟨lower, chain, other⟩
  exact ⟨lower, chain.tail below, other⟩

/-! ## The nodes that are left -/

theorem Coherent.filesAt_remove (coherent : tree.Coherent) (path : Text) (slot : Nat) :
    (tree.remove path).1.filesAt slot = (tree.filesAt slot).filter (·.path ≠ path) :=
  coherent.touch.indexed.filesAt_detach path slot

/-- A file that stays keeps its node, and with it the nodes above. -/
theorem Coherent.hasNode_of_outlasts (coherent : tree.Coherent)
    (outlasts : tree.Outlasts path slot) : (tree.remove path).1.hasNode slot = true := by
  have linked := (coherent.remove path).linked
  rcases outlasts with ⟨lower, chain, file, listed, different⟩
  induction chain with
  | refl =>
      have stays : file ∈ (tree.remove path).1.filesAt lower := by
        rw [coherent.filesAt_remove]
        exact List.mem_filter.mpr ⟨listed, decide_eq_true different⟩
      rcases mem_filesAt_iff.mp stays with ⟨node, found, -⟩
      exact hasNode_of_node? found
  | tail _ isBelow inductionHypothesis =>
      rcases hasNode_iff.mp inductionHypothesis with ⟨node, found⟩
      have belowToo := coherent.linked.below_of_within linked (.refl tree)
        (within_remove tree path) isBelow found
      rcases linked.mem_of_below belowToo with ⟨upper, upperFound, -⟩
      exact hasNode_of_node? upperFound

theorem Coherent.hasNode_remove_iff (coherent : tree.Coherent) (path : Text) (slot : Nat) :
    (tree.remove path).1.hasNode slot = true ↔
      tree.hasNode slot = true ∧ (slot = 0 ∨ tree.Outlasts path slot) := by
  have restCoherent := coherent.remove path
  have within := within_remove tree path
  constructor
  · intro left
    rcases hasNode_iff.mp left with ⟨node, found⟩
    rcases within slot node found with ⟨files, children, oldFound, -⟩
    refine ⟨hasNode_of_node? oldFound, ?_⟩
    by_cases isRoot : slot = 0
    · exact .inl isRoot
    · rcases restCoherent.file_below found isRoot with ⟨lower, chain, busy⟩
      rcases List.exists_mem_of_ne_nil _ busy with ⟨file, listed⟩
      rw [coherent.filesAt_remove] at listed
      rcases List.mem_filter.mp listed with ⟨listed, different⟩
      have oldChain := ReflTransGen.mono (fun _ _ => within.below) _ _ chain
      exact .inr ⟨lower, oldChain, file, listed, of_decide_eq_true different⟩
  · rintro ⟨-, isRoot | outlasts⟩
    · rcases restCoherent.linked.root with ⟨root, found, -⟩
      exact hasNode_of_node? (isRoot ▸ found)
    · exact coherent.hasNode_of_outlasts outlasts

/-- A node keeps the children that are left, in their order. -/
theorem Coherent.children_remove (coherent : tree.Coherent) {node left : Node}
    (found : tree.node? slot = some node) (leftFound : (tree.remove path).1.node? slot = some left) :
    left.children = node.children.filter (tree.remove path).1.hasNode := by
  have linked := (coherent.remove path).linked
  have within := within_remove tree path
  have unique := coherent.linked.children_nodup found
  rcases within slot left leftFound with ⟨files, children, oldFound, fewer⟩
  obtain rfl : node.children = children := congrArg Node.children (node?_inj found oldFound)
  apply (List.Nodup.perm_iff_eq_of_sublist unique fewer List.filter_sublist).mp
  apply (List.perm_ext_iff_of_nodup (unique.sublist fewer) (unique.filter _)).mpr
  intro child
  rw [List.mem_filter]
  constructor
  · intro listed
    rcases linked.below_of_mem leftFound listed with ⟨lower, lowerFound, -⟩
    exact ⟨fewer.subset listed, hasNode_of_node? lowerFound⟩
  · rintro ⟨listed, isLeft⟩
    rcases hasNode_iff.mp isLeft with ⟨lower, lowerFound⟩
    have below := coherent.linked.below_of_within linked (.refl tree) within
      (coherent.linked.below_of_mem found listed) lowerFound
    rcases linked.mem_of_below below with ⟨upper, upperFound, listedToo⟩
    exact node?_inj upperFound leftFound ▸ listedToo

theorem Coherent.node?_remove (coherent : tree.Coherent)
    (isLeft : (tree.remove path).1.hasNode slot = true) :
    (tree.remove path).1.node? slot =
      (tree.node? slot).map ((tree.remove path).1.remnant path) := by
  rcases hasNode_iff.mp isLeft with ⟨left, leftFound⟩
  rcases within_remove tree path slot left leftFound with ⟨files, children, found, -⟩
  have sameChildren := coherent.children_remove found leftFound
  have sameFiles := coherent.filesAt_remove path slot
  rw [filesAt_of_node? leftFound, filesAt_of_node? found] at sameFiles
  rw [leftFound, found, Option.map_some, remnant, ← sameFiles, ← sameChildren]

/-! ## What is left of the walk -/

/-- The children that are left are what is left of the children. -/
theorem Coherent.childrenOf_remnant (coherent : tree.Coherent) (path : Text) (node : Node) :
    let rest := (tree.remove path).1
    rest.childrenOf (rest.remnant path node) =
      ((tree.childrenOf node).filter (rest.hasNode ·.slot)).map (rest.remnant path) := by
  intro rest
  have children : (rest.remnant path node).children = node.children.filter rest.hasNode := rfl
  unfold childrenOf
  rw [children, List.filterMap_filter, List.filter_filterMap, List.map_filterMap]
  apply List.filterMap_congr
  intro child _
  cases found : tree.node? child with
  | none =>
      have gone : rest.hasNode child = false := by
        rw [Bool.eq_false_iff]
        intro isLeft
        rcases hasNode_iff.mp ((coherent.hasNode_remove_iff path child).mp isLeft).1 with
          ⟨node, nodeFound⟩
        rw [found] at nodeFound
        cases nodeFound
      simp [gone]
  | some lower =>
      rcases coherent.linked.slot_eq found with rfl
      by_cases isLeft : rest.hasNode lower.slot = true
      · have kept := coherent.node?_remove isLeft
        rw [found] at kept
        simp [isLeft, kept, rest]
      · simp [isLeft]

theorem Linked.of_mem_next (linked : tree.Linked) {visit child : Visit}
    (found : tree.node? visit.node.slot = some visit.node) (listed : child ∈ visit.next tree) :
    tree.node? child.node.slot = some child.node ∧
      tree.Below child.node.slot visit.node.slot := by
  rcases List.mem_map.mp listed with ⟨node, isChild, rfl⟩
  rcases List.mem_filterMap.mp isChild with ⟨slot, inChildren, nodeFound⟩
  rcases linked.slot_eq nodeFound with rfl
  exact ⟨nodeFound, linked.below_of_mem found inChildren⟩

/-- A visit to a node that a removal takes out. -/
def IsGone (tree : RouteTree) (path : Text) (visit : Visit) : Prop :=
  tree.node? visit.node.slot = some visit.node ∧
    (tree.remove path).1.hasNode visit.node.slot = false

/-- The nodes below a node that goes, go as well. -/
theorem Coherent.isGone_of_mem_next (coherent : tree.Coherent) {visit child : Visit}
    (gone : tree.IsGone path visit) (listed : child ∈ visit.next tree) :
    tree.IsGone path child := by
  rcases coherent.linked.of_mem_next gone.1 listed with ⟨found, isBelow⟩
  refine ⟨found, ?_⟩
  by_contra isLeft
  rw [Bool.not_eq_false, coherent.hasNode_remove_iff] at isLeft
  have outlasts := isLeft.2.resolve_left fun isRoot =>
    coherent.linked.not_below_root _ (isRoot ▸ isBelow)
  have visitLeft := coherent.hasNode_of_outlasts (outlasts.above isBelow)
  rw [gone.2] at visitLeft
  cases visitLeft

theorem Coherent.filter_tour_eq_nil (coherent : tree.Coherent) {stack visits : List Visit}
    (tour : Tour tree stack visits) (gone : ∀ visit ∈ stack, tree.IsGone path visit) :
    visits.filter ((tree.remove path).1.hasNode ·.node.slot) = [] := by
  induction tour with
  | nil => rfl
  | cons _ _ belowHypothesis besideHypothesis =>
      rcases List.forall_mem_cons.mp gone with ⟨visitGone, laterGone⟩
      rw [List.filter_cons_of_neg (by simp [visitGone.2]), List.filter_append,
        belowHypothesis fun _ => coherent.isGone_of_mem_next visitGone,
        besideHypothesis laterGone, List.append_nil]

/-- What is left of a tour is a tour of what is left. -/
theorem Coherent.tour_remove (coherent : tree.Coherent) (path : Text)
    {stack visits : List Visit} (tour : Tour tree stack visits)
    (found : ∀ visit ∈ stack, tree.node? visit.node.slot = some visit.node) :
    let rest := (tree.remove path).1
    Tour rest ((stack.filter (rest.hasNode ·.node.slot)).map (Visit.remnant rest path))
      ((visits.filter (rest.hasNode ·.node.slot)).map (Visit.remnant rest path)) := by
  intro rest
  induction tour with
  | nil => exact .nil
  | @cons visit later below beside down _ belowHypothesis besideHypothesis =>
      rcases List.forall_mem_cons.mp found with ⟨visitFound, laterFound⟩
      have onward := besideHypothesis laterFound
      cases isLeft : rest.hasNode visit.node.slot with
      | true =>
          rw [List.filter_cons_of_pos (by simpa using isLeft),
            List.filter_cons_of_pos (by simpa using isLeft), List.filter_append,
            List.map_cons, List.map_cons, List.map_append]
          refine .cons ?_ onward
          have nextLeft : (visit.remnant rest path).next rest =
              ((visit.next tree).filter (rest.hasNode ·.node.slot)).map
                (Visit.remnant rest path) := by
            have children := coherent.childrenOf_remnant path visit.node
            unfold Visit.next
            rw [List.filter_map, List.map_map]
            refine (congrArg (List.map _) children).trans ?_
            rw [List.map_map]
            rfl
          rw [nextLeft]
          exact belowHypothesis fun child listed =>
            (coherent.linked.of_mem_next visitFound listed).1
      | false =>
          have gone : tree.IsGone path visit := ⟨visitFound, isLeft⟩
          have nothing : below.filter (rest.hasNode ·.node.slot) = [] :=
            coherent.filter_tour_eq_nil down fun _ => coherent.isGone_of_mem_next gone
          rw [List.filter_cons_of_neg (by simp [isLeft]),
            List.filter_cons_of_neg (by simp [isLeft]), List.filter_append, nothing,
            List.nil_append]
          exact onward

theorem Coherent.walk_remove (coherent : tree.Coherent) (path : Text) :
    let rest := (tree.remove path).1
    rest.walk =
      (tree.walk.filter (rest.hasNode ·.node.slot)).map (Visit.remnant rest path) := by
  intro rest
  have linked := (coherent.remove path).linked
  have start : rest.firstVisits =
      (tree.firstVisits.filter (rest.hasNode ·.node.slot)).map (Visit.remnant rest path) := by
    have root : rest.root = rest.remnant path tree.root := by
      rcases linked.root with ⟨left, leftFound, -⟩
      rcases coherent.linked.root with ⟨root, rootFound, -⟩
      have kept := coherent.node?_remove (hasNode_of_node? leftFound)
      unfold RouteTree.root
      rw [kept, rootFound]
      rfl
    have children := coherent.childrenOf_remnant path tree.root
    unfold firstVisits
    rw [root, List.filter_map, List.map_map]
    refine (congrArg (List.map _) children).trans ?_
    rw [List.map_map]
    rfl
  have found : ∀ visit ∈ tree.firstVisits, tree.node? visit.node.slot = some visit.node := by
    intro visit listed
    rcases List.mem_map.mp listed with ⟨node, isChild, rfl⟩
    rcases List.mem_filterMap.mp isChild with ⟨slot, -, nodeFound⟩
    rcases coherent.linked.slot_eq nodeFound with rfl
    exact nodeFound
  have tour := linked.tour_walk
  rw [start] at tour
  exact tour.unique (coherent.tour_remove path coherent.linked.tour_walk found)

theorem Coherent.without_remove (coherent : tree.Coherent) (path : Text) :
    tree.Without (tree.remove path).1 path where
  hasNode_iff := coherent.hasNode_remove_iff path
  node? := coherent.node?_remove
  walk := coherent.walk_remove path
  index := index_detach tree.touch path
  generation := generation_remove tree path

/-! ## Two removals -/

/-- Either order takes out the same files, and the files settle the nodes. -/
theorem Coherent.sameContent_of_swapped (coherent : tree.Coherent) (path other : Text) :
    (((tree.remove path).1.remove other).1).SameContent ((tree.remove other).1.remove path).1 := by
  have first := coherent.remove path
  have second := coherent.remove other
  apply (first.remove other).sameContent_of_within (second.remove path) coherent.linked
    ((within_remove _ other).trans (within_remove tree path))
    ((within_remove _ path).trans (within_remove tree other))
  intro slot
  rw [first.filesAt_remove, second.filesAt_remove, coherent.filesAt_remove,
    coherent.filesAt_remove, List.filter_comm]

end RouteTree

namespace RouteTable

variable {table : RouteTable}

/-- A removal says whether the file was at a node, and takes it out together with the nodes that
were there for it alone, and nothing else.  Of two removals it does not matter which comes
first. -/
theorem without_of_reachable (reachable : table.Reachable) (path other : Text) :
    ((table.remove path).2 = true ↔ ∃ slot, ∃ file ∈ table.tree.filesAt slot, file.path = path) ∧
      table.tree.Without (table.remove path).1.tree path ∧
      ((table.remove path).1.remove other).1.tree.SameContent
        ((table.remove other).1.remove path).1.tree := by
  have coherent := reachable.coherent
  refine ⟨?_, coherent.without_remove path, coherent.sameContent_of_swapped path other⟩
  have removed := coherent.touch.linked.rooted.detach_snd path
  simp only [RouteTree.holdsAt_iff_filesAt] at removed
  exact removed

/-- A file goes with the two nodes that led to it alone, and its neighbour's way stays. -/
theorem without_after_removal :
    let table := ((RouteTable.empty.add (.file "a/b/c".toList 0) {}).1.add
      (.file "a/d".toList 0) {}).1
    let rest := (table.remove "a/b/c".toList).1.tree
    table.tree.walk.map (·.node.slot) = [1, 2, 3, 4] ∧
      rest.walk.map (·.node.slot) = [1, 4] ∧
      (table.remove "a/b/c".toList).2 = true ∧ table.tree.Without rest "a/b/c".toList ∧
      ((table.remove "a/b/c".toList).1.remove "a/d".toList).1.tree.SameContent
        ((table.remove "a/d".toList).1.remove "a/b/c".toList).1.tree := by
  intro table rest
  have reachable : table.Reachable := .add _ _ none (.add _ _ none .empty)
  rcases without_of_reachable reachable "a/b/c".toList "a/d".toList with
    ⟨removed_iff, without, same⟩
  refine ⟨by decide +kernel, ?_, removed_iff.mpr ⟨3, by decide +kernel⟩, without, same⟩
  rw [without.walk]
  decide +kernel

end RouteTable
end FileRoutes
