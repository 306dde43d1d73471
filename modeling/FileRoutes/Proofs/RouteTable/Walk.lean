import FileRoutes.Proofs.Mapping
import FileRoutes.Proofs.RouteTable.Reachable
import FileRoutes.Proofs.RouteTree.Tour
import FileRoutes.Proofs.RouteTree.Within
import Mathlib.Data.Set.Card

/-!
# What a walk tells of each node

A walk hands on a depth and a parent with every node that it puts on its stack, each computed from
the visit before.  They are read off the tree here: the depth is the number of nodes above, the root
left out, and the parent is the node right above, unless that is the root.  A visit that says so of
its node leads to visits that say so of theirs, because going up from a child leads to its parent
first, and no node is above itself.
-/

namespace FileRoutes
namespace RouteTree

open Relation

variable {tree : RouteTree} {slot above : Nat}

/-! ## The nodes above -/

/-- The slots of the nodes above a node, the root left out. -/
def ancestors (tree : RouteTree) (slot : Nat) : Set Nat :=
  {above | above ≠ 0 ∧ TransGen tree.Below slot above}

theorem transGen_below_iff (below : tree.Below slot above) {upper : Nat} :
    TransGen tree.Below slot upper ↔ ReflTransGen tree.Below above upper := by
  constructor
  · intro chain
    rcases TransGen.head'_iff.mp chain with ⟨next, up, onward⟩
    rcases tree.below_rightUnique up below with rfl
    exact onward
  · exact TransGen.head' below

theorem Linked.ancestors_eq_empty (linked : tree.Linked) (below : tree.Below slot 0) :
    tree.ancestors slot = ∅ := by
  apply Set.eq_empty_iff_forall_notMem.mpr
  rintro upper ⟨inner, chain⟩
  rcases ((transGen_below_iff below).mp chain).cases_head with isRoot | ⟨next, up, -⟩
  · exact inner isRoot.symm
  · exact linked.not_below_root next up

theorem ancestors_eq_insert (below : tree.Below slot above) (inner : above ≠ 0) :
    tree.ancestors slot = Insert.insert above (tree.ancestors above) := by
  ext upper
  simp only [ancestors, Set.mem_ofPred_eq, Set.mem_insert_iff, transGen_below_iff below,
    reflTransGen_iff_eq_or_transGen]
  constructor
  · rintro ⟨innerToo, same | chain⟩
    · exact .inl same
    · exact .inr ⟨innerToo, chain⟩
  · rintro (rfl | ⟨innerToo, chain⟩)
    · exact ⟨inner, .inl rfl⟩
    · exact ⟨innerToo, .inr chain⟩

theorem Linked.finite_ancestors (linked : tree.Linked) (slot : Nat) :
    (tree.ancestors slot).Finite := by
  apply (Set.finite_lt_nat tree.slots.length).subset
  rintro upper ⟨-, chain⟩
  rcases TransGen.tail'_iff.mp chain with ⟨last, -, up⟩
  rcases linked.mem_of_below up with ⟨node, found, -⟩
  exact lt_length_of_node? found

/-- A node has one more node above it than its parent. -/
theorem Linked.ncard_ancestors (linked : tree.Linked) (below : tree.Below slot above)
    (inner : above ≠ 0) : (tree.ancestors slot).ncard = (tree.ancestors above).ncard + 1 := by
  have absent : above ∉ tree.ancestors above := fun listed => linked.acyclic above listed.2
  rw [ancestors_eq_insert below inner,
    Set.ncard_insert_of_notMem absent (linked.finite_ancestors above)]

/-! ## Visits -/

/-- The visit is to the node in a slot, and tells how deep it is and what its parent is. -/
structure Meets (tree : RouteTree) (slot : Nat) (visit : Visit) : Prop where
  node : tree.node? slot = some visit.node
  depth : visit.depth = (tree.ancestors slot).ncard
  /-- Nodes right below the root are told to have no parent. -/
  parent : ∃ above, tree.Below slot above ∧
    visit.parent = if above = 0 then none else tree.node? above

theorem Linked.meets_firstVisits (linked : tree.Linked) {root : Node}
    (found : tree.node? 0 = some root) :
    List.Forall₂ tree.Meets root.children tree.firstVisits := by
  have isRoot : tree.root = root := by rw [RouteTree.root, found, Option.getD_some]
  rw [firstVisits, isRoot, childrenOf, List.map_filterMap]
  apply forall₂_filterMap
  intro child listed
  have below := linked.below_of_mem found listed
  rcases id below with ⟨node, nodeFound, -⟩
  refine ⟨⟨node, 0, none⟩, by rw [nodeFound]; rfl, nodeFound, ?_, 0, below, rfl⟩
  rw [linked.ancestors_eq_empty below, Set.ncard_empty]

/-- The visits that a visit leads to tell of the children what they should. -/
theorem Linked.meets_next (linked : tree.Linked) (inner : slot ≠ 0) {visit : Visit}
    (meets : tree.Meets slot visit) :
    List.Forall₂ tree.Meets visit.node.children (visit.next tree) := by
  rw [Visit.next, childrenOf, List.map_filterMap]
  apply forall₂_filterMap
  intro child listed
  have below := linked.below_of_mem meets.node listed
  rcases id below with ⟨node, nodeFound, -⟩
  refine ⟨⟨node, visit.depth + 1, some visit.node⟩, by rw [nodeFound]; rfl, nodeFound, ?_,
    slot, below, ?_⟩
  · rw [linked.ncard_ancestors below inner, ← meets.depth]
  · rw [if_neg inner, meets.node]

/-- A tour that starts with such visits pays such visits, in the order of the slots. -/
theorem Tour.meets (linked : tree.Linked) {slots order : List Nat} {stack visits : List Visit}
    (tour : Tour tree stack visits) (walked : Preorder tree slots order) (inner : 0 ∉ order)
    (met : List.Forall₂ tree.Meets slots stack) : List.Forall₂ tree.Meets order visits := by
  induction tour generalizing slots order with
  | nil =>
      cases met
      cases walked
      exact .nil
  | cons _ _ belowHypothesis besideHypothesis =>
      cases met with
      | cons here others =>
          cases walked with
          | cons found down onward =>
              have equal := node?_inj found here.node
              subst equal
              rw [List.mem_cons, List.mem_append, not_or, not_or] at inner
              exact .cons here (List.rel_append
                (belowHypothesis down inner.2.1 (linked.meets_next (Ne.symm inner.1) here))
                (besideHypothesis onward inner.2.2 others))

/-- The slots visited from a list of slots come in one order only. -/
theorem Preorder.unique {slots order others : List Nat} (walked : Preorder tree slots order)
    (walkedToo : Preorder tree slots others) : order = others := by
  induction walked generalizing others with
  | nil =>
      cases walkedToo
      rfl
  | cons found _ _ belowHypothesis besideHypothesis =>
      cases walkedToo with
      | cons foundToo down onward =>
          have equal := node?_inj found foundToo
          subst equal
          rw [belowHypothesis down, besideHypothesis onward]

end RouteTree

namespace RouteTable

variable {table : RouteTable}

/-- A walk visits the nodes below the root in the order of going down before going on, which is the
only such order, and each of them once.  It tells of each how many nodes are above it and which one
is right above, and it ends by itself: no bound on the number of visits changes it, unless it is
less than that number.  It comes to the children of a node in the order in which they were made:
taking a file out, to be added again or not, leaves the children that stay in order, and seating it
puts new ones behind them. -/
theorem walk_of_reachable (reachable : table.Reachable) :
    ∃ order : List Nat,
      (∀ slots, RouteTree.Preorder table.tree [0] slots ↔ slots = 0 :: order) ∧
      order.Nodup ∧
      (∀ slot, slot ∈ order ↔ slot ≠ 0 ∧ ∃ node, table.tree.node? slot = some node) ∧
      List.Forall₂ table.tree.Meets order table.tree.walk ∧
      (∀ bound, table.tree.walk.length ≤ bound →
        table.tree.walkFrom bound table.tree.firstVisits = table.tree.walk) ∧
      (∀ path, RouteTree.Within (table.tree.remove path).1 table.tree ∧
        RouteTree.Within (table.tree.cleared path) table.tree) ∧
      ∀ file strategy,
        (table.tree.cleared file.path).GrowsTo (table.tree.insert file strategy).1 := by
  have linked := reachable.coherent.linked
  rcases linked.exists_walk with ⟨order, unique, isNode, -, tour, walked⟩
  have inner : 0 ∉ order := fun listed => ((isNode 0).mp listed).1 rfl
  refine ⟨order, fun slots => ⟨fun other => other.unique walked, ?_⟩, unique, isNode, ?_, ?_,
    fun path => ⟨table.tree.within_remove path, table.tree.within_cleared path⟩,
    reachable.coherent.growsTo_insert⟩
  · rintro rfl
    exact walked
  · cases walked with
    | cons found down onward =>
        cases onward
        rw [List.append_nil] at inner ⊢
        exact tour.meets linked down inner (linked.meets_firstVisits found)
  · intro bound enough
    rcases Nat.exists_eq_add_of_le enough with ⟨more, rfl⟩
    have paid := tour.walkFrom_append more []
    rwa [List.append_nil, RouteTree.walkFrom, List.append_nil] at paid

/-- Nodes that were made in freed slots come where they were made, behind nodes in later slots. -/
theorem walk_of_reused_slots :
    let first := (RouteTable.empty.add (.file ['a', '/', 'b'] 0) {}).1
    let second := ((first.add (.file ['c'] 0) {}).1.remove ['a', '/', 'b']).1
    let table := (second.add (.file ['d', '/', 'e'] 0) {}).1
    RouteTree.Preorder table.tree [0] [0, 3, 1, 2] ∧
      List.Forall₂ table.tree.Meets [3, 1, 2] table.tree.walk ∧
      table.tree.walk.map RouteTree.Visit.depth = [0, 0, 1] := by
  intro first second table
  have reachable : table.Reachable :=
    .add _ _ none (.remove _ (.add _ _ none (.add _ _ none .empty)))
  rcases walk_of_reachable reachable with ⟨order, sole, -, -, met, -⟩
  have slots : table.tree.walk.map (fun visit => visit.node.slot) = order := by
    rw [← List.forall₂_eq_eq_eq, List.forall₂_map_left_iff]
    exact met.flip.imp fun _ _ meets => reachable.coherent.linked.slot_eq meets.node
  have inOrder : table.tree.walk.map (fun visit => visit.node.slot) = [3, 1, 2] := by
    decide +kernel
  rw [slots] at inOrder
  subst inOrder
  exact ⟨(sole _).mpr rfl, met, by decide +kernel⟩

end RouteTable
end FileRoutes
