import FileRoutes.Proofs.RouteTree.Order

/-!
# The walk of a tree

A walk pays its visits from a stack and under a bound, just as a search does.  `Tour` is the order
of its visits without either: those that a visit leads to come before what waits beside it.  The
walk of a tree in order is the tour from the children of the root, and as a list of visits starts
no more than one tour, what is shown of a tour is shown of the walk.
-/

namespace FileRoutes
namespace RouteTree

/-- The visits paid by going through a list of visits, those that each leads to before going
on. -/
inductive Tour (tree : RouteTree) : List Visit → List Visit → Prop
  | nil : Tour tree [] []
  | cons {visit later below beside} : Tour tree (visit.next tree) below →
      Tour tree later beside → Tour tree (visit :: later) (visit :: (below ++ beside))

/-- The visits that a walk starts with. -/
def firstVisits (tree : RouteTree) : List Visit :=
  (tree.childrenOf tree.root).map fun child => ⟨child, 0, none⟩

variable {tree : RouteTree} {stack visits others : List Visit}

/-- A list of visits starts one tour at most. -/
theorem Tour.unique (tour : Tour tree stack visits) (other : Tour tree stack others) :
    visits = others := by
  induction tour generalizing others with
  | nil =>
      cases other
      rfl
  | cons _ _ belowHypothesis besideHypothesis =>
      cases other with
      | cons down onward => rw [belowHypothesis down, besideHypothesis onward]

/-- A walk pays the visits of a tour before it comes to what waits behind them. -/
theorem Tour.walkFrom_append (tour : Tour tree stack visits) (bound : Nat)
    (waiting : List Visit) :
    tree.walkFrom (visits.length + bound) (stack ++ waiting) =
      visits ++ tree.walkFrom bound waiting := by
  induction tour generalizing bound waiting with
  | nil => simp
  | @cons visit later below beside _ _ belowHypothesis besideHypothesis =>
      have length : (visit :: (below ++ beside)).length + bound =
          below.length + (beside.length + bound) + 1 := by
        simp only [List.length_cons, List.length_append]
        omega
      rw [length, List.cons_append, walkFrom, belowHypothesis, besideHypothesis,
        List.cons_append, List.append_assoc]

/-! ## The walk is a tour -/

/-- Where slots are gone through in order, so are the visits to their nodes. -/
theorem Preorder.exists_tour {slots order : List Nat} (walked : Preorder tree slots order)
    (same : stack.map Visit.node = slots.filterMap tree.node?) :
    ∃ visits, Tour tree stack visits ∧ visits.map Visit.node = order.filterMap tree.node? ∧
      visits.length = order.length := by
  induction walked generalizing stack with
  | nil =>
      rcases List.map_eq_nil_iff.mp same with rfl
      exact ⟨[], .nil, rfl, rfl⟩
  | @cons slot node later below beside found _ _ belowHypothesis besideHypothesis =>
      rw [List.filterMap_cons_some found] at same
      rcases List.map_eq_cons_iff.mp same with ⟨visit, others, rfl, rfl, sameOthers⟩
      have next : (visit.next tree).map Visit.node = visit.node.children.filterMap tree.node? := by
        simp [Visit.next, childrenOf, Function.comp_def]
      rcases belowHypothesis next with ⟨lower, down, nodes, length⟩
      rcases besideHypothesis sameOthers with ⟨further, onward, nodesToo, lengthToo⟩
      refine ⟨visit :: (lower ++ further), .cons down onward, ?_, ?_⟩
      · rw [List.map_cons, List.map_append, nodes, nodesToo, List.filterMap_cons_some found,
          List.filterMap_append]
      · simp only [List.length_cons, List.length_append, length, lengthToo]

/-- The walk visits the slots of all nodes below the root, each once and before those below it. -/
theorem Linked.exists_walk (linked : tree.Linked) : ∃ order : List Nat, order.Nodup ∧
    (∀ slot, slot ∈ order ↔ slot ≠ 0 ∧ ∃ node, tree.node? slot = some node) ∧
    tree.walk.map Visit.node = order.filterMap tree.node? ∧
    Tour tree tree.firstVisits tree.walk ∧ Preorder tree [0] (0 :: order) := by
  rcases linked.rooted.exists_order with ⟨order, walked, unique, isNode, short⟩
  rcases linked.root with ⟨root, rootFound, -⟩
  have isRoot : tree.root = root := by rw [RouteTree.root, rootFound, Option.getD_some]
  cases walked with
  | @cons _ node _ below beside found down onward =>
      cases onward
      have fromRoot : Preorder tree [0] (0 :: (below ++ [])) := .cons found down .nil
      have equal := node?_inj found rootFound
      subst equal
      rw [List.append_nil] at unique isNode short fromRoot
      rcases List.nodup_cons.mp unique with ⟨absent, unique⟩
      have start : tree.firstVisits.map Visit.node = node.children.filterMap tree.node? := by
        simp [firstVisits, childrenOf, isRoot, Function.comp_def]
      rcases down.exists_tour start with ⟨visits, tour, nodes, length⟩
      have isWalk : tree.walk = visits := by
        have enough : visits.length ≤ tree.slots.length :=
          length ▸ Nat.le_of_succ_le (by simpa using short)
        rcases Nat.exists_eq_add_of_le enough with ⟨more, isBound⟩
        have walked := tour.walkFrom_append more []
        rw [← isBound] at walked
        simpa [walk, firstVisits, walkFrom] using walked
      refine ⟨below, unique, fun slot => ?_, isWalk ▸ nodes, isWalk ▸ tour, fromRoot⟩
      rw [← isNode slot, List.mem_cons]
      constructor
      · intro listed
        have inner : slot ≠ 0 := by
          rintro rfl
          exact absent listed
        exact ⟨inner, .inr listed⟩
      · rintro ⟨inner, listed⟩
        exact listed.resolve_left inner

theorem Linked.tour_walk (linked : tree.Linked) : Tour tree tree.firstVisits tree.walk := by
  rcases linked.exists_walk with ⟨-, -, -, -, tour, -⟩
  exact tour

/-- A walk visits nothing but nodes. -/
theorem Linked.exists_slot_of_mem_walk (linked : tree.Linked) {node : Node}
    (visited : node ∈ tree.walk.map Visit.node) : ∃ slot, tree.node? slot = some node := by
  rcases linked.exists_walk with ⟨order, -, -, walked, -⟩
  rw [walked] at visited
  rcases List.mem_filterMap.mp visited with ⟨slot, -, found⟩
  exact ⟨slot, found⟩

/-! ## What a walk depends on -/

section Same

variable {first second : RouteTree}

theorem childrenOf_congr (same : ∀ slot, second.node? slot = first.node? slot) (node : Node) :
    second.childrenOf node = first.childrenOf node :=
  List.filterMap_congr fun slot _ => same slot

theorem next_congr (same : ∀ slot, second.node? slot = first.node? slot) (visit : Visit) :
    visit.next second = visit.next first := by
  rw [Visit.next, childrenOf_congr same, Visit.next]

/-- A walk reads nothing but the nodes. -/
theorem walkFrom_congr (same : ∀ slot, second.node? slot = first.node? slot) (bound : Nat)
    (visits : List Visit) : second.walkFrom bound visits = first.walkFrom bound visits := by
  induction bound generalizing visits with
  | zero => cases visits <;> rfl
  | succ bound inductionHypothesis =>
      cases visits with
      | nil => rfl
      | cons visit waiting => rw [walkFrom, walkFrom, next_congr same, inductionHypothesis]

theorem Tour.congr (tour : Tour first stack visits)
    (same : ∀ slot, second.node? slot = first.node? slot) : Tour second stack visits := by
  induction tour with
  | nil => exact .nil
  | cons _ _ belowHypothesis besideHypothesis =>
      exact .cons (next_congr same _ ▸ belowHypothesis) besideHypothesis

/-- Trees with the same nodes are gone through in the same order. -/
theorem Linked.walk_eq_of_node?_eq (linked : first.Linked) (linkedToo : second.Linked)
    (same : ∀ slot, second.node? slot = first.node? slot) : second.walk = first.walk := by
  have start : second.firstVisits = first.firstVisits := by
    rw [firstVisits, childrenOf_congr same, RouteTree.root, same, firstVisits, RouteTree.root]
  have tour := linkedToo.tour_walk
  rw [start] at tour
  exact tour.unique (linked.tour_walk.congr same)

end Same

end RouteTree
end FileRoutes
