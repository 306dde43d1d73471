import FileRoutes.Proofs.RouteTree.Links
import FileRoutes.RouteTree.Traversal

/-!
# The order of a traversal

A traversal works off a stack and counts its steps, so that it ends on any slots whatever.  On
slots that hold a tree neither shows: `Preorder` is the order of going down before going on, and the
traversals follow it to its end.  Every node stands in that order exactly once, which is why the
number of slots is enough steps and why a search misses no file.
-/

namespace FileRoutes
namespace RouteTree

open Relation

/-- The slots visited by going through a list of slots, below each before going on. -/
inductive Preorder (tree : RouteTree) : List Nat → List Nat → Prop
  | nil : Preorder tree [] []
  | cons {slot node later below beside} : tree.node? slot = some node →
      Preorder tree node.children below → Preorder tree later beside →
      Preorder tree (slot :: later) (slot :: (below ++ beside))

variable {tree : RouteTree}

/-! ## The order exists -/

theorem exists_preorder_of_forall {slots : List Nat}
    (each : ∀ slot ∈ slots, ∃ node below,
      tree.node? slot = some node ∧ Preorder tree node.children below) :
    ∃ visited, Preorder tree slots visited := by
  induction slots with
  | nil => exact ⟨[], .nil⟩
  | cons slot later inductionHypothesis =>
      rcases each slot List.mem_cons_self with ⟨node, below, found, down⟩
      rcases inductionHypothesis fun other listed => each other (List.mem_cons_of_mem _ listed) with
        ⟨beside, onward⟩
      exact ⟨slot :: (below ++ beside), .cons found down onward⟩

theorem Rooted.exists_preorder (rooted : tree.Rooted) {slot : Nat} {node : Node}
    (found : tree.node? slot = some node) :
    ∃ below, Preorder tree node.children below := by
  suffices all : ∀ node, tree.node? slot = some node →
      ∃ below, Preorder tree node.children below from all node found
  refine rooted.induction_below
    (motive := fun slot => ∀ node, tree.node? slot = some node →
      ∃ below, Preorder tree node.children below) ?_ found
  intro slot node found inductionHypothesis other otherFound
  have equal := node?_inj found otherFound
  subst equal
  apply exists_preorder_of_forall
  intro child listed
  rcases rooted.below_of_mem found listed with ⟨lower, lowerFound, -⟩
  rcases inductionHypothesis child listed lower lowerFound with ⟨below, down⟩
  exact ⟨lower, below, lowerFound, down⟩

/-! ## Every node once -/

theorem Preorder.mem_iff (rooted : tree.Rooted) {slots visited : List Nat}
    (order : Preorder tree slots visited) {slot : Nat} :
    slot ∈ visited ↔ ∃ start ∈ slots, ReflTransGen tree.Below slot start := by
  induction order with
  | nil => simp
  | @cons start node later below beside found _ _ belowHypothesis besideHypothesis =>
      rw [List.mem_cons, List.mem_append, belowHypothesis, besideHypothesis]
      constructor
      · rintro (rfl | ⟨child, listed, chain⟩ | ⟨other, listed, chain⟩)
        · exact ⟨slot, List.mem_cons_self, .refl⟩
        · exact ⟨start, List.mem_cons_self, chain.tail (rooted.below_of_mem found listed)⟩
        · exact ⟨other, List.mem_cons_of_mem _ listed, chain⟩
      · rintro ⟨other, listed, chain⟩
        rcases List.mem_cons.mp listed with rfl | listed
        · rcases chain.cases_tail with equal | ⟨child, chain, childBelow⟩
          · exact .inl equal.symm
          · rcases rooted.mem_of_below childBelow with ⟨upper, upperFound, childListed⟩
            have equal := node?_inj found upperFound
            subst equal
            exact .inr (.inl ⟨child, childListed, chain⟩)
        · exact .inr (.inr ⟨other, listed, chain⟩)

theorem Preorder.nodup (rooted : tree.Rooted) {slots visited : List Nat}
    (order : Preorder tree slots visited) (unique : slots.Nodup) {above : Nat}
    (siblings : ∀ slot ∈ slots, tree.Below slot above) : visited.Nodup := by
  induction order generalizing above with
  | nil => exact List.nodup_nil
  | @cons start node later below beside found down onward belowHypothesis besideHypothesis =>
      rcases List.nodup_cons.mp unique with ⟨absent, unique⟩
      have startBelow := siblings start List.mem_cons_self
      have laterBelow (other : Nat) (listed : other ∈ later) : tree.Below other above :=
        siblings other (List.mem_cons_of_mem _ listed)
      refine List.nodup_cons.mpr ⟨fun listed => ?_, List.nodup_append.mpr ⟨?_, ?_, ?_⟩⟩
      · rcases List.mem_append.mp listed with listed | listed
        · rcases (down.mem_iff rooted).mp listed with ⟨child, isChild, chain⟩
          exact rooted.acyclic start (.tail' chain (rooted.below_of_mem found isChild))
        · rcases (onward.mem_iff rooted).mp listed with ⟨other, isLater, chain⟩
          have equal := rooted.eq_of_siblings startBelow (laterBelow other isLater) chain
          exact absent (equal ▸ isLater)
      · exact belowHypothesis (rooted.children_nodup found) fun _ => rooted.below_of_mem found
      · exact besideHypothesis unique laterBelow
      · rintro lower isBelow _ isBeside rfl
        rcases (down.mem_iff rooted).mp isBelow with ⟨child, isChild, chain⟩
        rcases (onward.mem_iff rooted).mp isBeside with ⟨other, isLater, otherChain⟩
        have equal := rooted.eq_of_chains startBelow (laterBelow other isLater)
          (chain.tail (rooted.below_of_mem found isChild)) otherChain
        exact absent (equal ▸ isLater)

/-- The order that starts at the root lists the slots of all nodes, each once. -/
theorem Rooted.exists_order (rooted : tree.Rooted) :
    ∃ order, Preorder tree [0] order ∧ order.Nodup ∧
      (∀ slot, slot ∈ order ↔ ∃ node, tree.node? slot = some node) ∧
      order.length ≤ tree.slots.length := by
  rcases rooted.root with ⟨root, found⟩
  rcases rooted.exists_preorder found with ⟨below, down⟩
  have order : Preorder tree [0] (0 :: (below ++ [])) := .cons found down .nil
  have isNode (slot : Nat) :
      slot ∈ 0 :: (below ++ []) ↔ ∃ node, tree.node? slot = some node := by
    rw [order.mem_iff rooted]
    constructor
    · rintro ⟨start, listed, chain⟩
      rcases List.mem_singleton.mp listed with rfl
      rcases chain.cases_head with rfl | ⟨above, ⟨node, nodeFound, -⟩, -⟩
      · exact ⟨root, found⟩
      · exact ⟨node, nodeFound⟩
    · rintro ⟨node, nodeFound⟩
      exact ⟨0, List.mem_singleton_self 0, rooted.reaches_root nodeFound⟩
  have unique : (0 :: (below ++ [])).Nodup := by
    rw [List.append_nil]
    refine List.nodup_cons.mpr ⟨fun listed => ?_, ?_⟩
    · rcases (down.mem_iff rooted).mp listed with ⟨child, isChild, chain⟩
      exact rooted.acyclic 0 (.tail' chain (rooted.below_of_mem found isChild))
    · exact down.nodup rooted (rooted.children_nodup found) fun _ => rooted.below_of_mem found
  refine ⟨_, order, unique, isNode, ?_⟩
  have inside : 0 :: (below ++ []) ⊆ List.range tree.slots.length := fun slot listed => by
    rcases (isNode slot).mp listed with ⟨node, nodeFound⟩
    exact List.mem_range.mpr (lt_length_of_node? nodeFound)
  simpa using (unique.subperm inside).length_le

/-! ## Searching -/

def holdsAt (tree : RouteTree) (path : Text) (slot : Nat) : Bool :=
  (tree.node? slot).any (Node.holds path)

theorem holdsAt_iff {path : Text} {slot : Nat} :
    tree.holdsAt path slot = true ↔ ∃ node, tree.node? slot = some node ∧ node.holds path := by
  unfold holdsAt
  cases tree.node? slot <;> simp

/-- Searching goes through the slots in order before it comes to what waits behind them. -/
theorem Preorder.searchFrom_append {slots visited : List Nat}
    (order : Preorder tree slots visited) (path : Text) (bound : Nat) (waiting : List Nat) :
    tree.searchFrom path (visited.length + bound) (slots ++ waiting) =
      (visited.find? (tree.holdsAt path)).or (tree.searchFrom path bound waiting) := by
  induction order generalizing bound waiting with
  | nil => simp
  | @cons slot node later below beside found _ _ belowHypothesis besideHypothesis =>
      have length : (slot :: (below ++ beside)).length + bound =
          below.length + (beside.length + bound) + 1 := by
        simp only [List.length_cons, List.length_append]
        omega
      rw [length, List.cons_append, searchFrom, found, List.find?_cons]
      have held : tree.holdsAt path slot = node.holds path := by simp [holdsAt, found]
      cases holds : node.holds path with
      | true => simp [held, holds]
      | false =>
          simp only [held, holds, Bool.false_eq_true, if_false]
          rw [belowHypothesis, besideHypothesis, List.find?_append, Option.or_assoc]

theorem Preorder.search? {order : List Nat} (walked : Preorder tree [0] order)
    (short : order.length ≤ tree.slots.length) (path : Text) :
    tree.search? path = order.find? (tree.holdsAt path) := by
  rcases Nat.exists_eq_add_of_le short with ⟨more, enough⟩
  have searched := walked.searchFrom_append path more []
  unfold RouteTree.search?
  rw [enough]
  simpa [searchFrom] using searched

/-- What a search finds holds the file, on any slots. -/
theorem holdsAt_of_searchFrom {path : Text} {bound : Nat} {stack : List Nat} {slot : Nat}
    (found : tree.searchFrom path bound stack = some slot) : tree.holdsAt path slot = true := by
  fun_induction RouteTree.searchFrom tree path bound stack with
  | case1 | case2 => cases found
  | case3 bound other waiting absent inductionHypothesis => exact inductionHypothesis found
  | case4 bound other waiting node nodeFound holds =>
      rcases Option.some.inj found with rfl
      exact holdsAt_iff.mpr ⟨node, nodeFound, holds⟩
  | case5 bound other waiting node nodeFound _ inductionHypothesis =>
      exact inductionHypothesis found

/-- A search misses no file. -/
theorem Rooted.search?_isSome (rooted : tree.Rooted) {path : Text} {slot : Nat}
    (holds : tree.holdsAt path slot = true) : (tree.search? path).isSome := by
  rcases rooted.exists_order with ⟨order, walked, -, isNode, short⟩
  rcases holdsAt_iff.mp holds with ⟨node, found, -⟩
  rw [walked.search? short, List.find?_isSome]
  exact ⟨slot, (isNode slot).mpr ⟨node, found⟩, holds⟩

end RouteTree
end FileRoutes
