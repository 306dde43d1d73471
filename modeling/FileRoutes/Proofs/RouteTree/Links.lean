import FileRoutes.RouteTree.Basic
import Mathlib.Data.Fintype.EquivFin
import Mathlib.Logic.Relation

/-!
# The links of a route tree

Nodes name each other by slot, so nothing in the type of a tree keeps two of them from
disagreeing, or a chain of parents from running in a circle.  `Linked` says what holds of the
slots of every tree that the library makes: parents and children name each other, parents lead to
the root, siblings differ in their keys, and the free slots are the empty ones.

The files at a node play no part here except that the root has none, so a change of files below
the root keeps the links.
-/

namespace FileRoutes
namespace RouteTree

open Relation

/-- One slot holds a node right below the node of another slot. -/
def Below (tree : RouteTree) (slot above : Nat) : Prop :=
  ∃ node, tree.node? slot = some node ∧ node.parent = some above

/-- The slots of a tree hold a tree. -/
structure Linked (tree : RouteTree) : Prop where
  root : ∃ node, tree.node? 0 = some node ∧ node.parent = none ∧ node.files = []
  slot_eq : ∀ {slot node}, tree.node? slot = some node → node.slot = slot
  key_eq : ∀ {slot node}, tree.node? slot = some node → node.key = node.segment.spelling
  below_of_mem : ∀ {slot node child}, tree.node? slot = some node → child ∈ node.children →
    tree.Below child slot
  mem_of_below : ∀ {slot above}, tree.Below slot above →
    ∃ node, tree.node? above = some node ∧ slot ∈ node.children
  children_nodup : ∀ {slot node}, tree.node? slot = some node → node.children.Nodup
  /-- Siblings differ in their keys. -/
  slots_eq : ∀ {first second node other}, tree.node? first = some node →
    tree.node? second = some other → node.parent = other.parent → node.key = other.key →
    first = second
  reaches_root : ∀ {slot node}, tree.node? slot = some node → ReflTransGen tree.Below slot 0
  free_nodup : tree.free.Nodup
  mem_free_iff : ∀ {slot}, slot ∈ tree.free ↔ slot < tree.slots.length ∧ tree.node? slot = none

/-- The nodes make a tree, whatever their keys and files are and whichever slots are free: parents
and children name each other, no chain of parents comes back to where it started, and all chains
lead to the root. -/
structure Rooted (tree : RouteTree) : Prop where
  root : ∃ node, tree.node? 0 = some node
  below_of_mem : ∀ {slot node child}, tree.node? slot = some node → child ∈ node.children →
    tree.Below child slot
  mem_of_below : ∀ {slot above}, tree.Below slot above →
    ∃ node, tree.node? above = some node ∧ slot ∈ node.children
  children_nodup : ∀ {slot node}, tree.node? slot = some node → node.children.Nodup
  acyclic : ∀ slot, ¬TransGen tree.Below slot slot
  reaches_root : ∀ {slot node}, tree.node? slot = some node → ReflTransGen tree.Below slot 0

/-! ## Going up is unambiguous and ends at the root -/

theorem below_rightUnique (tree : RouteTree) : Relator.RightUnique tree.Below := by
  rintro slot first second ⟨node, found, isFirst⟩ ⟨other, foundToo, isSecond⟩
  have equal := node?_inj found foundToo
  subst equal
  exact Option.some.inj (isFirst.symm.trans isSecond)

namespace Linked

variable {tree : RouteTree}

theorem not_below_root (linked : tree.Linked) (above : Nat) : ¬tree.Below 0 above := by
  rintro ⟨node, found, isChild⟩
  rcases linked.root with ⟨root, rootFound, orphan, -⟩
  have equal := node?_inj found rootFound
  subst equal
  rw [orphan] at isChild
  cases isChild

/-- Only the root has no parent. -/
theorem parent_ne_none (linked : tree.Linked) {slot : Nat} {node : Node}
    (found : tree.node? slot = some node) (inner : slot ≠ 0) : node.parent ≠ none := by
  intro orphan
  rcases (linked.reaches_root found).cases_head with equal | ⟨above, ⟨other, foundToo, isChild⟩, -⟩
  · exact inner equal
  · have equal := node?_inj found foundToo
    subst equal
    rw [orphan] at isChild
    cases isChild

/-- No chain of parents comes back to where it started.  The root is above every node, and a
circle would have to go through it. -/
theorem acyclic (linked : tree.Linked) (slot : Nat) : ¬TransGen tree.Below slot slot := by
  intro circle
  rcases TransGen.head'_iff.mp circle with ⟨above, ⟨node, found, isChild⟩, -⟩
  induction linked.reaches_root found using ReflTransGen.head_induction_on
      generalizing above node with
  | refl => exact linked.not_below_root above ⟨node, found, isChild⟩
  | head step _ inductionHypothesis =>
      rcases TransGen.head'_iff.mp circle with ⟨next, up, back⟩
      rcases tree.below_rightUnique up step with rfl
      have around : TransGen tree.Below next next := TransGen.tail' back step
      rcases TransGen.head'_iff.mp around with ⟨higher, ⟨upper, upperFound, upperChild⟩, -⟩
      exact inductionHypothesis around higher upper upperFound upperChild

/-- The nodes of a tree in order make a tree. -/
theorem rooted (linked : tree.Linked) : tree.Rooted where
  root := linked.root.imp fun _ root => root.1
  below_of_mem := linked.below_of_mem
  mem_of_below := linked.mem_of_below
  children_nodup := linked.children_nodup
  acyclic := linked.acyclic
  reaches_root := linked.reaches_root

end Linked

namespace Rooted

variable {tree : RouteTree}

/-- Two siblings are not above one another. -/
theorem eq_of_siblings (rooted : tree.Rooted) {first second above : Nat}
    (firstBelow : tree.Below first above) (secondBelow : tree.Below second above)
    (leads : ReflTransGen tree.Below first second) : first = second := by
  rcases leads.cases_head with equal | ⟨next, up, onward⟩
  · exact equal
  · rcases tree.below_rightUnique up firstBelow with rfl
    exact absurd (TransGen.tail' onward secondBelow) (rooted.acyclic next)

/-- A node is below no more than one of several siblings. -/
theorem eq_of_chains (rooted : tree.Rooted) {lower first second above : Nat}
    (firstBelow : tree.Below first above) (secondBelow : tree.Below second above)
    (toFirst : ReflTransGen tree.Below lower first)
    (toSecond : ReflTransGen tree.Below lower second) : first = second := by
  rcases ReflTransGen.total_of_right_unique tree.below_rightUnique toFirst toSecond with
    leads | leads
  · exact rooted.eq_of_siblings firstBelow secondBelow leads
  · exact (rooted.eq_of_siblings secondBelow firstBelow leads).symm

/-- What holds of a node as soon as it holds of its children holds of every node: there are
finitely many slots, and no circle among them. -/
theorem induction_below (rooted : tree.Rooted) {motive : Nat → Prop}
    (step : ∀ slot node, tree.node? slot = some node →
      (∀ child ∈ node.children, motive child) → motive slot)
    {slot : Nat} {node : Node} (found : tree.node? slot = some node) : motive slot := by
  let below (lower upper : Fin tree.slots.length) : Prop := TransGen tree.Below lower upper
  have : IsTrans _ below := ⟨fun _ _ _ => TransGen.trans⟩
  have : Std.Irrefl below := ⟨fun slot => rooted.acyclic slot⟩
  have wellFounded := Finite.wellFounded_of_trans_of_irrefl below
  suffices all : ∀ (slot : Fin tree.slots.length) (node : Node),
      tree.node? slot = some node → motive slot from
    all ⟨slot, lt_length_of_node? found⟩ node found
  intro slot
  induction slot using wellFounded.induction with
  | _ slot inductionHypothesis =>
      intro node found
      apply step slot node found
      intro child listed
      rcases rooted.below_of_mem found listed with ⟨lower, lowerFound, isChild⟩
      have down : TransGen tree.Below child slot := .single ⟨lower, lowerFound, isChild⟩
      exact inductionHypothesis ⟨child, lt_length_of_node? lowerFound⟩ down lower lowerFound

end Rooted

/-! ## Changing files -/

/-- The node as its neighbours know it. -/
def links (node : Node) : Node :=
  { node with files := [] }

/-- The slots of two trees agree in all but the files. -/
structure SameLinks (first second : RouteTree) : Prop where
  nodes : ∀ slot, (second.node? slot).map links = (first.node? slot).map links
  free : second.free = first.free
  length : second.slots.length = first.slots.length

namespace SameLinks

variable {first second : RouteTree}

theorem symm (same : SameLinks first second) : SameLinks second first :=
  ⟨fun slot => (same.nodes slot).symm, same.free.symm, same.length.symm⟩

theorem find (same : SameLinks first second) {slot : Nat} {node : Node}
    (found : second.node? slot = some node) :
    ∃ old files, first.node? slot = some old ∧ node = { old with files := files } := by
  have agree := same.nodes slot
  rw [found] at agree
  rcases Option.map_eq_some_iff.mp agree.symm with ⟨old, oldFound, equal⟩
  refine ⟨old, node.files, oldFound, ?_⟩
  cases old
  cases node
  simpa [links, eq_comm] using equal

theorem below (same : SameLinks first second) {slot above : Nat}
    (below : first.Below slot above) : second.Below slot above := by
  rcases below with ⟨node, found, isChild⟩
  rcases same.symm.find found with ⟨other, otherFiles, otherFound, rfl⟩
  exact ⟨other, otherFound, isChild⟩

end SameLinks

theorem Linked.of_sameLinks {first second : RouteTree} (linked : first.Linked)
    (same : SameLinks first second) (rootEmpty : second.filesAt 0 = []) : second.Linked where
  root := by
    rcases linked.root with ⟨root, found, orphan, -⟩
    rcases same.symm.find found with ⟨node, files, nodeFound, rfl⟩
    exact ⟨node, nodeFound, orphan, (filesAt_of_node? nodeFound).symm.trans rootEmpty⟩
  slot_eq found := by
    rcases same.find found with ⟨old, files, oldFound, rfl⟩
    have kept := linked.slot_eq oldFound
    exact kept
  key_eq found := by
    rcases same.find found with ⟨old, files, oldFound, rfl⟩
    have kept := linked.key_eq oldFound
    exact kept
  below_of_mem found listed := by
    rcases same.find found with ⟨old, files, oldFound, rfl⟩
    exact same.below (linked.below_of_mem oldFound listed)
  mem_of_below below := by
    rcases linked.mem_of_below (same.symm.below below) with ⟨old, oldFound, listed⟩
    rcases same.symm.find oldFound with ⟨node, files, found, rfl⟩
    exact ⟨node, found, listed⟩
  children_nodup found := by
    rcases same.find found with ⟨old, files, oldFound, rfl⟩
    have kept := linked.children_nodup oldFound
    exact kept
  slots_eq found foundToo sameParent sameKey := by
    rcases same.find found with ⟨old, files, oldFound, rfl⟩
    rcases same.find foundToo with ⟨other, otherFiles, otherFound, rfl⟩
    exact linked.slots_eq oldFound otherFound sameParent sameKey
  reaches_root found := by
    rcases same.find found with ⟨old, files, oldFound, rfl⟩
    exact ReflTransGen.mono (fun _ _ => same.below) _ _ (linked.reaches_root oldFound)
  free_nodup := same.free ▸ linked.free_nodup
  mem_free_iff {slot} := by
    rw [same.free, same.length, linked.mem_free_iff, ← Option.map_eq_none_iff (f := links),
      ← same.nodes slot, Option.map_eq_none_iff]

/-- Changing only the files of a node keeps the links. -/
theorem sameLinks_modify {change : Node → Node} (kept : ∀ node, links (change node) = links node)
    (tree : RouteTree) (slot : Nat) : SameLinks tree (tree.modify slot change) where
  nodes other := by
    rw [node?_modify]
    split
    · rw [Option.map_map]
      exact congrArg (Option.map · _) (funext kept)
    · rfl
  free := rfl
  length := List.length_modify ..

theorem Linked.filesAt_root {tree : RouteTree} (linked : tree.Linked) : tree.filesAt 0 = [] := by
  rcases linked.root with ⟨root, found, -, noFiles⟩
  rw [filesAt_of_node? found, noFiles]

/-- Below the root the files may change at will. -/
theorem Linked.modify {tree : RouteTree} (linked : tree.Linked) {slot : Nat} (inner : slot ≠ 0)
    (change : Node → Node) (kept : ∀ node, links (change node) = links node) :
    (tree.modify slot change).Linked := by
  apply linked.of_sameLinks (sameLinks_modify kept tree slot)
  have rootFiles := linked.filesAt_root
  unfold filesAt at rootFiles ⊢
  rwa [node?_modify, if_neg inner.symm]

/-! ## The tree without files -/

theorem linked_empty : RouteTree.empty.Linked := by
  have only {slot : Nat} {node : Node} (found : RouteTree.empty.node? slot = some node) :
      slot = 0 ∧ node = .root := by
    have inside := lt_length_of_node? found
    obtain rfl : slot = 0 := by simpa [RouteTree.empty] using inside
    exact ⟨rfl, (Option.some.inj found).symm⟩
  exact {
    root := ⟨.root, rfl, rfl, rfl⟩
    slot_eq := fun found => by
      rcases only found with ⟨rfl, rfl⟩
      rfl
    key_eq := fun found => by
      rcases only found with ⟨rfl, rfl⟩
      rfl
    below_of_mem := fun found listed => by
      rcases only found with ⟨rfl, rfl⟩
      cases listed
    mem_of_below := by
      rintro slot above ⟨node, found, isChild⟩
      rcases only found with ⟨rfl, rfl⟩
      cases isChild
    children_nodup := fun found => by
      rcases only found with ⟨rfl, rfl⟩
      exact List.nodup_nil
    slots_eq := fun firstFound secondFound _ _ =>
      (only firstFound).1.trans (only secondFound).1.symm
    reaches_root := fun found => by
      rcases only found with ⟨rfl, rfl⟩
      exact .refl
    free_nodup := List.nodup_nil
    mem_free_iff := fun {slot} => by
      cases slot with
      | zero => simp [RouteTree.empty, node?]
      | succ slot => simp [RouteTree.empty] }

end RouteTree
end FileRoutes
