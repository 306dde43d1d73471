import FileRoutes.Proofs.RouteTree.Links
import FileRoutes.RouteTree.Insert

/-!
# Making a child and taking one out

Besides a change of files there are two kinds of steps that write to the slots: one makes a child
of a node, in an empty slot, and one takes out a node that has no children.  Each comes with two
lemmas on what the slots hold afterwards, one from new nodes to old ones and one back, and from
these it keeps the links.
-/

namespace FileRoutes
namespace RouteTree

open Relation

/-! ## Making a child -/

theorem Linked.node?_takeSlot_eq_none {tree : RouteTree} (linked : tree.Linked) :
    tree.node? tree.takeSlot.1 = none := by
  unfold takeSlot
  split
  · next slot others free =>
    exact (linked.mem_free_iff.mp (free ▸ List.mem_cons_self)).2
  · simp [node?]

theorem Linked.takeSlot_lt {tree : RouteTree} (linked : tree.Linked) :
    tree.takeSlot.1 < tree.takeSlot.2.slots.length := by
  unfold takeSlot
  split
  · next slot others free =>
    exact (linked.mem_free_iff.mp (free ▸ List.mem_cons_self)).1
  · simp

/-- Taking a slot leaves the other empty slots free. -/
theorem Linked.free_takeSlot {tree : RouteTree} (linked : tree.Linked) :
    tree.takeSlot.2.free.Nodup ∧ ∀ slot, slot ∈ tree.takeSlot.2.free ↔
      slot < tree.takeSlot.2.slots.length ∧ slot ≠ tree.takeSlot.1 ∧ tree.node? slot = none := by
  have unique := linked.free_nodup
  have listed := @linked.mem_free_iff
  unfold takeSlot
  split
  · next slot others free =>
    rw [free] at unique listed
    rcases List.nodup_cons.mp unique with ⟨absent, unique⟩
    refine ⟨unique, ?_⟩
    intro other
    have membership := @listed other
    rw [List.mem_cons] at membership
    constructor
    · intro freeToo
      have empty := membership.mp (.inr freeToo)
      have different : other ≠ slot := by
        rintro rfl
        exact absent freeToo
      exact ⟨empty.1, different, empty.2⟩
    · rintro ⟨inside, different, empty⟩
      exact (membership.mpr ⟨inside, empty⟩).resolve_left different
  · next free =>
    rw [free] at listed
    refine ⟨free ▸ List.nodup_nil, ?_⟩
    intro other
    simp only [free, List.not_mem_nil, false_iff, List.length_append, List.length_singleton]
    rintro ⟨inside, different, empty⟩
    exact List.not_mem_nil (listed.mpr ⟨by omega, empty⟩)

section NewChild

variable {tree : RouteTree} {above : Nat} {upper : Node} {segment : Segment}

theorem Linked.node?_newChild (linked : tree.Linked) (found : tree.node? above = some upper)
    (segment : Segment) (slot : Nat) :
    (tree.newChild above segment).1.node? slot =
      if slot = tree.takeSlot.1 then some (.bare tree.takeSlot.1 segment above)
      else if slot = above then some (upper.addChild tree.takeSlot.1)
      else tree.node? slot := by
  have fresh : above ≠ tree.takeSlot.1 := by
    intro equal
    rw [equal, linked.node?_takeSlot_eq_none] at found
    cases found
  unfold newChild
  rw [node?_modify, node?_occupy linked.takeSlot_lt, node?_takeSlot]
  by_cases isAbove : slot = above
  · subst isAbove
    simp [fresh, found]
  · simp [isAbove]

theorem length_newChild (tree : RouteTree) (above : Nat) (segment : Segment) :
    (tree.newChild above segment).1.slots.length = tree.takeSlot.2.slots.length := by
  simp [newChild, modify, occupy]

/-- The new node is below the old one, and nothing else is new. -/
theorem Linked.below_newChild (linked : tree.Linked) (found : tree.node? above = some upper)
    {slot other : Nat} : (tree.newChild above segment).1.Below slot other ↔
      (slot = tree.takeSlot.1 ∧ other = above) ∨ tree.Below slot other := by
  have empty := linked.node?_takeSlot_eq_none
  unfold Below
  rw [linked.node?_newChild found]
  split
  · next isNew =>
    subst isNew
    simp [empty, Node.bare, eq_comm]
  · next isOld =>
    split
    · next isAbove =>
      subst isAbove
      simp [isOld, found, Node.addChild]
    · simp [isOld]

/-- What the tree with a new child holds: the child, and the old nodes, of which one has one
child more. -/
theorem Linked.find_newChild (linked : tree.Linked) (found : tree.node? above = some upper)
    {slot : Nat} {node : Node} (nodeFound : (tree.newChild above segment).1.node? slot = some node) :
    (slot = tree.takeSlot.1 ∧ node = .bare tree.takeSlot.1 segment above) ∨
      ∃ old added, tree.node? slot = some old ∧
        node = { old with children := old.children ++ added } ∧
        (added = [] ∨ slot = above ∧ added = [tree.takeSlot.1]) := by
  rw [linked.node?_newChild found] at nodeFound
  split at nodeFound
  · next isNew => exact .inl ⟨isNew, (Option.some.inj nodeFound).symm⟩
  · split at nodeFound
    · next isAbove =>
      exact .inr ⟨upper, _, isAbove ▸ found, (Option.some.inj nodeFound).symm, .inr ⟨isAbove, rfl⟩⟩
    · exact .inr ⟨node, [], nodeFound, by simp, .inl rfl⟩

theorem Linked.keep_newChild (linked : tree.Linked) (found : tree.node? above = some upper)
    (segment : Segment) {slot : Nat} {old : Node} (oldFound : tree.node? slot = some old) :
    ∃ added, (tree.newChild above segment).1.node? slot =
        some { old with children := old.children ++ added } ∧
      (slot = above → tree.takeSlot.1 ∈ added) := by
  have isOld : slot ≠ tree.takeSlot.1 := by
    intro equal
    rw [equal, linked.node?_takeSlot_eq_none] at oldFound
    cases oldFound
  rw [linked.node?_newChild found, if_neg isOld]
  by_cases isAbove : slot = above
  · have equal := node?_inj oldFound (isAbove ▸ found)
    subst equal
    exact ⟨[tree.takeSlot.1], if_pos isAbove, fun _ => List.mem_singleton_self _⟩
  · exact ⟨[], by rw [if_neg isAbove, oldFound, List.append_nil], fun equal => absurd equal isAbove⟩

/-- A chain of parents that was there leads to the root as before. -/
theorem Linked.climb_newChild (linked : tree.Linked) (found : tree.node? above = some upper)
    (segment : Segment) {slot : Nat} {old : Node} (oldFound : tree.node? slot = some old) :
    ReflTransGen (tree.newChild above segment).1.Below slot 0 := by
  have chain := linked.reaches_root oldFound
  apply ReflTransGen.mono _ _ _ chain
  intro lower higher below
  exact (linked.below_newChild found).mpr (.inr below)

/-- The key of the new node is new among its siblings. -/
theorem Linked.key_ne_of_child?_eq_none (linked : tree.Linked)
    (absent : tree.child? above segment.spelling = none) {slot : Nat} {node : Node}
    (found : tree.node? slot = some node) (isChild : node.parent = some above) :
    node.key ≠ segment.spelling := by
  rcases linked.mem_of_below ⟨node, found, isChild⟩ with ⟨upper, upperFound, listed⟩
  unfold child? at absent
  rw [upperFound, Option.bind_some, List.find?_eq_none] at absent
  have member : node ∈ tree.childrenOf upper := List.mem_filterMap.mpr ⟨slot, listed, found⟩
  simpa using absent node member

/-! Each part of the links, in the tree with the new child. -/

theorem Linked.root_newChild (linked : tree.Linked) (found : tree.node? above = some upper) :
    ∃ node, (tree.newChild above segment).1.node? 0 = some node ∧ node.parent = none ∧
      node.files = [] := by
  rcases linked.root with ⟨root, rootFound, orphan, noFiles⟩
  rcases linked.keep_newChild found segment rootFound with ⟨added, kept, -⟩
  exact ⟨_, kept, orphan, noFiles⟩

section Found

variable {slot : Nat} {node : Node}
  (linked : tree.Linked) (found : tree.node? above = some upper)
  (nodeFound : (tree.newChild above segment).1.node? slot = some node)
include linked found nodeFound

theorem Linked.slot_eq_newChild : node.slot = slot := by
  rcases linked.find_newChild found nodeFound with ⟨rfl, rfl⟩ | ⟨old, added, oldFound, rfl, -⟩
  · rfl
  · have kept := linked.slot_eq oldFound
    exact kept

theorem Linked.key_eq_newChild : node.key = node.segment.spelling := by
  rcases linked.find_newChild found nodeFound with ⟨rfl, rfl⟩ | ⟨old, added, oldFound, rfl, -⟩
  · rfl
  · have kept := linked.key_eq oldFound
    exact kept

theorem Linked.below_newChild_of_mem {child : Nat} (listed : child ∈ node.children) :
    (tree.newChild above segment).1.Below child slot := by
  rw [linked.below_newChild found]
  rcases linked.find_newChild found nodeFound with
    ⟨rfl, rfl⟩ | ⟨old, added, oldFound, rfl, isAdded⟩
  · cases listed
  · rcases List.mem_append.mp listed with listed | listed
    · exact .inr (linked.below_of_mem oldFound listed)
    · rcases isAdded with rfl | ⟨rfl, rfl⟩
      · cases listed
      · exact .inl ⟨List.mem_singleton.mp listed, rfl⟩

theorem Linked.children_nodup_newChild : node.children.Nodup := by
  rcases linked.find_newChild found nodeFound with
    ⟨rfl, rfl⟩ | ⟨old, added, oldFound, rfl, isAdded⟩
  · exact List.nodup_nil
  · have unique := linked.children_nodup oldFound
    rcases isAdded with rfl | ⟨rfl, rfl⟩
    · simpa using unique
    · refine List.nodup_append.mpr ⟨unique, List.nodup_singleton _, ?_⟩
      rintro child listed other isNew rfl
      rcases linked.below_of_mem oldFound listed with ⟨node, nodeFound, -⟩
      rw [List.mem_singleton.mp isNew, linked.node?_takeSlot_eq_none] at nodeFound
      cases nodeFound

theorem Linked.reaches_root_newChild :
    ReflTransGen (tree.newChild above segment).1.Below slot 0 := by
  rcases linked.find_newChild found nodeFound with ⟨rfl, rfl⟩ | ⟨old, added, oldFound, rfl, -⟩
  · have step : (tree.newChild above segment).1.Below tree.takeSlot.1 above :=
      (linked.below_newChild found).mpr (.inl ⟨rfl, rfl⟩)
    exact .head step (linked.climb_newChild found segment found)
  · exact linked.climb_newChild found segment oldFound

theorem Linked.slots_eq_newChild (absent : tree.child? above segment.spelling = none)
    {otherSlot : Nat} {other : Node}
    (otherFound : (tree.newChild above segment).1.node? otherSlot = some other)
    (sameParent : node.parent = other.parent) (sameKey : node.key = other.key) :
    slot = otherSlot := by
  rcases linked.find_newChild found nodeFound with ⟨rfl, rfl⟩ | ⟨first, _, oldFirst, rfl, -⟩ <;>
    rcases linked.find_newChild found otherFound with ⟨rfl, rfl⟩ | ⟨second, _, oldSecond, rfl, -⟩
  · rfl
  · have differs := linked.key_ne_of_child?_eq_none absent oldSecond sameParent.symm
    exact absurd sameKey.symm differs
  · have differs := linked.key_ne_of_child?_eq_none absent oldFirst sameParent
    exact absurd sameKey differs
  · exact linked.slots_eq oldFirst oldSecond sameParent sameKey

end Found

theorem Linked.mem_of_below_newChild (linked : tree.Linked) (found : tree.node? above = some upper)
    {slot other : Nat} (below : (tree.newChild above segment).1.Below slot other) :
    ∃ node, (tree.newChild above segment).1.node? other = some node ∧ slot ∈ node.children := by
  rcases (linked.below_newChild found).mp below with ⟨rfl, rfl⟩ | below
  · rcases linked.keep_newChild found segment found with ⟨added, kept, listed⟩
    exact ⟨_, kept, List.mem_append_right _ (listed rfl)⟩
  · rcases linked.mem_of_below below with ⟨node, nodeFound, listed⟩
    rcases linked.keep_newChild found segment nodeFound with ⟨added, kept, -⟩
    exact ⟨_, kept, List.mem_append_left _ listed⟩

theorem Linked.mem_free_newChild_iff (linked : tree.Linked) (found : tree.node? above = some upper)
    {slot : Nat} : slot ∈ (tree.newChild above segment).1.free ↔
      slot < (tree.newChild above segment).1.slots.length ∧
        (tree.newChild above segment).1.node? slot = none := by
  rw [length_newChild, linked.node?_newChild found]
  refine (linked.free_takeSlot.2 slot).trans (and_congr_right fun _ => ?_)
  by_cases isNew : slot = tree.takeSlot.1
  · simp [isNew]
  · by_cases isAbove : slot = above
    · subst isAbove
      simp [isNew, found]
    · simp [isNew, isAbove]

theorem Linked.newChild (linked : tree.Linked) (found : tree.node? above = some upper)
    (absent : tree.child? above segment.spelling = none) :
    (tree.newChild above segment).1.Linked where
  root := linked.root_newChild found
  slot_eq := linked.slot_eq_newChild found
  key_eq := linked.key_eq_newChild found
  below_of_mem nodeFound listed := linked.below_newChild_of_mem found nodeFound listed
  mem_of_below := linked.mem_of_below_newChild found
  children_nodup := linked.children_nodup_newChild found
  slots_eq nodeFound := linked.slots_eq_newChild found nodeFound absent
  reaches_root := linked.reaches_root_newChild found
  free_nodup := linked.free_takeSlot.1
  mem_free_iff := linked.mem_free_newChild_iff found

end NewChild

/-! ## Taking a node out -/

section TakeOut

variable {tree : RouteTree} {slot above : Nat} {leaf : Node}

theorem node?_takeOut (tree : RouteTree) (slot above other : Nat) :
    (tree.takeOut slot above).node? other =
      if other = slot then none
      else if other = above then (tree.node? other).map (Node.dropChild slot)
      else tree.node? other := by
  unfold takeOut
  rw [node?_modify, node?_vacate]
  by_cases isSlot : other = slot
  · simp [isSlot]
  · simp [isSlot]

theorem length_takeOut (tree : RouteTree) (slot above : Nat) :
    (tree.takeOut slot above).slots.length = tree.slots.length := by
  simp [takeOut, modify, vacate]

/-- What the tree without the node holds: the other nodes, without it among their children. -/
theorem find_takeOut {other : Nat} {node : Node}
    (found : (tree.takeOut slot above).node? other = some node) :
    other ≠ slot ∧ ∃ old kept, tree.node? other = some old ∧
      node = { old with children := old.children.filter kept } ∧
      (other = above → kept slot = false) := by
  rw [node?_takeOut] at found
  split at found
  · cases found
  · next different =>
    refine ⟨different, ?_⟩
    split at found
    · rcases Option.map_eq_some_iff.mp found with ⟨old, oldFound, equal⟩
      exact ⟨old, (· ≠ slot), oldFound, equal.symm, fun _ => by simp⟩
    · next notAbove =>
      exact ⟨node, fun _ => true, found, by simp, fun isAbove => absurd isAbove notAbove⟩

theorem keep_takeOut (above : Nat) {other : Nat} {old : Node}
    (found : tree.node? other = some old) (different : other ≠ slot) :
    ∃ kept, (tree.takeOut slot above).node? other =
        some { old with children := old.children.filter kept } ∧
      ∀ child, child ≠ slot → kept child = true := by
  rw [node?_takeOut, if_neg different, found]
  by_cases isAbove : other = above
  · exact ⟨(· ≠ slot), by rw [if_pos isAbove]; rfl, by simp⟩
  · exact ⟨fun _ => true, by simp [isAbove], fun _ _ => rfl⟩

theorem below_takeOut {lower upper : Nat} :
    (tree.takeOut slot above).Below lower upper ↔ lower ≠ slot ∧ tree.Below lower upper := by
  constructor
  · rintro ⟨node, found, isChild⟩
    rcases find_takeOut found with ⟨different, old, kept, oldFound, rfl, -⟩
    exact ⟨different, old, oldFound, isChild⟩
  · rintro ⟨different, old, oldFound, isChild⟩
    rcases keep_takeOut above oldFound different with ⟨kept, found, -⟩
    exact ⟨_, found, isChild⟩

/-- No chain of parents runs through a node without children. -/
theorem climb_takeOut (childless : ∀ lower, ¬tree.Below lower slot) {lower : Nat}
    (different : lower ≠ slot) (chain : ReflTransGen tree.Below lower 0) :
    ReflTransGen (tree.takeOut slot above).Below lower 0 := by
  induction chain using ReflTransGen.head_induction_on with
  | refl => exact .refl
  | head step _ inductionHypothesis =>
      exact .head (below_takeOut.mpr ⟨different, step⟩)
        (inductionHypothesis fun equal => childless _ (equal ▸ step))

theorem Linked.not_below_of_childless (linked : tree.Linked) (found : tree.node? slot = some leaf)
    (childless : leaf.children = []) (lower : Nat) : ¬tree.Below lower slot := by
  intro below
  rcases linked.mem_of_below below with ⟨node, nodeFound, listed⟩
  have equal := node?_inj nodeFound found
  subst equal
  rw [childless] at listed
  cases listed

/-! Each part of the links, in the tree without the node. -/

section Leaf

variable (linked : tree.Linked) (found : tree.node? slot = some leaf)
include linked found

theorem Linked.root_takeOut (isChild : leaf.parent = some above) :
    ∃ node, (tree.takeOut slot above).node? 0 = some node ∧ node.parent = none ∧
      node.files = [] := by
  rcases linked.root with ⟨root, rootFound, orphan, noFiles⟩
  have inner : 0 ≠ slot := fun equal =>
    linked.not_below_root above (equal ▸ (⟨leaf, found, isChild⟩ : tree.Below slot above))
  rcases keep_takeOut above rootFound inner with ⟨kept, keptFound, -⟩
  exact ⟨_, keptFound, orphan, noFiles⟩

theorem Linked.below_takeOut_of_mem (isChild : leaf.parent = some above) {upper child : Nat}
    {node : Node} (nodeFound : (tree.takeOut slot above).node? upper = some node)
    (listed : child ∈ node.children) : (tree.takeOut slot above).Below child upper := by
  rcases find_takeOut nodeFound with ⟨-, old, kept, oldFound, rfl, dropped⟩
  rcases List.mem_filter.mp listed with ⟨listed, isKept⟩
  have below := linked.below_of_mem oldFound listed
  apply below_takeOut.mpr
  refine ⟨?_, below⟩
  intro equal
  subst equal
  rw [dropped (tree.below_rightUnique below ⟨leaf, found, isChild⟩)] at isKept
  cases isKept

theorem Linked.mem_of_below_takeOut (childless : leaf.children = []) {lower upper : Nat}
    (below : (tree.takeOut slot above).Below lower upper) :
    ∃ node, (tree.takeOut slot above).node? upper = some node ∧ lower ∈ node.children := by
  rcases below_takeOut.mp below with ⟨different, below⟩
  rcases linked.mem_of_below below with ⟨old, oldFound, listed⟩
  have inner : upper ≠ slot := fun equal =>
    linked.not_below_of_childless found childless lower (equal ▸ below)
  rcases keep_takeOut above oldFound inner with ⟨kept, keptFound, keeps⟩
  exact ⟨_, keptFound, List.mem_filter.mpr ⟨listed, keeps lower different⟩⟩

theorem Linked.free_nodup_takeOut : (tree.takeOut slot above).free.Nodup := by
  apply List.nodup_cons.mpr
  refine ⟨?_, linked.free_nodup⟩
  intro listed
  rw [(linked.mem_free_iff.mp listed).2] at found
  cases found

theorem Linked.mem_free_takeOut_iff {other : Nat} : other ∈ (tree.takeOut slot above).free ↔
    other < (tree.takeOut slot above).slots.length ∧
      (tree.takeOut slot above).node? other = none := by
  have free : (tree.takeOut slot above).free = slot :: tree.free := rfl
  rw [free, length_takeOut, List.mem_cons, linked.mem_free_iff, node?_takeOut]
  by_cases isSlot : other = slot
  · simp [isSlot, lt_length_of_node? found]
  · by_cases isAbove : other = above
    · subst isAbove
      simp [isSlot]
    · simp [isSlot, isAbove]

end Leaf

section Found

variable {other : Nat} {node : Node} (linked : tree.Linked)
  (nodeFound : (tree.takeOut slot above).node? other = some node)
include linked nodeFound

theorem Linked.slot_eq_takeOut : node.slot = other := by
  rcases find_takeOut nodeFound with ⟨-, old, kept, oldFound, rfl, -⟩
  have same := linked.slot_eq oldFound
  exact same

theorem Linked.key_eq_takeOut : node.key = node.segment.spelling := by
  rcases find_takeOut nodeFound with ⟨-, old, kept, oldFound, rfl, -⟩
  have same := linked.key_eq oldFound
  exact same

theorem Linked.children_nodup_takeOut : node.children.Nodup := by
  rcases find_takeOut nodeFound with ⟨-, old, kept, oldFound, rfl, -⟩
  exact (linked.children_nodup oldFound).filter _

theorem Linked.slots_eq_takeOut {third : Nat} {sibling : Node}
    (siblingFound : (tree.takeOut slot above).node? third = some sibling)
    (sameParent : node.parent = sibling.parent) (sameKey : node.key = sibling.key) :
    other = third := by
  rcases find_takeOut nodeFound with ⟨-, first, _, oldFirst, rfl, -⟩
  rcases find_takeOut siblingFound with ⟨-, second, _, oldSecond, rfl, -⟩
  exact linked.slots_eq oldFirst oldSecond sameParent sameKey

end Found

/-- Taking a node without children out keeps the links of the others. -/
theorem Linked.takeOut (linked : tree.Linked) (found : tree.node? slot = some leaf)
    (isChild : leaf.parent = some above) (childless : leaf.children = []) :
    (tree.takeOut slot above).Linked where
  root := linked.root_takeOut found isChild
  slot_eq := linked.slot_eq_takeOut
  key_eq := linked.key_eq_takeOut
  below_of_mem := linked.below_takeOut_of_mem found isChild
  mem_of_below := linked.mem_of_below_takeOut found childless
  children_nodup := linked.children_nodup_takeOut
  slots_eq firstFound secondFound := linked.slots_eq_takeOut firstFound secondFound
  reaches_root nodeFound := by
    rcases find_takeOut nodeFound with ⟨different, old, kept, oldFound, -⟩
    exact climb_takeOut (linked.not_below_of_childless found childless) different
      (linked.reaches_root oldFound)
  free_nodup := linked.free_nodup_takeOut found
  mem_free_iff := linked.mem_free_takeOut_iff found

end TakeOut

end RouteTree
end FileRoutes
