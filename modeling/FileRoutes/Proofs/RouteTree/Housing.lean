import FileRoutes.Proofs.RouteTree.Within

/-!
# Every file sits where its position leads

`Leads` follows the keys from the root to a node.  The keys that lead to a node can be read off it
and the nodes above, so two files share a node only if their positions are spelled alike.  Nodes
that are made or pruned elsewhere change nothing about this: a node keeps its key and its parent for
as long as it is there.
-/

namespace FileRoutes
namespace RouteTree

variable {tree : RouteTree}

/-- The keys on the way from the root to the node in a slot. -/
inductive Leads (tree : RouteTree) : List Text → Nat → Prop
  | root : Leads tree [] 0
  | child {keys above slot node} : Leads tree keys above → tree.node? slot = some node →
      node.parent = some above → Leads tree (keys ++ [node.key]) slot

/-- The keys of a node and of those above it are all that leads there. -/
theorem Linked.keys_eq_of_leads (linked : tree.Linked) {keys others : List Text} {slot : Nat}
    (leads : tree.Leads keys slot) (leadsToo : tree.Leads others slot) : keys = others := by
  rcases linked.root with ⟨root, rootFound, noParent, -⟩
  have rootless {above : Nat} {node : Node} (found : tree.node? 0 = some node)
      (isChild : node.parent = some above) : False := by
    rw [node?_inj found rootFound, noParent] at isChild
    cases isChild
  induction leads generalizing others with
  | root =>
      cases leadsToo with
      | root => rfl
      | child _ found isChild => exact (rootless found isChild).elim
  | child _ found isChild inductionHypothesis =>
      cases leadsToo with
      | root => exact (rootless found isChild).elim
      | child otherLeads otherFound otherChild =>
          rcases node?_inj found otherFound with rfl
          rcases Option.some.inj (isChild.symm.trans otherChild) with rfl
          rw [inductionHypothesis otherLeads]

/-- The same keys lead to one node only, since siblings differ in theirs. -/
theorem Linked.slot_eq_of_leads (linked : tree.Linked) {keys : List Text} {slot other : Nat}
    (leads : tree.Leads keys slot) (leadsToo : tree.Leads keys other) : slot = other := by
  induction leads generalizing other with
  | root =>
      generalize isRoot : [] = keys at leadsToo
      cases leadsToo with
      | root => rfl
      | child => exact absurd isRoot.symm (by simp)
  | @child keys above slot node leads found isChild inductionHypothesis =>
      generalize isWay : keys ++ [node.key] = way at leadsToo
      cases leadsToo with
      | root => exact absurd isWay (by simp)
      | child otherLeads otherFound otherChild =>
          rcases List.append_inj' isWay rfl with ⟨rfl, sameKey⟩
          rcases inductionHypothesis otherLeads with rfl
          exact linked.slots_eq found otherFound (isChild.trans otherChild.symm)
            (List.cons.inj sameKey).1

/-! ## Nodes that stay -/

/-- Every node of the first tree is in the second, under the same key and the same parent. -/
def Keeps (first second : RouteTree) : Prop :=
  ∀ slot node, first.node? slot = some node →
    ∃ other, second.node? slot = some other ∧ other.key = node.key ∧ other.parent = node.parent

theorem Leads.keep {first second : RouteTree} (keeps : Keeps first second) {keys : List Text}
    {slot : Nat} (leads : first.Leads keys slot) : second.Leads keys slot := by
  induction leads with
  | root => exact .root
  | child _ found isChild inductionHypothesis =>
      rcases keeps _ _ found with ⟨other, otherFound, sameKey, sameParent⟩
      rw [← sameKey]
      exact .child inductionHypothesis otherFound (sameParent.trans isChild)

/-- A way to a node that is left is left itself, since the tree is linked. -/
theorem Leads.left {first second : RouteTree} (keeps : Keeps second first)
    (linked : second.Linked) {keys : List Text} {slot : Nat} (leads : first.Leads keys slot)
    {node : Node} (found : second.node? slot = some node) : second.Leads keys slot := by
  induction leads generalizing node with
  | root => exact .root
  | @child keys above slot old _ oldFound isChild inductionHypothesis =>
      rcases keeps slot node found with ⟨other, otherFound, sameKey, sameParent⟩
      have equal := node?_inj otherFound oldFound
      subst equal
      have isChild := sameParent.symm.trans isChild
      rcases linked.mem_of_below ⟨node, found, isChild⟩ with ⟨upper, upperFound, -⟩
      rw [sameKey]
      exact .child (inductionHypothesis upperFound) found isChild

/-- A node of a tree within another one has its key and its parent there as well. -/
theorem Within.keeps {first second : RouteTree} (within : Within first second) :
    Keeps first second := by
  intro slot node found
  rcases within slot node found with ⟨files, children, otherFound, -⟩
  exact ⟨_, otherFound, rfl, rfl⟩

/-! ## Going down -/

namespace Open

variable {slot above : Nat}

theorem leads_childOrNew (isOpen : tree.Open above) {keys : List Text}
    (leads : tree.Leads keys above) (segment : Segment) :
    (tree.childOrNew above segment).1.Leads (keys ++ [segment.spelling])
      (tree.childOrNew above segment).2 := by
  have onward := leads.keep (isOpen.within_childOrNew segment).keeps
  unfold RouteTree.childOrNew at onward ⊢
  split
  · next child isChild =>
    rcases isOpen.linked.of_child? isChild with ⟨found, isBelow, named⟩
    rw [← named]
    exact .child leads found isBelow
  · next absent =>
    rw [absent] at onward
    exact .child onward (isOpen.node?_newChild segment) rfl

theorem leads_reach (isOpen : tree.Open slot) {keys : List Text} (leads : tree.Leads keys slot)
    (segments : List Segment) :
    (tree.reach slot segments).1.Leads (keys ++ segments.map Segment.spelling)
      (tree.reach slot segments).2 := by
  induction segments generalizing tree slot keys with
  | nil =>
      rw [List.map_nil, List.append_nil]
      exact leads
  | cons segment later inductionHypothesis =>
      rw [List.map_cons, List.append_cons]
      exact inductionHypothesis (isOpen.childOrNew segment).1
        (isOpen.leads_childOrNew leads segment)

end Open

/-! ## Every file is at home -/

/-- The keys of a file's position. -/
def homeOf (file : PageFile) : List Text :=
  file.position.map Segment.spelling

/-- Every file sits at the node that its position leads to. -/
def Housed (tree : RouteTree) : Prop :=
  ∀ slot, ∀ file ∈ tree.filesAt slot, tree.Leads (homeOf file) slot

theorem housed_empty : RouteTree.empty.Housed := by
  intro slot file listed
  rw [filesAt_empty] at listed
  cases listed

/-- At the end of the way to a new file's position are all files that are at home there. -/
theorem Housed.mem_filesAt_reachedFor_iff (housed : tree.Housed) (coherent : tree.Coherent)
    {file held : PageFile} (fresh : tree.contains file.path = false) :
    held ∈ (tree.reachedFor file).1.filesAt (tree.reachedFor file).2 ↔
      held ∈ tree.attached ∧ homeOf held = homeOf file := by
  have isOpen := coherent.isOpen
  have keeps := (isOpen.within_reach file.position).keeps
  have leads := isOpen.leads_reach .root file.position
  have linked := (isOpen.reach file.position).linked
  rw [coherent.filesAt_reachedFor, reachedFor, cleared_eq_self fresh, mem_attached_iff]
  constructor
  · intro listed
    exact ⟨⟨_, listed⟩, linked.keys_eq_of_leads ((housed _ held listed).keep keeps) leads⟩
  · rintro ⟨⟨slot, listed⟩, sameHome⟩
    have leadsToo := (housed slot held listed).keep keeps
    rw [sameHome] at leadsToo
    exact linked.slot_eq_of_leads leadsToo leads ▸ listed

theorem Housed.cleared (housed : tree.Housed) (coherent : tree.Coherent) (path : Text) :
    (tree.cleared path).Housed := by
  intro slot file listed
  rcases mem_filesAt_iff.mp listed with ⟨node, found, -⟩
  have leads := housed slot file (coherent.mem_of_mem_filesAt_cleared listed)
  exact leads.left (within_cleared tree path).keeps (coherent.cleared path).linked found

theorem Housed.remove (housed : tree.Housed) (coherent : tree.Coherent) (path : Text) :
    (tree.remove path).1.Housed := by
  intro slot file listed
  rcases mem_filesAt_iff.mp listed with ⟨node, found, -⟩
  have leads := housed slot file (coherent.mem_filesAt_remove listed)
  exact leads.left (within_remove tree path).keeps (coherent.remove path).linked found

/-- What an insertion keeps: the file goes where its position leads, and the ways to the others are
left. -/
theorem Housed.insert (housed : tree.Housed) (coherent : tree.Coherent) (file : PageFile)
    (strategy : DuplicateStrategy) : (tree.insert file strategy).1.Housed := by
  have cleared := housed.cleared coherent file.path
  have keeps := (coherent.within_insert file strategy).keeps
  have isOpen := (coherent.cleared file.path).isOpen
  have leads : (tree.reachedFor file).1.Leads (homeOf file) (tree.reachedFor file).2 :=
    isOpen.leads_reach .root file.position
  intro slot held listed
  rcases coherent.insert_eq file strategy with kept | ⟨node, found, seated⟩
  · rw [kept] at listed keeps ⊢
    exact (cleared slot held listed).keep keeps
  · rw [seated] at listed keeps ⊢
    rcases ((coherent.indexed_reachedFor file).mem_filesAt_seatFile_iff found rfl).mp listed with
      ⟨rfl, rfl⟩ | ⟨old, -⟩
    · exact leads.keep (within_seatFile _ _ held _).keeps
    · rw [coherent.filesAt_reachedFor] at old
      exact (cleared slot held old).keep keeps

end RouteTree
end FileRoutes
