import FileRoutes.Proofs.RouteTree.ByName
import FileRoutes.Proofs.RouteTree.Rivals

/-!
# The segments on the way to a file

A node is looked for by the spelling of a segment, and keeps the tokens of the first file that came
by.  Had two segments one spelling, a later file would share the nodes of an earlier one without
having its tokens.  For files that were added by name this does not happen: every node stands for a
segment that can be read, and the spellings of such segments tell them apart.  So the nodes on the
way to a file stand for the segments of its own name, whoever came first.
-/

namespace FileRoutes

/-- A segment that holds nothing but groups gives the names of all its tokens. -/
theorem groupsOf_eq (segments : List Segment) :
    groupsOf segments = (segments.filter Segment.isGroup).flatMap (List.map Token.value) := by
  apply List.flatMap_congr
  intro segment listed
  have allGroups := (Bool.and_eq_true_iff.mp (List.mem_filter.mp listed).2).2
  rw [List.filter_eq_self.mpr (List.all_eq_true.mp allGroups)]

namespace RouteTree

variable {tree : RouteTree}

/-- The nodes on the way from the root down to the node in a slot, without the root. -/
inductive Way (tree : RouteTree) : List Node → Nat → Prop
  | root : Way tree [] 0
  | child {nodes above slot node} : Way tree nodes above → tree.node? slot = some node →
      node.parent = some above → Way tree (nodes ++ [node]) slot

theorem Way.leads {nodes : List Node} {slot : Nat} (way : tree.Way nodes slot) :
    tree.Leads (nodes.map Node.key) slot := by
  induction way with
  | root => exact .root
  | child _ found isChild inductionHypothesis =>
      rw [List.map_append]
      exact .child inductionHypothesis found isChild

theorem Leads.exists_way {keys : List Text} {slot : Nat} (leads : tree.Leads keys slot) :
    ∃ nodes, tree.Way nodes slot := by
  induction leads with
  | root => exact ⟨[], .root⟩
  | child _ found isChild inductionHypothesis =>
      rcases inductionHypothesis with ⟨nodes, way⟩
      exact ⟨_, .child way found isChild⟩

/-- The nodes on a way are nodes of the tree below the root. -/
theorem Linked.of_mem_way (linked : tree.Linked) {nodes : List Node} {slot : Nat}
    (way : tree.Way nodes slot) {node : Node} (listed : node ∈ nodes) :
    ∃ home, home ≠ 0 ∧ tree.node? home = some node := by
  induction way with
  | root => cases listed
  | @child nodes above slot last _ found isChild inductionHypothesis =>
      rcases List.mem_append.mp listed with earlier | isLast
      · exact inductionHypothesis earlier
      · rcases List.mem_singleton.mp isLast with rfl
        refine ⟨slot, ?_, found⟩
        rintro rfl
        exact linked.not_below_root above ⟨node, found, isChild⟩

/-! ## Every node stands for a segment that can be read -/

/-- The segments of all nodes below the root can be read. -/
def Readable (tree : RouteTree) : Prop :=
  ∀ slot node, tree.node? slot = some node → slot ≠ 0 → node.segment.Canonical

theorem readable_empty : RouteTree.empty.Readable := by
  intro slot node found inner
  have inside := lt_length_of_node? found
  exact absurd (Nat.lt_one_iff.mp inside) inner

/-- A tree within another one has its segments from it. -/
theorem Within.readable {first second : RouteTree} (within : Within first second)
    (readable : second.Readable) : first.Readable := by
  intro slot node found inner
  rcases within slot node found with ⟨files, children, otherFound, -⟩
  have canonical := readable slot _ otherFound inner
  exact canonical

namespace Open

variable {slot above : Nat}

theorem readable_childOrNew (isOpen : tree.Open above) (readable : tree.Readable)
    {segment : Segment} (canonical : segment.Canonical) :
    (tree.childOrNew above segment).1.Readable := by
  unfold RouteTree.childOrNew
  split
  · exact readable
  · rcases isOpen.found with ⟨upper, found⟩
    intro other node nodeFound inner
    rcases isOpen.linked.find_newChild found nodeFound with
      ⟨-, rfl⟩ | ⟨old, added, oldFound, rfl, -⟩
    · exact canonical
    · exact readable other old oldFound inner

theorem readable_reach (isOpen : tree.Open slot) (readable : tree.Readable)
    {segments : List Segment} (canonical : ∀ segment ∈ segments, segment.Canonical) :
    (tree.reach slot segments).1.Readable := by
  induction segments generalizing tree slot with
  | nil => exact readable
  | cons segment later inductionHypothesis =>
      rcases List.forall_mem_cons.mp canonical with ⟨first, others⟩
      exact inductionHypothesis (isOpen.childOrNew segment).1
        (isOpen.readable_childOrNew readable first) others

end Open

/-- What an insertion keeps: all nodes that it makes stand for segments of the file's position. -/
theorem Readable.insert (readable : tree.Readable) (coherent : tree.Coherent) {file : PageFile}
    (canonical : ∀ segment ∈ file.position, segment.Canonical) (strategy : DuplicateStrategy) :
    (tree.insert file strategy).1.Readable := by
  have cleared := (within_cleared tree file.path).readable readable
  rcases coherent.insert_eq file strategy with kept | ⟨node, -, seated⟩
  · rw [kept]
    exact cleared
  · rw [seated]
    have reached : (tree.reachedFor file).1.Readable :=
      (coherent.cleared file.path).isOpen.readable_reach cleared canonical
    exact (sameLinks_seatFile _ _ file _).symm.within.readable reached

namespace ByName

theorem housed (byName : tree.ByName) : tree.Housed := by
  refine byName.of_kept housed_empty ?_ ?_
  · intro tree file strategy coherent _ housed
    exact housed.insert coherent file strategy
  · intro tree path coherent housed
    exact housed.remove coherent path

theorem readable (byName : tree.ByName) : tree.Readable := by
  refine byName.of_kept readable_empty ?_ ?_
  · intro tree file strategy coherent ofName readable
    have canonical : ∀ segment ∈ file.position, segment.Canonical := by
      intro segment listed
      exact (ofName.of_mem_position listed).1.canonical
    exact readable.insert coherent canonical strategy
  · intro tree path _ readable
    exact (within_remove tree path).readable readable

/-! ## The way to a file -/

/-- The segments on a way to a file are those of its position. -/
theorem map_segment_of_way (byName : tree.ByName) {slot : Nat} {file : PageFile}
    (listed : file ∈ tree.filesAt slot) {nodes : List Node} (way : tree.Way nodes slot) :
    nodes.map Node.segment = file.position := by
  have linked := byName.coherent.linked
  have keys : nodes.map Node.key = homeOf file :=
    linked.keys_eq_of_leads way.leads (byName.housed slot file listed)
  have spelled : nodes.map Node.key = (nodes.map Node.segment).map Segment.spelling := by
    rw [List.map_map]
    apply List.map_congr_left
    intro node onWay
    rcases linked.of_mem_way way onWay with ⟨home, -, found⟩
    exact linked.key_eq found
  apply Segment.eq_of_spellings_eq
  · intro segment isSegment
    rcases List.mem_map.mp isSegment with ⟨node, onWay, rfl⟩
    rcases linked.of_mem_way way onWay with ⟨home, inner, found⟩
    exact byName.readable home node found inner
  · intro segment isSegment
    exact ((byName.named slot file listed).of_mem_position isSegment).1.canonical
  · exact spelled.symm.trans keys

/-- Files share a node if, and only if, they have the same position. -/
theorem slot_eq_iff (byName : tree.ByName) {slot other : Nat} {file held : PageFile}
    (listed : file ∈ tree.filesAt slot) (listedToo : held ∈ tree.filesAt other) :
    slot = other ↔ file.position = held.position := by
  have leads := byName.housed slot file listed
  constructor
  · rintro rfl
    rcases leads.exists_way with ⟨nodes, way⟩
    rw [← byName.map_segment_of_way listed way, byName.map_segment_of_way listedToo way]
  · intro samePosition
    have sameHome : homeOf file = homeOf held := congrArg (List.map Segment.spelling) samePosition
    exact byName.coherent.linked.slot_eq_of_leads (sameHome ▸ leads)
      (byName.housed other held listedToo)

end ByName

/-- In a tree that is made of file names the nodes on the way to a file stand, token for token, for
the segments of its name that are not groups, or for the index page if there are no others, and its
groups are those that its name goes through.  So files share a node if, and only if, these segments
are the same. -/
theorem segments_on_way (byName : tree.ByName) :
    (∀ slot, ∀ file ∈ tree.filesAt slot,
      (∃ nodes, tree.Way nodes slot) ∧
        (∀ nodes, tree.Way nodes slot → nodes.map Node.segment = positionOf file.segments) ∧
        file.groups = (file.segments.filter Segment.isGroup).flatMap (List.map Token.value)) ∧
      ∀ slot other, ∀ file ∈ tree.filesAt slot, ∀ held ∈ tree.filesAt other,
        (slot = other ↔ positionOf file.segments = positionOf held.segments) := by
  constructor
  · intro slot file listed
    refine ⟨(byName.housed slot file listed).exists_way, ?_, ?_⟩
    · exact fun nodes way => byName.map_segment_of_way listed way
    · rcases byName.named slot file listed with ⟨options, path, priority, -, same⟩
      rw [same]
      exact groupsOf_eq path.segments
  · exact fun slot other file listed held listedToo => byName.slot_eq_iff listed listedToo

/-- A file stays at the node that another file brought, which was spelled in another way and is no
longer there. -/
theorem segments_on_way_after_removal :
    let names : List (Text × Int) :=
      [("a/[b-].vue".toList, 0), ("(g)/a/[b].vue".toList, 0), ("a/c.vue".toList, 0)]
    let tree := (RouteTree.build (names.map fun named => .file named.1 named.2) {}).toOption.getD
      .empty
    let left := (tree.remove "a/[b-].vue".toList).1
    ∃ slot nodes, ∃ file ∈ left.filesAt slot, file.path = "(g)/a/[b].vue".toList ∧
      left.Way nodes slot ∧
      nodes.map Node.segment = [[.literal ['a']], [.parameter .dynamic ['b']]] ∧
      file.groups = [['g']] := by
  intro names tree left
  have built : RouteTree.build (names.map fun named => .file named.1 named.2) {} = .ok tree := by
    decide +kernel
  have onlyOne : ∃ file ∈ left.filesAt 2, file.path = "(g)/a/[b].vue".toList ∧
      positionOf file.segments = [[.literal ['a']], [.parameter .dynamic ['b']]] ∧
      (file.segments.filter Segment.isGroup).flatMap (List.map Token.value) = [['g']] := by
    decide +kernel
  rcases onlyOne with ⟨file, listed, named, position, groups⟩
  have byName : left.ByName := .remove _ (.build built)
  rcases (segments_on_way byName).1 2 file listed with ⟨⟨nodes, way⟩, spelled, gathered⟩
  exact ⟨2, nodes, file, listed, named, way, (spelled nodes way).trans position,
    gathered.trans groups⟩

end RouteTree
end FileRoutes
