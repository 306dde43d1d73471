import FileRoutes.Proofs.Mapping
import FileRoutes.Proofs.RouteTable.Reachable
import FileRoutes.Proofs.RouteTree.Partition

/-!
# How flat routes gather files

A flat route stands for a place, which is a node together with some of the groups that its files
are under, and it gathers the files of that place.  `Gathers` says which files these are and how
they are put in order.  The routes of a tree gather the files of its places one after the other: the
nodes come in the order of going down before going on, and the groups at a node as they first
appear there.  So every file has one route, and shares it with the files of its place and with no
others.
-/

namespace FileRoutes

/-- A node, by its slot, and groups that files at the node are under. -/
structure RoutePlace where
  slot : Nat
  groupPath : Text

namespace RoutePlace

/-- The files of a place, in the order of the node. -/
def files (tree : RouteTree) (place : RoutePlace) : List PageFile :=
  (tree.filesAt place.slot).filter (·.groupPath = place.groupPath)

/-- A route has the files of a place for siblings, those of the default view before those of other
views and otherwise in the order of the node, and the first of them leads it. -/
structure Gathers (tree : RouteTree) (place : RoutePlace) (route : FlatRoute) : Prop where
  siblings : route.siblings = (place.files tree).filter PageFile.isDefaultView ++
    (place.files tree).filter (!·.isDefaultView)
  leads : route.siblings.head? = some route.file

/-- One place comes before another: its node is earlier in an order of nodes, or at the same node
its groups appear before those of the other. -/
def Precedes (tree : RouteTree) (order : List Nat) (first second : RoutePlace) : Prop :=
  order.idxOf first.slot < order.idxOf second.slot ∨
    first.slot = second.slot ∧
      ((tree.filesAt first.slot).map PageFile.groupPath).idxOf first.groupPath <
        ((tree.filesAt first.slot).map PageFile.groupPath).idxOf second.groupPath

end RoutePlace

theorem FlatRoute.exists_ofFiles? {files : List PageFile} (nonempty : files ≠ []) :
    ∃ route, ofFiles? files = some route := by
  unfold ofFiles?
  split
  · next empty =>
    have parted := (defaultsFirst_perm files).symm
    rw [empty] at parted
    exact absurd parted.eq_nil nonempty
  · next file others _ => exact ⟨⟨file, others⟩, rfl⟩

namespace RouteTree

variable {tree : RouteTree}

/-! ## The places of a tree -/

/-- The places at a node, in the order in which their groups first appear. -/
def placesAt (tree : RouteTree) (slot : Nat) : List RoutePlace :=
  ((tree.filesAt slot).map PageFile.groupPath).eraseDups.map (RoutePlace.mk slot)

/-- Each route of a node gathers the files of one of its places. -/
theorem gathers_placesAt {slot : Nat} {node : Node} (found : tree.node? slot = some node) :
    List.Forall₂ (RoutePlace.Gathers tree) (tree.placesAt slot) (FlatRoute.ofNode node) := by
  unfold placesAt FlatRoute.ofNode
  rw [filesAt_of_node? found, List.forall₂_map_left_iff]
  apply forall₂_filterMap
  intro groupPath listed
  rcases List.mem_map.mp (List.mem_eraseDups.mp listed) with ⟨file, held, ofGroup⟩
  have among : file ∈ node.files.filter (·.groupPath = groupPath) :=
    List.mem_filter.mpr ⟨held, decide_eq_true ofGroup⟩
  rcases FlatRoute.exists_ofFiles? (List.ne_nil_of_mem among) with ⟨route, made⟩
  refine ⟨route, made, ?_, rfl⟩
  rw [RoutePlace.files, filesAt_of_node? found, FlatRoute.siblings_of_ofFiles? made]
  rfl

theorem pairwise_placesAt (tree : RouteTree) (order : List Nat) (slot : Nat) :
    (tree.placesAt slot).Pairwise (RoutePlace.Precedes tree order) := by
  rw [placesAt, List.pairwise_map]
  apply (pairwise_idxOf_eraseDups ((tree.filesAt slot).map PageFile.groupPath)).imp
  intro first second before
  exact .inr ⟨rfl, before⟩

/-- Every route of the tree gathers the files of one of its places, in their order. -/
theorem Linked.exists_places (linked : tree.Linked) :
    ∃ order places, Preorder tree [0] (0 :: order) ∧
      List.Forall₂ (RoutePlace.Gathers tree) places tree.flatRoutes ∧
      places.Pairwise (RoutePlace.Precedes tree order) := by
  rcases linked.exists_walk with ⟨order, unique, isVisited, walked, -, inOrder⟩
  refine ⟨order, order.flatMap tree.placesAt, inOrder, ?_, ?_⟩
  · rw [flatRoutes_eq, walked, List.filterMap_eq_flatMap_toList, List.flatMap_assoc]
    have same : List.Forall₂ (fun slot other => slot = other ∧ slot ∈ order) order order :=
      List.forall₂_same.mpr fun slot listed => ⟨rfl, listed⟩
    refine List.rel_flatMap same ?_
    rintro slot _ ⟨rfl, listed⟩
    rcases ((isVisited slot).mp listed).2 with ⟨node, found⟩
    simpa [found] using gathers_placesAt found
  · rw [List.pairwise_flatMap]
    refine ⟨fun slot _ => pairwise_placesAt tree order slot, ?_⟩
    apply List.pairwise_iff_getElem.mpr
    intro earlier later isEarlier isLater before first isFirst second isSecond
    rcases List.mem_map.mp isFirst with ⟨firstGroup, -, rfl⟩
    rcases List.mem_map.mp isSecond with ⟨secondGroup, -, rfl⟩
    left
    rwa [unique.idxOf_getElem, unique.idxOf_getElem]

/-! ## Who shares a route -/

/-- The files that share a route with one of them are those of its place. -/
theorem Coherent.mem_siblings_iff (coherent : tree.Coherent) {route : FlatRoute}
    (listed : route ∈ tree.flatRoutes) {slot : Nat} {file other : PageFile}
    (held : file ∈ tree.filesAt slot) (isSibling : file ∈ route.siblings) :
    other ∈ route.siblings ↔ other ∈ tree.filesAt slot ∧ other.groupPath = file.groupPath := by
  rcases coherent.linked.exists_node_of_mem_flatRoutes listed with ⟨home, node, found, ofNode⟩
  have members (member : PageFile) : member ∈ route.siblings ↔
      member ∈ tree.filesAt home ∧ member.groupPath = route.file.groupPath := by
    have made := (FlatRoute.ofFiles?_of_mem_ofNode ofNode).2
    rw [FlatRoute.siblings_of_ofFiles? made, FlatRoute.mem_defaultsFirst_iff, List.mem_filter,
      filesAt_of_node? found, decide_eq_true_eq]
  rcases (members file).mp isSibling with ⟨atHome, ofGroup⟩
  have named := coherent.indexed.find?_eq_some_iff.mpr ⟨file, held, rfl⟩
  rcases coherent.indexed.slot_eq named atHome rfl with rfl
  rw [members, ofGroup]

end RouteTree

namespace RouteTable

variable {table : RouteTable}

/-- In every tree that the library makes, each file is a sibling in one flat route, once, and
nothing else is.  Two files share a route if they sit at one node under the same groups.  And the
routes gather the files of their places in the order of these. -/
theorem flatRoutes_of_reachable (reachable : table.Reachable) :
    (∀ file, (table.tree.flatRoutes.flatMap FlatRoute.siblings).count file =
      if file ∈ table.tree.attached then 1 else 0) ∧
      (∀ slot other, ∀ file ∈ table.tree.filesAt slot, ∀ held ∈ table.tree.filesAt other,
        ((∃ route ∈ table.tree.flatRoutes, file ∈ route.siblings ∧ held ∈ route.siblings) ↔
          slot = other ∧ file.groupPath = held.groupPath)) ∧
      ∃ order places, RouteTree.Preorder table.tree [0] (0 :: order) ∧
        List.Forall₂ (RoutePlace.Gathers table.tree) places table.tree.flatRoutes ∧
        places.Pairwise (RoutePlace.Precedes table.tree order) := by
  have coherent := reachable.coherent
  have parted := coherent.flatMap_siblings
  refine ⟨fun file => ?_, ?_, coherent.linked.exists_places⟩
  · rw [parted.count_eq, coherent.indexed.nodup_attached.of_map.count]
  · intro slot other file isHere held isThere
    constructor
    · rintro ⟨route, listed, isSibling, isSiblingToo⟩
      rcases (coherent.mem_siblings_iff listed isHere isSibling).mp isSiblingToo with
        ⟨sameNode, sameGroup⟩
      have named := coherent.indexed.find?_eq_some_iff.mpr ⟨held, isThere, rfl⟩
      exact ⟨coherent.indexed.slot_eq named sameNode rfl, sameGroup.symm⟩
    · rintro ⟨rfl, sameGroup⟩
      have isAttached := RouteTree.mem_attached_iff.mpr ⟨slot, isHere⟩
      rcases List.mem_flatMap.mp (parted.mem_iff.mpr isAttached) with ⟨route, listed, isSibling⟩
      exact ⟨route, listed, isSibling,
        (coherent.mem_siblings_iff listed isHere isSibling).mpr ⟨isThere, sameGroup.symm⟩⟩

/-- A page joins a view that came before it, in front of it, and passes by a page under a group. -/
theorem flatRoutes_of_view_and_group :
    let add (table : RouteTable) (name : String) : RouteTable :=
      (table.add (.file name.toList 0) {}).1
    let table := add (add (add .empty "a@side.vue") "(x)/a.vue") "a.vue"
    table.tree.flatRoutes.map (fun route => route.siblings.map PageFile.path) =
        [["a.vue".toList, "a@side.vue".toList], ["(x)/a.vue".toList]] ∧
      ∃ page ∈ table.tree.filesAt 1, ∃ view ∈ table.tree.filesAt 1, page ≠ view ∧
        (table.tree.flatRoutes.flatMap FlatRoute.siblings).count page = 1 ∧
        (∃ route ∈ table.tree.flatRoutes, page ∈ route.siblings ∧ view ∈ route.siblings) ∧
        ∃ order places, RouteTree.Preorder table.tree [0] (0 :: order) ∧
          List.Forall₂ (RoutePlace.Gathers table.tree) places table.tree.flatRoutes ∧
          places.Pairwise (RoutePlace.Precedes table.tree order) := by
  intro add table
  have reachable : table.Reachable := .add _ _ none (.add _ _ none (.add _ _ none .empty))
  rcases flatRoutes_of_reachable reachable with ⟨counted, shared_iff, gathered⟩
  have pair : ∃ page ∈ table.tree.filesAt 1, ∃ view ∈ table.tree.filesAt 1, page ≠ view ∧
      page ∈ table.tree.attached ∧ page.groupPath = view.groupPath := by decide +kernel
  rcases pair with ⟨page, isPage, view, isView, different, isAttached, sameGroup⟩
  refine ⟨by decide +kernel, page, isPage, view, isView, different, ?_, ?_, gathered⟩
  · rw [counted, if_pos isAttached]
  · exact (shared_iff 1 1 page isPage view isView).mpr ⟨rfl, sameGroup⟩

end RouteTable
end FileRoutes
