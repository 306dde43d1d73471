import FileRoutes.FlatRoute
import FileRoutes.Proofs.RouteTree.Coherence
import FileRoutes.Proofs.RouteTree.Tour

/-!
# The flat routes of a tree

The walk of a tree comes to every node below the root once, so a tree's flat routes are those of
its nodes, and no file leads two of them.
-/

namespace FileRoutes

/-! ## The routes of one node -/

namespace FlatRoute

theorem mem_defaultsFirst_iff {file : PageFile} {files : List PageFile} :
    file ∈ defaultsFirst files ↔ file ∈ files := by
  unfold defaultsFirst
  rw [List.mem_append, List.mem_filter, List.mem_filter, ← and_or_left]
  apply and_iff_left
  cases file.isDefaultView
  · exact .inr rfl
  · exact .inl rfl

theorem siblings_of_ofFiles? {files : List PageFile} {route : FlatRoute}
    (made : ofFiles? files = some route) : route.siblings = defaultsFirst files := by
  unfold ofFiles? at made
  split at made
  · cases made
  · next file others sorted =>
    rcases Option.some.inj made with rfl
    exact sorted.symm

/-- A route is made of the files that share the groups of its own. -/
theorem ofFiles?_of_mem_ofNode {node : Node} {route : FlatRoute} (listed : route ∈ ofNode node) :
    route.file ∈ node.files ∧
      ofFiles? (node.files.filter (·.groupPath = route.file.groupPath)) = some route := by
  rcases List.mem_filterMap.mp listed with ⟨groupPath, -, made⟩
  have first : route.file ∈ route.siblings := List.mem_cons_self
  rw [siblings_of_ofFiles? made, mem_defaultsFirst_iff] at first
  rcases List.mem_filter.mp first with ⟨held, sameGroups⟩
  rcases of_decide_eq_true sameGroups with rfl
  exact ⟨held, made⟩

theorem eq_of_mem_ofNode {node : Node} {route other : FlatRoute} (listed : route ∈ ofNode node)
    (otherListed : other ∈ ofNode node) (same : route.file = other.file) : route = other := by
  have made := (ofFiles?_of_mem_ofNode listed).2
  have madeToo := (ofFiles?_of_mem_ofNode otherListed).2
  rw [← same] at madeToo
  exact Option.some.inj (made.symm.trans madeToo)

end FlatRoute

/-! ## The routes of a tree -/

namespace RouteTree

variable {tree : RouteTree} {route other : FlatRoute}

theorem flatRoutes_eq (tree : RouteTree) :
    tree.flatRoutes = (tree.walk.map Visit.node).flatMap FlatRoute.ofNode := by
  rw [flatRoutes, List.flatMap_map]

theorem Linked.exists_node_of_mem_flatRoutes (linked : tree.Linked)
    (listed : route ∈ tree.flatRoutes) :
    ∃ slot node, tree.node? slot = some node ∧ route ∈ FlatRoute.ofNode node := by
  rw [flatRoutes_eq] at listed
  rcases List.mem_flatMap.mp listed with ⟨node, visited, ofNode⟩
  rcases linked.exists_slot_of_mem_walk visited with ⟨slot, found⟩
  exact ⟨slot, node, found, ofNode⟩

theorem Linked.file_mem_filesAt (linked : tree.Linked) (listed : route ∈ tree.flatRoutes) :
    ∃ slot, route.file ∈ tree.filesAt slot := by
  rcases linked.exists_node_of_mem_flatRoutes listed with ⟨slot, node, found, ofNode⟩
  exact ⟨slot, mem_filesAt_iff.mpr
    ⟨node, found, (FlatRoute.ofFiles?_of_mem_ofNode ofNode).1⟩⟩

/-- A file leads no more than one route. -/
theorem Coherent.eq_of_mem_flatRoutes (coherent : tree.Coherent)
    (listed : route ∈ tree.flatRoutes) (otherListed : other ∈ tree.flatRoutes)
    (same : route.file.path = other.file.path) : route = other := by
  rcases coherent.linked.exists_node_of_mem_flatRoutes listed with ⟨slot, node, found, ofNode⟩
  rcases coherent.linked.exists_node_of_mem_flatRoutes otherListed with
    ⟨home, otherNode, otherFound, ofOther⟩
  have held := (FlatRoute.ofFiles?_of_mem_ofNode ofNode).1
  have otherHeld := (FlatRoute.ofFiles?_of_mem_ofNode ofOther).1
  rw [← filesAt_of_node? found] at held
  rw [← filesAt_of_node? otherFound] at otherHeld
  have indexed := coherent.indexed
  have place := indexed.find?_eq_some_iff.mpr ⟨_, otherHeld, same.symm⟩
  rcases indexed.slot_eq place held rfl with rfl
  have sameFile := List.inj_on_of_nodup_map (indexed.paths_nodup slot) held otherHeld same
  have equal := node?_inj found otherFound
  subst equal
  exact FlatRoute.eq_of_mem_ofNode ofNode ofOther sameFile

end RouteTree
end FileRoutes
