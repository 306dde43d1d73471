import FileRoutes.Proofs.NestedRoute.PlacingOrder
import FileRoutes.Proofs.RouteTable.Reachable
import FileRoutes.Proofs.RouteTree.Partition

/-!
# Nested routes tell nothing of how a tree came about

The walk of a tree shows in which order its nodes were made, and so do the flat routes.  Before
they are nested they are sorted by relative path, though.  When every route has one file only and
no two files share their relative path, the sort leaves nothing to the order in which the routes
come, and the files alone decide what the nested routes are.
-/

namespace FileRoutes

/-- Routes of one file each are given by their files. -/
theorem RouteTree.flatRoutes_eq_map {tree : RouteTree}
    (single : ∀ route ∈ tree.flatRoutes, route.siblings.length = 1) :
    tree.flatRoutes = (tree.flatRoutes.flatMap FlatRoute.siblings).map fun file => ⟨file, []⟩ := by
  have alone : ∀ route ∈ tree.flatRoutes,
      route.siblings.map (fun file => ⟨file, []⟩) = [route] := by
    intro route listed
    have noOthers : route.others = [] := by
      simpa [FlatRoute.siblings] using single route listed
    rcases route with ⟨file, others⟩
    subst noOthers
    rfl
  rw [List.map_flatMap, List.flatMap_congr alone, List.flatMap_singleton']

namespace RouteTable

variable {first second : RouteTable}

/-- Tables with the same files have the same flat routes in some order, when each of the routes
has one file. -/
theorem flatRoutes_perm_of_mem_attached_iff (reachable : first.Reachable)
    (reachableToo : second.Reachable)
    (same : ∀ file, file ∈ first.tree.attached ↔ file ∈ second.tree.attached)
    (single : ∀ route ∈ first.tree.flatRoutes, route.siblings.length = 1)
    (singleToo : ∀ route ∈ second.tree.flatRoutes, route.siblings.length = 1) :
    first.tree.flatRoutes.Perm second.tree.flatRoutes := by
  have unique := reachable.coherent.indexed.nodup_attached.of_map
  have uniqueToo := reachableToo.coherent.indexed.nodup_attached.of_map
  have files := (List.perm_ext_iff_of_nodup unique uniqueToo).mpr same
  have siblings := (reachable.coherent.flatMap_siblings.trans files).trans
    reachableToo.coherent.flatMap_siblings.symm
  rw [RouteTree.flatRoutes_eq_map single, RouteTree.flatRoutes_eq_map singleToo]
  exact siblings.map _

/-- Two tables that hold the same files give the same nested routes and report the same duplicate
names in the same order, whatever calls have made them, as long as every flat route has one file
and no two files share their relative path. -/
theorem nestedAnswer_eq_of_mem_attached_iff (reachable : first.Reachable)
    (reachableToo : second.Reachable)
    (same : ∀ file, file ∈ first.tree.attached ↔ file ∈ second.tree.attached)
    (single : ∀ route ∈ first.tree.flatRoutes, route.siblings.length = 1)
    (singleToo : ∀ route ∈ second.tree.flatRoutes, route.siblings.length = 1)
    (distinct : (first.tree.attached.map PageFile.relativePath).Nodup) (options : NestedOptions) :
    first.tree.nestedAnswer options = second.tree.nestedAnswer options := by
  have perm := flatRoutes_perm_of_mem_attached_iff reachable reachableToo same single singleToo
  have paths : (first.tree.flatRoutes.map (·.file.relativePath)).Nodup := by
    have routes := reachable.coherent.flatMap_siblings.map PageFile.relativePath
    have relativePaths := routes.nodup_iff.mpr distinct
    rw [RouteTree.flatRoutes_eq_map single, List.map_map]
    exact relativePaths
  have nests := draftsOf_eq_of_perm perm paths
  have routes : first.tree.nestedRoutes options = second.tree.nestedRoutes options := by
    rw [RouteTree.nestedRoutes, nests, RouteTree.nestedRoutes]
  rw [RouteTree.nestedAnswer, routes, RouteTree.nestedAnswer]

/-- A file that came and went has changed the order of the flat routes, but neither the nested
routes nor the report on the name `a-b` that two of them share. -/
theorem nestedAnswer_after_detour :
    let first := ((RouteTable.empty.add (.file "a-b.vue".toList 0) {}).1.add
      (.file "a/b.vue".toList 0) {}).1
    let second := (((RouteTable.empty.add (.file "a/c.vue".toList 0) {}).1.add
      (.file "a-b.vue".toList 0) {}).1.add (.file "a/b.vue".toList 0) {}).1.remove "a/c.vue".toList
    first.tree.flatRoutes ≠ second.1.tree.flatRoutes ∧
      first.tree.nestedAnswer { reports := true } =
        second.1.tree.nestedAnswer { reports := true } := by
  intro first second
  have reachable : first.Reachable := .add _ _ none (.add _ _ none .empty)
  have reachableToo : second.1.Reachable :=
    .remove _ (.add _ _ none (.add _ _ none (.add _ _ none .empty)))
  have files : first.tree.attached.Perm second.1.tree.attached := by decide +kernel
  have single : ∀ route ∈ first.tree.flatRoutes, route.siblings.length = 1 := by decide +kernel
  have singleToo : ∀ route ∈ second.1.tree.flatRoutes, route.siblings.length = 1 := by
    decide +kernel
  have distinct : (first.tree.attached.map PageFile.relativePath).Nodup := by decide +kernel
  refine ⟨by decide +kernel, ?_⟩
  exact nestedAnswer_eq_of_mem_attached_iff reachable reachableToo (fun _ => files.mem_iff) single
    singleToo distinct _

end RouteTable
end FileRoutes
