import FileRoutes.Proofs.Forest.Nodes
import FileRoutes.Proofs.Mapping
import FileRoutes.Proofs.NestedRoute.Landing

/-!
# What becomes of each draft

Finishing keeps the shape of a nest: it makes a route of each draft, once the drafts below it are
finished, and so a row of routes of each row of drafts.  Each flat route of a tree has one draft,
and therefore becomes a nested route.
-/

namespace FileRoutes

def finishNode (options : NestedOptions) (nested : Bool) (node : Draft × Forest Draft) :
    NestedRoute × Forest NestedRoute :=
  (node.1.finish options nested (finishDrafts options true node.2),
    finishDrafts options true node.2)

theorem forall₂_nodes_finishDrafts (options : NestedOptions) (nested : Bool)
    (drafts : Forest Draft) :
    List.Forall₂ (fun origin node => ∃ inside, node = finishNode options inside origin)
      drafts.nodes (finishDrafts options nested drafts).nodes := by
  induction drafts generalizing nested with
  | nil => exact .nil
  | cons draft children siblings below beside =>
      exact .cons ⟨nested, rfl⟩ (List.rel_append (below true) (beside nested))

theorem forall₂_roots_finishDrafts (options : NestedOptions) (nested : Bool)
    (drafts : Forest Draft) :
    List.Forall₂ (fun draft route => ∃ children, route = draft.finish options nested children)
      drafts.roots (finishDrafts options nested drafts).roots := by
  induction drafts with
  | nil => exact .nil
  | cons draft children siblings _ beside => exact .cons ⟨_, rfl⟩ beside

namespace RouteTree

variable {tree : RouteTree} {options : NestedOptions}

/-- The drafts of a tree in the order of its nested routes. -/
def sortedDrafts (tree : RouteTree) : Forest Draft :=
  (draftsOf tree.flatRoutes).sort Draft.precedes

theorem mem_sortedDrafts_iff {draft : Draft} :
    draft ∈ tree.sortedDrafts.preorder ↔ draft ∈ (draftsOf tree.flatRoutes).preorder :=
  (Forest.preorder_sort Draft.precedes _).mem_iff

/-- Every nested route is made of a draft, and of the routes right below it. -/
theorem exists_finish_of_mem_nodes {node : NestedRoute × Forest NestedRoute}
    (listed : node ∈ (tree.nestedRoutes options).nodes) :
    ∃ draft ∈ (draftsOf tree.flatRoutes).preorder, ∃ nested,
      node.1 = draft.finish options nested node.2 := by
  rcases exists_of_forall₂ (forall₂_nodes_finishDrafts options false tree.sortedDrafts) listed with
    ⟨origin, isOrigin, nested, rfl⟩
  have inNest := List.mem_map_of_mem (f := Prod.fst) isOrigin
  rw [Forest.map_fst_nodes, mem_sortedDrafts_iff] at inNest
  exact ⟨origin.1, inNest, nested, rfl⟩

/-- Every flat route becomes a nested route. -/
theorem exists_finish_of_mem_flatRoutes {flat : FlatRoute} (listed : flat ∈ tree.flatRoutes) :
    ∃ node ∈ (tree.nestedRoutes options).nodes, ∃ (draft : Draft) (nested : Bool),
      draft.route = flat ∧ node.1 = draft.finish options nested node.2 := by
  have placed := (preorder_draftsOf tree.flatRoutes).mem_iff.mpr listed
  rcases List.mem_map.mp placed with ⟨draft, inNest, rfl⟩
  rw [← mem_sortedDrafts_iff, ← Forest.map_fst_nodes] at inNest
  rcases List.mem_map.mp inNest with ⟨origin, isOrigin, rfl⟩
  rcases exists_of_forall₂ (forall₂_nodes_finishDrafts options false tree.sortedDrafts).flip
    isOrigin with ⟨node, isNode, nested, rfl⟩
  exact ⟨_, isNode, origin.1, nested, rfl, rfl⟩

end RouteTree
end FileRoutes
