import FileRoutes.Proofs.RouteTree.Census
import FileRoutes.Proofs.RouteTree.FlatRoutes

/-!
# Every file belongs to one flat route

The files at a node are parted by their groups, so each of them is a sibling in one route of the
node and in no other.  The walk comes to every node once.  So the siblings of a tree's flat routes,
put together, are the files of the tree.
-/

namespace FileRoutes

/-- Repetitions are left out, and what is left is in the order of first appearance. -/
theorem pairwise_idxOf_eraseDups {α : Type} [BEq α] [LawfulBEq α] (items : List α) :
    items.eraseDups.Pairwise fun first second => items.idxOf first < items.idxOf second := by
  -- From the end, since an item is left out for those before it.
  induction items using List.reverseRecOn with
  | nil => exact .nil
  | append_singleton earlier item inductionHypothesis =>
      have kept : earlier.eraseDups.Pairwise fun first second =>
          (earlier ++ [item]).idxOf first < (earlier ++ [item]).idxOf second := by
        apply inductionHypothesis.imp_of_mem
        intro first second isFirst isSecond before
        rwa [List.idxOf_append_of_mem (List.mem_eraseDups.mp isFirst),
          List.idxOf_append_of_mem (List.mem_eraseDups.mp isSecond)]
      rw [List.eraseDups_append]
      by_cases again : item ∈ earlier
      · simpa [List.removeAll, again] using kept
      · have new : ([item].removeAll earlier).eraseDups = [item] := by
          simp [List.removeAll, again, List.eraseDups_cons]
        rw [new, List.pairwise_append]
        refine ⟨kept, List.pairwise_singleton _ _, fun first isFirst last isLast => ?_⟩
        have there := List.mem_eraseDups.mp isFirst
        rw [List.mem_singleton.mp isLast, List.idxOf_append_of_mem there,
          List.idxOf_append_of_notMem again]
        exact Nat.lt_add_right _ (List.idxOf_lt_length_of_mem there)

theorem nodup_eraseDups {α : Type} [BEq α] [LawfulBEq α] (items : List α) :
    items.eraseDups.Nodup := by
  apply (pairwise_idxOf_eraseDups items).imp
  rintro first _ before rfl
  exact before.ne rfl

namespace FlatRoute

theorem defaultsFirst_perm (files : List PageFile) : (defaultsFirst files).Perm files :=
  List.filter_append_perm PageFile.isDefaultView files

theorem flatMap_siblings_ofFiles? (files : List PageFile) :
    (ofFiles? files).toList.flatMap siblings = defaultsFirst files := by
  cases made : ofFiles? files with
  | none =>
      unfold ofFiles? at made
      split at made
      · next empty => exact empty.symm
      · cases made
  | some route => simp [siblings_of_ofFiles? made]

/-- The routes of a node share its files out among them. -/
theorem flatMap_siblings_ofNode {node : Node} (unique : node.files.Nodup) :
    ((ofNode node).flatMap siblings).Perm node.files := by
  let keys := (node.files.map PageFile.groupPath).eraseDups
  have parted : (ofNode node).flatMap siblings = keys.flatMap fun groupPath =>
      defaultsFirst (node.files.filter (·.groupPath = groupPath)) := by
    rw [ofNode, List.filterMap_eq_flatMap_toList, List.flatMap_assoc]
    apply List.flatMap_congr
    intro groupPath _
    exact flatMap_siblings_ofFiles? _
  have once : ((ofNode node).flatMap siblings).Nodup := by
    rw [parted, List.nodup_flatMap]
    constructor
    · intro groupPath _
      exact (defaultsFirst_perm _).nodup_iff.mpr (unique.filter _)
    · apply (nodup_eraseDups (node.files.map PageFile.groupPath)).imp
      intro groupPath otherPath different file isFirst isSecond
      have ofFirst := (List.mem_filter.mp (mem_defaultsFirst_iff.mp isFirst)).2
      have ofSecond := (List.mem_filter.mp (mem_defaultsFirst_iff.mp isSecond)).2
      exact different ((of_decide_eq_true ofFirst).symm.trans (of_decide_eq_true ofSecond))
  apply (List.perm_ext_iff_of_nodup once unique).mpr
  intro file
  rw [parted, List.mem_flatMap]
  constructor
  · rintro ⟨groupPath, -, listed⟩
    exact (List.mem_filter.mp (mem_defaultsFirst_iff.mp listed)).1
  · intro listed
    refine ⟨file.groupPath, List.mem_eraseDups.mpr (List.mem_map_of_mem listed), ?_⟩
    exact mem_defaultsFirst_iff.mpr (List.mem_filter.mpr ⟨listed, decide_eq_true rfl⟩)

end FlatRoute

namespace RouteTree

variable {tree : RouteTree}

/-- The files at some slots are those of the nodes in them. -/
theorem flatMap_filesAt (tree : RouteTree) (slots : List Nat) :
    slots.flatMap tree.filesAt = (slots.filterMap tree.node?).flatMap Node.files := by
  rw [List.filterMap_eq_flatMap_toList, List.flatMap_assoc]
  apply List.flatMap_congr
  intro slot _
  unfold filesAt
  cases tree.node? slot <;> simp

/-- The walk comes to every file once. -/
theorem Coherent.flatMap_files_walk (coherent : tree.Coherent) :
    ((tree.walk.map Visit.node).flatMap Node.files).Perm tree.attached := by
  rcases coherent.linked.exists_walk with ⟨order, unique, isVisited, walked, -⟩
  have nodup := (coherent.indexed.nodup_flatMap_filesAt unique).of_map
  rw [walked, ← flatMap_filesAt]
  apply (List.perm_ext_iff_of_nodup nodup coherent.indexed.nodup_attached.of_map).mpr
  intro file
  rw [mem_attached_iff, List.mem_flatMap]
  constructor
  · rintro ⟨slot, -, listed⟩
    exact ⟨slot, listed⟩
  · rintro ⟨slot, listed⟩
    rcases mem_filesAt_iff.mp listed with ⟨node, found, -⟩
    exact ⟨slot, (isVisited slot).mpr ⟨coherent.ne_root_of_mem listed, node, found⟩, listed⟩

/-- Every file of the tree is a sibling in one flat route, once. -/
theorem Coherent.flatMap_siblings (coherent : tree.Coherent) :
    (tree.flatRoutes.flatMap FlatRoute.siblings).Perm tree.attached := by
  refine List.Perm.trans ?_ coherent.flatMap_files_walk
  rw [flatRoutes_eq, List.flatMap_assoc]
  apply List.Perm.flatMap_left
  intro node visited
  apply FlatRoute.flatMap_siblings_ofNode
  rcases coherent.linked.exists_slot_of_mem_walk visited with ⟨slot, found⟩
  rw [← filesAt_of_node? found]
  exact (coherent.indexed.paths_nodup slot).of_map

end RouteTree
end FileRoutes
