import FileRoutes.Proofs.Forest.Trails

/-!
# Nodes and rows of a forest

A node is taken here together with the forest below it.  The rows of siblings are the roots of the
whole forest and the roots below each node.  Sorting a forest changes the order in each row, but not
what stands in it, and leaves every row in order.
-/

namespace FileRoutes
namespace Forest

variable {α : Type}

/-- Every label with the forest below it, each before those below it. -/
def nodes : Forest α → List (α × Forest α)
  | nil => []
  | cons label children siblings => (label, children) :: (children.nodes ++ siblings.nodes)

/-- The rows of siblings, with the label right above unless they are the roots. -/
def rows (forest : Forest α) : List (Option α × List α) :=
  (none, forest.roots) :: forest.nodes.map fun node => (some node.1, node.2.roots)

theorem map_fst_nodes (forest : Forest α) : forest.nodes.map Prod.fst = forest.preorder := by
  induction forest with
  | nil => rfl
  | cons label children siblings below beside =>
      rw [nodes, List.map_cons, List.map_append, below, beside, preorder]

/-! ## Trails through a node -/

theorem singleton_mem_trails {forest : Forest α} {label : α} (root : label ∈ forest.roots) :
    [label] ∈ forest.trails := by
  induction forest with
  | nil => cases root
  | cons next children siblings _ beside =>
      rcases List.mem_cons.mp root with rfl | later
      · exact List.mem_cons_self
      · exact List.mem_cons_of_mem _ (List.mem_append_right _ (beside later))

/-- A trail below a node goes on a trail down to the node. -/
theorem exists_trail_of_mem_nodes {forest : Forest α} {node : α × Forest α}
    (listed : node ∈ forest.nodes) {trail : List α} (below : trail ∈ node.2.trails) :
    ∃ above, above ++ node.1 :: trail ∈ forest.trails := by
  induction forest with
  | nil => cases listed
  | cons next children siblings inside beside =>
      rcases List.mem_cons.mp listed with rfl | listed
      · exact ⟨[], List.mem_cons_of_mem _ (List.mem_append_left _ (List.mem_map_of_mem below))⟩
      · rcases List.mem_append.mp listed with lower | later
        · rcases inside lower with ⟨above, isTrail⟩
          exact ⟨next :: above,
            List.mem_cons_of_mem _ (List.mem_append_left _ (List.mem_map_of_mem isTrail))⟩
        · rcases beside later with ⟨above, isTrail⟩
          exact ⟨above, List.mem_cons_of_mem _ (List.mem_append_right _ isTrail)⟩

/-- The trail to a member of a row ends in the label above the row, if there is one, and the
member. -/
theorem exists_trail_of_mem_rows {forest : Forest α} {row : Option α × List α}
    (listed : row ∈ forest.rows) {label : α} (member : label ∈ row.2) :
    ∃ above, above ++ (row.1.toList ++ [label]) ∈ forest.trails ∧ (row.1 = none → above = []) := by
  rcases List.mem_cons.mp listed with rfl | listed
  · exact ⟨[], singleton_mem_trails member, fun _ => rfl⟩
  · rcases List.mem_map.mp listed with ⟨node, isNode, rfl⟩
    rcases exists_trail_of_mem_nodes isNode (singleton_mem_trails member) with ⟨above, isTrail⟩
    exact ⟨above, isTrail, nofun⟩

/-! ## Sorting -/

variable {precedes : α → α → Bool}

theorem roots_insertSorted (label : α) (children forest : Forest α) :
    (insertSorted precedes label children forest).roots.Perm (label :: forest.roots) :=
  @perm_insertSorted _ _ roots (fun label _ => [label]) (fun _ _ _ => rfl) precedes label children
    forest

theorem roots_sort (precedes : α → α → Bool) (forest : Forest α) :
    (forest.sort precedes).roots.Perm forest.roots := by
  induction forest with
  | nil => exact .refl _
  | cons label children siblings _ beside =>
      exact (roots_insertSorted label _ _).trans (beside.cons label)

theorem nodes_insertSorted (label : α) (children forest : Forest α) :
    (insertSorted precedes label children forest).nodes.Perm
      (cons label children forest).nodes :=
  @perm_insertSorted _ _ nodes (fun label children => (label, children) :: children.nodes)
    (fun _ _ _ => rfl) precedes label children forest

/-- At each node a sorted forest has what the forest has, sorted. -/
theorem nodes_sort (precedes : α → α → Bool) (forest : Forest α) :
    (forest.sort precedes).nodes.Perm
      (forest.nodes.map fun node => (node.1, node.2.sort precedes)) := by
  induction forest with
  | nil => exact .refl _
  | cons label children siblings below beside =>
      rw [nodes, List.map_cons, List.map_append]
      exact (nodes_insertSorted label _ _).trans ((below.append beside).cons _)

section Order

variable (total : ∀ first second, (precedes first second || precedes second first) = true)
  (trans : ∀ first second third, precedes first second = true → precedes second third = true →
    precedes first third = true)
include total trans

theorem pairwise_roots_insertSorted {label : α} {children forest : Forest α}
    (inOrder : forest.roots.Pairwise fun first second => precedes first second = true) :
    (insertSorted precedes label children forest).roots.Pairwise
      fun first second => precedes first second = true := by
  induction forest with
  | nil => exact List.pairwise_singleton _ _
  | cons next below siblings _ beside =>
      rcases List.pairwise_cons.mp inOrder with ⟨first, others⟩
      unfold insertSorted
      split
      · next before =>
        refine List.pairwise_cons.mpr ⟨fun other listed => ?_, inOrder⟩
        rcases List.mem_cons.mp listed with rfl | later
        · exact before
        · exact trans _ _ _ before (first other later)
      · next notBefore =>
        have after : precedes next label = true :=
          (Bool.or_eq_true_iff.mp (total next label)).resolve_right notBefore
        refine List.pairwise_cons.mpr ⟨fun other listed => ?_, beside others⟩
        rcases List.mem_cons.mp ((roots_insertSorted _ _ _).mem_iff.mp listed) with rfl | later
        · exact after
        · exact first other later

theorem pairwise_roots_sort (forest : Forest α) :
    (forest.sort precedes).roots.Pairwise fun first second => precedes first second = true := by
  induction forest with
  | nil => exact .nil
  | cons label children siblings _ beside => exact pairwise_roots_insertSorted total trans beside

/-- Every row of a sorted forest is in order, and holds what a row of the forest holds. -/
theorem of_mem_rows_sort {forest : Forest α} {row : Option α × List α}
    (listed : row ∈ (forest.sort precedes).rows) :
    (row.2.Pairwise fun first second => precedes first second = true) ∧
      ∃ unsorted, (row.1, unsorted) ∈ forest.rows ∧ row.2.Perm unsorted := by
  rcases List.mem_cons.mp listed with rfl | listed
  · exact ⟨pairwise_roots_sort total trans forest, _, List.mem_cons_self, roots_sort _ _⟩
  · rcases List.mem_map.mp listed with ⟨node, isNode, rfl⟩
    rcases List.mem_map.mp ((nodes_sort precedes forest).mem_iff.mp isNode) with
      ⟨origin, isOrigin, rfl⟩
    exact ⟨pairwise_roots_sort total trans _, _,
      List.mem_cons_of_mem _ (List.mem_map.mpr ⟨origin, isOrigin, rfl⟩), roots_sort _ _⟩

end Order

end Forest
end FileRoutes
