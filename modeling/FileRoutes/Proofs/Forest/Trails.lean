import FileRoutes.Forest
import Mathlib.Data.List.Perm.Basic

/-!
# Trails of a forest

A trail is the row of labels from a root of a forest down to one of its nodes.  The trails of a
forest say all about it but the order of siblings, so sorting a forest permutes them, and a change
below one root shows in the trails through that root only.
-/

namespace FileRoutes
namespace Forest

variable {α : Type}

/-- The labels from a root down to a node, for each node of the forest in turn. -/
def trails : Forest α → List (List α)
  | nil => []
  | cons label children siblings =>
      [label] :: (children.trails.map (label :: ·) ++ siblings.trails)

theorem ne_nil_of_mem_trails {forest : Forest α} {trail : List α} (listed : trail ∈ forest.trails) :
    trail ≠ [] := by
  induction forest with
  | nil => cases listed
  | cons label children siblings _ beside =>
      rcases List.mem_cons.mp listed with rfl | listed
      · exact List.cons_ne_nil _ _
      · rcases List.mem_append.mp listed with below | later
        · rcases List.mem_map.mp below with ⟨trail, _, rfl⟩
          exact List.cons_ne_nil _ _
        · exact beside later

/-- Every node ends one trail. -/
theorem getLast?_trails (forest : Forest α) :
    forest.trails.filterMap List.getLast? = forest.preorder := by
  induction forest with
  | nil => rfl
  | cons label children siblings below beside =>
      have last : ∀ trail ∈ children.trails, (label :: trail).getLast? = trail.getLast? := by
        intro trail listed
        exact List.getLast?_cons_of_ne_nil (ne_nil_of_mem_trails listed)
      have through : (children.trails.map (label :: ·)).filterMap List.getLast? =
          children.preorder := by
        rw [List.filterMap_map, ← below]
        exact List.filterMap_congr last
      rw [trails, preorder, List.filterMap_cons_some List.getLast?_singleton,
        List.filterMap_append, through, beside]

theorem exists_trail_of_mem_preorder {forest : Forest α} {label : α}
    (listed : label ∈ forest.preorder) :
    ∃ above, above ++ [label] ∈ forest.trails := by
  rw [← getLast?_trails] at listed
  rcases List.mem_filterMap.mp listed with ⟨trail, isTrail, isLast⟩
  rcases List.getLast?_eq_some_iff.mp isLast with ⟨above, rfl⟩
  exact ⟨above, isTrail⟩

theorem mem_preorder_of_mem_trails {forest : Forest α} {trail : List α} {label : α}
    (listed : trail ∈ forest.trails) (inside : label ∈ trail) : label ∈ forest.preorder := by
  induction forest generalizing trail with
  | nil => cases listed
  | cons next children siblings below beside =>
      rcases List.mem_cons.mp listed with rfl | listed
      · rw [List.mem_singleton.mp inside]
        exact List.mem_cons_self
      · rcases List.mem_append.mp listed with through | later
        · rcases List.mem_map.mp through with ⟨lower, isLower, rfl⟩
          rcases List.mem_cons.mp inside with rfl | inside
          · exact List.mem_cons_self
          · exact List.mem_cons_of_mem _ (List.mem_append_left _ (below isLower inside))
        · exact List.mem_cons_of_mem _ (List.mem_append_right _ (beside later inside))

theorem trails_append (first second : Forest α) :
    (first.append second).trails = first.trails ++ second.trails := by
  induction first with
  | nil => rfl
  | cons label children siblings _ beside => simp [append, trails, beside]

/-! ## Sorting -/

/-- What is listed tree by tree changes its order only when a tree is put into a row. -/
theorem perm_insertSorted {β : Type} {listing : Forest α → List β} {own : α → Forest α → List β}
    (each : ∀ label children siblings,
      listing (cons label children siblings) = own label children ++ listing siblings)
    (precedes : α → α → Bool) (label : α) (children forest : Forest α) :
    (listing (insertSorted precedes label children forest)).Perm
      (own label children ++ listing forest) := by
  induction forest with
  | nil => exact .of_eq (each label children nil)
  | cons next below siblings _ beside =>
      unfold insertSorted
      split
      · exact .of_eq (each label children _)
      · rw [each, each]
        exact (beside.append_left _).trans (List.perm_append_comm_assoc _ _ _)

theorem trails_insertSorted (precedes : α → α → Bool) (label : α) (children forest : Forest α) :
    (insertSorted precedes label children forest).trails.Perm
      (cons label children forest).trails :=
  @perm_insertSorted _ _ trails
    (fun label children => [label] :: children.trails.map (label :: ·)) (fun _ _ _ => rfl) precedes
    label children forest

theorem trails_sort (precedes : α → α → Bool) (forest : Forest α) :
    (forest.sort precedes).trails.Perm forest.trails := by
  induction forest with
  | nil => exact .refl _
  | cons label children siblings below beside =>
      refine (trails_insertSorted precedes label _ _).trans ?_
      exact ((below.map (label :: ·)).append beside).cons _

theorem preorder_sort (precedes : α → α → Bool) (forest : Forest α) :
    (forest.sort precedes).preorder.Perm forest.preorder := by
  rw [← getLast?_trails, ← getLast?_trails]
  exact (trails_sort precedes forest).filterMap List.getLast?

/-! ## Changing one tree -/

/-- What is found is a tree of the forest whose root is accepted. -/
theorem of_find?_eq_some {accept : α → Bool} {forest : Forest α} {label : α} {below : Forest α}
    (found : forest.find? accept = some (label, below)) :
    accept label = true ∧ [label] ∈ forest.trails ∧
      ∀ trail ∈ below.trails, label :: trail ∈ forest.trails := by
  induction forest with
  | nil => cases found
  | cons next children siblings _ beside =>
      unfold find? at found
      split at found
      · next accepted =>
        rcases Prod.mk.inj (Option.some.inj found) with ⟨rfl, rfl⟩
        refine ⟨accepted, List.mem_cons_self, fun trail listed => ?_⟩
        exact List.mem_cons_of_mem _ (List.mem_append_left _ (List.mem_map_of_mem listed))
      · rcases beside found with ⟨accepted, root, through⟩
        refine ⟨accepted, ?_, fun trail listed => ?_⟩
        · exact List.mem_cons_of_mem _ (List.mem_append_right _ root)
        · exact List.mem_cons_of_mem _ (List.mem_append_right _ (through trail listed))

/-- A root that is accepted is found, if no other one before it. -/
theorem find?_ne_none {accept : α → Bool} {forest : Forest α} {label : α}
    (root : [label] ∈ forest.trails) (accepted : accept label = true) :
    forest.find? accept ≠ none := by
  induction forest with
  | nil => cases root
  | cons next children siblings _ beside =>
      unfold find?
      split
      · exact nofun
      · next refused =>
        rcases List.mem_cons.mp root with same | listed
        · rcases List.cons.inj same with ⟨rfl, -⟩
          exact absurd accepted refused
        · rcases List.mem_append.mp listed with below | later
          · rcases List.mem_map.mp below with ⟨trail, isTrail, same⟩
            exact absurd (List.cons.inj same).2 (ne_nil_of_mem_trails isTrail)
          · exact beside later

theorem preorder_sublist_of_find? {accept : α → Bool} {forest : Forest α} {label : α}
    {below : Forest α} (found : forest.find? accept = some (label, below)) :
    (label :: below.preorder).Sublist forest.preorder := by
  induction forest with
  | nil => cases found
  | cons next children siblings _ beside =>
      unfold find? at found
      split at found
      · rcases Prod.mk.inj (Option.some.inj found) with ⟨rfl, rfl⟩
        exact (List.sublist_append_left _ _).cons_cons _
      · exact ((beside found).trans (List.sublist_append_right _ _)).cons _

/-- When no label comes twice, the trails through a root are those of the tree below it. -/
theorem mem_trails_below {accept : α → Bool} {forest : Forest α} {label : α} {below : Forest α}
    {trail : List α} (found : forest.find? accept = some (label, below))
    (unique : forest.preorder.Nodup) (nonempty : trail ≠ [])
    (listed : label :: trail ∈ forest.trails) : trail ∈ below.trails := by
  induction forest with
  | nil => cases found
  | cons next children siblings _ beside =>
      rcases List.nodup_cons.mp unique with ⟨absent, others⟩
      unfold find? at found
      rcases List.mem_cons.mp listed with same | listed
      · exact absurd (List.cons.inj same).2 nonempty
      · split at found
        · rcases Prod.mk.inj (Option.some.inj found) with ⟨rfl, rfl⟩
          rcases List.mem_append.mp listed with through | later
          · rcases List.mem_map.mp through with ⟨lower, isLower, same⟩
            rw [← (List.cons.inj same).2]
            exact isLower
          · have twice := mem_preorder_of_mem_trails later List.mem_cons_self
            exact absurd (List.mem_append_right _ twice) absent
        · rcases List.mem_append.mp listed with through | later
          · rcases List.mem_map.mp through with ⟨lower, isLower, same⟩
            rcases List.cons.inj same with ⟨rfl, rfl⟩
            have once := (preorder_sublist_of_find? found).subset List.mem_cons_self
            exact absurd (List.mem_append_right _ once) absent
          · exact beside found (List.nodup_append.mp others).2.1 later

/-- One trail more below a root is one trail more through that root. -/
theorem trails_modifyFirst {accept : α → Bool} {change : α → Forest α → α × Forest α}
    {forest : Forest α} {label : α} {below changed : Forest α} {trail : List α}
    (found : forest.find? accept = some (label, below))
    (isChanged : change label below = (label, changed))
    (grown : changed.trails.Perm (trail :: below.trails)) :
    (forest.modifyFirst accept change).trails.Perm ((label :: trail) :: forest.trails) := by
  induction forest with
  | nil => cases found
  | cons next children siblings _ beside =>
      unfold find? at found
      unfold modifyFirst
      split at found
      · next accepted =>
        rcases Prod.mk.inj (Option.some.inj found) with ⟨rfl, rfl⟩
        rw [if_pos accepted, isChanged]
        have through := (grown.map (next :: ·)).append_right siblings.trails
        exact (through.cons _).trans (List.Perm.swap _ _ _)
      · next refused =>
        rw [if_neg refused]
        have later := (beside found).append_left (children.trails.map (next :: ·))
        exact ((later.trans List.perm_middle).cons _).trans (List.Perm.swap _ _ _)

end Forest
end FileRoutes
