import FileRoutes.Proofs.NestedRoute.Ancestors
import FileRoutes.Proofs.Text.NaturalOrder

/-!
# Shorter routes are placed first

Routes are sorted by the length of their relative paths before they are placed.  So none is placed
after one that goes on from it, provided that going on makes the relative path longer.
-/

namespace FileRoutes

/-- The order of relative paths: by length, then in natural order. -/
def comparePaths : Text → Text → Ordering :=
  compareLex (compareOn Text.byteLength) Text.naturalCompare

instance transCmp_comparePaths : Std.TransCmp comparePaths :=
  inferInstanceAs (Std.TransCmp (compareLex (compareOn Text.byteLength) Text.naturalCompare))

instance lawfulEqCmp_comparePaths : Std.LawfulEqCmp comparePaths where
  eq_of_compare same := by
    have natural : Text.naturalCompare _ _ = .eq := (Ordering.then_eq_eq.mp same).2
    exact Std.LawfulEqCmp.eq_of_compare natural

namespace FlatRoute

theorem precedes_eq (first second : FlatRoute) :
    first.precedes second =
      (comparePaths first.file.relativePath second.file.relativePath).isLE := rfl

/-- Routes that may stand in either order share their relative path. -/
theorem relativePath_eq_of_precedes {first second : FlatRoute}
    (before : first.precedes second = true) (after : second.precedes first = true) :
    first.file.relativePath = second.file.relativePath := by
  rw [precedes_eq] at before after
  exact Std.LawfulEqCmp.eq_of_compare (Std.OrientedCmp.isLE_antisymm before after)

theorem byteLength_le_of_precedes {first second : FlatRoute}
    (before : first.precedes second = true) :
    first.file.relativePath.byteLength ≤ second.file.relativePath.byteLength := by
  by_contra longer
  have decided : compare first.file.relativePath.byteLength
      second.file.relativePath.byteLength = .gt := Nat.compare_eq_gt.mpr (Nat.lt_of_not_le longer)
  have order : ((compare first.file.relativePath.byteLength
      second.file.relativePath.byteLength).then (Text.naturalCompare first.file.relativePath
        second.file.relativePath)).isLE = true := before
  rw [decided] at order
  cases order

theorem pairwise_mergeSort_precedes (routes : List FlatRoute) :
    (routes.mergeSort precedes).Pairwise fun first second => first.precedes second = true := by
  apply List.pairwise_mergeSort
  · intro first second third before after
    rw [precedes_eq] at before after ⊢
    exact Std.TransCmp.isLE_trans before after
  · intro first second
    exact isLE_or_isLE comparePaths first.file.relativePath second.file.relativePath

end FlatRoute

/-- Routes with different relative paths are nested alike in whatever order they come. -/
theorem draftsOf_eq_of_perm {routes others : List FlatRoute} (perm : routes.Perm others)
    (distinct : (routes.map (·.file.relativePath)).Nodup) : draftsOf routes = draftsOf others := by
  have sorted : routes.mergeSort FlatRoute.precedes = others.mergeSort FlatRoute.precedes := by
    apply List.Perm.eq_of_pairwise _ (FlatRoute.pairwise_mergeSort_precedes routes)
      (FlatRoute.pairwise_mergeSort_precedes others)
    · exact (List.mergeSort_perm _ _).trans (perm.trans (List.mergeSort_perm _ _).symm)
    · intro first second isFirst isSecond before after
      have listed := List.mem_mergeSort.mp isFirst
      have listedToo := perm.mem_iff.mpr (List.mem_mergeSort.mp isSecond)
      have samePath := FlatRoute.relativePath_eq_of_precedes before after
      exact List.inj_on_of_nodup_map distinct listed listedToo samePath
  rw [draftsOf, sorted, draftsOf]

/-- Of routes that look alike the first one has the first relative path. -/
theorem isFirst_mergeSort_iff {routes : List FlatRoute} {route : FlatRoute}
    (listed : route ∈ routes)
    (apart : ∀ other ∈ routes, other.row = route.row →
      other.file.relativePath = route.file.relativePath → other = route) :
    IsFirst (routes.mergeSort FlatRoute.precedes) route ↔
      ∀ other ∈ routes, other.row = route.row → route.precedes other = true := by
  have sorted := FlatRoute.pairwise_mergeSort_precedes routes
  have before {first other : FlatRoute}
      (isFirst : IsFirst (routes.mergeSort FlatRoute.precedes) first) (isOther : other ∈ routes)
      (same : other.row = first.row) : first.precedes other = true := by
    rcases List.find?_eq_some_iff_append.mp isFirst with ⟨-, front, back, whole, others⟩
    have inSorted : other ∈ routes.mergeSort FlatRoute.precedes := List.mem_mergeSort.mpr isOther
    rw [whole] at inSorted sorted
    rcases List.mem_append.mp inSorted with inFront | inBack
    · exact absurd same (by simpa using others other inFront)
    · rcases List.mem_cons.mp inBack with rfl | later
      · rw [FlatRoute.precedes_eq]
        exact Std.ReflCmp.isLE_rfl
      · exact (List.pairwise_cons.mp (List.pairwise_append.mp sorted).2.1).1 other later
  constructor
  · exact fun isFirst other isOther same => before isFirst isOther same
  · intro earliest
    have known : route.row ∈ rowsOf (routes.mergeSort FlatRoute.precedes) :=
      List.mem_map_of_mem (List.mem_mergeSort.mpr listed)
    rcases exists_isFirst known with ⟨first, inSorted, isFirst, same⟩
    have isOther := List.mem_mergeSort.mp inSorted
    have samePath := FlatRoute.relativePath_eq_of_precedes (before isFirst listed same.symm)
      (earliest first isOther same)
    rwa [apart first isOther same samePath] at isFirst

/-- A nest of routes whose relative paths grow with their rows. -/
theorem nest_draftsOf {routes : List FlatRoute} (distinct : Distinct routes)
    (longer : ∀ first ∈ routes, ∀ second ∈ routes, first.row <+: second.row →
      first.row ≠ second.row →
        first.file.relativePath.byteLength < second.file.relativePath.byteLength) :
    Nest (routes.mergeSort FlatRoute.precedes) (draftsOf routes) := by
  have sorted := List.mergeSort_perm routes FlatRoute.precedes
  have sortedDistinct : Distinct (routes.mergeSort FlatRoute.precedes) :=
    { unique := sorted.nodup_iff.mpr distinct.unique
      ungrouped := fun route listed => distinct.ungrouped route (sorted.mem_iff.mp listed) }
  have apart : (rowsOf (routes.mergeSort FlatRoute.precedes)).Pairwise fun earlier later =>
      later <+: earlier → later = earlier := by
    apply List.pairwise_map.mpr
    apply (FlatRoute.pairwise_mergeSort_precedes routes).imp_of_mem
    intro first second isFirst isSecond before begins
    by_contra differs
    -- A later row that an earlier one goes on from would have the shorter path.
    have shorter := longer second (sorted.mem_iff.mp isSecond) first (sorted.mem_iff.mp isFirst)
      begins differs
    exact Nat.not_le_of_lt shorter (FlatRoute.byteLength_le_of_precedes before)
  exact Nest.nil.foldl_place sortedDistinct apart

end FileRoutes
