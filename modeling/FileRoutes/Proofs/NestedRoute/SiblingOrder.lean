import FileRoutes.Proofs.NestedRoute.DraftOrder
import FileRoutes.Proofs.NestedRoute.Finishing
import FileRoutes.Proofs.NestedRoute.LonePage
import FileRoutes.Proofs.NestedRoute.RowLook

/-!
# Siblings in order

A draft keeps the path and the scores of those of its segments that come after the ones its parent
has taken.  Each row of nested routes is a row of drafts, sorted by what they keep.  Where the
segments of two siblings first differ in their scores, the more specific one stands first.
-/

namespace FileRoutes

open RoutePath

theorem Cursor.scores_pass (cursor : Cursor) (segment : Segment) (followed : Bool) :
    (cursor.pass segment followed).scores =
      cursor.scores ++
        if segment.isIndex then [] else [(segment.specificity followed).score] := by
  unfold Cursor.pass
  dsimp only
  split
  · exact (List.append_nil _).symm
  · rw [Segment.score_eq]

theorem Cursor.scores_passAll (cursor : Cursor) (segments : List Segment) :
    (cursor.passAll segments).scores =
      cursor.scores ++ (specificities segments).map Specificity.score := by
  induction segments generalizing cursor with
  | nil => exact (List.append_nil _).symm
  | cons segment later inductionHypothesis =>
      rw [Cursor.passAll, inductionHypothesis, Cursor.scores_pass, List.append_assoc, specificities]
      split <;> rfl

/-- From where the last draft of a landing was made, and the segments before: when there is a draft
above the last one, the cursor has gone down into that. -/
inductive Cursor.ReachesLast (cursor : Cursor) : Option Draft → List Segment → Cursor → Prop where
  | top : ReachesLast cursor none [] cursor
  | below (upper : Draft) (segment : Segment) (above : List Segment)
      (named : upper.name = (segment :: above).foldl extendName cursor.name) :
      ReachesLast cursor (some upper) (segment :: above) { name := upper.name }

/-- The last draft of a landing keeps the segments that the draft above it has not taken. -/
theorem reachesLast_of_landing {route : FlatRoute} {cursor : Cursor} {segments : List Segment}
    {level : Forest Draft} {trail : List Draft} {last : Draft}
    (lands : landing route cursor segments level = trail ++ [last]) :
    ∃ above below start, cursor.ReachesLast trail.getLast? above start ∧
      segments = above ++ below ∧
      last = ⟨(start.passAll below).name, (start.passAll below).path,
        (start.passAll below).scores, route⟩ := by
  fun_induction landing route cursor segments level generalizing trail with
  | case1 cursor =>
      rcases List.append_eq_singleton_iff.mp lands.symm with ⟨rfl, isLast⟩ | ⟨_, isLast⟩
      · exact ⟨[], [], cursor, .top, rfl, (List.cons.inj isLast).1⟩
      · cases isLast
  | case2 cursor segment later level draft children found inductionHypothesis =>
      have named : draft.name = extendName cursor.name segment :=
        of_decide_eq_true (Bool.and_eq_true_iff.mp (Forest.of_find?_eq_some found).1).1
      cases trail with
      | nil => exact absurd (List.cons.inj lands).2 (landing_ne_nil _ _ _ _)
      | cons first trail =>
          rcases List.cons.inj lands with ⟨rfl, deeper⟩
          rcases inductionHypothesis deeper with ⟨above, below, start, reaches, split, isLast⟩
          refine ⟨segment :: above, below, start, ?_, congrArg (segment :: ·) split, isLast⟩
          rw [List.getLast?_cons]
          generalize trail.getLast? = ended at reaches ⊢
          cases reaches with
          | top =>
              rw [Cursor.descend, ← named]
              exact .below draft segment [] named
          | below upper next above lower => exact .below upper segment (next :: above) lower
  | case3 cursor segment later level _ inductionHypothesis =>
      rcases inductionHypothesis lands with ⟨above, below, start, reaches, rfl, isLast⟩
      generalize trail.getLast? = ended at reaches ⊢
      cases reaches with
      | top => exact ⟨[], segment :: below, cursor, .top, rfl, isLast⟩
      | below upper next above named =>
          rw [cursor.name_pass] at named
          exact ⟨segment :: next :: above, below, _, .below upper segment _ named, rfl, isLast⟩

/-- The segments that a parent has taken: none at the top, and otherwise those that its name is
made of. -/
def RouteTree.LeadsTo (tree : RouteTree) (above : List Segment) : Option NestedRoute → Prop
  | none => above = []
  | some parent => above ≠ [] ∧
      ∃ flat ∈ tree.flatRoutes, flat.file.path = parent.file ∧ flat.rawName = rowName above

/-- A nested route has been made of a draft, which keeps the path and the scores of the segments
that its parent has not taken. -/
structure Draft.Becomes (draft : Draft) (tree : RouteTree) (parent : Option NestedRoute)
    (route : NestedRoute) : Prop where
  placed : draft ∈ (draftsOf tree.flatRoutes).preorder
  isFlat : draft.route ∈ tree.flatRoutes
  file : route.file = draft.route.file.path
  path : route.path = if parent.isSome then relative draft.path else draft.path
  kept : ∃ above below, draft.route.segments = above ++ below ∧ tree.LeadsTo above parent ∧
    draft.path = (Cursor.passAll { name := rowName above } below).path ∧
    draft.scores = (specificities below).map Specificity.score

namespace RouteTree

variable {tree : RouteTree} {options : NestedOptions}

/-- Every row of nested routes comes from a row of drafts. -/
theorem exists_row_of_mem_rows {row : Option NestedRoute × List NestedRoute}
    (listed : row ∈ (tree.nestedRoutes options).rows) :
    ∃ origin ∈ tree.sortedDrafts.rows,
      row.1.map NestedRoute.file = origin.1.map (·.route.file.path) ∧
      List.Forall₂ (fun draft route => ∃ children,
        route = draft.finish options row.1.isSome children) origin.2 row.2 := by
  rcases List.mem_cons.mp listed with rfl | listed
  · exact ⟨_, List.mem_cons_self, rfl, forall₂_roots_finishDrafts options false _⟩
  · rcases List.mem_map.mp listed with ⟨node, isNode, rfl⟩
    rcases exists_of_forall₂ (forall₂_nodes_finishDrafts options false tree.sortedDrafts) isNode
      with ⟨origin, isOrigin, nested, rfl⟩
    exact ⟨_, List.mem_cons_of_mem _ (List.mem_map_of_mem isOrigin), rfl,
      forall₂_roots_finishDrafts options true _⟩

/-- A draft at the end of a trail becomes a nested route below what the draft above it becomes. -/
theorem becomes_of_trail {trail : List Draft} {draft : Draft}
    (isTrail : trail ++ [draft] ∈ (draftsOf tree.flatRoutes).trails) {parent : Option NestedRoute}
    (isParent : parent.map NestedRoute.file = trail.getLast?.map (·.route.file.path))
    (children : Forest NestedRoute) :
    draft.Becomes tree parent (draft.finish options parent.isSome children) := by
  have placed {other : Draft} (onTrail : other ∈ trail ++ [draft]) :
      other ∈ (draftsOf tree.flatRoutes).preorder :=
    Forest.mem_preorder_of_mem_trails isTrail onTrail
  have isFlat {other : Draft} (inNest : other ∈ (draftsOf tree.flatRoutes).preorder) :
      other.route ∈ tree.flatRoutes :=
    (preorder_draftsOf tree.flatRoutes).mem_iff.mp (List.mem_map_of_mem inNest)
  have isPlaced := placed (List.mem_append_right _ List.mem_cons_self)
  refine ⟨isPlaced, isFlat isPlaced, rfl, rfl, ?_⟩
  rcases mem_trails_draftsOf isTrail with ⟨route, -, earlier, lands⟩
  rcases reachesLast_of_landing lands.symm with ⟨above, below, start, reaches, split, rfl⟩
  have scores := start.scores_passAll below
  cases ended : trail.getLast? with
  | none =>
      rw [ended] at reaches isParent
      rw [Option.map_eq_none_iff.mp isParent]
      cases reaches
      exact ⟨[], below, split, rfl, rfl, scores⟩
  | some upper =>
      rw [ended] at reaches isParent
      rcases Option.map_eq_some_iff.mp isParent with ⟨parent, rfl, file⟩
      have isUpper := placed (List.mem_append_left _ (List.mem_of_getLast? ended))
      cases reaches with
      | below upper segment above named =>
          refine ⟨segment :: above, below, split,
            ⟨List.cons_ne_nil _ _, upper.route, isFlat isUpper, file.symm, ?_⟩, ?_, scores⟩
          · rw [← name_of_mem_draftsOf isUpper, named, rowName]
          · rw [rowName, ← named]

theorem becomes_of_mem_rows {row : Option NestedRoute × List NestedRoute}
    (listed : row ∈ (tree.nestedRoutes options).rows) :
    ∃ drafts : List Draft,
      List.Forall₂ (fun draft route => draft.Becomes tree row.1 route) drafts row.2 ∧
      drafts.Pairwise fun first second => (first.compare second).isLE = true := by
  rcases exists_row_of_mem_rows listed with ⟨origin, isOrigin, parents, finished⟩
  have trans (first second third : Draft) (before : first.precedes second = true)
      (after : second.precedes third = true) : first.precedes third = true :=
    Std.TransCmp.isLE_trans before after
  rcases Forest.of_mem_rows_sort (isLE_or_isLE Draft.compare) trans isOrigin with
    ⟨inOrder, unsorted, isRow, perm⟩
  refine ⟨origin.2, ?_, inOrder⟩
  have members : ∀ draft ∈ origin.2, draft ∈ unsorted := fun draft listed => perm.mem_iff.mp listed
  refine ((List.forall₂_and_left _ _).mpr ⟨members, finished⟩).imp ?_
  rintro draft route ⟨isDraft, children, rfl⟩
  rcases Forest.exists_trail_of_mem_rows isRow isDraft with ⟨above, isTrail, top⟩
  rw [← List.append_assoc] at isTrail
  refine becomes_of_trail isTrail ?_ children
  rw [parents]
  rcases origin with ⟨parent, row⟩
  cases parent with
  | none =>
      rw [top rfl]
      rfl
  | some parent =>
      rw [Option.toList_some, List.getLast?_concat]

/-- The order of drafts is a total preorder that identifies only drafts with the same scores and
paths: higher scores come first, then scores that end, then paths in natural order.  Every row of
nested routes comes from drafts in that order, each with the scores and the path of the segments
that the parent has not taken.  Where the scores of siblings first differ, the more specific one
leads. -/
theorem siblings_inOrder (tree : RouteTree) (options : NestedOptions) :
    ((∀ first second : Draft, first.compare second = (second.compare first).swap) ∧
      (∀ first second : Draft,
        (first.compare second).isLE = true ∨ (second.compare first).isLE = true) ∧
      (∀ first second third : Draft, (first.compare second).isLE = true →
        (second.compare third).isLE = true → (first.compare third).isLE = true) ∧
      (∀ first second : Draft, first.compare second = .eq ↔
        first.scores = second.scores ∧ first.path = second.path) ∧
      ∀ first second : Draft, (first.compare second).isLE = true ↔ first.Before second) ∧
    ∀ row ∈ (tree.nestedRoutes options).rows, ∃ drafts : List Draft,
      List.Forall₂ (fun draft route => draft.Becomes tree row.1 route) drafts row.2 ∧
      (drafts.Pairwise fun first second => (first.compare second).isLE = true) ∧
      drafts.Pairwise fun first second =>
        ∀ (common : List Specificity) kind other later others,
          first.scores = (common ++ kind :: later).map Specificity.score →
            second.scores = (common ++ other :: others).map Specificity.score →
              kind ≠ other → kind.Leads other := by
  refine ⟨⟨?_, ?_, ?_, ?_, ?_⟩, ?_⟩
  · exact fun first second => Std.OrientedCmp.eq_swap
  · exact fun first second => Bool.or_eq_true_iff.mp (isLE_or_isLE Draft.compare first second)
  · exact fun first second third before after => Std.TransCmp.isLE_trans before after
  · exact fun first second => Draft.compare_eq_eq_iff
  · exact fun first second => Draft.isLE_compare_iff
  · intro row listed
    rcases becomes_of_mem_rows listed with ⟨drafts, become, inOrder⟩
    exact ⟨drafts, become, inOrder, inOrder.imp Draft.leads_of_isLE_compare⟩

end RouteTree
end FileRoutes
