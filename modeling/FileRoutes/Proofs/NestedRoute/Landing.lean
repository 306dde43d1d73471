import FileRoutes.NestedRoute.Basic
import FileRoutes.Proofs.Forest.Trails

/-!
# Where a route lands

Placing a route adds one trail to the nest and changes no other.  `landing` follows the route down
without building anything: it gives the new trail, the drafts that the route is nested in and last
its own.  What holds of every landing therefore holds of every trail of a finished nest.
-/

namespace FileRoutes

/-- The trail of a route that has segments left, from the level that it has come to. -/
def landing (route : FlatRoute) : Cursor → List Segment → Forest Draft → List Draft
  | cursor, [], _ => [⟨cursor.name, cursor.path, cursor.scores, route⟩]
  | cursor, segment :: later, level =>
      match level.find? (cursor.leadsTo segment (RoutePath.goesOn later)) with
      | some (draft, children) => draft :: landing route (cursor.descend segment) later children
      | none => landing route (cursor.pass segment (RoutePath.goesOn later)) later level

theorem landing_ne_nil (route : FlatRoute) (cursor : Cursor) (segments : List Segment)
    (level : Forest Draft) : landing route cursor segments level ≠ [] := by
  fun_induction landing route cursor segments level with
  | case1 | case2 => exact List.cons_ne_nil _ _
  | case3 cursor segment later level _ inductionHypothesis => exact inductionHypothesis

/-- A trail ends in the route that it was made for. -/
theorem route_of_landing (route : FlatRoute) (cursor : Cursor) (segments : List Segment)
    (level : Forest Draft) :
    (landing route cursor segments level).getLast?.map Draft.route = some route := by
  fun_induction landing route cursor segments level with
  | case1 => rfl
  | case2 cursor segment later level draft children _ inductionHypothesis =>
      rwa [List.getLast?_cons_of_ne_nil (landing_ne_nil _ _ _ _)]
  | case3 cursor segment later level _ inductionHypothesis => exact inductionHypothesis

/-- Placing a route adds its landing and keeps every other trail. -/
theorem trails_placeFrom (route : FlatRoute) (cursor : Cursor) (segments : List Segment)
    (level : Forest Draft) :
    (placeFrom route cursor segments level).trails.Perm
      (landing route cursor segments level :: level.trails) := by
  fun_induction landing route cursor segments level with
  | case1 cursor level =>
      rw [placeFrom, Forest.trails_append]
      exact List.perm_append_singleton _ _
  | case2 cursor segment later level draft children found inductionHypothesis =>
      rw [placeFrom]
      rw [found]
      exact Forest.trails_modifyFirst found rfl inductionHypothesis
  | case3 cursor segment later level missing inductionHypothesis =>
      rw [placeFrom]
      rwa [missing]

theorem trails_place (drafts : Forest Draft) (route : FlatRoute) :
    (place drafts route).trails.Perm (landing route {} route.segments drafts :: drafts.trails) :=
  trails_placeFrom route {} route.segments drafts

theorem mem_trails_foldl_place {routes : List FlatRoute} {drafts : Forest Draft}
    {trail : List Draft} (listed : trail ∈ (routes.foldl place drafts).trails) :
    trail ∈ drafts.trails ∨
      ∃ route ∈ routes, ∃ earlier, trail = landing route {} route.segments earlier := by
  induction routes generalizing drafts with
  | nil => exact .inl listed
  | cons route later inductionHypothesis =>
      rcases inductionHypothesis listed with placed | ⟨other, isLater, earlier, lands⟩
      · rcases List.mem_cons.mp ((trails_place drafts route).mem_iff.mp placed) with lands | old
        · exact .inr ⟨route, List.mem_cons_self, drafts, lands⟩
        · exact .inl old
      · exact .inr ⟨other, List.mem_cons_of_mem _ isLater, earlier, lands⟩

/-- Every trail of a nest is where one of the routes landed. -/
theorem mem_trails_draftsOf {routes : List FlatRoute} {trail : List Draft}
    (listed : trail ∈ (draftsOf routes).trails) :
    ∃ route ∈ routes, ∃ earlier, trail = landing route {} route.segments earlier := by
  rcases (mem_trails_foldl_place listed).resolve_left List.not_mem_nil with
    ⟨route, isRoute, earlier, lands⟩
  exact ⟨route, List.mem_mergeSort.mp isRoute, earlier, lands⟩

/-! ## Every route has one draft -/

theorem preorder_place (drafts : Forest Draft) (route : FlatRoute) :
    ((place drafts route).preorder.map Draft.route).Perm
      (route :: drafts.preorder.map Draft.route) := by
  rcases Option.map_eq_some_iff.mp (route_of_landing route {} route.segments drafts) with
    ⟨last, ends, isRoute⟩
  have order := ((trails_place drafts route).filterMap List.getLast?).map Draft.route
  rwa [Forest.getLast?_trails, List.filterMap_cons_some ends, Forest.getLast?_trails,
    List.map_cons, isRoute] at order

theorem preorder_foldl_place (routes : List FlatRoute) (drafts : Forest Draft) :
    ((routes.foldl place drafts).preorder.map Draft.route).Perm
      (routes ++ drafts.preorder.map Draft.route) := by
  induction routes generalizing drafts with
  | nil => exact .refl _
  | cons route later inductionHypothesis =>
      have placed := (preorder_place drafts route).append_left later
      exact ((inductionHypothesis _).trans placed).trans List.perm_middle

theorem preorder_draftsOf (routes : List FlatRoute) :
    ((draftsOf routes).preorder.map Draft.route).Perm routes := by
  have placed := preorder_foldl_place (routes.mergeSort FlatRoute.precedes) .nil
  rw [Forest.preorder, List.map_nil, List.append_nil] at placed
  exact placed.trans (List.mergeSort_perm _ _)

/-! ## Finishing -/

/-- The file and the path of a route that a draft becomes, when it is nested or not. -/
def Draft.outline (nested : Bool) (draft : Draft) : Text × Text :=
  (draft.route.file.path, if nested then RoutePath.relative draft.path else draft.path)

/-- The outlines along a trail, of which only the first may stand at the top. -/
def outlines (nested : Bool) : List Draft → List (Text × Text)
  | [] => []
  | draft :: below => draft.outline nested :: outlines true below

/-- Finishing a nest keeps its trails. -/
theorem trails_finishDrafts (options : NestedOptions) (nested : Bool) (drafts : Forest Draft) :
    (finishDrafts options nested drafts).trails.map
        (List.map fun route => (route.file, route.path)) =
      drafts.trails.map (outlines nested) := by
  induction drafts generalizing nested with
  | nil => rfl
  | cons draft children siblings below beside =>
      have through : ∀ routes : List (List NestedRoute), ∀ drafts : List (List Draft),
          routes.map (List.map fun route => (route.file, route.path)) =
            drafts.map (outlines true) →
          (routes.map ((draft.finish options nested (finishDrafts options true children)) :: ·)).map
              (List.map fun route => (route.file, route.path)) =
            (drafts.map (draft :: ·)).map (outlines nested) := by
        intro routes drafts same
        have first := congrArg (List.map (draft.outline nested :: ·)) same
        rw [List.map_map, List.map_map] at first ⊢
        exact first
      simp only [finishDrafts, Forest.trails, List.map_cons, List.map_append]
      rw [through _ _ (below true), beside nested]
      rfl

/-- Finishing a nest keeps its files. -/
theorem preorder_finishDrafts (options : NestedOptions) (nested : Bool) (drafts : Forest Draft) :
    (finishDrafts options nested drafts).preorder.map NestedRoute.file =
      drafts.preorder.map (·.route.file.path) := by
  induction drafts generalizing nested with
  | nil => rfl
  | cons draft children siblings below beside =>
      simp only [finishDrafts, Forest.preorder, List.map_cons, List.map_append, below, beside]
      rfl

theorem map_fst_outlines (nested : Bool) (drafts : List Draft) :
    (outlines nested drafts).map Prod.fst = drafts.map (·.route.file.path) := by
  induction drafts generalizing nested with
  | nil => rfl
  | cons draft below inductionHypothesis =>
      rw [outlines, List.map_cons, inductionHypothesis]
      rfl

/-- The paths along a trail: those below the first stand without the slash in front. -/
def pathsAlong : List Draft → List Text
  | [] => []
  | draft :: below => draft.path :: below.map (RoutePath.relative ·.path)

theorem map_snd_outlines (drafts : List Draft) :
    (outlines false drafts).map Prod.snd = pathsAlong drafts := by
  have below (drafts : List Draft) :
      (outlines true drafts).map Prod.snd = drafts.map (RoutePath.relative ·.path) := by
    induction drafts with
    | nil => rfl
    | cons draft below inductionHypothesis =>
        rw [outlines, List.map_cons, inductionHypothesis]
        rfl
  cases drafts with
  | nil => rfl
  | cons draft lower =>
      rw [outlines, List.map_cons, below]
      rfl

theorem exists_finish_of_mem_finishDrafts {options : NestedOptions} {nested : Bool}
    {drafts : Forest Draft} {route : NestedRoute}
    (listed : route ∈ (finishDrafts options nested drafts).preorder) :
    ∃ draft ∈ drafts.preorder, ∃ nested children,
      route = draft.finish options nested children := by
  induction drafts generalizing nested with
  | nil => cases listed
  | cons draft children siblings below beside =>
      rcases List.mem_cons.mp listed with rfl | listed
      · exact ⟨draft, List.mem_cons_self, nested, _, rfl⟩
      · rcases List.mem_append.mp listed with lower | later
        · rcases below lower with ⟨other, isDraft, finished⟩
          exact ⟨other, List.mem_cons_of_mem _ (List.mem_append_left _ isDraft), finished⟩
        · rcases beside later with ⟨other, isDraft, finished⟩
          exact ⟨other, List.mem_cons_of_mem _ (List.mem_append_right _ isDraft), finished⟩

/-- The nested routes of a tree have the files of its flat routes. -/
theorem preorder_nestedRoutes (tree : RouteTree) (options : NestedOptions) :
    ((tree.nestedRoutes options).preorder.map NestedRoute.file).Perm
      (tree.flatRoutes.map (·.file.path)) := by
  have sorted := (Forest.preorder_sort Draft.precedes (draftsOf tree.flatRoutes)).map Draft.route
  have order := (sorted.trans (preorder_draftsOf tree.flatRoutes)).map (·.file.path)
  rw [List.map_map] at order
  rw [RouteTree.nestedRoutes, preorder_finishDrafts]
  exact order

/-- The trails of nested routes are those of the drafts. -/
theorem exists_mem_trails_of_mem_finishDrafts {options : NestedOptions} {drafts : Forest Draft}
    {trail : List NestedRoute} (listed : trail ∈ (finishDrafts options false drafts).trails) :
    ∃ origin ∈ drafts.trails, trail.map NestedRoute.file = origin.map (·.route.file.path) ∧
      trail.map NestedRoute.path = pathsAlong origin := by
  have outlined := List.mem_map_of_mem (f := List.map fun route => (route.file, route.path)) listed
  rw [trails_finishDrafts] at outlined
  rcases List.mem_map.mp outlined with ⟨origin, isTrail, same⟩
  refine ⟨origin, isTrail, ?_, ?_⟩
  · rw [← map_fst_outlines false, same, List.map_map]
    rfl
  · rw [← map_snd_outlines, same, List.map_map]
    rfl

/-- What stands above a nested route stands above its draft. -/
theorem exists_trail_of_mem_nestedRoutes {tree : RouteTree} {options : NestedOptions}
    {above : List NestedRoute} {route : NestedRoute}
    (listed : above ++ [route] ∈ (tree.nestedRoutes options).trails) :
    ∃ drafts draft, drafts ++ [draft] ∈ (draftsOf tree.flatRoutes).trails ∧
      drafts.map (·.route.file.path) = above.map NestedRoute.file ∧
      draft.route.file.path = route.file := by
  rcases exists_mem_trails_of_mem_finishDrafts listed with ⟨origin, isTrail, files, -⟩
  have inNest := (Forest.trails_sort Draft.precedes _).mem_iff.mp isTrail
  rcases List.eq_nil_or_concat' origin with rfl | ⟨drafts, draft, rfl⟩
  · exact absurd rfl (Forest.ne_nil_of_mem_trails inNest)
  · rw [List.map_append, List.map_append] at files
    rcases List.append_inj' files rfl with ⟨aboveFiles, lastFile⟩
    exact ⟨drafts, draft, inNest, aboveFiles.symm, (List.cons.inj lastFile).1.symm⟩

/-- Every trail of nested routes comes from one of the flat routes, and shows where it landed. -/
theorem mem_trails_nestedRoutes {tree : RouteTree} {options : NestedOptions}
    {trail : List NestedRoute} (listed : trail ∈ (tree.nestedRoutes options).trails) :
    ∃ route ∈ tree.flatRoutes, ∃ earlier,
      trail.map NestedRoute.file =
        (landing route {} route.segments earlier).map (·.route.file.path) ∧
      trail.map NestedRoute.path = pathsAlong (landing route {} route.segments earlier) := by
  rcases exists_mem_trails_of_mem_finishDrafts listed with ⟨drafts, isTrail, files, paths⟩
  have sorted := (Forest.trails_sort Draft.precedes (draftsOf tree.flatRoutes)).mem_iff.mp isTrail
  rcases mem_trails_draftsOf sorted with ⟨route, isRoute, earlier, rfl⟩
  exact ⟨route, isRoute, earlier, files, paths⟩

end FileRoutes
