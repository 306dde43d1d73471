import FileRoutes.Proofs.NestedRoute.Landing
import FileRoutes.Proofs.RouteTable.Reachable
import FileRoutes.Proofs.RouteTree.FlatRoutes
import FileRoutes.Proofs.Text.Slashes

/-!
# Nesting neither loses nor doubles a route

Placing a route adds one draft, below whatever drafts were there, so a nest holds the routes that
were placed and no others.  Sorting and finishing keep it so.  A route goes down only into drafts
that have the name that it has come to itself, and goes on from there, so names grow along every
trail.  Nothing is asked of the segments: they may be of any tokens.
-/

namespace FileRoutes

/-! ## Names -/

/-- The names of a route's segments with slashes between them.  Empty names at the front do not
count. -/
def FlatRoute.rawName (route : FlatRoute) : Text :=
  Text.slashed ((route.segments.map Segment.routeName).dropWhile (· = []))

theorem foldl_extendName (segments : List Segment) :
    segments.foldl extendName [] =
      Text.slashed ((segments.map Segment.routeName).dropWhile (· = [])) := by
  induction segments using List.reverseRecOn with
  | nil => rfl
  | append_singleton earlier segment inductionHypothesis =>
      rw [List.foldl_append, inductionHypothesis, List.map_append, List.map_singleton,
        List.dropWhile_append, List.foldl_cons, List.foldl_nil, extendName]
      cases kept : (earlier.map Segment.routeName).dropWhile (· = []) with
      | nil =>
          by_cases empty : segment.routeName = [] <;> simp [List.dropWhile, empty]
      | cons first others =>
          have stops := List.head?_dropWhile_not (· = []) (earlier.map Segment.routeName)
          rw [kept] at stops
          have started := Text.slashed_cons_ne_nil (of_decide_eq_false stops) others
          exact (if_neg started).trans (Text.slashed_concat (List.cons_ne_nil _ _) _).symm

theorem prefix_extendName (name : Text) (segment : Segment) : name <+: extendName name segment := by
  unfold extendName
  split
  · next empty =>
    rw [empty]
    exact List.nil_prefix
  · exact List.prefix_append _ _

/-- Names grow along the trail of a route, and the last of them has the names of all segments. -/
theorem names_landing (route : FlatRoute) (cursor : Cursor) (segments : List Segment)
    (level : Forest Draft) :
    (∀ draft ∈ landing route cursor segments level, cursor.name <+: draft.name) ∧
      (landing route cursor segments level).Pairwise
        (fun upper lower => upper.name <+: lower.name) ∧
      (landing route cursor segments level).getLast?.map Draft.name =
        some (segments.foldl extendName cursor.name) := by
  fun_induction landing route cursor segments level with
  | case1 cursor =>
      refine ⟨?_, List.pairwise_singleton _ _, rfl⟩
      intro draft listed
      rw [List.mem_singleton.mp listed]
  | case2 cursor segment later level draft children found inductionHypothesis =>
      rcases inductionHypothesis with ⟨begins, grows, ends⟩
      have leads := (Forest.of_find?_eq_some found).1
      have named : draft.name = extendName cursor.name segment :=
        of_decide_eq_true (Bool.and_eq_true_iff.mp leads).1
      have here : cursor.name <+: draft.name := named ▸ prefix_extendName _ _
      refine ⟨?_, ?_, ?_⟩
      · intro lower listed
        rcases List.mem_cons.mp listed with rfl | listed
        · exact here
        · exact here.trans (named ▸ begins lower listed)
      · exact List.pairwise_cons.mpr ⟨fun lower listed => named ▸ begins lower listed, grows⟩
      · rw [List.getLast?_cons_of_ne_nil (landing_ne_nil _ _ _ _)]
        exact ends
  | case3 cursor segment later level _ inductionHypothesis =>
      rw [cursor.name_pass] at inductionHypothesis
      rcases inductionHypothesis with ⟨begins, grows, ends⟩
      exact ⟨fun draft listed => (prefix_extendName _ _).trans (begins draft listed), grows, ends⟩

theorem name_of_mem_draftsOf {routes : List FlatRoute} {draft : Draft}
    (listed : draft ∈ (draftsOf routes).preorder) : draft.name = draft.route.rawName := by
  rcases Forest.exists_trail_of_mem_preorder listed with ⟨above, isTrail⟩
  rcases mem_trails_draftsOf isTrail with ⟨route, -, earlier, lands⟩
  have sameRoute := route_of_landing route {} route.segments earlier
  have sameName := (names_landing route {} route.segments earlier).2.2
  rw [← lands, List.getLast?_concat] at sameRoute sameName
  rw [Option.some.inj sameRoute, FlatRoute.rawName, ← foldl_extendName]
  exact Option.some.inj sameName

namespace RouteTree

variable {tree : RouteTree}

/-- The draft with the file of a flat route has its name. -/
theorem Coherent.name_of_draft (coherent : tree.Coherent) {draft : Draft}
    (listed : draft ∈ (draftsOf tree.flatRoutes).preorder) {flat : FlatRoute}
    (isFlat : flat ∈ tree.flatRoutes) (same : flat.file.path = draft.route.file.path) :
    draft.name = flat.rawName := by
  have isFlatToo : draft.route ∈ tree.flatRoutes :=
    (preorder_draftsOf tree.flatRoutes).mem_iff.mp (List.mem_map_of_mem listed)
  rw [name_of_mem_draftsOf listed, coherent.eq_of_mem_flatRoutes isFlatToo isFlat same.symm]

/-- The name of a nested route is made of the names of all its segments. -/
theorem Coherent.name_of_nestedRoute (coherent : tree.Coherent) {options : NestedOptions}
    {route : NestedRoute} (listed : route ∈ (tree.nestedRoutes options).preorder) {flat : FlatRoute}
    (isFlat : flat ∈ tree.flatRoutes) (same : flat.file.path = route.file) {name : Text}
    (named : route.name = some name) : name = options.routeName flat.rawName := by
  rcases exists_finish_of_mem_finishDrafts listed with ⟨draft, isDraft, nested, children, rfl⟩
  have inNest := (Forest.preorder_sort Draft.precedes _).mem_iff.mp isDraft
  rw [← coherent.name_of_draft inNest isFlat same]
  rw [Draft.finish] at named
  dsimp only at named
  split at named
  · cases named
  · exact (Option.some.inj named).symm

/-- The name of a nested route goes on from those of all routes that it is nested in. -/
theorem Coherent.rawName_prefix (coherent : tree.Coherent) {options : NestedOptions}
    {above : List NestedRoute} {route upper : NestedRoute}
    (listed : above ++ [route] ∈ (tree.nestedRoutes options).trails) (isAbove : upper ∈ above)
    {flat flatAbove : FlatRoute} (isFlat : flat ∈ tree.flatRoutes)
    (isFlatAbove : flatAbove ∈ tree.flatRoutes) (same : flat.file.path = route.file)
    (sameAbove : flatAbove.file.path = upper.file) : flatAbove.rawName <+: flat.rawName := by
  rcases exists_trail_of_mem_nestedRoutes listed with ⟨drafts, draft, inNest, files, lastFile⟩
  have isFile : upper.file ∈ drafts.map (·.route.file.path) :=
    files ▸ List.mem_map_of_mem isAbove
  rcases List.mem_map.mp isFile with ⟨draftAbove, inDrafts, fileAbove⟩
  rcases mem_trails_draftsOf inNest with ⟨landed, -, earlier, lands⟩
  have grows := (names_landing landed {} landed.segments earlier).2.1
  rw [← lands] at grows
  have goesOn := (List.pairwise_append.mp grows).2.2 draftAbove inDrafts draft
    (List.mem_singleton_self _)
  have place {other : Draft} (onTrail : other ∈ drafts ++ [draft]) :=
    Forest.mem_preorder_of_mem_trails inNest onTrail
  rw [coherent.name_of_draft (place (List.mem_append_left _ inDrafts)) isFlatAbove
      (sameAbove.trans fileAbove.symm),
    coherent.name_of_draft (place (List.mem_append_right _ (List.mem_singleton_self _))) isFlat
      (same.trans lastFile.symm)] at goesOn
  exact goesOn

end RouteTree

/-- Nesting loses and doubles no route: the nested routes have the files that lead the flat routes,
each as often as there.  They are named after all their segments, and the name of a route goes on
from the names of the routes that it is nested in. -/
theorem RouteTable.nestedRoutes_of_reachable {table : RouteTable} (reachable : table.Reachable)
    (options : NestedOptions) :
    ((table.tree.nestedRoutes options).preorder.map NestedRoute.file).Perm
        (table.tree.flatRoutes.map (·.file.path)) ∧
      (∀ route ∈ (table.tree.nestedRoutes options).preorder, ∀ flat ∈ table.tree.flatRoutes,
        flat.file.path = route.file →
          ∀ name, route.name = some name → name = options.routeName flat.rawName) ∧
      ∀ above route, above ++ [route] ∈ (table.tree.nestedRoutes options).trails →
        ∀ upper ∈ above, ∀ flat ∈ table.tree.flatRoutes, flat.file.path = route.file →
          ∀ flatAbove ∈ table.tree.flatRoutes, flatAbove.file.path = upper.file →
            flatAbove.rawName <+: flat.rawName := by
  have coherent := reachable.coherent
  refine ⟨preorder_nestedRoutes _ options, ?_, ?_⟩
  · intro route listed flat isFlat same name named
    exact coherent.name_of_nestedRoute listed isFlat same named
  · intro above route listed upper isAbove flat isFlat same flatAbove isFlatAbove sameAbove
    exact coherent.rawName_prefix listed isAbove isFlat isFlatAbove same sameAbove

/-- A route may come to stand below one of other segments, if these leave the same name and path. -/
theorem RouteTable.nestedRoutes_below_other_segments :
    let page : PagePath :=
      ⟨"page.vue".toList, [[.group ['g'], .literal ['x'], .literal ['y']]], none⟩
    let inputs : List PageInput := [.parsed page 0, .file "xy/long.vue".toList 0]
    let tree := (RouteTree.build inputs {}).toOption.getD .empty
    ((tree.nestedRoutes {}).preorder.map NestedRoute.file).Perm
        (tree.flatRoutes.map (·.file.path)) ∧
      ∃ upper route, [upper] ++ [route] ∈ (tree.nestedRoutes {}).trails ∧
        ∃ flatAbove ∈ tree.flatRoutes, ∃ flat ∈ tree.flatRoutes,
          flatAbove.file.path = upper.file ∧ flat.file.path = route.file ∧
          flatAbove.rawName = "xy".toList ∧ flat.rawName = "xy/long".toList ∧
          flatAbove.rawName <+: flat.rawName := by
  intro page inputs tree
  have built : RouteTree.build inputs {} = .ok tree := by decide +kernel
  have inOrder : tree.flatRoutes.mergeSort FlatRoute.precedes = tree.flatRoutes :=
    List.mergeSort_of_pairwise (by decide +kernel)
  have trails : ["page.vue".toList, "xy/long.vue".toList] ∈
      (tree.nestedRoutes {}).trails.map (List.map NestedRoute.file) := by
    rw [RouteTree.nestedRoutes, draftsOf, inOrder]
    decide +kernel
  have flats : ∃ flatAbove ∈ tree.flatRoutes, ∃ flat ∈ tree.flatRoutes,
      flatAbove.file.path = "page.vue".toList ∧ flat.file.path = "xy/long.vue".toList ∧
      flatAbove.rawName = "xy".toList ∧ flat.rawName = "xy/long".toList := by
    decide +kernel
  rcases flats with ⟨flatAbove, isFlatAbove, flat, isFlat, fileAbove, file, nameAbove, name⟩
  rcases List.mem_map.mp trails with ⟨trail, listed, files⟩
  rcases List.map_eq_cons_iff.mp files with ⟨upper, below, rfl, isUpper, lower⟩
  rcases List.map_eq_singleton_iff.mp lower with ⟨route, rfl, isRoute⟩
  have conserved := RouteTable.nestedRoutes_of_reachable (.build built) {}
  have goesOn := conserved.2.2 [upper] route listed upper (List.mem_singleton_self _) flat isFlat
    (file.trans isRoute.symm) flatAbove isFlatAbove (fileAbove.trans isUpper.symm)
  exact ⟨conserved.1, upper, route, listed, flatAbove, isFlatAbove, flat, isFlat,
    fileAbove.trans isUpper.symm, file.trans isRoute.symm, nameAbove, name, goesOn⟩

end FileRoutes
