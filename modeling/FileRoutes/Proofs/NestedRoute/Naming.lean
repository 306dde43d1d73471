import FileRoutes.Proofs.NestedRoute.Conservation
import FileRoutes.Proofs.NestedRoute.Finishing
import FileRoutes.Proofs.RouteTree.Partition

/-!
# Names that several routes bear

A route leaves its name to a child with an empty path.  The names that are left are claimed one
after the other, each route's after those of the routes below it.  A name is reported at the second
claim and never again.  Claims are told apart by their files; this is right because no file leads
two routes.
-/

namespace FileRoutes

/-! ## Claims and reports -/

/-- The files of the claims to a name, in order. -/
def claimants (name : Text) (claims : List (Text × Text)) : List Text :=
  (claims.filter (·.1 = name)).map Prod.snd

/-- What is reported of a name that these files claim: the second of them, against the first. -/
def reportsOn (name : Text) : List Text → List DuplicateName
  | existing :: file :: _ => [⟨name, file, existing⟩]
  | _ => []

theorem claimants_cons_of_eq (name file : Text) (later : List (Text × Text)) :
    claimants name ((name, file) :: later) = file :: claimants name later := by
  simp [claimants]

theorem claimants_cons_of_ne {name other : Text} (different : other ≠ name) (file : Text)
    (later : List (Text × Text)) :
    claimants name ((other, file) :: later) = claimants name later := by
  simp [claimants, different]

/-- A claim to a name that another file bears is reported, unless the name has been before. -/
theorem duplicatesAmong_cons_of_taken {taken later : List (Text × Text)} {reported : List Text}
    {name bearer existing file : Text}
    (found : taken.find? (·.1 = name) = some (bearer, existing)) (different : existing ≠ file) :
    duplicatesAmong taken reported ((name, file) :: later) =
      if name ∈ reported then duplicatesAmong taken reported later
      else ⟨name, file, existing⟩ :: duplicatesAmong taken (name :: reported) later := by
  rw [duplicatesAmong, found]
  by_cases known : name ∈ reported <;> simp [known, different]

/-- A name is claimed by other files than the one that bears it. -/
theorem bearer_ne_of_nodup {taken later : List (Text × Text)} {name bearer existing file : Text}
    (found : taken.find? (·.1 = name) = some (bearer, existing))
    (distinct : (taken.map Prod.snd ++ ((name, file) :: later).map Prod.snd).Nodup) :
    existing ≠ file := by
  have isTaken : existing ∈ taken.map Prod.snd :=
    List.mem_map_of_mem (f := Prod.snd) (List.mem_of_find?_eq_some found)
  exact (List.nodup_append.mp distinct).2.2 existing isTaken file List.mem_cons_self

/-- Of each name there is one report, at its second claim, unless it has been reported before.  The
first claim may have been made before, too. -/
theorem filter_duplicatesAmong {taken claims : List (Text × Text)} {reported : List Text}
    (distinct : (taken.map Prod.snd ++ claims.map Prod.snd).Nodup) (name : Text) :
    (duplicatesAmong taken reported claims).filter (·.name = name) =
      if name ∈ reported then []
      else reportsOn name (((taken.find? (·.1 = name)).map Prod.snd).toList ++
        claimants name claims) := by
  induction claims generalizing taken reported with
  | nil =>
      cases taken.find? (·.1 = name) <;> simp [duplicatesAmong, claimants, reportsOn]
  | cons claim later inductionHypothesis =>
      rcases claim with ⟨claimed, file⟩
      cases found : taken.find? (·.1 = claimed) with
      | none =>
          have shifted : (((claimed, file) :: taken).map Prod.snd ++ later.map Prod.snd).Nodup :=
            List.perm_middle.nodup_iff.mp distinct
          rw [duplicatesAmong, found]
          dsimp only
          rw [inductionHypothesis shifted, List.find?_cons]
          by_cases same : claimed = name
          · subst same
            simp [found, claimants_cons_of_eq]
          · simp [same, claimants_cons_of_ne same]
      | some first =>
          have others : (taken.map Prod.snd ++ later.map Prod.snd).Nodup :=
            distinct.sublist ((List.sublist_cons_self _ _).append_left _)
          rw [duplicatesAmong_cons_of_taken found (bearer_ne_of_nodup found distinct)]
          by_cases same : claimed = name
          · subst same
            split
            · next known => rw [inductionHypothesis others, if_pos known]
            · rw [List.filter_cons_of_pos (by simp), inductionHypothesis others,
                if_pos List.mem_cons_self, found, claimants_cons_of_eq]
              rfl
          · rw [claimants_cons_of_ne same]
            split
            · exact inductionHypothesis others
            · rw [List.filter_cons_of_neg (by simpa using same), inductionHypothesis others]
              simp [Ne.symm same]

/-! ## The names of a tree's routes -/

theorem Forest.postorder_perm {α : Type} (forest : Forest α) :
    forest.postorder.Perm forest.preorder := by
  induction forest with
  | nil => exact .refl _
  | cons label children siblings below beside =>
      exact List.perm_middle.trans ((below.append beside).cons label)

/-- The claims to a name are those of the routes that bear it. -/
theorem claimants_takenNames (name : Text) (routes : Forest NestedRoute) :
    claimants name (takenNames routes) =
      (routes.postorder.filter (·.name = some name)).map NestedRoute.file := by
  rw [takenNames]
  induction routes.postorder with
  | nil => rfl
  | cons route later inductionHypothesis =>
      cases named : route.name with
      | none => simpa [named] using inductionHypothesis
      | some other =>
          rw [List.filterMap_cons_some (by rw [named]; rfl)]
          by_cases same : other = name
          · subst same
            rw [claimants_cons_of_eq, List.filter_cons_of_pos (by simp [named]), List.map_cons,
              inductionHypothesis]
          · rw [claimants_cons_of_ne same, List.filter_cons_of_neg (by simp [named, same]),
              inductionHypothesis]

theorem sublist_map_snd_takenNames (routes : Forest NestedRoute) :
    ((takenNames routes).map Prod.snd).Sublist (routes.postorder.map NestedRoute.file) := by
  rw [takenNames]
  induction routes.postorder with
  | nil => exact .slnil
  | cons route later inductionHypothesis =>
      cases named : route.name with
      | none =>
          rw [List.filterMap_cons_none (by rw [named]; rfl)]
          exact inductionHypothesis.cons _
      | some name =>
          rw [List.filterMap_cons_some (by rw [named]; rfl)]
          exact inductionHypothesis.cons_cons _

theorem FlatRoute.sublist_flatMap_siblings (routes : List FlatRoute) :
    (routes.map FlatRoute.file).Sublist (routes.flatMap FlatRoute.siblings) := by
  induction routes with
  | nil => exact .slnil
  | cons route later inductionHypothesis =>
      exact (inductionHypothesis.trans (List.sublist_append_right route.others _)).cons_cons _

namespace RouteTree

variable {tree : RouteTree} {options : NestedOptions}

/-- No file leads two flat routes. -/
theorem Coherent.nodup_flatRoutes (coherent : tree.Coherent) :
    (tree.flatRoutes.map (·.file.path)).Nodup := by
  have unique := (coherent.flatMap_siblings.map PageFile.path).nodup_iff.mpr
    coherent.indexed.nodup_attached
  have leading := (FlatRoute.sublist_flatMap_siblings tree.flatRoutes).map PageFile.path
  rw [List.map_map] at leading
  exact unique.sublist leading

/-- Each name is reported if two routes bear it, once. -/
theorem Coherent.filter_duplicateNames (coherent : tree.Coherent) (name : Text) :
    (duplicateNames (tree.nestedRoutes options)).filter (·.name = name) =
      reportsOn name (((tree.nestedRoutes options).postorder.filter (·.name = some name)).map
        NestedRoute.file) := by
  have order := ((Forest.postorder_perm _).map NestedRoute.file).trans
    (preorder_nestedRoutes tree options)
  have distinct := (order.nodup_iff.mpr coherent.nodup_flatRoutes).sublist
    (sublist_map_snd_takenNames _)
  exact (@filter_duplicatesAmong [] _ [] distinct name).trans
    (congrArg (reportsOn name) (claimants_takenNames name _))

/-- A route bears the name that all its segments give it, unless a route right below it has an empty
path. -/
theorem exists_name_of_mem_nodes {node : NestedRoute × Forest NestedRoute}
    (listed : node ∈ (tree.nestedRoutes options).nodes) :
    ∃ flat ∈ tree.flatRoutes, flat.file.path = node.1.file ∧
      node.1.name = if ∃ child ∈ node.2.roots, child.path = [] then none
        else some (options.routeName flat.rawName) := by
  rcases exists_finish_of_mem_nodes listed with ⟨draft, inNest, nested, made⟩
  have placed := List.mem_map_of_mem (f := Draft.route) inNest
  refine ⟨draft.route, (preorder_draftsOf _).mem_iff.mp placed, made ▸ rfl, ?_⟩
  rw [made, ← name_of_mem_draftsOf inNest]
  simp [Draft.finish]

end RouteTree

/-- In routes that are computed afresh, a route bears the name that the naming function gives to the
names of all its segments, unless a route right below it has an empty path.  Each name that several
routes bear is reported, if reports are asked for, once: the second of them, in the order that has
every route after those below it, against the first. -/
theorem RouteTable.names_of_reachable {table : RouteTable} (reachable : table.Reachable)
    (options : NestedOptions) :
    (∀ node ∈ (table.tree.nestedAnswer options).routes.nodes,
      ∃ flat ∈ table.tree.flatRoutes, flat.file.path = node.1.file ∧
        node.1.name = if ∃ child ∈ node.2.roots, child.path = [] then none
          else some (options.routeName flat.rawName)) ∧
      ∀ name, (table.tree.nestedAnswer options).duplicates.filter (·.name = name) =
        if options.reports then
          reportsOn name (((table.tree.nestedAnswer options).routes.postorder.filter
            (·.name = some name)).map NestedRoute.file)
        else [] := by
  refine ⟨fun node => RouteTree.exists_name_of_mem_nodes, fun name => ?_⟩
  rw [RouteTree.nestedAnswer]
  dsimp only
  split
  · exact reachable.coherent.filter_duplicateNames name
  · rfl

/-- Of five routes two leave the name to a route below, and the three others bear it. -/
theorem RouteTable.names_below_empty_paths :
    let names := ["a-b.vue", "a/b.vue", "(g)/a/b.vue", "parents.vue", "parents/index.vue"]
    let inputs : List PageInput := names.map fun name => .file name.toList 0
    let tree := (RouteTree.build inputs {}).toOption.getD .empty
    let options : NestedOptions := { nameOf := some fun _ => ['x'], reports := true }
    let answer := tree.nestedAnswer options
    (answer.routes.postorder.filter (·.name = some ['x'])).map NestedRoute.file =
        ["a-b.vue".toList, "parents/index.vue".toList, "(g)/a/b.vue".toList] ∧
      answer.duplicates.filter (·.name = ['x']) =
        [⟨['x'], "parents/index.vue".toList, "a-b.vue".toList⟩] ∧
      ∃ node ∈ answer.routes.nodes, node.1.name = none ∧ ∃ flat ∈ tree.flatRoutes,
        flat.file.path = node.1.file ∧
          node.1.name = if ∃ child ∈ node.2.roots, child.path = [] then none
            else some (options.routeName flat.rawName) := by
  intro names inputs tree options answer
  have built : RouteTree.build inputs {} = .ok tree := by decide +kernel
  have inOrder : tree.flatRoutes.mergeSort FlatRoute.precedes = tree.flatRoutes :=
    List.mergeSort_of_pairwise (by decide +kernel)
  have routes : answer.routes = finishDrafts options false
      ((tree.flatRoutes.foldl place .nil).sort Draft.precedes) := by
    rw [← inOrder]
    rfl
  have bearers : (answer.routes.postorder.filter (·.name = some ['x'])).map NestedRoute.file =
      ["a-b.vue".toList, "parents/index.vue".toList, "(g)/a/b.vue".toList] := by
    rw [routes]
    decide +kernel
  have nameless : ∃ node ∈ answer.routes.nodes, node.1.name = none := by
    rw [routes]
    decide +kernel
  rcases RouteTable.names_of_reachable (.build built) options with ⟨named, reported⟩
  rcases nameless with ⟨node, isNode, noName⟩
  refine ⟨bearers, (reported ['x']).trans ?_, node, isNode, noName, named node isNode⟩
  rw [if_pos rfl]
  exact congrArg (reportsOn ['x']) bearers

end FileRoutes
