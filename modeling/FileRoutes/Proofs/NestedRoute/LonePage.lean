import FileRoutes.Proofs.NestedRoute.JoinedPath
import FileRoutes.Proofs.RouteTree.Seclusion

/-!
# The nested route of a page that is alone

With no other page about, a route goes down into nothing and its path is gathered along all its
segments.  It is the path that the segments have on their own, unless the first of them is an index
page and others follow: the index page has left a slash when the next segment brings its own.
-/

namespace FileRoutes

open RoutePath

/-- Whether an index page comes first and something else follows. -/
def RoutePath.IsBelowIndex (segments : List Segment) : Prop :=
  segments.head? = some .index ∧ ∃ segment ∈ segments, segment ≠ .index

instance (segments : List Segment) : Decidable (IsBelowIndex segments) :=
  inferInstanceAs (Decidable (_ ∧ _))

/-! ## Passing segments -/

def Cursor.passAll (cursor : Cursor) : List Segment → Cursor
  | [] => cursor
  | segment :: later => (cursor.pass segment (goesOn later)).passAll later

/-- Where no draft is, a route passes all its segments. -/
theorem placeFrom_nil (route : FlatRoute) (cursor : Cursor) (segments : List Segment) :
    placeFrom route cursor segments .nil =
      .tree ⟨(cursor.passAll segments).name, (cursor.passAll segments).path,
        (cursor.passAll segments).scores, route⟩ .nil := by
  induction segments generalizing cursor with
  | nil => rfl
  | cons segment later inductionHypothesis => exact inductionHypothesis _

section

variable {segments : List Segment}
  (named : ∀ segment ∈ segments, segment.OfName ∧ segment.isGroup = false)

include named

theorem RoutePath.parts_eq_nil_iff :
    parts segments = [] ↔ ∀ segment ∈ segments, segment = .index := by
  induction segments with
  | nil => simp [parts]
  | cons segment later inductionHypothesis =>
      rcases List.forall_mem_cons.mp named with ⟨⟨ofName, visible⟩, others⟩
      rw [List.forall_mem_cons]
      by_cases isIndex : segment = .index
      · subst isIndex
        rw [parts_index, inductionHypothesis others]
        exact (and_iff_right rfl).symm
      · rw [parts_cons ofName visible isIndex]
        exact iff_of_false (List.cons_ne_nil _ _) fun both => isIndex both.1

/-- What is passed once a path has begun adds its parts. -/
theorem Cursor.path_passAll {cursor : Cursor} (begun : cursor.path ≠ []) :
    (cursor.passAll segments).path = cursor.path ++ (parts segments).flatMap ('/' :: ·) := by
  induction segments generalizing cursor with
  | nil => simp [passAll, parts]
  | cons segment later inductionHypothesis =>
      rcases List.forall_mem_cons.mp named with ⟨⟨ofName, visible⟩, others⟩
      rw [passAll]
      by_cases isIndex : segment = .index
      · subst isIndex
        have kept : (cursor.pass .index (goesOn later)).path = cursor.path := by
          rw [cursor.path_pass_index, if_neg begun]
        rw [inductionHypothesis others (kept.symm ▸ begun), kept, parts_index]
      · have passed := cursor.path_pass isIndex (goesOn later)
        have goesOn : (cursor.pass segment (goesOn later)).path ≠ [] := by simp [passed]
        rw [inductionHypothesis others goesOn, passed, parts_cons ofName visible isIndex,
          List.flatMap_cons, List.append_assoc]

/-- The path of all segments has one slash too many below an index page. -/
theorem Cursor.path_passAll_start (nonempty : segments ≠ []) :
    (({} : Cursor).passAll segments).path =
      if IsBelowIndex segments then '/' :: ofSegments segments else ofSegments segments := by
  rcases List.exists_cons_of_ne_nil nonempty with ⟨segment, later, rfl⟩
  rcases List.forall_mem_cons.mp named with ⟨⟨ofName, visible⟩, others⟩
  rw [passAll]
  by_cases isIndex : segment = .index
  · subst isIndex
    have whole : IsBelowIndex (.index :: later) ↔ parts later ≠ [] := by
      rw [ne_eq, parts_eq_nil_iff others, IsBelowIndex]
      simp
    rw [path_passAll others (List.cons_ne_nil _ _), Cursor.path_pass_index, if_pos rfl, ofSegments,
      parts_index]
    cases isPart : parts later with
    | nil =>
        rw [if_neg (mt whole.mp (not_not_intro isPart))]
        rfl
    | cons first more =>
        have below : IsBelowIndex (.index :: later) :=
          whole.mpr (isPart ▸ List.cons_ne_nil _ _)
        rw [if_pos below, List.flatMap_cons, ← Text.flatMap_slash_eq]
        rfl
  · have notBelow : ¬IsBelowIndex (segment :: later) := fun below =>
      isIndex (Option.some.inj below.1)
    have passed := ({} : Cursor).path_pass isIndex (goesOn later)
    rw [path_passAll others (passed ▸ List.cons_ne_nil _ _), passed, if_neg notBelow, ofSegments,
      parts_cons ofName visible isIndex, ← Text.flatMap_slash_eq]
    rfl

end

/-! ## A tree with one page -/

namespace RouteTree

variable {tree : RouteTree}

/-- A file that is added to the empty tree leads the only flat route. -/
theorem exists_build_of_lone_page {options : BuildOptions} {name : Text} {page : PagePath}
    (read : options.parse.parse name = .ok page) (priority : Int) :
    ∃ tree route, build [.file name priority] options = .ok tree ∧ tree.flatRoutes = [route] ∧
      route.file = .ofPagePath page priority := by
  rcases ParseOptions.file_of_parse read with rfl
  have alone : Secluded ([] ++ [(page, priority)].map fun lone => .ofPagePath lone.1 lone.2) :=
    ⟨List.nodup_singleton _, List.nodup_singleton _⟩
  have readAll : ∀ lone ∈ [(page, priority)], options.parse.parse lone.1.file = .ok lone.1 :=
    List.forall_mem_singleton.mpr read
  rcases holds_empty.addAll readAll alone with ⟨tree, built, holds⟩
  have files := List.perm_singleton.mp (holds.flatRoutes_perm alone)
  rcases List.map_eq_singleton_iff.mp files with ⟨route, only, isFile⟩
  exact ⟨tree, route, built, only, isFile⟩

theorem nestedRoutes_of_flatRoutes_eq {route : FlatRoute} (only : tree.flatRoutes = [route])
    (ofName : route.file.OfName) (options : NestedOptions) :
    ∃ nested, tree.nestedRoutes options = .tree nested .nil ∧ nested.file = route.file.path ∧
      nested.path = if IsBelowIndex route.segments then '/' :: ofSegments route.segments
        else ofSegments route.segments := by
  have named : ∀ segment ∈ route.segments, segment.OfName ∧ segment.isGroup = false :=
    fun _ listed => ofName.of_mem_position listed
  let placed := ({} : Cursor).passAll route.segments
  refine ⟨Draft.finish ⟨placed.name, placed.path, placed.scores, route⟩ options false .nil, ?_, rfl,
    Cursor.path_passAll_start named (positionOf_ne_nil _)⟩
  rw [nestedRoutes, draftsOf, only, List.mergeSort_singleton, List.foldl_cons, List.foldl_nil,
    place, placeFrom_nil]
  rfl

/-- The nested routes of a tree with one page are one route without children.  Its path is that of
the segments of the name that are not groups, or of the index page if there are no others, if and
only if these do not go on from an index page; if they do, it has one slash too many. -/
theorem nestedRoutes_of_lone_page {building : BuildOptions} {name : Text} {page : PagePath}
    (read : building.parse.parse name = .ok page) (priority : Int) (options : NestedOptions) :
    ∃ tree route, build [.file name priority] building = .ok tree ∧
      tree.nestedRoutes options = .tree route .nil ∧ route.file = name ∧
      (route.path = ofSegments (positionOf page.segments) ↔
        ¬IsBelowIndex (positionOf page.segments)) ∧
      (IsBelowIndex (positionOf page.segments) →
        route.path = '/' :: ofSegments (positionOf page.segments)) := by
  rcases exists_build_of_lone_page read priority with ⟨tree, flat, built, only, isFile⟩
  have sameName : flat.file.path = name := by
    rw [isFile]
    exact ParseOptions.file_of_parse read
  have ofName : flat.file.OfName := ⟨building.parse, page, priority, sameName ▸ read, isFile⟩
  rcases nestedRoutes_of_flatRoutes_eq only ofName options with ⟨route, nested, file, path⟩
  have position : flat.segments = positionOf page.segments := by
    rw [FlatRoute.segments, isFile]
    rfl
  rw [position] at path
  refine ⟨tree, route, built, nested, file.trans sameName, ?_, ?_⟩
  · rw [path]
    split
    · next below => exact iff_of_false (List.cons_ne_self _ _) (not_not_intro below)
    · next other => exact iff_of_true rfl other
  · intro below
    rw [path, if_pos below]

/-- An index page in between leaves no trace. -/
theorem nestedRoutes_of_lone_page_around_index :
    ∃ tree route, build [.file "a/index/b.vue".toList 0] {} = .ok tree ∧
      tree.nestedRoutes {} = .tree route .nil ∧ route.path = "/a/b".toList := by
  have read : ParseOptions.parse {} "a/index/b.vue".toList =
      .ok ⟨"a/index/b.vue".toList, [[.literal ['a']], .index, [.literal ['b']]], none⟩ := by
    decide +kernel
  rcases @nestedRoutes_of_lone_page {} _ _ read 0 {} with
    ⟨tree, route, built, nested, -, agrees, -⟩
  exact ⟨tree, route, built, nested, (agrees.mpr (by decide)).trans (by decide +kernel)⟩

/-- An index page in front leaves a slash. -/
theorem not_path_eq_ofSegments_of_lone_page :
    ¬∀ (name : Text) (page : PagePath) (tree : RouteTree), ParseOptions.parse {} name = .ok page →
      build [.file name 0] {} = .ok tree →
      ∃ route, tree.nestedRoutes {} = .tree route .nil ∧
        route.path = ofSegments (positionOf page.segments) := by
  intro agrees
  let name : Text := "index/a.vue".toList
  let page : PagePath := ⟨name, [.index, [.literal ['a']]], none⟩
  let tree := (build [.file name 0] {}).toOption.getD .empty
  have read : ParseOptions.parse {} name = .ok page := by decide +kernel
  have built : build [.file name 0] {} = .ok tree := by decide +kernel
  have sorted : tree.flatRoutes.mergeSort FlatRoute.precedes = tree.flatRoutes :=
    List.mergeSort_of_pairwise (by decide +kernel)
  have paths : (tree.nestedRoutes {}).preorder.map NestedRoute.path = ["//a".toList] := by
    rw [nestedRoutes, draftsOf, sorted]
    decide +kernel
  rcases agrees name page tree read built with ⟨route, nested, path⟩
  rw [nested] at paths
  have slashed : route.path = "//a".toList := (List.cons.inj paths).1
  rw [slashed] at path
  revert path
  decide +kernel

end RouteTree
end FileRoutes
