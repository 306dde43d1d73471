import FileRoutes.Proofs.NestedRoute.PlacedPages
import FileRoutes.Proofs.PagePath.Plain

/-!
# A route is nested in the nearest page above it

One page stands above another if the segments of the other one go on from its own.  Among plain
pages the parent of a route belongs to the page that stands above its own and has the most segments,
and a route stands at the top if and only if no page stands above its own.  The order in which the
pages were added plays no part.
-/

namespace FileRoutes

namespace PagePath

/-- Among some pages, one stands above another and none that does so has more segments. -/
structure IsNearest (pages : List (PagePath × Int)) (upper lower : PagePath) : Prop where
  isAbove : upper.IsAbove lower
  longest : ∀ other ∈ pages, other.1.IsAbove lower →
    other.1.segments.length ≤ upper.segments.length

theorem isNearest_iff {pages : List (PagePath × Int)} {upper lower : PagePath} :
    upper.IsNearest pages lower ↔ upper.IsAbove lower ∧ ∀ other ∈ pages, other.1.IsAbove lower →
      other.1.segments.length ≤ upper.segments.length :=
  ⟨fun nearest => ⟨nearest.isAbove, nearest.longest⟩, fun both => ⟨both.1, both.2⟩⟩

instance (pages : List (PagePath × Int)) (upper lower : PagePath) :
    Decidable (upper.IsNearest pages lower) :=
  decidable_of_iff' _ isNearest_iff

end PagePath

variable {extension : Text} {pages : List (PagePath × Int)} {routes : List FlatRoute}

/-! ## Plain pages in their nest -/

namespace Serves

variable {above : List Draft} {draft : Draft} {page other : PagePath × Int}

/-- Plain pages with different segments do not look the same. -/
theorem nodup_rowsOf (serves : Serves extension pages routes)
    (plain : ∀ page ∈ pages, page.1.IsPlain extension) :
    (rowsOf (routes.mergeSort FlatRoute.precedes)).Nodup := by
  have sorted := List.mergeSort_perm routes FlatRoute.precedes
  apply (serves.nodup_paths.of_map.perm sorted.symm).map_on
  intro route listed other listedToo sameRow
  have isRoute := sorted.mem_iff.mp listed
  have isOther := sorted.mem_iff.mp listedToo
  rcases serves.exists_page isRoute with ⟨page, isPage, file⟩
  rcases serves.exists_page isOther with ⟨otherPage, isOtherPage, otherFile⟩
  rw [serves.row_eq isPage file, serves.row_eq isOtherPage otherFile] at sameRow
  have segments := ((plain page isPage).row_eq_iff (plain otherPage isOtherPage)).mp sameRow
  rw [List.inj_on_of_nodup_map serves.distinct isPage isOtherPage segments] at file
  exact List.inj_on_of_nodup_map serves.nodup_paths isRoute isOther
    (congrArg PageFile.path (file.trans otherFile.symm))

/-- The pages above another one are those of the drafts above its own. -/
theorem isAbove_iff (serves : Serves extension pages routes)
    (plain : ∀ page ∈ pages, page.1.IsPlain extension)
    (listed : above ++ [draft] ∈ (draftsOf routes).trails) (isPage : page ∈ pages)
    (same : draft.route.file = addedFile page) (isOther : other ∈ pages) :
    other.1.IsAbove page.1 ↔ other.1.row ∈ above.map Draft.row := by
  have isPlain := plain other isOther
  have isFirst := isFirst_of_nodup (serves.nodup_rowsOf plain)
    (serves.nest.route_mem (Nest.draft_mem listed))
  have row : draft.row = page.1.row := serves.row_eq isPage same
  have known : other.1.row ∈ rowsOf (routes.mergeSort FlatRoute.precedes) :=
    (serves.mem_rowsOf_iff _).mpr (List.mem_map_of_mem (f := fun page => page.1.row) isOther)
  rw [serves.nest.mem_above_iff listed isFirst, row, isPlain.row_prefix_iff (plain page isPage),
    Ne, isPlain.row_eq_iff (plain page isPage), PagePath.IsAbove]
  simp [known, isPlain.isOpen_row]

theorem eq_nil_iff (serves : Serves extension pages routes)
    (plain : ∀ page ∈ pages, page.1.IsPlain extension)
    (listed : above ++ [draft] ∈ (draftsOf routes).trails) (isPage : page ∈ pages)
    (same : draft.route.file = addedFile page) :
    above = [] ↔ ∀ other ∈ pages, ¬other.1.IsAbove page.1 := by
  constructor
  · rintro rfl other isOther upper
    exact List.not_mem_nil ((serves.isAbove_iff plain listed isPage same isOther).mp upper)
  · intro noneAbove
    by_contra nonempty
    rcases List.exists_mem_of_ne_nil _ nonempty with ⟨upper, isUpper⟩
    rcases serves.exists_page_of_draft listed (List.mem_append_left _ isUpper) with
      ⟨other, isOther, file⟩
    have isAbove := serves.isAbove_iff plain listed isPage same isOther
    have row : upper.row = other.1.row := serves.row_eq isOther file
    exact noneAbove other isOther (isAbove.mpr (row ▸ List.mem_map_of_mem isUpper))

theorem exists_isNearest (serves : Serves extension pages routes)
    (plain : ∀ page ∈ pages, page.1.IsPlain extension) {parent : Draft}
    (listed : above ++ [parent] ++ [draft] ∈ (draftsOf routes).trails) (isPage : page ∈ pages)
    (same : draft.route.file = addedFile page) :
    ∃ other ∈ pages, other.1.file = parent.route.file.path ∧ other.1.IsNearest pages page.1 := by
  have last : parent ∈ above ++ [parent] := List.mem_append_right _ (List.mem_singleton_self _)
  rcases serves.exists_page_of_draft listed (List.mem_append_left _ last) with
    ⟨other, isOther, file⟩
  have row : parent.row = other.1.row := serves.row_eq isOther file
  have isAbove := serves.isAbove_iff plain listed isPage same isOther
  refine ⟨other, isOther, (congrArg PageFile.path file).symm,
    isAbove.mpr (row ▸ List.mem_map_of_mem last), ?_⟩
  intro third isThird upper
  have inTrail := (serves.isAbove_iff plain listed isPage same isThird).mp upper
  have shorter := serves.nest.length_le listed inTrail
  rw [row] at shorter
  simpa [PagePath.row] using shorter

end Serves

/-! ## Parents -/

/-- In the nested routes of plain pages every page has one route.  The route stands at the top if
and only if no page is above its own, and its parent belongs to the nearest page above. -/
theorem parent_isNearest (plain : ∀ page ∈ pages, page.1.IsPlain extension)
    (distinct : (pages.map (·.1.segments)).Nodup) (strategy : DuplicateStrategy)
    (options : NestedOptions) :
    ∃ tree, RouteTree.build (pages.map fun page => .file page.1.file page.2)
        { duplicates := strategy } = .ok tree ∧
      ((tree.nestedRoutes options).preorder.map NestedRoute.file).Perm (pages.map (·.1.file)) ∧
      ∀ above route, above ++ [route] ∈ (tree.nestedRoutes options).trails →
        ∃ page ∈ pages, page.1.file = route.file ∧
          (above = [] ↔ ∀ other ∈ pages, ¬other.1.IsAbove page.1) ∧
          ∀ parent, above.getLast? = some parent →
            ∃ other ∈ pages, other.1.file = parent.file ∧ other.1.IsNearest pages page.1 := by
  have ungrouped : ∀ page ∈ pages, page.1.IsUngrouped extension :=
    fun page listed => (plain page listed).isUngrouped
  rcases exists_build ungrouped distinct strategy with ⟨tree, built, serves⟩
  refine ⟨tree, built, ?_, ?_⟩
  · rw [RouteTree.nestedRoutes, preorder_finishDrafts]
    exact serves.preorder_perm
  · intro above route listed
    -- Finishing and sorting keep the trails, so the trail is looked up in the nest.
    rcases exists_trail_of_mem_nestedRoutes listed with ⟨drafts, draft, inNest, files, lastFile⟩
    rcases serves.exists_page_of_draft inNest
      (List.mem_append_right _ (List.mem_singleton_self _)) with ⟨page, isPage, file⟩
    have name : draft.route.file.path = page.1.file := congrArg PageFile.path file
    refine ⟨page, isPage, name.symm.trans lastFile, ?_, ?_⟩
    · rw [← serves.eq_nil_iff plain inNest isPage file, ← List.map_eq_nil_iff, ← files,
        List.map_eq_nil_iff]
    · intro parent isParent
      have ends := congrArg List.getLast? files
      rw [List.getLast?_map, List.getLast?_map, isParent] at ends
      rcases Option.map_eq_some_iff.mp ends with ⟨upper, isUpper, upperFile⟩
      rcases List.getLast?_eq_some_iff.mp isUpper with ⟨further, rfl⟩
      rcases serves.exists_isNearest plain inNest isPage file with
        ⟨other, isOther, otherName, nearest⟩
      exact ⟨other, isOther, otherName.trans upperFile, nearest⟩

/-- A page without a parent in its own folder goes to the page of a dynamic folder further up. -/
theorem parent_of_page_in_dynamic_folder :
    ∃ tree, RouteTree.build [.file "a/[b]/c/d.vue".toList 0, .file "a.vue".toList 0,
        .file "a/index.vue".toList 0, .file "a/[b].vue".toList 0] { duplicates := .error } =
          .ok tree ∧
      ∃ above parent route, above ++ [parent] ++ [route] ∈ (tree.nestedRoutes {}).trails ∧
        route.file = "a/[b]/c/d.vue".toList ∧ parent.file = "a/[b].vue".toList := by
  let pages : List (PagePath × Int) :=
    [(⟨"a/[b]/c/d.vue".toList, [[.literal ['a']], [.parameter .dynamic ['b']], [.literal ['c']],
        [.literal ['d']]], none⟩, 0),
      (⟨"a.vue".toList, [[.literal ['a']]], none⟩, 0),
      (⟨"a/index.vue".toList, [[.literal ['a']], Segment.index], none⟩, 0),
      (⟨"a/[b].vue".toList, [[.literal ['a']], [.parameter .dynamic ['b']]], none⟩, 0)]
  have letters : ['v', 'u', 'e'].all Text.isWordChar = true := by decide +kernel
  have word : Text.IsWord ['v', 'u', 'e'] := ⟨by decide, List.all_eq_true.mp letters⟩
  have read : ∀ page ∈ pages, ParseOptions.parse {} page.1.file = .ok page.1 := by decide +kernel
  have simple : ∀ page ∈ pages, ∀ segment ∈ page.1.segments, ∀ token ∈ segment,
      token.isSimple = true := by decide +kernel
  have indexLast : ∀ page ∈ pages, Segment.index ∉ page.1.segments.dropLast := by decide +kernel
  let texts (page : PagePath) : List Text :=
    Text.pieces ((Text.before? ".vue".toList page.file).getD [])
  have named : ∀ page ∈ pages, (∀ text ∈ texts page.1, text ≠ [] ∧ '/' ∉ text) ∧
      page.1.file = Text.slashed (texts page.1) ++ ['.', 'v', 'u', 'e'] := by
    decide +kernel
  have plain : ∀ page ∈ pages, page.1.IsPlain ['v', 'u', 'e'] := by
    intro page listed
    exact ⟨word, ⟨texts page.1, named page listed⟩, read page listed, simple page listed,
      indexLast page listed⟩
  have distinct : (pages.map (·.1.segments)).Nodup := by decide +kernel
  rcases parent_isNearest plain distinct .error {} with ⟨tree, built, order, parents⟩
  refine ⟨tree, built, ?_⟩
  have isFile : "a/[b]/c/d.vue".toList ∈ (tree.nestedRoutes {}).preorder.map NestedRoute.file :=
    order.mem_iff.mpr (by decide +kernel)
  rcases List.mem_map.mp isFile with ⟨route, isRoute, name⟩
  rcases Forest.exists_trail_of_mem_preorder isRoute with ⟨upper, isTrail⟩
  rcases parents upper route isTrail with ⟨page, isPage, pageName, top, nearest⟩
  have nested : ∀ page ∈ pages, page.1.file = "a/[b]/c/d.vue".toList →
      (∃ other ∈ pages, other.1.IsAbove page.1) ∧
        ∀ other ∈ pages, other.1.IsNearest pages page.1 → other.1.file = "a/[b].vue".toList := by
    decide +kernel
  rcases nested page isPage (pageName.trans name) with ⟨⟨other, isOther, isAbove⟩, only⟩
  rcases List.eq_nil_or_concat' upper with empty | ⟨above, parent, rfl⟩
  · exact absurd isAbove (top.mp empty other isOther)
  · rcases nearest parent List.getLast?_concat with ⟨nearestPage, isParent, parentName, isNearest⟩
    exact ⟨above, parent, route, isTrail, name, parentName ▸ only nearestPage isParent isNearest⟩

end FileRoutes
