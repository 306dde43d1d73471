import FileRoutes.Proofs.NestedRoute.PlacedPages

/-!
# A route is nested in the open pages that it goes on from

A catch-all in the middle of a path is spelled in one way and at its end in another.  The path that
a route looks for is spelled as at the end, but a draft keeps the path that it was placed with.  So
a page below a folder with a catch-all takes no other route in, unless the folder is a page itself:
then the catch-all comes last in the path of the folder's page, and what stands below that page has
the rest of the path only.
-/

namespace FileRoutes

variable {extension : Text} {pages : List (PagePath × Int)}

/-- In the nested routes of pages without groups every page has one route.  It is a descendant of
the route of another page that its own goes on from if and only if this page is the first of those
that look the same, and every part of its segments that ends in a catch-all and does not take them
all looks like one of the pages. -/
theorem isAncestor_iff_isFirst_and_isOpen
    (ungrouped : ∀ page ∈ pages, page.1.IsUngrouped extension)
    (distinct : (pages.map (·.1.segments)).Nodup) (strategy : DuplicateStrategy)
    (options : NestedOptions) :
    ∃ tree, RouteTree.build (pages.map fun page => .file page.1.file page.2)
        { duplicates := strategy } = .ok tree ∧
      ((tree.nestedRoutes options).preorder.map NestedRoute.file).Perm (pages.map (·.1.file)) ∧
      ∀ upper ∈ pages, ∀ lower ∈ pages, upper.1.IsAbove lower.1 →
        ∀ above route, above ++ [route] ∈ (tree.nestedRoutes options).trails →
          route.file = lower.1.file →
            ((∃ ancestor ∈ above, ancestor.file = upper.1.file) ↔
              upper.1.IsFirst pages ∧ IsOpen (rowsOfPages pages) upper.1.row) := by
  rcases exists_build ungrouped distinct strategy with ⟨tree, built, serves⟩
  refine ⟨tree, built, ?_, ?_⟩
  · rw [RouteTree.nestedRoutes, preorder_finishDrafts]
    exact serves.preorder_perm
  · intro upper isUpper lower isLower isAbove above route listed file
    rcases exists_trail_of_mem_nestedRoutes listed with ⟨drafts, draft, inNest, files, lastFile⟩
    have isRoute := serves.route_mem inNest (List.mem_append_right _ (List.mem_singleton_self _))
    have same := serves.file_eq_of_path isLower isRoute (lastFile.trans file)
    rw [← serves.exists_above_iff inNest isUpper isLower isAbove same]
    have named : upper.1.file ∈ above.map NestedRoute.file ↔
        upper.1.file ∈ drafts.map (·.route.file.path) := by rw [files]
    rw [List.mem_map, List.mem_map] at named
    exact named

/-- The folder with the catch-all is a page, and the one further down is not. -/
theorem isAncestor_below_catchall_page :
    ∃ tree, RouteTree.build [.file "x/[...d]/e/f.vue".toList 0, .file "[...a]/b/c.vue".toList 0,
        .file "[...a].vue".toList 0, .file "x/[...d]/e.vue".toList 0,
        .file "[...a]/b.vue".toList 0] { duplicates := .error } = .ok tree ∧
      (∃ above route, above ++ [route] ∈ (tree.nestedRoutes {}).trails ∧
        route.file = "[...a]/b/c.vue".toList ∧
        ∃ ancestor ∈ above, ancestor.file = "[...a]/b.vue".toList) ∧
      ∃ above route, above ++ [route] ∈ (tree.nestedRoutes {}).trails ∧
        route.file = "x/[...d]/e/f.vue".toList ∧
        ¬∃ ancestor ∈ above, ancestor.file = "x/[...d]/e.vue".toList := by
  let upper : PagePath × Int :=
    (⟨"[...a]/b.vue".toList, [[.parameter .catchall ['a']], [.literal ['b']]], none⟩, 0)
  let lower : PagePath × Int :=
    (⟨"[...a]/b/c.vue".toList, [[.parameter .catchall ['a']], [.literal ['b']],
      [.literal ['c']]], none⟩, 0)
  let closed : PagePath × Int :=
    (⟨"x/[...d]/e.vue".toList, [[.literal ['x']], [.parameter .catchall ['d']],
      [.literal ['e']]], none⟩, 0)
  let stray : PagePath × Int :=
    (⟨"x/[...d]/e/f.vue".toList, [[.literal ['x']], [.parameter .catchall ['d']],
      [.literal ['e']], [.literal ['f']]], none⟩, 0)
  let folder : PagePath × Int :=
    (⟨"[...a].vue".toList, [[.parameter .catchall ['a']]], none⟩, 0)
  let pages := [stray, lower, folder, closed, upper]
  have letters : ['v', 'u', 'e'].all Text.isWordChar = true := by decide +kernel
  have word : Text.IsWord ['v', 'u', 'e'] := ⟨by decide, List.all_eq_true.mp letters⟩
  let stem (page : PagePath) : Text := (Text.before? ".vue".toList page.file).getD []
  have read : ∀ page ∈ pages, page.1.file = Text.slashed (stem page.1).pieces ++ ".vue".toList ∧
      ParseOptions.parse {} page.1.file = .ok page.1 := by decide +kernel
  have shape : ∀ page ∈ pages,
      (∀ segment ∈ page.1.segments, ∀ token ∈ segment, token.isGroup = false) ∧
        Segment.index ∉ page.1.segments.dropLast := by decide +kernel
  have ungrouped : ∀ page ∈ pages, page.1.IsUngrouped ['v', 'u', 'e'] := by
    intro page listed
    exact .of_pieces word (read page listed).1 (read page listed).2 (shape page listed).1
      (shape page listed).2
  have distinct : (pages.map (·.1.segments)).Nodup := by decide +kernel
  rcases isAncestor_iff_isFirst_and_isOpen ungrouped distinct .error {} with
    ⟨tree, built, order, ancestors⟩
  have exists_trail {name : Text} (listed : name ∈ pages.map (·.1.file)) :
      ∃ above route, above ++ [route] ∈ (tree.nestedRoutes {}).trails ∧ route.file = name := by
    rcases List.mem_map.mp (order.mem_iff.mpr listed) with ⟨route, isRoute, file⟩
    rcases Forest.exists_trail_of_mem_preorder isRoute with ⟨above, isTrail⟩
    exact ⟨above, route, isTrail, file⟩
  have isUpper : upper ∈ pages := by decide +kernel
  have isLower : lower ∈ pages := by decide +kernel
  have isClosed : closed ∈ pages := by decide +kernel
  have isStray : stray ∈ pages := by decide +kernel
  refine ⟨tree, built, ?_, ?_⟩
  · rcases exists_trail (List.mem_map_of_mem isLower) with ⟨above, route, listed, file⟩
    have nested := ancestors upper isUpper lower isLower (by decide) above route listed file
    exact ⟨above, route, listed, file, nested.mpr (by decide +kernel)⟩
  · rcases exists_trail (List.mem_map_of_mem isStray) with ⟨above, route, listed, file⟩
    have nested := ancestors closed isClosed stray isStray (by decide) above route listed file
    exact ⟨above, route, listed, file, mt nested.mp (by decide +kernel)⟩

/-- A folder with a catch-all that is no page keeps a route from its parent. -/
theorem not_isAncestor_of_inner_catchall :
    ¬∀ (extension : Text) (pages : List (PagePath × Int)),
      (∀ page ∈ pages, page.1.IsUngrouped extension) → (pages.map (·.1.segments)).Nodup →
      ∀ tree, RouteTree.build (pages.map fun page => .file page.1.file page.2) {} = .ok tree →
      ∀ upper ∈ pages, ∀ lower ∈ pages, upper.1.IsAbove lower.1 →
        (∃ segment ∈ upper.1.segments.dropLast, segment.hasCatchall = true) →
        ∀ above route, above ++ [route] ∈ (tree.nestedRoutes {}).trails →
          route.file = lower.1.file → ∃ ancestor ∈ above, ancestor.file = upper.1.file := by
  intro nested
  let upper : PagePath × Int :=
    (⟨"[...a]/b.vue".toList, [[.parameter .catchall ['a']], [.literal ['b']]], none⟩, 0)
  let lower : PagePath × Int :=
    (⟨"[...a]/b/c.vue".toList, [[.parameter .catchall ['a']], [.literal ['b']],
      [.literal ['c']]], none⟩, 0)
  let tree := (RouteTree.build [.file upper.1.file 0, .file lower.1.file 0] {}).toOption.getD .empty
  have built : RouteTree.build [.file upper.1.file 0, .file lower.1.file 0] {} = .ok tree := by
    decide +kernel
  have letters : ['v', 'u', 'e'].all Text.isWordChar = true := by decide +kernel
  have word : Text.IsWord ['v', 'u', 'e'] := ⟨by decide, List.all_eq_true.mp letters⟩
  have ungrouped : ∀ page ∈ [upper, lower], page.1.IsUngrouped ['v', 'u', 'e'] := by
    intro page listed
    rcases List.mem_cons.mp listed with rfl | listed
    · exact @PagePath.IsUngrouped.of_pieces _ _ "[...a]/b".toList word (by decide +kernel)
        (by decide +kernel) (by decide) (by decide)
    · rw [List.mem_singleton.mp listed]
      exact @PagePath.IsUngrouped.of_pieces _ _ "[...a]/b/c".toList word (by decide +kernel)
        (by decide +kernel) (by decide) (by decide)
  have inOrder : tree.flatRoutes.mergeSort FlatRoute.precedes = tree.flatRoutes :=
    List.mergeSort_of_pairwise (by decide +kernel)
  have trails : [lower.1.file] ∈ (tree.nestedRoutes {}).trails.map (List.map NestedRoute.file) := by
    rw [RouteTree.nestedRoutes, draftsOf, inOrder]
    decide +kernel
  rcases List.mem_map.mp trails with ⟨trail, listed, files⟩
  rcases List.map_eq_singleton_iff.mp files with ⟨route, rfl, file⟩
  rcases nested _ [upper, lower] ungrouped (by decide) tree built upper List.mem_cons_self lower
    (List.mem_cons_of_mem _ List.mem_cons_self) (by decide) (by decide) [] route listed file with
    ⟨ancestor, isAbove, -⟩
  cases isAbove

end FileRoutes
