import FileRoutes.Proofs.NestedRoute.PlacingOrder
import FileRoutes.Proofs.PagePath.Ungrouped
import FileRoutes.Proofs.RouteTree.Seclusion

/-!
# Pages in their nest

Pages without groups and with different segments are added to the empty tree in any order.  Each has
one draft in the nest of its routes.  The draft of another page that it goes on from stands above
its own if and only if the row of that page is open and no page with the same look comes first.
-/

namespace FileRoutes

namespace PagePath

/-- The segments of one page go on from those of another. -/
def IsAbove (upper lower : PagePath) : Prop :=
  upper.segments <+: lower.segments ∧ upper.segments ≠ lower.segments

instance (upper lower : PagePath) : Decidable (upper.IsAbove lower) :=
  inferInstanceAs (Decidable (_ ∧ _))

/-- Among some pages, none that looks the same has a relative path that comes before. -/
def IsFirst (pages : List (PagePath × Int)) (page : PagePath) : Prop :=
  ∀ other ∈ pages, other.1.row = page.row →
    (comparePaths page.relativePath other.1.relativePath).isLE = true

instance (pages : List (PagePath × Int)) (page : PagePath) : Decidable (page.IsFirst pages) :=
  inferInstanceAs (Decidable (∀ other ∈ pages, _ → _))

end PagePath

/-- What shows of the segments of some pages. -/
def rowsOfPages (pages : List (PagePath × Int)) : List (List Look) :=
  pages.map (·.1.row)

variable {extension : Text} {pages : List (PagePath × Int)} {routes : List FlatRoute}

/-! ## Pages in a tree -/

def addedFile (page : PagePath × Int) : PageFile :=
  .ofPagePath page.1 page.2

theorem secluded_addedFile (ungrouped : ∀ page ∈ pages, page.1.IsUngrouped extension)
    (distinct : (pages.map (·.1.segments)).Nodup) : Secluded (pages.map addedFile) := by
  have same {page other : PagePath × Int} (listed : page ∈ pages) (listedToo : other ∈ pages)
      (segments : page.1.segments = other.1.segments) : page = other :=
    List.inj_on_of_nodup_map distinct listed listedToo segments
  constructor
  · rw [List.map_map]
    apply distinct.of_map.map_on
    intro page listed other listedToo sameFile
    have read := (ungrouped page listed).read
    have sameName : page.1.file = other.1.file := sameFile
    rw [sameName, (ungrouped other listedToo).read] at read
    exact same listed listedToo (congrArg PagePath.segments (Except.ok.inj read).symm)
  · rw [List.map_map]
    apply distinct.of_map.map_on
    intro page listed other listedToo sameHome
    have spelled (page : PagePath × Int) (isUngrouped : page.1.IsUngrouped extension) :
        RouteTree.homeOf (addedFile page) = page.1.segments.map Segment.spelling := by
      rw [RouteTree.homeOf, addedFile, isUngrouped.position_eq]
    rw [Function.comp, Function.comp, spelled page (ungrouped page listed),
      spelled other (ungrouped other listedToo)] at sameHome
    apply same listed listedToo
    apply Segment.eq_of_spellings_eq _ _ sameHome
    · exact fun segment isSegment => ((ungrouped page listed).ofName isSegment).canonical
    · exact fun segment isSegment => ((ungrouped other listedToo).ofName isSegment).canonical

/-- The routes are those of pages with different segments, one for each. -/
structure Serves (extension : Text) (pages : List (PagePath × Int)) (routes : List FlatRoute) :
    Prop where
  ungrouped : ∀ page ∈ pages, page.1.IsUngrouped extension
  distinct : (pages.map (·.1.segments)).Nodup
  files : (routes.map FlatRoute.file).Perm (pages.map addedFile)

/-- Adding such pages to the empty tree gives such routes, whatever is done about duplicates. -/
theorem exists_build (ungrouped : ∀ page ∈ pages, page.1.IsUngrouped extension)
    (distinct : (pages.map (·.1.segments)).Nodup) (strategy : DuplicateStrategy) :
    ∃ tree, RouteTree.build (pages.map fun page => .file page.1.file page.2)
        { duplicates := strategy } = .ok tree ∧
      Serves extension pages tree.flatRoutes := by
  have secluded := secluded_addedFile ungrouped distinct
  have read : ∀ page ∈ pages, ParseOptions.parse {} page.1.file = .ok page.1 :=
    fun page listed => (ungrouped page listed).read
  rcases @RouteTree.Holds.addAll _ [] RouteTree.holds_empty pages { duplicates := strategy } read
    secluded with ⟨tree, built, holds⟩
  exact ⟨tree, built, ungrouped, distinct, holds.flatRoutes_perm secluded⟩

/-! ## Their nest -/

namespace Serves

theorem nodup_paths (serves : Serves extension pages routes) :
    (routes.map (·.file.path)).Nodup := by
  have secluded := secluded_addedFile serves.ungrouped serves.distinct
  have paths := serves.files.map PageFile.path
  rw [List.map_map] at paths
  exact paths.nodup_iff.mpr secluded.paths

theorem segments_eq (serves : Serves extension pages routes) {page : PagePath × Int}
    (listed : page ∈ pages) {route : FlatRoute} (same : route.file = addedFile page) :
    route.segments = page.1.segments := by
  rw [FlatRoute.segments, same, addedFile, (serves.ungrouped page listed).position_eq]

theorem row_eq (serves : Serves extension pages routes) {page : PagePath × Int}
    (listed : page ∈ pages) {route : FlatRoute} (same : route.file = addedFile page) :
    route.row = page.1.row :=
  congrArg (List.map Segment.look) (serves.segments_eq listed same)

theorem exists_page (serves : Serves extension pages routes) {route : FlatRoute}
    (listed : route ∈ routes) : ∃ page ∈ pages, route.file = addedFile page := by
  rcases List.mem_map.mp (serves.files.mem_iff.mp (List.mem_map_of_mem listed)) with
    ⟨page, isPage, same⟩
  exact ⟨page, isPage, same.symm⟩

theorem exists_route (serves : Serves extension pages routes) {page : PagePath × Int}
    (listed : page ∈ pages) : ∃ route ∈ routes, route.file = addedFile page :=
  List.mem_map.mp (serves.files.mem_iff.mpr (List.mem_map_of_mem listed))

theorem file_eq_of_path (serves : Serves extension pages routes) {page : PagePath × Int}
    (listed : page ∈ pages) {route : FlatRoute} (isRoute : route ∈ routes)
    (same : route.file.path = page.1.file) : route.file = addedFile page := by
  rcases serves.exists_route listed with ⟨other, isOther, file⟩
  have path : other.file.path = page.1.file := congrArg PageFile.path file
  rwa [List.inj_on_of_nodup_map serves.nodup_paths isRoute isOther (same.trans path.symm)]

theorem mem_rowsOf_iff (serves : Serves extension pages routes) (row : List Look) :
    row ∈ rowsOf (routes.mergeSort FlatRoute.precedes) ↔ row ∈ rowsOfPages pages := by
  rw [rowsOf, rowsOfPages, List.mem_map, List.mem_map]
  constructor
  · rintro ⟨route, listed, rfl⟩
    rcases serves.exists_page (List.mem_mergeSort.mp listed) with ⟨page, isPage, same⟩
    exact ⟨page, isPage, (serves.row_eq isPage same).symm⟩
  · rintro ⟨page, listed, rfl⟩
    rcases serves.exists_route listed with ⟨route, isRoute, same⟩
    exact ⟨route, List.mem_mergeSort.mpr isRoute, serves.row_eq listed same⟩

theorem nest (serves : Serves extension pages routes) :
    Nest (routes.mergeSort FlatRoute.precedes) (draftsOf routes) := by
  apply nest_draftsOf
  · constructor
    · exact serves.nodup_paths.of_map
    · intro route listed
      rcases serves.exists_page listed with ⟨page, isPage, same⟩
      exact serves.segments_eq isPage same ▸ (serves.ungrouped page isPage).segments
  · intro first isFirst second isSecond begins differs
    rcases serves.exists_page isFirst with ⟨upper, isUpper, upperFile⟩
    rcases serves.exists_page isSecond with ⟨lower, isLower, lowerFile⟩
    rw [serves.row_eq isUpper upperFile, serves.row_eq isLower lowerFile] at begins differs
    rw [upperFile, lowerFile]
    exact (serves.ungrouped upper isUpper).byteLength_lt (serves.ungrouped lower isLower) begins
      differs

theorem isFirst_iff (serves : Serves extension pages routes) {page : PagePath × Int}
    (isPage : page ∈ pages) {route : FlatRoute} (listed : route ∈ routes)
    (same : route.file = addedFile page) :
    IsFirst (routes.mergeSort FlatRoute.precedes) route ↔ page.1.IsFirst pages := by
  rw [isFirst_mergeSort_iff listed]
  · constructor
    · intro earliest other isOther sameRow
      rcases serves.exists_route isOther with ⟨otherRoute, isRoute, otherFile⟩
      have before := earliest otherRoute isRoute
        ((serves.row_eq isOther otherFile).trans (sameRow.trans (serves.row_eq isPage same).symm))
      rwa [FlatRoute.precedes_eq, same, otherFile] at before
    · intro earliest other isOther sameRow
      rcases serves.exists_page isOther with ⟨otherPage, isOtherPage, otherFile⟩
      rw [serves.row_eq isOtherPage otherFile, serves.row_eq isPage same] at sameRow
      rw [FlatRoute.precedes_eq, same, otherFile]
      exact earliest otherPage isOtherPage sameRow
  · intro other isOther sameRow samePath
    rcases serves.exists_page isOther with ⟨otherPage, isOtherPage, otherFile⟩
    rw [serves.row_eq isOtherPage otherFile, serves.row_eq isPage same] at sameRow
    rw [otherFile, same] at samePath
    have segments := (serves.ungrouped otherPage isOtherPage).segments_eq_of_relativePath
      (serves.ungrouped page isPage) sameRow samePath
    rw [List.inj_on_of_nodup_map serves.distinct isOtherPage isPage segments] at otherFile
    exact List.inj_on_of_nodup_map serves.nodup_paths isOther listed
      (congrArg PageFile.path (otherFile.trans same.symm))

variable {above : List Draft} {draft : Draft}

theorem route_mem (serves : Serves extension pages routes) {trail : List Draft}
    (listed : trail ∈ (draftsOf routes).trails) (inTrail : draft ∈ trail) : draft.route ∈ routes :=
  List.mem_mergeSort.mp (serves.nest.route_mem (Forest.mem_preorder_of_mem_trails listed inTrail))

theorem isOpen_iff (serves : Serves extension pages routes) (row : List Look) :
    IsOpen (rowsOf (routes.mergeSort FlatRoute.precedes)) row ↔ IsOpen (rowsOfPages pages) row :=
  forall₂_congr fun front _ => serves.mem_rowsOf_iff front

/-- The draft of a page stands above that of another one that goes on from it, if and only if the
page is the first of those that look the same and its row is open. -/
theorem exists_above_iff (serves : Serves extension pages routes)
    (listed : above ++ [draft] ∈ (draftsOf routes).trails) {upper lower : PagePath × Int}
    (isUpper : upper ∈ pages) (isLower : lower ∈ pages)
    (isAbove : upper.1.IsAbove lower.1) (same : draft.route.file = addedFile lower) :
    (∃ other ∈ above, other.route.file.path = upper.1.file) ↔
      upper.1.IsFirst pages ∧ IsOpen (rowsOfPages pages) upper.1.row := by
  rcases serves.exists_route isUpper with ⟨route, isRoute, file⟩
  have upperRow := serves.row_eq isUpper file
  have lowerRow : draft.row = lower.1.row := serves.row_eq isLower same
  have prefixRow : route.row <+: draft.row := by
    rw [upperRow, lowerRow]
    exact isAbove.1.map Segment.look
  have differsRow : route.row ≠ draft.row := by
    rw [upperRow, lowerRow]
    intro sameRow
    have length : upper.1.segments.length = lower.1.segments.length := by
      simpa [PagePath.row] using congrArg List.length sameRow
    exact isAbove.2 (isAbove.1.eq_of_length length)
  have standing := serves.nest.exists_above_iff listed (List.mem_mergeSort.mpr isRoute) prefixRow
    differsRow
  rw [serves.isFirst_iff isUpper isRoute file, serves.isOpen_iff, upperRow] at standing
  rw [← standing]
  have named : ∀ other ∈ above, other.route.file.path = upper.1.file ↔ other.route = route := by
    intro other inAbove
    have isOther := serves.route_mem listed (List.mem_append_left _ inAbove)
    have path : route.file.path = upper.1.file := congrArg PageFile.path file
    rw [← path]
    exact ⟨List.inj_on_of_nodup_map serves.nodup_paths isOther isRoute,
      fun sameRoute => by rw [sameRoute]⟩
  exact exists_congr fun other => and_congr_right fun inAbove => named other inAbove

theorem exists_page_of_draft (serves : Serves extension pages routes) {trail : List Draft}
    (listed : trail ∈ (draftsOf routes).trails) (inTrail : draft ∈ trail) :
    ∃ page ∈ pages, draft.route.file = addedFile page :=
  serves.exists_page (serves.route_mem listed inTrail)

/-- Finishing and sorting the nest leaves one nested route for each page. -/
theorem preorder_perm (serves : Serves extension pages routes) :
    (((draftsOf routes).sort Draft.precedes).preorder.map (·.route.file.path)).Perm
      (pages.map (·.1.file)) := by
  have placed := (Forest.preorder_sort Draft.precedes (draftsOf routes)).map Draft.route
  have order := (placed.trans (preorder_draftsOf routes)).map FlatRoute.file
  have paths := (order.trans serves.files).map PageFile.path
  rwa [List.map_map, List.map_map, List.map_map] at paths

end Serves
end FileRoutes
