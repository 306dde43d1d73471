import FileRoutes.Proofs.NestedRoute.Landing
import FileRoutes.Proofs.NestedRoute.PathSyntax
import FileRoutes.Proofs.RouteTree.ByName
import FileRoutes.Proofs.RouteTree.Census
import FileRoutes.Proofs.RouteTree.FlatRoutes

/-!
# The paths along a trail make the path of the last route

A nested router joins the paths from a route at the top down to the route that it serves.  The
result is the path that the last route has by itself, once catch-alls are spelled alike: a route
goes down only into a draft whose path is that of the segments passed since the last draft.

The index page is the exception that has to be kept in view.  It leaves a slash at the top and
nothing below, so it may only come last.
-/

namespace FileRoutes

open RoutePath

/-! ## Joining -/

/-- A path with another one below it: an empty one adds nothing, any other follows a slash. -/
def joinBelow (base path : Text) : Text :=
  if path = [] then base else base ++ '/' :: path

/-- The paths along a trail, joined from the top down. -/
def joinedPath : List Text → Text
  | [] => []
  | top :: below => below.foldl joinBelow top

theorem rooted_of_head? {path : Text} (starts : path.head? = some '/') : rooted path = path :=
  if_pos starts

/-- A slash adds nothing to a path, and stands for the path that is missing. -/
theorem rooted_join_slash {path : Text} (starts : path ≠ [] → path.head? = some '/') :
    rooted (join path ['/']) = if path = [] then ['/'] else path := by
  have joined : join path ['/'] = path := if_pos (.inr rfl)
  rw [joined]
  split
  · next empty =>
    subst empty
    rfl
  · next nonempty => exact rooted_of_head? (starts nonempty)

theorem rooted_join_cons {path text : Text} (starts : path ≠ [] → path.head? = some '/')
    (ends : path.getLast? ≠ some '/') (nonempty : text ≠ []) :
    rooted (join path ('/' :: text)) = path ++ '/' :: text := by
  have adds : ¬('/' :: text = [] ∨ '/' :: text = ['/']) := by simp [nonempty]
  by_cases empty : path = []
  · subst empty
    rw [join, if_neg adds]
    rfl
  · have joined : join path ('/' :: text) = path ++ '/' :: text := by
      rw [join, if_neg adds, if_neg empty]
      exact if_neg ends
    rw [joined]
    apply rooted_of_head?
    rw [List.head?_append, starts empty]
    rfl

/-! ## What segments leave in a path -/

/-- The segments of a name, with the index page at the end if it is among them. -/
structure Orderly (segments : List Segment) : Prop where
  each : ∀ segment ∈ segments, segment.OfName ∧ segment.isGroup = false
  indexLast : Segment.index ∉ segments.dropLast

namespace Orderly

variable {run later : List Segment} {segment : Segment}

theorem index_not_mem (orderly : Orderly (run ++ segment :: later)) : Segment.index ∉ run := by
  have last := orderly.indexLast
  rw [List.dropLast_append_cons] at last
  intro listed
  exact last (List.mem_append_left _ listed)

theorem tail (orderly : Orderly (run ++ later)) : Orderly later where
  each segment listed := orderly.each segment (List.mem_append_right _ listed)
  indexLast := by
    cases later with
    | nil => exact List.not_mem_nil
    | cons segment later =>
        have last := orderly.indexLast
        rw [List.dropLast_append_cons] at last
        intro listed
        exact last (List.mem_append_right _ listed)

theorem front (orderly : Orderly (run ++ later)) : Orderly run where
  each segment listed := orderly.each segment (List.mem_append_left _ listed)
  indexLast := by
    cases later with
    | nil =>
        rw [List.append_nil] at orderly
        exact orderly.indexLast
    | cons segment later =>
        intro listed
        exact orderly.index_not_mem (List.mem_of_mem_dropLast listed)

theorem eq_nil_of_index (orderly : Orderly (Segment.index :: later)) : later = [] := by
  cases later with
  | nil => rfl
  | cons segment later => exact absurd List.mem_cons_self orderly.indexLast

end Orderly

/-- The segments as they stand in a path, each after a slash, when every catch-all is spelled as
at the end. -/
def trace (segments : List Segment) : Text :=
  segments.flatMap fun segment =>
    if segment.isIndex then [] else '/' :: segment.routeSyntax false

theorem trace_nil : trace [] = [] := rfl

theorem trace_append (first second : List Segment) :
    trace (first ++ second) = trace first ++ trace second :=
  List.flatMap_append

theorem trace_index : trace [Segment.index] = [] := rfl

theorem trace_cons {segment : Segment} (other : segment ≠ Segment.index) (later : List Segment) :
    trace (segment :: later) = '/' :: segment.routeSyntax false ++ trace later := by
  have notIndex : segment.isIndex = false := decide_eq_false other
  rw [trace, List.flatMap_cons, notIndex]
  rfl

theorem exists_trace_eq_cons {segments : List Segment} (free : Segment.index ∉ segments)
    (nonempty : segments ≠ []) : ∃ rest, trace segments = '/' :: rest := by
  rcases List.exists_cons_of_ne_nil nonempty with ⟨segment, later, rfl⟩
  exact ⟨_, trace_cons (Ne.symm (List.ne_of_not_mem_cons free)) later⟩

theorem getLast?_trace_ne {segments : List Segment}
    (each : ∀ segment ∈ segments, segment.OfName ∧ segment.isGroup = false)
    (free : Segment.index ∉ segments) : (trace segments).getLast? ≠ some '/' := by
  induction segments with
  | nil => exact nofun
  | cons segment later inductionHypothesis =>
      rcases List.forall_mem_cons.mp each with ⟨⟨ofName, visible⟩, others⟩
      have other : segment ≠ Segment.index := Ne.symm (List.ne_of_not_mem_cons free)
      have ends := inductionHypothesis others (List.not_mem_of_not_mem_cons free)
      rw [trace_cons other, List.getLast?_append,
        List.getLast?_cons_of_ne_nil (ofName.routeSyntax_ne_nil other visible false)]
      cases last : (trace later).getLast? with
      | none => exact (ofName.trimmed_routeSyntax other false).2
      | some c =>
          intro isSlash
          exact ends (last.trans isSlash)

/-- A path is that of a run of segments below a draft.  The index page by itself leaves a slash. -/
inductive Spells : List Segment → Text → Prop
  | page : Spells [Segment.index] ['/']
  | run {segments path} : segments ≠ [Segment.index] → Unifies path (trace segments) →
      Spells segments path

namespace Spells

variable {run later : List Segment} {segment : Segment} {path : Text}

theorem nil : Spells [] [] :=
  .run nofun .nil

theorem unifies (spells : Spells run path) (free : Segment.index ∉ run) :
    Unifies path (trace run) := by
  cases spells with
  | page => exact absurd (List.mem_singleton_self _) free
  | run _ unifies => exact unifies

theorem eq_nil_iff (spells : Spells run path) (free : Segment.index ∉ run) :
    path = [] ↔ run = [] := by
  have unifies := spells.unifies free
  constructor
  · rintro rfl
    by_contra nonempty
    rcases exists_trace_eq_cons free nonempty with ⟨rest, begins⟩
    have same := unifies.head?_eq
    rw [begins] at same
    cases same
  · rintro rfl
    cases unifies
    rfl

/-- A path goes on with an index page. -/
theorem pushIndex (spells : Spells run path) (free : Segment.index ∉ run) :
    Spells (run ++ [Segment.index]) (if path = [] then ['/'] else path) := by
  by_cases empty : run = []
  · rw [if_pos ((spells.eq_nil_iff free).mpr empty), empty]
    exact .page
  · rw [if_neg (mt (spells.eq_nil_iff free).mp empty)]
    apply Spells.run
    · intro same
      exact empty (List.append_left_eq_self.mp same)
    · rw [trace_append, trace_index, List.append_nil]
      exact spells.unifies free

/-- A path goes on with a segment. -/
theorem push (spells : Spells run path) (free : Segment.index ∉ run)
    (ofName : segment.OfName) (other : segment ≠ Segment.index) (followed : Bool) :
    Spells (run ++ [segment]) (path ++ '/' :: segment.routeSyntax followed) := by
  apply Spells.run
  · intro same
    have last := congrArg List.getLast? same
    rw [List.getLast?_concat] at last
    exact other (Option.some.inj last)
  · rw [trace_append, trace_cons other]
    apply (spells.unifies free).append
    rw [trace, List.flatMap_nil, List.append_nil]
    exact .char (by decide) (ofName.unifies_routeSyntax other followed)

theorem unifyCatchalls (spells : Spells run path) : Spells run (RoutePath.unifyCatchalls path) := by
  cases spells with
  | page => exact .page
  | run other unifies => exact .run other unifies.unifyCatchalls

/-! ## Going down a level and going on -/

theorem pass {cursor : Cursor} (spells : Spells run cursor.path)
    (orderly : Orderly (run ++ segment :: later)) (followed : Bool) :
    Spells (run ++ [segment]) (cursor.pass segment followed).path := by
  have free := orderly.index_not_mem
  by_cases isIndex : segment = Segment.index
  · subst isIndex
    rw [cursor.path_pass_index]
    exact spells.pushIndex free
  · have ofName := (orderly.each segment (List.mem_append_right _ List.mem_cons_self)).1
    rw [cursor.path_pass isIndex]
    exact spells.push free ofName isIndex followed

/-- The path that a draft is looked for by is that of the segments passed since the last one. -/
theorem rooted_join {cursor : Cursor} (spells : Spells run cursor.path)
    (orderly : Orderly (run ++ segment :: later)) (followed : Bool) :
    Spells (run ++ [segment])
      (rooted (join cursor.path ('/' :: segment.routeSyntax followed))) := by
  have free := orderly.index_not_mem
  have starts (nonempty : cursor.path ≠ []) : cursor.path.head? = some '/' := by
    have passed := mt (spells.eq_nil_iff free).mpr nonempty
    rcases exists_trace_eq_cons free passed with ⟨rest, begins⟩
    rw [(spells.unifies free).head?_eq, begins]
    rfl
  by_cases isIndex : segment = Segment.index
  · subst isIndex
    rw [show Segment.index.routeSyntax followed = [] from rfl, rooted_join_slash starts]
    exact spells.pushIndex free
  · rcases orderly.each segment (List.mem_append_right _ List.mem_cons_self) with
      ⟨ofName, visible⟩
    have ends : cursor.path.getLast? ≠ some '/' := by
      rw [(spells.unifies free).getLast?_eq]
      apply getLast?_trace_ne _ free
      intro passed listed
      exact orderly.each passed (List.mem_append_left _ listed)
    rw [rooted_join_cons starts ends (ofName.routeSyntax_ne_nil isIndex visible followed)]
    exact spells.push free ofName isIndex followed

/-- The draft that a route goes down into has that path. -/
theorem of_leadsTo {cursor : Cursor} (spells : Spells run cursor.path)
    (orderly : Orderly (run ++ segment :: later)) {followed : Bool} {draft : Draft}
    (leads : cursor.leadsTo segment followed draft = true) :
    Spells (run ++ [segment]) draft.path := by
  have isPath : draft.path = RoutePath.unifyCatchalls
      (rooted (join cursor.path ('/' :: segment.routeSyntax followed))) := by
    unfold Cursor.leadsTo at leads
    exact of_decide_eq_true (Bool.and_eq_true_iff.mp leads).2
  rw [isPath]
  exact (spells.rooted_join orderly followed).unifyCatchalls

end Spells

/-! ## Trails -/

/-- The drafts of a trail share the segments among them: each has the path of its own run. -/
inductive Spelled : List Segment → List Draft → Prop
  | last {run draft} : Spells run draft.path → Spelled run [draft]
  | nested {run later draft below} : run ≠ [] → Spells run draft.path → Spelled later below →
      Spelled (run ++ later) (draft :: below)

/-- What the induction on the remaining segments carries along: the path of the cursor is that of
the segments passed since the last draft. -/
theorem spelled_landing {route : FlatRoute} {cursor : Cursor} {run segments : List Segment}
    {level : Forest Draft} (spells : Spells run cursor.path) (orderly : Orderly (run ++ segments)) :
    Spelled (run ++ segments) (landing route cursor segments level) := by
  fun_induction landing route cursor segments level generalizing run with
  | case1 cursor level =>
      rw [List.append_nil]
      exact .last spells
  | case2 cursor segment later level draft children found inductionHypothesis =>
      have parent := spells.of_leadsTo orderly (Forest.of_find?_eq_some found).1
      rw [List.append_cons] at orderly ⊢
      exact .nested (List.concat_ne_nil _ _) parent (inductionHypothesis .nil orderly.tail)
  | case3 cursor segment later level _ inductionHypothesis =>
      have passed := spells.pass orderly (goesOn later)
      rw [List.append_cons] at orderly ⊢
      exact inductionHypothesis passed orderly

/-- Below its parent a path is empty, or what follows its slash. -/
theorem Spells.relative_cases {run : List Segment} {path : Text} (spells : Spells run path)
    (orderly : Orderly run) :
    relative path = [] ∧ trace run = [] ∨
      relative path ≠ [] ∧ (relative path).head? ≠ some '/' ∧ path = '/' :: relative path ∧
        Unifies path (trace run) := by
  cases spells with
  | page => exact .inl ⟨rfl, rfl⟩
  | run other unifies =>
      cases run with
      | nil =>
          cases unifies
          exact .inl ⟨rfl, rfl⟩
      | cons segment later =>
          have notIndex : segment ≠ Segment.index := by
            rintro rfl
            exact other (orderly.eq_nil_of_index ▸ rfl)
          rcases orderly.each segment List.mem_cons_self with ⟨ofName, visible⟩
          rcases List.exists_cons_of_ne_nil (ofName.routeSyntax_ne_nil notIndex visible false) with
            ⟨c, rest, begins⟩
          have trimmed := (ofName.trimmed_routeSyntax notIndex false).1
          have whole := unifies
          rw [trace_cons notIndex, begins] at unifies
          rw [begins] at trimmed
          cases unifies with
          | @char _ below _ _ onward =>
              have first := onward.head?_eq
              refine .inr ⟨?_, ?_, rfl, whole⟩
              · rintro empty
                rw [show below = [] from empty] at first
                cases first
              · exact first.trans_ne trimmed

/-- A path below another one makes the joined path longer by its run. -/
theorem Spells.joinBelow {run : List Segment} {path base front : Text} (spells : Spells run path)
    (orderly : Orderly run) (unifies : Unifies base front) :
    Unifies (joinBelow base (relative path)) (front ++ trace run) := by
  unfold FileRoutes.joinBelow
  rcases spells.relative_cases orderly with ⟨empty, noTrace⟩ | ⟨nonempty, -, begins, onward⟩
  · rw [if_pos empty, noTrace, List.append_nil]
    exact unifies
  · rw [if_neg nonempty, ← begins]
    exact unifies.append onward

/-- The paths as they stand below a parent, joined to that of the parent. -/
theorem Spelled.foldl_joinBelow {segments : List Segment} {trail : List Draft}
    (spelled : Spelled segments trail) (orderly : Orderly segments) {base front : Text}
    (unifies : Unifies base front) :
    Unifies ((trail.map (relative ·.path)).foldl FileRoutes.joinBelow base)
      (front ++ trace segments) := by
  induction spelled generalizing base front with
  | last spells => exact spells.joinBelow orderly unifies
  | nested _ spells _ inductionHypothesis =>
      rw [trace_append, ← List.append_assoc]
      exact inductionHypothesis orderly.tail (spells.joinBelow orderly.front unifies)

/-- No path below a parent begins with a slash. -/
theorem Spelled.head?_relative_ne {segments : List Segment} {trail : List Draft}
    (spelled : Spelled segments trail) (orderly : Orderly segments) {draft : Draft}
    (listed : draft ∈ trail) : (relative draft.path).head? ≠ some '/' := by
  have each {run : List Segment} {path : Text} (spells : Spells run path) (orderly : Orderly run) :
      (relative path).head? ≠ some '/' := by
    rcases spells.relative_cases orderly with ⟨empty, -⟩ | ⟨-, trimmed, -, -⟩
    · rw [empty]
      exact nofun
    · exact trimmed
  induction spelled with
  | last spells =>
      rcases List.mem_singleton.mp listed with rfl
      exact each spells orderly
  | nested _ spells _ inductionHypothesis =>
      rcases List.mem_cons.mp listed with rfl | listed
      · exact each spells orderly.front
      · exact inductionHypothesis orderly.tail listed

/-! ## The path of a whole route -/

theorem parts_cons {segment : Segment} (ofName : segment.OfName) (visible : segment.isGroup = false)
    (other : segment ≠ Segment.index) (later : List Segment) :
    parts (segment :: later) = segment.routeSyntax (goesOn later) :: parts later := by
  have isPart : ¬(segment.isIndex || segment.routeSyntax (goesOn later) = []) = true := by
    simp [Segment.isIndex, other, ofName.routeSyntax_ne_nil other visible]
  rw [parts]
  exact if_neg isPart

theorem unifies_ofSegments_cons {segment : Segment} {later : List Segment}
    (orderly : Orderly (segment :: later)) (other : segment ≠ Segment.index) :
    Unifies (ofSegments (segment :: later)) (trace (segment :: later)) := by
  induction later generalizing segment with
  | nil =>
      rcases orderly.each segment List.mem_cons_self with ⟨ofName, visible⟩
      rw [ofSegments, parts_cons ofName visible other, trace_cons other, trace_nil, parts,
        Text.slashed_singleton, List.append_nil]
      exact .char (by decide) (ofName.unifies_routeSyntax other _)
  | cons next rest inductionHypothesis =>
      rcases orderly.each segment List.mem_cons_self with ⟨ofName, visible⟩
      have first := Unifies.char (by decide : '/' ≠ '[')
        (ofName.unifies_routeSyntax other (goesOn (next :: rest)))
      have onward : Orderly (next :: rest) := @Orderly.tail [segment] _ orderly
      rw [ofSegments, parts_cons ofName visible other, trace_cons other]
      by_cases isIndex : next = Segment.index
      · subst isIndex
        rw [onward.eq_nil_of_index] at first ⊢
        rw [show parts [Segment.index] = [] from rfl, trace_index, Text.slashed_singleton,
          List.append_nil]
        exact first
      · rcases onward.each next List.mem_cons_self with ⟨nextOfName, nextVisible⟩
        have more : parts (next :: rest) ≠ [] := by
          rw [parts_cons nextOfName nextVisible isIndex]
          exact List.cons_ne_nil _ _
        rw [Text.slashed_cons more]
        exact first.append (inductionHypothesis onward isIndex)

/-- What the path of some segments becomes once catch-alls are spelled alike. -/
def wholeTrace (segments : List Segment) : Text :=
  if segments = [Segment.index] then ['/'] else trace segments

theorem unifies_ofSegments {segments : List Segment} (orderly : Orderly segments)
    (nonempty : segments ≠ []) : Unifies (ofSegments segments) (wholeTrace segments) := by
  rcases List.exists_cons_of_ne_nil nonempty with ⟨segment, later, rfl⟩
  unfold wholeTrace
  by_cases isIndex : segment = Segment.index
  · subst isIndex
    rw [orderly.eq_nil_of_index]
    exact .char (by decide) .nil
  · have other : segment :: later ≠ [Segment.index] := by
      intro same
      exact isIndex (List.cons.inj same).1
    rw [if_neg other]
    exact unifies_ofSegments_cons orderly isIndex

theorem Spells.unifies_wholeTrace {run : List Segment} {path : Text} (spells : Spells run path) :
    Unifies path (wholeTrace run) := by
  unfold wholeTrace
  cases spells with
  | page => exact .char (by decide) .nil
  | run other unifies => rwa [if_neg other]

/-- Nothing follows an index page, so a first run either is one, and all there is, or leaves a
trace that the next run goes on with. -/
theorem wholeTrace_append {run later : List Segment} (orderly : Orderly (run ++ later))
    (nonempty : run ≠ []) : wholeTrace (run ++ later) = wholeTrace run ++ trace later := by
  by_cases isPage : run = [Segment.index]
  · subst isPage
    rcases Orderly.eq_nil_of_index orderly with rfl
    rfl
  · have other : run ++ later ≠ [Segment.index] := by
      intro same
      rcases List.append_eq_singleton_iff.mp same with ⟨empty, -⟩ | ⟨page, -⟩
      · exact nonempty empty
      · exact isPage page
    rw [wholeTrace, if_neg other, wholeTrace, if_neg isPage, trace_append]

/-- The paths along a trail, joined, are the path of all its segments. -/
theorem Spelled.unifies_joinedPath {segments : List Segment} {draft : Draft} {below : List Draft}
    (spelled : Spelled segments (draft :: below)) (orderly : Orderly segments) :
    Unifies (joinedPath (draft.path :: below.map (relative ·.path))) (wholeTrace segments) := by
  cases spelled with
  | last spells => exact spells.unifies_wholeTrace
  | nested nonempty spells onward =>
      rw [wholeTrace_append orderly nonempty]
      exact onward.foldl_joinBelow orderly.tail spells.unifies_wholeTrace

/-! ## Nested routes -/

theorem PageFile.OfName.orderly {file : PageFile} (ofName : file.OfName)
    (indexLast : Segment.index ∉ (file.segments.filter (!·.isGroup)).dropLast) :
    Orderly file.position where
  each _ listed := ofName.of_mem_position listed
  indexLast := by
    unfold PageFile.position positionOf
    split
    · exact List.not_mem_nil
    · exact indexLast

/-- Along every trail of nested routes the paths join to the path of the flat route that leads the
last one, up to the two spellings of a catch-all; and no path below another one begins with a
slash. -/
theorem joinedPath_of_trail {tree : RouteTree} (byName : tree.ByName) (options : NestedOptions)
    (indexLast : ∀ file ∈ tree.attached,
      Segment.index ∉ (file.segments.filter (!·.isGroup)).dropLast)
    {above : List NestedRoute} {route : NestedRoute}
    (listed : above ++ [route] ∈ (tree.nestedRoutes options).trails) :
    (∃ flat ∈ tree.flatRoutes, flat.file.path = route.file ∧
      (∀ other ∈ tree.flatRoutes, other.file.path = route.file → other = flat) ∧
      unifyCatchalls (joinedPath ((above ++ [route]).map NestedRoute.path)) =
        unifyCatchalls (ofSegments flat.segments)) ∧
      (above ≠ [] → route.path.head? ≠ some '/') := by
  have coherent := byName.coherent
  rcases mem_trails_nestedRoutes listed with ⟨flat, isFlat, earlier, files, paths⟩
  rcases coherent.linked.file_mem_filesAt isFlat with ⟨slot, held⟩
  have orderly : Orderly flat.segments :=
    (byName.named slot flat.file held).orderly
      (indexLast flat.file (RouteTree.mem_attached_iff.mpr ⟨slot, held⟩))
  have nonempty : flat.segments ≠ [] := positionOf_ne_nil flat.file.segments
  have spelled : Spelled flat.segments (landing flat {} flat.segments earlier) :=
    @spelled_landing flat {} [] flat.segments earlier .nil orderly
  have isLast : flat.file.path = route.file := by
    have last := congrArg List.getLast? files
    rw [List.map_append, List.map_singleton, List.getLast?_concat, List.getLast?_map] at last
    have ends := congrArg (Option.map (·.file.path))
      (route_of_landing flat {} flat.segments earlier)
    rw [Option.map_map] at ends
    exact Option.some.inj (ends.symm.trans last.symm)
  rcases List.exists_cons_of_ne_nil (landing_ne_nil flat {} flat.segments earlier) with
    ⟨draft, below, lands⟩
  rw [lands] at paths spelled
  constructor
  · refine ⟨flat, isFlat, isLast, ?_, ?_⟩
    · intro other isOther same
      exact coherent.eq_of_mem_flatRoutes isOther isFlat (same.trans isLast.symm)
    · rw [paths, pathsAlong, (spelled.unifies_joinedPath orderly).unifyCatchalls_eq,
        (unifies_ofSegments orderly nonempty).unifyCatchalls_eq]
  · intro nested
    rcases List.exists_cons_of_ne_nil nested with ⟨top, between, rfl⟩
    have isBelow : route.path ∈ below.map (relative ·.path) := by
      rw [← (List.cons.inj paths).2]
      exact List.mem_map_of_mem (List.mem_append_right _ (List.mem_singleton_self _))
    rcases List.mem_map.mp isBelow with ⟨lower, isLower, same⟩
    rw [← same]
    exact spelled.head?_relative_ne orderly (List.mem_cons_of_mem _ isLower)

/-- Below a catch-all the paths along a trail spell it as at the end, and the path of the flat route
spells it as within. -/
theorem joinedPath_below_catchall :
    let names : List (Text × Int) :=
      [("a.vue".toList, 0), ("a/[...b].vue".toList, 0), ("a/[...b]/c.vue".toList, 0)]
    let tree := (RouteTree.build (names.map fun named => .file named.1 named.2) {}).toOption.getD
      .empty
    ∃ above route, above ++ [route] ∈ (tree.nestedRoutes {}).trails ∧
      (above ++ [route]).map NestedRoute.path = ["/a".toList, ":b(.*)*".toList, "c".toList] ∧
      ∃ flat ∈ tree.flatRoutes, flat.file.path = route.file ∧
        unifyCatchalls (joinedPath ((above ++ [route]).map NestedRoute.path)) =
          unifyCatchalls (ofSegments flat.segments) ∧
        joinedPath ((above ++ [route]).map NestedRoute.path) ≠ ofSegments flat.segments := by
  intro names tree
  have built : RouteTree.build (names.map fun named => .file named.1 named.2) {} = .ok tree := by
    decide +kernel
  have indexLast : ∀ file ∈ tree.attached,
      Segment.index ∉ (file.segments.filter (!·.isGroup)).dropLast := by decide +kernel
  have inOrder : tree.flatRoutes.mergeSort FlatRoute.precedes = tree.flatRoutes :=
    List.mergeSort_of_pairwise (by decide +kernel)
  have trails : ["/a".toList, ":b(.*)*".toList, "c".toList] ∈
      (tree.nestedRoutes {}).trails.map (List.map NestedRoute.path) := by
    rw [RouteTree.nestedRoutes, draftsOf, inOrder]
    decide +kernel
  have spelled : ∀ flat ∈ tree.flatRoutes, "/a/:b(.*)*/c".toList ≠ ofSegments flat.segments := by
    decide +kernel
  rcases List.mem_map.mp trails with ⟨trail, listed, paths⟩
  rcases List.eq_nil_or_concat' trail with rfl | ⟨above, route, rfl⟩
  · cases paths
  · rcases joinedPath_of_trail (.build built) {} indexLast listed with
      ⟨⟨flat, isFlat, isLast, -, same⟩, -⟩
    refine ⟨above, route, listed, paths, flat, isFlat, isLast, same, ?_⟩
    rw [paths]
    exact spelled flat isFlat

end FileRoutes
