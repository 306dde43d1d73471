import FileRoutes.Proofs.NestedRoute.Cursor
import FileRoutes.Proofs.NestedRoute.OpenRows

/-!
# A trail lists the open rows that its last one goes on from

Routes are placed one after the other.  As long as no row comes after one that goes on from it,
every trail of the nest lists exactly the open rows placed so far that its last row goes on from,
the shortest first.  Of routes that look alike the first one stands for their row, and if that is
open the others come to stand below it.  A route that is placed leaves the other trails alone, and
goes down into the next longer open row whenever there is one: that row has a draft without a square
bracket in its path, and no other row has the same name and path.  This is what `Reached` says of a
route on its way down.
-/

namespace FileRoutes

open RoutePath

/-! ## Nests -/

/-- Each draft of a trail stands below the one before, the first below a given row. -/
inductive Fitting : List Look → List Draft → Prop
  | nil {base} : Fitting base []
  | cons {base front run draft below} : draft.FitsBelow front run →
      front.map Segment.look = base → Fitting draft.row below → Fitting base (draft :: below)

theorem Fitting.last {base : List Look} {above : List Draft} {draft : Draft}
    (fitting : Fitting base (above ++ [draft])) :
    ∃ front run, draft.FitsBelow front run ∧
      front.map Segment.look = (above.map Draft.row).getLast?.getD base := by
  induction above generalizing base with
  | nil =>
      cases fitting with
      | cons fits isBase _ => exact ⟨_, _, fits, isBase⟩
  | cons upper between inductionHypothesis =>
      cases fitting with
      | cons _ _ onward =>
          rcases inductionHypothesis onward with ⟨front, run, fits, same⟩
          refine ⟨front, run, fits, ?_⟩
          rw [same, List.map_cons, List.getLast?_cons, Option.getD_some]

/-- What shows of the segments of some routes. -/
def rowsOf (routes : List FlatRoute) : List (List Look) :=
  routes.map FlatRoute.row

theorem rowsOf_append (first second : List FlatRoute) :
    rowsOf (first ++ second) = rowsOf first ++ rowsOf second :=
  List.map_append

theorem FlatRoute.row_ne_nil (route : FlatRoute) : route.row ≠ [] :=
  mt List.map_eq_nil_iff.mp (positionOf_ne_nil route.file.segments)

theorem Draft.row_ne_nil (draft : Draft) : draft.row ≠ [] :=
  draft.route.row_ne_nil

/-- The first of some routes that look alike. -/
def IsFirst (routes : List FlatRoute) (route : FlatRoute) : Prop :=
  routes.find? (·.row = route.row) = some route

instance (routes : List FlatRoute) (route : FlatRoute) : Decidable (IsFirst routes route) :=
  inferInstanceAs (Decidable (_ = _))

section

variable {routes : List FlatRoute} {route other : FlatRoute}

theorem IsFirst.eq_of_row (first : IsFirst routes route) (firstToo : IsFirst routes other)
    (same : route.row = other.row) : route = other := by
  rw [IsFirst, same] at first
  exact Option.some.inj (first.symm.trans firstToo)

theorem exists_isFirst {row : List Look} (known : row ∈ rowsOf routes) :
    ∃ route ∈ routes, IsFirst routes route ∧ route.row = row := by
  rcases List.mem_map.mp known with ⟨route, listed, rfl⟩
  cases found : routes.find? (·.row = route.row) with
  | none => exact absurd (decide_eq_true rfl) (List.find?_eq_none.mp found route listed)
  | some first =>
      have same : first.row = route.row := by simpa using List.find?_some found
      refine ⟨first, List.mem_of_find?_eq_some found, ?_, same⟩
      rw [IsFirst, same]
      exact found

theorem isFirst_of_nodup (distinct : (rowsOf routes).Nodup) (listed : route ∈ routes) :
    IsFirst routes route := by
  rcases exists_isFirst (List.mem_map_of_mem listed) with ⟨first, isRoute, isFirst, same⟩
  rwa [List.inj_on_of_nodup_map distinct isRoute listed same] at isFirst

/-- A new route comes after those that are there. -/
theorem isFirst_concat_iff (listed : route ∈ routes) (other : FlatRoute) :
    IsFirst (routes ++ [other]) route ↔ IsFirst routes route := by
  rcases exists_isFirst (List.mem_map_of_mem listed) with ⟨first, -, isFirst, same⟩
  rw [IsFirst, same] at isFirst
  rw [IsFirst, IsFirst, List.find?_append, isFirst]
  rfl

theorem isFirst_concat_self_iff (absent : route ∉ routes) :
    IsFirst (routes ++ [route]) route ↔ route.row ∉ rowsOf routes := by
  constructor
  · intro first known
    rcases exists_isFirst known with ⟨other, listed, isFirst, same⟩
    have isFirstToo := (isFirst_concat_iff listed route).mpr isFirst
    exact absent (first.eq_of_row isFirstToo same.symm ▸ listed)
  · intro unknown
    have missing : routes.find? (·.row = route.row) = none := by
      apply List.find?_eq_none.mpr
      intro other listed same
      exact unknown (of_decide_eq_true same ▸ List.mem_map_of_mem listed)
    rw [IsFirst, List.find?_append, missing]
    simp

end

/-- Routes without groups, each of them once. -/
structure Distinct (routes : List FlatRoute) : Prop where
  unique : routes.Nodup
  ungrouped : ∀ route ∈ routes, Ungrouped route.segments

theorem Distinct.front {routes later : List FlatRoute} (distinct : Distinct (routes ++ later)) :
    Distinct routes where
  unique := (List.nodup_append.mp distinct.unique).1
  ungrouped route listed := distinct.ungrouped route (List.mem_append_left _ listed)

/-- What the rows above a draft may go up to: they go on to its own row if another route has come
first with that. -/
def Draft.reach (placed : List FlatRoute) (draft : Draft) : List Look :=
  if IsFirst placed draft.route then draft.row.dropLast else draft.row

/-- The rows that stand above a draft: the open ones that its own row goes on from, and this row as
well if it is open and another route has come first with it. -/
def Draft.rowsAbove (placed : List FlatRoute) (draft : Draft) : List (List Look) :=
  prefixesIn (openRows (rowsOf placed)) (draft.reach placed)

/-- The routes placed so far have one draft each, and every trail lists the open rows that its last
one goes on from, with the drafts of the first routes that have these rows. -/
structure Nest (placed : List FlatRoute) (drafts : Forest Draft) : Prop where
  routes : (drafts.preorder.map Draft.route).Perm placed
  ancestors : ∀ above draft, above ++ [draft] ∈ drafts.trails →
    above.map Draft.row = draft.rowsAbove placed ∧
      ∀ upper ∈ above, IsFirst placed upper.route
  fitting : ∀ trail ∈ drafts.trails, Fitting [] trail

/-- A route on its way down has passed some segments since the draft that ends the trail above it,
and has gone down into every open row that it has passed. -/
structure Reached (placed : List FlatRoute) (drafts : Forest Draft) (cursor : Cursor)
    (base run later : List Segment) (above : List Draft) (level : Forest Draft) : Prop where
  here : cursor.At base run later
  passed : above.map Draft.row =
    prefixesIn (openRows (rowsOf placed)) ((base ++ run).map Segment.look)
  first : ∀ draft ∈ above, draft ∈ drafts.preorder ∧ IsFirst placed draft.route
  unique : level.preorder.Nodup
  trails : ∀ trail, trail ≠ [] → (trail ∈ level.trails ↔ above ++ trail ∈ drafts.trails)
  onward : ∀ trail, Fitting [] (above ++ trail) → Fitting (base.map Segment.look) trail

variable {placed : List FlatRoute} {drafts level : Forest Draft} {draft : Draft}
  {above : List Draft}

namespace Draft

theorem rowsAbove_of_isFirst (first : IsFirst placed draft.route) :
    draft.rowsAbove placed = prefixesIn (openRows (rowsOf placed)) draft.row.dropLast := by
  rw [rowsAbove, reach, if_pos first]

theorem rowsAbove_of_not_isFirst (repeated : ¬IsFirst placed draft.route) :
    draft.rowsAbove placed = prefixesIn (openRows (rowsOf placed)) draft.row := by
  rw [rowsAbove, reach, if_neg repeated]

theorem prefix_of_prefix_reach {row : List Look} (begins : row <+: draft.reach placed) :
    row <+: draft.row := by
  unfold reach at begins
  split at begins
  · exact begins.trans (List.dropLast_prefix _)
  · exact begins

theorem prefix_reach {row : List Look} (begins : row <+: draft.row) (differs : row ≠ draft.row) :
    row <+: draft.reach placed := by
  unfold reach
  split
  · exact (prefix_dropLast_iff draft.row_ne_nil).mpr ⟨begins, differs⟩
  · exact begins

/-- A new route has above it what it begins with. -/
theorem rowsAbove_concat_self (absent : draft.route ∉ placed) :
    draft.rowsAbove (placed ++ [draft.route]) =
      prefixesIn (openRows (rowsOf placed)) draft.row := by
  have rows : rowsOf (placed ++ [draft.route]) = rowsOf placed ++ [draft.row] := rowsOf_append _ _
  by_cases known : draft.row ∈ rowsOf placed
  · have repeated : ¬IsFirst (placed ++ [draft.route]) draft.route := by
      rw [isFirst_concat_self_iff absent, not_not]
      exact known
    rw [rowsAbove_of_not_isFirst repeated, rows, prefixesIn_openRows_concat fun _ => known]
  · have isFirst := (isFirst_concat_self_iff absent).mpr known
    have opened : draft.row ∉ openRows (rowsOf placed) :=
      fun listed => known (mem_openRows_iff.mp listed).1
    have shorter (isPrefix : draft.row <+: draft.row.dropLast) : draft.row ∈ rowsOf placed :=
      absurd rfl ((prefix_dropLast_iff draft.row_ne_nil).mp isPrefix).2
    rw [rowsAbove_of_isFirst isFirst, rows, prefixesIn_openRows_concat shorter,
      prefixesIn_dropLast opened]

/-- The others keep what is above them, if none goes on from the new one. -/
theorem rowsAbove_concat {route : FlatRoute} (listed : draft.route ∈ placed)
    (apart : route.row <+: draft.row → route.row = draft.row) :
    draft.rowsAbove (placed ++ [route]) = draft.rowsAbove placed := by
  have rows : rowsOf (placed ++ [route]) = rowsOf placed ++ [route.row] := rowsOf_append _ _
  have sameReach : draft.reach (placed ++ [route]) = draft.reach placed := by
    simp only [reach, isFirst_concat_iff listed]
  rw [rowsAbove, rows, sameReach]
  apply prefixesIn_openRows_concat
  intro isPrefix
  rw [apart (prefix_of_prefix_reach isPrefix)]
  exact List.mem_map_of_mem listed

end Draft

namespace Nest

theorem nil : Nest [] .nil where
  routes := .refl _
  ancestors _ _ listed := absurd listed List.not_mem_nil
  fitting _ listed := absurd listed List.not_mem_nil

theorem route_mem (nest : Nest placed drafts) (listed : draft ∈ drafts.preorder) :
    draft.route ∈ placed :=
  nest.routes.mem_iff.mp (List.mem_map_of_mem listed)

theorem row_mem (nest : Nest placed drafts) (listed : draft ∈ drafts.preorder) :
    draft.row ∈ rowsOf placed :=
  List.mem_map_of_mem (nest.route_mem listed)

theorem draft_mem (listed : above ++ [draft] ∈ drafts.trails) : draft ∈ drafts.preorder :=
  Forest.mem_preorder_of_mem_trails listed (List.mem_append_right _ (List.mem_singleton_self _))

/-- Drafts of first routes are told apart by their rows, and so are trails of them. -/
theorem eq_of_map_row (nest : Nest placed drafts) (distinct : Distinct placed)
    {first second : List Draft}
    (inFirst : ∀ draft ∈ first, draft ∈ drafts.preorder ∧ IsFirst placed draft.route)
    (inSecond : ∀ draft ∈ second, draft ∈ drafts.preorder ∧ IsFirst placed draft.route)
    (same : first.map Draft.row = second.map Draft.row) : first = second := by
  have unique : (drafts.preorder.map Draft.route).Nodup :=
    nest.routes.nodup_iff.mpr distinct.unique
  induction first generalizing second with
  | nil => exact (List.map_eq_nil_iff.mp same.symm).symm
  | cons draft later inductionHypothesis =>
      rcases List.map_eq_cons_iff.mp same.symm with ⟨other, more, rfl, sameRow, sameRows⟩
      rcases List.forall_mem_cons.mp inFirst with ⟨⟨isDraft, isFirst⟩, others⟩
      rcases List.forall_mem_cons.mp inSecond with ⟨⟨isDraftToo, isFirstToo⟩, othersToo⟩
      have sameRoute := isFirstToo.eq_of_row isFirst sameRow
      rw [List.inj_on_of_nodup_map unique isDraftToo isDraft sameRoute,
        inductionHypothesis others othersToo sameRows.symm]

/-- The path of a draft keeps an inner catch-all if and only if its row is not open: the segments
in the path are those behind the longest open row above. -/
theorem isOpen_iff (nest : Nest placed drafts) (listed : above ++ [draft] ∈ drafts.trails) :
    IsOpen (rowsOf placed) draft.row ↔ '[' ∉ draft.path := by
  rcases (nest.fitting _ listed).last with ⟨front, run, fits, isBase⟩
  rw [(nest.ancestors above draft listed).1] at isBase
  have row : draft.row = front.map Segment.look ++ run.map Segment.look := by
    rw [Draft.row, fits.segments, List.map_append]
  rw [fits.bracket, Ne, not_not, row]
  apply isOpen_append_iff isBase
  rw [← row]
  exact fun _ => Draft.prefix_reach

theorem reached (nest : Nest placed drafts) (distinct : Distinct placed) (later : List Segment) :
    Reached placed drafts {} [] [] later [] drafts where
  here := .start later
  passed := by
    have absent : [] ∉ openRows (rowsOf placed) := by
      intro listed
      rcases List.mem_map.mp (mem_openRows_iff.mp listed).1 with ⟨route, -, empty⟩
      exact route.row_ne_nil empty
    simp [prefixesIn, absent]
  first _ listed := absurd listed List.not_mem_nil
  unique := (nest.routes.nodup_iff.mpr distinct.unique).of_map _
  trails _ _ := Iff.rfl
  onward _ fitting := fitting

end Nest

namespace Reached

variable {cursor : Cursor} {base run later : List Segment} {segment : Segment}

/-- A route goes down into a draft at the top of the level if and only if the draft has the row that
the route has come to, and that row is open. -/
theorem leadsTo_iff
    (reached : Reached placed drafts cursor base run (segment :: later) above level)
    (nest : Nest placed drafts) (distinct : Distinct placed)
    (ungrouped : Ungrouped (base ++ run ++ segment :: later)) (root : [draft] ∈ level.trails) :
    cursor.leadsTo segment (goesOn later) draft = true ↔
      draft.row = (base ++ run ++ [segment]).map Segment.look ∧
        draft.row ∈ openRows (rowsOf placed) := by
  have isTrail := (reached.trails [draft] (List.cons_ne_nil _ _)).mp root
  have isDraft := Nest.draft_mem isTrail
  have draftUngrouped := distinct.ungrouped _ (nest.route_mem isDraft)
  have known := nest.row_mem isDraft
  cases reached.onward _ (nest.fitting _ isTrail) with
  | cons fits isBase _ =>
      rw [reached.here.leadsTo_iff ungrouped fits isBase draftUngrouped,
        ← nest.isOpen_iff isTrail, mem_openRows_iff]
      simp [known]

/-- Routes that look like the first one stand below it, where no other route looks for them. -/
theorem isFirst_of_row
    (reached : Reached placed drafts cursor base run (segment :: later) above level)
    (nest : Nest placed drafts) (isTrail : above ++ [draft] ∈ drafts.trails)
    (same : draft.row = (base ++ run ++ [segment]).map Segment.look)
    (opened : draft.row ∈ openRows (rowsOf placed)) : IsFirst placed draft.route := by
  by_contra repeated
  have along := (nest.ancestors above draft isTrail).1
  have row : draft.row = (base ++ run).map Segment.look ++ [segment.look] :=
    same.trans List.map_append
  rw [row] at opened
  rw [Draft.rowsAbove_of_not_isFirst repeated, reached.passed, row,
    prefixesIn_concat_of_mem opened] at along
  exact List.cons_ne_nil _ _ (List.append_right_eq_self.mp along.symm)

theorem descend
    (reached : Reached placed drafts cursor base run (segment :: later) above level)
    (nest : Nest placed drafts) (distinct : Distinct placed)
    (ungrouped : Ungrouped (base ++ run ++ segment :: later)) {below : Forest Draft}
    (found : level.find? (cursor.leadsTo segment (goesOn later)) = some (draft, below)) :
    Reached placed drafts (cursor.descend segment) (base ++ run ++ [segment]) [] later
      (above ++ [draft]) below := by
  rcases Forest.of_find?_eq_some found with ⟨leads, root, through⟩
  rcases (reached.leadsTo_iff nest distinct ungrouped root).mp leads with ⟨same, opened⟩
  have isTrail := (reached.trails [draft] (List.cons_ne_nil _ _)).mp root
  have isFirst := reached.isFirst_of_row nest isTrail same opened
  have order := Forest.preorder_sublist_of_find? found
  exact
    { here := reached.here.descend
      passed := by
        have row : draft.row = (base ++ run).map Segment.look ++ [segment.look] :=
          same.trans List.map_append
        rw [row] at opened
        rw [List.append_nil, ← same, row, prefixesIn_concat_of_mem opened, List.map_append,
          reached.passed, List.map_singleton, row]
      first := by
        intro other inTrail
        rcases List.mem_append.mp inTrail with old | new
        · exact reached.first other old
        · rw [List.mem_singleton.mp new]
          exact ⟨Nest.draft_mem isTrail, isFirst⟩
      unique := (List.nodup_cons.mp (order.nodup reached.unique)).2
      trails := by
        intro trail nonempty
        rw [List.append_assoc, List.singleton_append, ← reached.trails _ (List.cons_ne_nil _ _)]
        exact ⟨through trail, Forest.mem_trails_below found reached.unique nonempty⟩
      onward := by
        intro trail fitting
        rw [List.append_assoc, List.singleton_append] at fitting
        rw [← same]
        cases reached.onward _ fitting with
        | cons _ _ onward => exact onward }

/-- An open row has a draft, and the trail to it goes on from the one that the route has taken. -/
theorem not_mem_of_find?_eq_none
    (reached : Reached placed drafts cursor base run (segment :: later) above level)
    (nest : Nest placed drafts) (distinct : Distinct placed)
    (ungrouped : Ungrouped (base ++ run ++ segment :: later))
    (missing : level.find? (cursor.leadsTo segment (goesOn later)) = none) :
    (base ++ run ++ [segment]).map Segment.look ∉ openRows (rowsOf placed) := by
  intro opened
  rcases exists_isFirst (mem_openRows_iff.mp opened).1 with ⟨route, isRoute, isFirst, same⟩
  rcases List.mem_map.mp (nest.routes.mem_iff.mpr isRoute) with ⟨draft, isDraft, rfl⟩
  rcases Forest.exists_trail_of_mem_preorder isDraft with ⟨front, isTrail⟩
  -- What stands above the draft has the rows that the route went down into, so it is that trail.
  rcases nest.ancestors front draft isTrail with ⟨along, firsts⟩
  have sameRow : draft.row = (base ++ run ++ [segment]).map Segment.look := same
  have row : draft.row = (base ++ run).map Segment.look ++ [segment.look] :=
    sameRow.trans List.map_append
  rw [Draft.rowsAbove_of_isFirst isFirst, row, List.dropLast_concat, ← reached.passed] at along
  have inFront : ∀ upper ∈ front, upper ∈ drafts.preorder ∧ IsFirst placed upper.route := by
    intro upper listed
    have isUpper := Forest.mem_preorder_of_mem_trails isTrail (List.mem_append_left _ listed)
    exact ⟨isUpper, firsts upper listed⟩
  rw [nest.eq_of_map_row distinct inFront reached.first along] at isTrail
  have root := (reached.trails [draft] (List.cons_ne_nil _ _)).mpr isTrail
  have leads := (reached.leadsTo_iff nest distinct ungrouped root).mpr ⟨sameRow, sameRow ▸ opened⟩
  exact Forest.find?_ne_none root leads missing

theorem pass
    (reached : Reached placed drafts cursor base run (segment :: later) above level)
    (ungrouped : Ungrouped (base ++ run ++ segment :: later))
    (absent : (base ++ run ++ [segment]).map Segment.look ∉ openRows (rowsOf placed)) :
    Reached placed drafts (cursor.pass segment (goesOn later)) base (run ++ [segment]) later above
      level where
  here := reached.here.pass ungrouped
  passed := by
    rw [List.map_append, List.map_singleton] at absent
    rw [← List.append_assoc, List.map_append, List.map_singleton,
      prefixesIn_concat_of_not_mem absent, reached.passed]
  first := reached.first
  unique := reached.unique
  trails := reached.trails
  onward := reached.onward

end Reached

/-- A route lands below all the open rows that it begins with. -/
theorem Nest.landing (nest : Nest placed drafts) (distinct : Distinct placed) {route : FlatRoute}
    (ungrouped : Ungrouped route.segments) {cursor : Cursor} {base run segments : List Segment}
    (reached : Reached placed drafts cursor base run segments above level)
    (whole : base ++ run ++ segments = route.segments) :
    ∃ front last, FileRoutes.landing route cursor segments level = front ++ [last] ∧
      last.route = route ∧
      (above ++ front).map Draft.row = prefixesIn (openRows (rowsOf placed)) route.row ∧
      (∀ upper ∈ above ++ front, upper ∈ drafts.preorder ∧ IsFirst placed upper.route) ∧
      Fitting (base.map Segment.look) (front ++ [last]) := by
  fun_induction FileRoutes.landing route cursor segments level generalizing base run above with
  | case1 cursor level =>
      rw [List.append_nil] at whole
      refine ⟨[], _, rfl, rfl, ?_, ?_, .cons ⟨whole.symm, ?_, reached.here.path, ?_⟩ rfl .nil⟩
      · rw [List.append_nil, reached.passed, whole]
        rfl
      · rw [List.append_nil]
        exact reached.first
      · exact reached.here.name.trans (congrArg rowName whole)
      · rw [reached.here.bracket, List.take_nil, List.append_nil]
  | case2 cursor segment later level draft children found inductionHypothesis =>
      -- The route goes down: the run starts afresh below the draft's row.
      have ungroupedHere := whole.symm ▸ ungrouped
      have below := reached.descend nest distinct ungroupedHere found
      rw [List.append_cons] at whole
      rcases inductionHypothesis below (by rw [List.append_nil, whole]) with
        ⟨front, last, lands, isRoute, along, firsts, fitting⟩
      rw [List.append_assoc, List.singleton_append] at along firsts
      refine ⟨draft :: front, last, congrArg (draft :: ·) lands, isRoute, along, firsts, ?_⟩
      rcases Forest.of_find?_eq_some found with ⟨leads, root, -⟩
      have same := ((reached.leadsTo_iff nest distinct ungroupedHere root).mp leads).1
      have isTrail := (reached.trails [draft] (List.cons_ne_nil _ _)).mp root
      cases reached.onward _ (nest.fitting _ isTrail) with
      | cons fits isBase _ => exact .cons fits isBase (same ▸ fitting)
  | case3 cursor segment later level missing inductionHypothesis =>
      -- The route stays: no row was missed, since the longer run is not an open one.
      have ungroupedHere := whole.symm ▸ ungrouped
      have absent := reached.not_mem_of_find?_eq_none nest distinct ungroupedHere missing
      apply inductionHypothesis (reached.pass ungroupedHere absent)
      rw [← whole]
      simp

/-! ## Placing routes -/

/-- What a step keeps: the new route stands below the open rows that it goes on from, and no row
goes on from its own. -/
theorem Nest.place {route : FlatRoute} (nest : Nest placed drafts)
    (distinct : Distinct (placed ++ [route]))
    (apart : ∀ row ∈ rowsOf placed, route.row <+: row → route.row = row) :
    Nest (placed ++ [route]) (FileRoutes.place drafts route) := by
  have isNew : route ∈ placed ++ [route] := List.mem_append_right _ (List.mem_singleton_self _)
  have absent : route ∉ placed := fun listed =>
    (List.nodup_append.mp distinct.unique).2.2 route listed route (List.mem_singleton_self _) rfl
  have stillFirst {upper : Draft} (isDraft : upper ∈ drafts.preorder)
      (isFirst : IsFirst placed upper.route) : IsFirst (placed ++ [route]) upper.route :=
    (isFirst_concat_iff (nest.route_mem isDraft) route).mpr isFirst
  have trails := trails_place drafts route
  rcases nest.landing distinct.front (distinct.ungrouped route isNew)
    (nest.reached distinct.front route.segments) (List.nil_append route.segments) with
    ⟨front, last, lands, rfl, along, firsts, fitting⟩
  rw [List.nil_append] at along firsts
  rw [lands] at trails
  exact
    { routes := by
        have order := (preorder_place drafts last.route).trans (nest.routes.cons _)
        exact order.trans (List.perm_append_singleton _ _).symm
      ancestors := by
        intro above draft listed
        rcases List.mem_cons.mp (trails.mem_iff.mp listed) with new | old
        · rcases List.append_inj' new rfl with ⟨rfl, sameLast⟩
          rw [(List.cons.inj sameLast).1, Draft.rowsAbove_concat_self absent]
          refine ⟨along, fun upper isUpper => ?_⟩
          rcases firsts upper isUpper with ⟨isDraft, isFirst⟩
          exact stillFirst isDraft isFirst
        · have isDraft := draft_mem old
          rcases nest.ancestors above draft old with ⟨alongOld, firstsOld⟩
          rw [Draft.rowsAbove_concat (nest.route_mem isDraft) (apart _ (nest.row_mem isDraft))]
          refine ⟨alongOld, fun upper isUpper => ?_⟩
          have inTrail := Forest.mem_preorder_of_mem_trails old (List.mem_append_left _ isUpper)
          exact stillFirst inTrail (firstsOld upper isUpper)
      fitting := by
        intro trail listed
        rcases List.mem_cons.mp (trails.mem_iff.mp listed) with rfl | old
        · exact fitting
        · exact nest.fitting trail old }

/-- What a run keeps, when no route comes after one that goes on from it. -/
theorem Nest.foldl_place {routes : List FlatRoute} (nest : Nest placed drafts)
    (distinct : Distinct (placed ++ routes))
    (apart : (rowsOf (placed ++ routes)).Pairwise fun earlier later =>
      later <+: earlier → later = earlier) :
    Nest (placed ++ routes) (routes.foldl FileRoutes.place drafts) := by
  induction routes generalizing placed drafts with
  | nil =>
      rw [List.append_nil]
      exact nest
  | cons route later inductionHypothesis =>
      rw [List.append_cons] at distinct apart ⊢
      have here : (rowsOf placed ++ [route.row]).Pairwise fun earlier later =>
          later <+: earlier → later = earlier := by
        rw [rowsOf_append] at apart
        exact rowsOf_append placed [route] ▸ (List.pairwise_append.mp apart).1
      have before := (List.pairwise_append.mp here).2.2
      have next := nest.place distinct.front fun row listed =>
        before row listed _ (List.mem_singleton_self _)
      exact inductionHypothesis next distinct apart

/-! ## What a trail shows -/

section

variable {row : List Look}

/-- Above the draft of a route stands the draft of another one that it goes on from, if and only if
that route is the first with its row and the row is open. -/
theorem Nest.exists_above_iff (nest : Nest placed drafts)
    (listed : above ++ [draft] ∈ drafts.trails) {route : FlatRoute} (isRoute : route ∈ placed)
    (begins : route.row <+: draft.row) (differs : route.row ≠ draft.row) :
    (∃ upper ∈ above, upper.route = route) ↔
      IsFirst placed route ∧ IsOpen (rowsOf placed) route.row := by
  rcases nest.ancestors above draft listed with ⟨along, firsts⟩
  constructor
  · rintro ⟨upper, isUpper, rfl⟩
    have isAbove : upper.row ∈ above.map Draft.row := List.mem_map_of_mem isUpper
    rw [along] at isAbove
    have opened := (mem_prefixesIn_iff.mp isAbove).2
    exact ⟨firsts upper isUpper, (mem_openRows_iff.mp opened).2⟩
  · rintro ⟨isFirst, isOpen⟩
    have opened := mem_openRows_iff.mpr ⟨List.mem_map_of_mem isRoute, isOpen⟩
    have isAbove : route.row ∈ above.map Draft.row := by
      rw [along]
      exact mem_prefixesIn_iff.mpr ⟨Draft.prefix_reach begins differs, opened⟩
    rcases List.mem_map.mp isAbove with ⟨upper, isUpper, same⟩
    exact ⟨upper, isUpper, (firsts upper isUpper).eq_of_row isFirst same⟩

/-- Above the first draft with its row stand the open rows that it goes on from. -/
theorem Nest.mem_above_iff (nest : Nest placed drafts)
    (listed : above ++ [draft] ∈ drafts.trails) (isFirst : IsFirst placed draft.route) :
    row ∈ above.map Draft.row ↔
      row <+: draft.row ∧ row ≠ draft.row ∧ row ∈ rowsOf placed ∧ IsOpen (rowsOf placed) row := by
  rw [(nest.ancestors above draft listed).1, Draft.rowsAbove_of_isFirst isFirst,
    mem_prefixesIn_iff, prefix_dropLast_iff draft.row_ne_nil, mem_openRows_iff, and_assoc]

/-- The last of them is the longest. -/
theorem Nest.length_le (nest : Nest placed drafts) {parent : Draft}
    (listed : above ++ [parent] ++ [draft] ∈ drafts.trails)
    (isAbove : row ∈ (above ++ [parent]).map Draft.row) : row.length ≤ parent.row.length := by
  have longest := getLast?_prefixesIn (openRows (rowsOf placed)) (draft.reach placed)
  rw [← Draft.rowsAbove, ← (nest.ancestors _ draft listed).1, List.map_append,
    List.map_singleton, List.getLast?_concat, Option.getD_some] at longest
  rw [List.map_append, List.map_singleton] at isAbove
  exact longest.2 row isAbove

end

end FileRoutes
