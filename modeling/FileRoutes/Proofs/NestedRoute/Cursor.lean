import FileRoutes.Proofs.NestedRoute.InnerCatchalls
import FileRoutes.Proofs.NestedRoute.RowLook

/-!
# A cursor knows where it is

A cursor carries the names of all segments that a route has passed, and the path of those since the
last draft that it went down into.  So does a draft, and without groups that is enough: a route goes
down into a draft that looks like the segments it has passed, unless a square bracket is left in the
draft's path.
-/

namespace FileRoutes

open RoutePath

def Draft.segments (draft : Draft) : List Segment :=
  draft.route.segments

/-- What shows of the segments of a route. -/
def FlatRoute.row (route : FlatRoute) : List Look :=
  route.segments.map Segment.look

def Draft.row (draft : Draft) : List Look :=
  draft.segments.map Segment.look

/-- A draft stands below a row of segments, with the names of all its segments and the path of the
others. -/
structure Draft.FitsBelow (draft : Draft) (base run : List Segment) : Prop where
  segments : draft.segments = base ++ run
  name : draft.name = rowName draft.segments
  path : Spells run draft.path
  bracket : '[' ∈ draft.path ↔ innerCatchalls (run.map Segment.look) ≠ []

/-- A cursor has passed some segments since the row that it has come to, and is to go on with
others. -/
structure Cursor.At (cursor : Cursor) (base run later : List Segment) : Prop where
  name : cursor.name = rowName (base ++ run)
  path : Spells run cursor.path
  bracket : '[' ∈ cursor.path ↔ innerCatchalls ((run ++ later.take 1).map Segment.look) ≠ []

theorem RoutePath.Unifies.eq_of_not_mem {path unified : Text} (unifies : Unifies path unified)
    (free : '[' ∉ path) : path = unified := by
  have same := (Unifies.of_not_mem free).unifyCatchalls_eq
  rw [unifies.unifyCatchalls_eq] at same
  exact same.symm

namespace Cursor.At

variable {cursor : Cursor} {base run later : List Segment} {segment : Segment}

theorem start (later : List Segment) : At {} [] [] later where
  name := rfl
  path := .nil
  bracket := by cases later <;> simp [innerCatchalls]

theorem descend (here : cursor.At base run (segment :: later)) :
    At (cursor.descend segment) (base ++ run ++ [segment]) [] later where
  name := by
    rw [List.append_nil, rowName_concat, ← here.name]
    rfl
  path := .nil
  bracket := (start later).bracket

theorem pass (here : cursor.At base run (segment :: later))
    (ungrouped : Ungrouped (base ++ run ++ segment :: later)) :
    At (cursor.pass segment (goesOn later)) base (run ++ [segment]) later where
  name := by
    rw [cursor.name_pass, here.name, ← List.append_assoc, rowName_concat]
  path := by
    rw [List.append_assoc] at ungrouped
    exact here.path.pass ungrouped.tail.toOrderly (goesOn later)
  bracket := by
    have before : '[' ∈ cursor.path ↔
        innerCatchalls (run.map Segment.look ++ [segment.look]) ≠ [] := by
      rw [here.bracket, List.take_succ_cons, List.take_zero, List.map_append, List.map_singleton]
    by_cases isIndex : segment = Segment.index
    · subst isIndex
      have ends : later = [] := ungrouped.tail.toOrderly.eq_nil_of_index
      subst ends
      rw [cursor.path_pass_index, List.take_nil, List.append_nil, List.map_append,
        List.map_singleton, ← before]
      split
      · next empty => simp [empty]
      · rfl
    · have listed : segment ∈ base ++ run ++ segment :: later :=
        List.mem_append_right _ List.mem_cons_self
      have readable := ((ungrouped.each segment listed).1.readable isIndex).2
      have added := Segment.bracket_mem_routeSyntax_iff readable.each (goesOn later)
      rw [cursor.path_pass isIndex, List.mem_append, List.mem_cons, added, before]
      cases later with
      | nil => simp [goesOn]
      | cons next more =>
          have extended := innerCatchalls_concat_concat (run.map Segment.look) segment.look next.look
          have row : (run ++ [segment] ++ (next :: more).take 1).map Segment.look =
              run.map Segment.look ++ [segment.look, next.look] := by simp
          rw [row, extended]
          simp [goesOn, imp_iff_not_or]

/-- A route goes down into a draft if and only if the draft looks like the segments that the route
has passed, and keeps no catch-all with its inner spelling. -/
theorem leadsTo_iff (here : cursor.At base run (segment :: later))
    (ungrouped : Ungrouped (base ++ run ++ segment :: later)) {draft : Draft}
    {front below : List Segment} (fits : draft.FitsBelow front below)
    (sameBase : front.map Segment.look = base.map Segment.look)
    (ungroupedToo : Ungrouped draft.segments) :
    cursor.leadsTo segment (goesOn later) draft = true ↔
      draft.row = (base ++ run ++ [segment]).map Segment.look ∧ '[' ∉ draft.path := by
  have whole : Ungrouped (base ++ (run ++ [segment])) := by
    rw [List.append_cons, List.append_assoc base] at ungrouped
    exact ungrouped.front
  have isName : extendName cursor.name segment = rowName (base ++ run ++ [segment]) := by
    rw [here.name, rowName_concat]
  have unifies : Unifies (rooted (join cursor.path ('/' :: segment.routeSyntax (goesOn later))))
      (wholeTrace (run ++ [segment])) := by
    rw [List.append_assoc] at ungrouped
    exact (here.path.rooted_join ungrouped.tail.toOrderly (goesOn later)).unifies_wholeTrace
  rw [Cursor.leadsTo, isName, unifies.unifyCatchalls_eq, Bool.and_eq_true, decide_eq_true_iff, decide_eq_true_iff,
    fits.name, Draft.row]
  rw [fits.segments] at ungroupedToo ⊢
  constructor
  · rintro ⟨names, path⟩
    have free : '[' ∉ draft.path := path ▸ unifies.not_mem
    refine ⟨?_, free⟩
    -- The paths are those of the runs only, but what is above the runs looks alike.
    have runs : trace below = trace (run ++ [segment]) := by
      apply ungroupedToo.tail.toOrderly.trace_eq_of_wholeTrace_eq whole.tail.toOrderly
      rw [← fits.path.unifies_wholeTrace.eq_of_not_mem free, path]
    rw [List.append_assoc] at names ⊢
    apply ungroupedToo.map_look_eq whole names
    rw [trace_append, trace_append, trace_eq_of_map_look_eq sameBase, runs]
  · rintro ⟨looks, free⟩
    refine ⟨rowName_eq_of_map_look_eq looks, ?_⟩
    rw [List.append_assoc, List.map_append, List.map_append, sameBase] at looks
    rw [fits.path.unifies_wholeTrace.eq_of_not_mem free]
    exact wholeTrace_eq_of_map_look_eq (List.append_cancel_left looks)

end Cursor.At
end FileRoutes
