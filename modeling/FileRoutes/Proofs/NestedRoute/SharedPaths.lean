import FileRoutes.Proofs.PagePath.Ungrouped
import FileRoutes.Proofs.Segment.Image

/-!
# Which rows of segments share a path

A path shows the segments that it was made of, as long as no literal text in them holds a slash:
text with a slash looks in a path like two segments.  What it does not show is whether a catch-all
has no name or bears the one that is supplied.  The spelling of a catch-all depends on what follows it, so
paths are compared after all catch-alls have been spelled alike.
-/

namespace FileRoutes

open RoutePath

/-! ## Segments without slashes -/

namespace Segment

/-- The guard against a catch-all that takes a plus sign adds plus signs only. -/
theorem slash_not_mem_spelling_guarded {segment : Segment}
    (free : ∀ token ∈ segment, '/' ∉ token.value) : '/' ∉ segment.guarded.spelling := by
  have first {token : Token} (free : '/' ∉ token.value) : '/' ∉ token.spelling :=
    Token.slash_not_mem_spelling free
  induction segment using guarded.induct with
  | case1 => exact List.not_mem_nil
  | case2 name rest later inductionHypothesis =>
      rcases List.forall_mem_cons.mp free with ⟨catchall, others⟩
      rcases List.forall_mem_cons.mp others with ⟨plus, onward⟩
      have more : '/' ∉ '+' :: '+' :: rest :=
        List.not_mem_cons_of_ne_of_not_mem (by decide) plus
      rw [guarded, spelling_cons, spelling_cons, List.mem_append, List.mem_append, not_or, not_or]
      exact ⟨first catchall, more, inductionHypothesis onward⟩
  | case3 token later other inductionHypothesis =>
      rcases List.forall_mem_cons.mp free with ⟨here, onward⟩
      rw [guarded_cons other, spelling_cons, List.mem_append, not_or]
      exact ⟨first here, inductionHypothesis onward⟩

/-- A segment that holds no slash could have been read from text without slashes. -/
theorem ofName_of_read {text : Text} {segment : Segment} (taken : read text = .ok segment)
    (free : ∀ token ∈ segment, '/' ∉ token.value) : segment.OfName :=
  ⟨segment.guarded.spelling, slash_not_mem_spelling_guarded free,
    read_spelling_guarded (canonical_of_read taken)⟩

/-- Only literal text and groups can hold a slash. -/
theorem slash_not_mem_value_of_read {text : Text} {segment : Segment}
    (taken : read text = .ok segment) (ungrouped : ∀ token ∈ segment, token.isGroup = false)
    (free : ∀ text, Token.literal text ∈ segment → '/' ∉ text) :
    ∀ token ∈ segment, '/' ∉ token.value := by
  intro token listed
  rcases canonical_of_read taken with rfl | ⟨-, -, readable⟩
  · rw [List.mem_singleton.mp listed]
    exact List.not_mem_nil
  · cases token with
    | literal text => exact free text listed
    | group name => exact absurd (ungrouped _ listed) nofun
    | parameter kind name =>
        intro inside
        exact absurd ((readable.each _ listed).1 '/' inside) (by decide)

end Segment

/-! ## Paths -/

namespace RoutePath

/-- A path depends on what shows of its segments. -/
theorem parts_map_shown (segments : List Segment) :
    parts (segments.map (List.map Token.shown)) = parts segments := by
  have isIndex (segment : Segment) :
      Segment.isIndex (segment.map Token.shown) = segment.isIndex :=
    decide_eq_decide.mpr Segment.map_shown_eq_index_iff
  induction segments with
  | nil => rfl
  | cons segment later inductionHypothesis =>
      have onward : goesOn (later.map (List.map Token.shown)) = goesOn later := by
        cases later with
        | nil => rfl
        | cons next rest => exact congrArg (!·) (isIndex next)
      rw [List.map_cons, parts, parts, isIndex, onward, segment.routeSyntax_map_shown,
        inductionHypothesis]

end RoutePath

theorem body_eq_self {segments : List Segment} (pageless : Segment.index ∉ segments) :
    body segments = segments := by
  apply List.filter_eq_self.mpr
  intro segment listed
  have other : segment ≠ Segment.index := ne_of_mem_of_not_mem listed pageless
  simp [Segment.isIndex, other]

/-- A row of segments as reading gives them, without groups, index pages and slashes. -/
theorem ungrouped_of_read {segments : List Segment}
    (each : ∀ segment ∈ segments, (∃ text, Segment.read text = .ok segment) ∧
      segment ≠ Segment.index ∧ ∀ token ∈ segment, token.isGroup = false)
    (free : ∀ segment ∈ segments, ∀ text, Token.literal text ∈ segment → '/' ∉ text) :
    Ungrouped segments where
  each segment listed := by
    rcases each segment listed with ⟨⟨text, taken⟩, other, ungrouped⟩
    have ofName := Segment.ofName_of_read taken
      (Segment.slash_not_mem_value_of_read taken ungrouped (free segment listed))
    exact ⟨ofName, Segment.isGroup_eq_false_of_ungrouped (ofName.readable other).1 ungrouped⟩
  indexLast listed := (each _ (List.mem_of_mem_dropLast listed)).2.1 rfl
  ungrouped segment listed := (each segment listed).2.2

namespace Ungrouped

variable {first second segments : List Segment}

theorem unifies_trace (ungrouped : Ungrouped segments) (pageless : Segment.index ∉ segments)
    (nonempty : segments ≠ []) : Unifies (ofSegments segments) (trace segments) := by
  have other : segments ≠ [Segment.index] := by
    rintro rfl
    exact pageless List.mem_cons_self
  have whole := unifies_ofSegments ungrouped.toOrderly nonempty
  rwa [wholeTrace, if_neg other] at whole

/-- The path of no segments is a lone slash, and no other path is. -/
theorem ofSegments_ne_slash (ungrouped : Ungrouped segments) (pageless : Segment.index ∉ segments)
    (nonempty : segments ≠ []) : ofSegments segments ≠ ['/'] := by
  intro same
  have unifies := ungrouped.unifies_trace pageless nonempty
  rw [same] at unifies
  have slash : Unifies ['/'] ['/'] := .of_not_mem (by decide)
  exact ungrouped.toOrderly.trace_ne_slash
    (unifies.unifyCatchalls_eq.symm.trans slash.unifyCatchalls_eq)

theorem map_shown_eq (ungrouped : Ungrouped first) (ungroupedToo : Ungrouped second)
    (pageless : Segment.index ∉ first) (pagelessToo : Segment.index ∉ second)
    (same : ofSegments first = ofSegments second) :
    first.map (List.map Token.shown) = second.map (List.map Token.shown) := by
  by_cases empty : first = [] <;> by_cases emptyToo : second = []
  · rw [empty, emptyToo]
  · rw [empty] at same
    exact absurd same.symm (ungroupedToo.ofSegments_ne_slash pagelessToo emptyToo)
  · rw [emptyToo] at same
    exact absurd same (ungrouped.ofSegments_ne_slash pageless empty)
  · have unifies := ungrouped.unifies_trace pageless empty
    rw [same] at unifies
    have traces : trace first = trace second := unifies.unifyCatchalls_eq.symm.trans
      (ungroupedToo.unifies_trace pagelessToo emptyToo).unifyCatchalls_eq
    have shown := ungrouped.map_shown_body_eq ungroupedToo traces
    rwa [body_eq_self pageless, body_eq_self pagelessToo] at shown

end Ungrouped

/-- Rows of segments without groups, index pages and slashes have one path if and only if they are
the same up to catch-alls that have no name in one row and the supplied name in the other. -/
theorem ofSegments_eq_iff {first second : List Segment}
    (each : ∀ segment ∈ first ++ second, (∃ text, Segment.read text = .ok segment) ∧
      segment ≠ Segment.index ∧ ∀ token ∈ segment, token.isGroup = false)
    (free : ∀ segment ∈ first ++ second, ∀ text, Token.literal text ∈ segment → '/' ∉ text) :
    ofSegments first = ofSegments second ↔
      first.map (List.map Token.shown) = second.map (List.map Token.shown) := by
  rw [List.forall_mem_append] at each free
  constructor
  · apply (ungrouped_of_read each.1 free.1).map_shown_eq (ungrouped_of_read each.2 free.2)
    · exact fun listed => (each.1 _ listed).2.1 rfl
    · exact fun listed => (each.2 _ listed).2.1 rfl
  · intro shown
    rw [ofSegments, ofSegments, ← parts_map_shown first, shown, parts_map_shown]

/-- A catch-all without a name shares its path with one that has the supplied name, and a plus sign
behind a parameter that repeats does not run into it. -/
theorem ofSegments_eq_of_supplied_name :
    let first : List Segment := [[.literal ['a', ':'], .parameter .catchall []],
      [.parameter .repeatable ['b'], .literal ['+']]]
    let second : List Segment := [[.literal ['a', ':'], .parameter .catchall "pathMatch".toList],
      [.parameter .repeatable ['b'], .literal ['+']]]
    (∀ segment ∈ first ++ second, ∃ text, Segment.read text = .ok segment) ∧
      ofSegments first = ofSegments second := by
  intro first second
  have taken : ∀ segment ∈ first ++ second,
      ∃ text ∈ ["a:[...]".toList, "a:[...pathMatch]".toList, "[b]++".toList],
        Segment.read text = .ok segment := by decide
  have readable (segment : Segment) (listed : segment ∈ first ++ second) :
      ∃ text, Segment.read text = .ok segment := by
    rcases taken segment listed with ⟨text, -, read⟩
    exact ⟨text, read⟩
  have visible : ∀ segment ∈ first ++ second,
      segment ≠ Segment.index ∧ ∀ token ∈ segment, token.isGroup = false := by decide
  have free : ∀ segment ∈ first ++ second, ∀ token ∈ segment, '/' ∉ token.value := by decide
  refine ⟨readable, (ofSegments_eq_iff ?_ ?_).mpr (by decide)⟩
  · exact fun segment listed => ⟨readable segment listed, visible segment listed⟩
  · exact fun segment listed text isToken => free segment listed _ isToken

/-- Literal text with a slash looks like two segments. -/
theorem not_map_shown_eq_of_slash :
    ¬∀ first second : List Segment,
      (∀ segment ∈ first ++ second, (∃ text, Segment.read text = .ok segment) ∧
        segment ≠ Segment.index ∧ ∀ token ∈ segment, token.isGroup = false) →
      ofSegments first = ofSegments second →
      first.map (List.map Token.shown) = second.map (List.map Token.shown) := by
  intro distinct
  let first : List Segment := [[.literal ['a', '/', 'b']]]
  let second : List Segment := [[.literal ['a']], [.literal ['b']]]
  have taken : ∀ segment ∈ first ++ second,
      ∃ text ∈ [['a', '/', 'b'], ['a'], ['b']], Segment.read text = .ok segment := by decide
  have visible : ∀ segment ∈ first ++ second,
      segment ≠ Segment.index ∧ ∀ token ∈ segment, token.isGroup = false := by decide
  have shown : first.map (List.map Token.shown) ≠ second.map (List.map Token.shown) := by decide
  apply shown
  apply distinct first second _ (by decide)
  intro segment listed
  rcases taken segment listed with ⟨text, -, read⟩
  exact ⟨⟨text, read⟩, visible segment listed⟩

end FileRoutes
