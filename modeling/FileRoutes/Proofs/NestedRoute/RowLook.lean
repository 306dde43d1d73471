import FileRoutes.Proofs.NestedRoute.Conservation
import FileRoutes.Proofs.NestedRoute.JoinedPath
import FileRoutes.Proofs.NestedRoute.Look
import Mathlib.Data.Nat.ModEq

/-!
# What shows of rows of segments

The path of a row of segments shows the tokens of all its segments but the index page, and its name
shows what the path does not.  Empty names at the front do not count in the name of a row, so the
number of segments has to be known before the names can be told apart.  Here the path helps again:
it leaves open only whether an index page comes last, and that would make the name longer by other
letters than those of a catch-all's name.
-/

namespace FileRoutes

open RoutePath

/-- The names of segments with slashes between them, as a route on its way down takes them up. -/
def rowName (segments : List Segment) : Text :=
  segments.foldl extendName []

theorem rowName_concat (segments : List Segment) (segment : Segment) :
    rowName (segments ++ [segment]) = extendName (rowName segments) segment :=
  List.foldl_concat ..

/-- The name of a row depends on its look only. -/
theorem rowName_eq_of_map_look_eq {first second : List Segment}
    (same : first.map Segment.look = second.map Segment.look) :
    rowName first = rowName second := by
  have names := congrArg (List.map Look.name) same
  rw [List.map_map, List.map_map] at names
  have sameNames : first.map Segment.routeName = second.map Segment.routeName := names
  rw [rowName, rowName, foldl_extendName, foldl_extendName, sameNames]

/-- So does the path. -/
theorem trace_eq_of_map_look_eq {first second : List Segment}
    (same : first.map Segment.look = second.map Segment.look) : trace first = trace second := by
  induction first generalizing second with
  | nil => rw [List.map_eq_nil_iff.mp same.symm]
  | cons segment later inductionHypothesis =>
      rcases List.map_eq_cons_iff.mp same.symm with ⟨other, more, rfl, sameLook, sameLooks⟩
      have isIndex := Segment.eq_index_iff_of_look_eq sameLook
      have onward := inductionHypothesis sameLooks.symm
      by_cases page : other = Segment.index
      · rw [page, isIndex.mp page]
        exact onward
      · rw [trace_cons page, trace_cons (mt isIndex.mpr page),
          Segment.routeSyntax_eq_of_look_eq sameLook, onward]

/-- What looks like the index page is the index page. -/
theorem eq_page_of_map_look_eq {first second : List Segment}
    (same : first.map Segment.look = second.map Segment.look) (page : first = [Segment.index]) :
    second = [Segment.index] := by
  subst page
  rcases List.map_eq_singleton_iff.mp same.symm with ⟨other, rfl, sameLook⟩
  rw [(Segment.eq_index_iff_of_look_eq sameLook).mpr rfl]

theorem wholeTrace_eq_of_map_look_eq {first second : List Segment}
    (same : first.map Segment.look = second.map Segment.look) :
    wholeTrace first = wholeTrace second := by
  have isPage : first = [Segment.index] ↔ second = [Segment.index] :=
    ⟨eq_page_of_map_look_eq same, eq_page_of_map_look_eq same.symm⟩
  simp only [wholeTrace, isPage, trace_eq_of_map_look_eq same]

theorem Orderly.trace_ne_slash {segments : List Segment} (orderly : Orderly segments) :
    trace segments ≠ ['/'] := by
  cases segments with
  | nil => exact nofun
  | cons segment later =>
      by_cases isIndex : segment = Segment.index
      · subst isIndex
        rw [orderly.eq_nil_of_index]
        exact nofun
      · rcases orderly.each segment List.mem_cons_self with ⟨ofName, visible⟩
        have nonempty := ofName.routeSyntax_ne_nil isIndex visible false
        rw [trace_cons isIndex]
        intro same
        exact nonempty (List.append_eq_nil_iff.mp (List.cons.inj same).2).1

theorem Orderly.trace_eq_of_wholeTrace_eq {first second : List Segment} (orderly : Orderly first)
    (orderlyToo : Orderly second) (same : wholeTrace first = wholeTrace second) :
    trace first = trace second := by
  unfold wholeTrace at same
  split at same
  · next page =>
    split at same
    · next pageToo => rw [page, pageToo]
    · exact absurd same.symm orderlyToo.trace_ne_slash
  · split at same
    · exact absurd same orderly.trace_ne_slash
    · exact same

/-- The segments of a name without groups. -/
structure Ungrouped (segments : List Segment) : Prop extends Orderly segments where
  ungrouped : ∀ segment ∈ segments, ∀ token ∈ segment, token.isGroup = false

namespace Ungrouped

variable {first second segments later : List Segment} {segment : Segment}

theorem front (ungrouped : Ungrouped (first ++ second)) : Ungrouped first where
  toOrderly := ungrouped.toOrderly.front
  ungrouped segment listed := ungrouped.ungrouped segment (List.mem_append_left _ listed)

theorem tail (ungrouped : Ungrouped (first ++ second)) : Ungrouped second where
  toOrderly := ungrouped.toOrderly.tail
  ungrouped segment listed := ungrouped.ungrouped segment (List.mem_append_right _ listed)

theorem tail_cons (ungrouped : Ungrouped (segment :: later)) : Ungrouped later :=
  @tail [segment] later ungrouped

theorem showing (ungrouped : Ungrouped segments) (listed : segment ∈ segments)
    (other : segment ≠ Segment.index) : segment.Showing := by
  have ofName := (ungrouped.each segment listed).1
  exact ⟨(ofName.readable other).2, ungrouped.ungrouped segment listed,
    fun _ => ofName.slash_not_mem_value⟩

end Ungrouped

/-! ## What a path shows -/

/-- The segments that leave a trace in a path. -/
def body (segments : List Segment) : List Segment :=
  segments.filter (!·.isIndex)

theorem eq_slash_of_mem_head?_trace (segments : List Segment) :
    ∀ c ∈ (trace segments).head?, c = '/' := by
  induction segments with
  | nil => exact nofun
  | cons segment later inductionHypothesis =>
      intro c first
      by_cases isIndex : segment = Segment.index
      · subst isIndex
        exact inductionHypothesis c first
      · rw [trace_cons isIndex] at first
        exact (Option.some.inj first).symm

theorem body_index : body [Segment.index] = [] := rfl

theorem body_cons {segment : Segment} (other : segment ≠ Segment.index) (later : List Segment) :
    body (segment :: later) = segment :: body later :=
  List.filter_cons_of_pos (by simp [Segment.isIndex, other])

namespace Ungrouped

variable {first second segments later : List Segment} {segment : Segment}

/-- The index page comes last, if it is there. -/
theorem eq_body_or (ungrouped : Ungrouped segments) :
    segments = body segments ∨ segments = body segments ++ [Segment.index] := by
  induction segments with
  | nil => exact .inl rfl
  | cons segment later inductionHypothesis =>
      by_cases isIndex : segment = Segment.index
      · subst isIndex
        rw [ungrouped.toOrderly.eq_nil_of_index]
        exact .inr rfl
      · rw [body_cons isIndex]
        exact (inductionHypothesis ungrouped.tail_cons).imp (congrArg (segment :: ·))
          (congrArg (segment :: ·))

theorem trace_eq_nil_iff (ungrouped : Ungrouped segments) :
    trace segments = [] ↔ body segments = [] := by
  cases segments with
  | nil => exact iff_of_true rfl rfl
  | cons segment later =>
      by_cases isIndex : segment = Segment.index
      · subst isIndex
        rw [ungrouped.toOrderly.eq_nil_of_index]
        exact iff_of_true rfl rfl
      · rw [trace_cons isIndex, body_cons isIndex]
        exact iff_of_false (List.cons_ne_nil _ _) (List.cons_ne_nil _ _)

/-- A path shows the tokens of all segments that leave a trace in it. -/
theorem map_shown_body_eq (ungrouped : Ungrouped first) (ungroupedToo : Ungrouped second)
    (paths : trace first = trace second) :
    (body first).map (List.map Token.shown) = (body second).map (List.map Token.shown) := by
  have nothing {segments others : List Segment} (ungrouped : Ungrouped segments)
      (ungroupedToo : Ungrouped others) (bodiless : body segments = [])
      (paths : trace segments = trace others) :
      (body segments).map (List.map Token.shown) = (body others).map (List.map Token.shown) := by
    rw [ungrouped.trace_eq_nil_iff.mpr bodiless] at paths
    rw [bodiless, ungroupedToo.trace_eq_nil_iff.mp paths.symm]
  induction first generalizing second with
  | nil => exact nothing ungrouped ungroupedToo rfl paths
  | cons segment later inductionHypothesis =>
      by_cases isIndex : segment = Segment.index
      · subst isIndex
        apply nothing ungrouped ungroupedToo _ paths
        rw [ungrouped.toOrderly.eq_nil_of_index, body_index]
      · cases second with
        | nil => exact (nothing ungroupedToo ungrouped rfl paths.symm).symm
        | cons other more =>
            by_cases otherIndex : other = Segment.index
            · subst otherIndex
              refine (nothing ungroupedToo ungrouped ?_ paths.symm).symm
              rw [ungroupedToo.toOrderly.eq_nil_of_index, body_index]
            · rw [trace_cons isIndex, trace_cons otherIndex] at paths
              have showing := ungrouped.showing List.mem_cons_self isIndex
              have showingToo := ungroupedToo.showing List.mem_cons_self otherIndex
              rcases showing.map_shown_eq showingToo (eq_slash_of_mem_head?_trace later)
                (eq_slash_of_mem_head?_trace more) (List.cons.inj paths).2 with ⟨tokens, onward⟩
              rw [body_cons isIndex, body_cons otherIndex, List.map_cons, List.map_cons, tokens,
                inductionHypothesis ungrouped.tail_cons ungroupedToo.tail_cons onward]

end Ungrouped

/-! ## What a name shows -/

namespace Text

theorem eq_replicate_append_dropWhile (parts : List Text) :
    parts = List.replicate (parts.length - (parts.dropWhile (· = [])).length) [] ++
      parts.dropWhile (· = []) := by
  induction parts with
  | nil => rfl
  | cons part later inductionHypothesis =>
      by_cases empty : part = []
      · subst empty
        have shorter := (List.dropWhile_suffix (l := later) (· = [])).length_le
        rw [List.dropWhile_cons_of_pos (by simp), List.length_cons, Nat.succ_sub shorter,
          List.replicate_succ, List.cons_append, ← inductionHypothesis]
      · rw [List.dropWhile_cons_of_neg (by simp [empty]), Nat.sub_self]
        rfl

/-- The parts are told apart by what is left of them behind the empty ones in front, once their
number is known. -/
theorem eq_of_slashed_dropWhile {parts others : List Text} (free : ∀ part ∈ parts, '/' ∉ part)
    (freeToo : ∀ part ∈ others, '/' ∉ part) (length : parts.length = others.length)
    (same : slashed (parts.dropWhile (· = [])) = slashed (others.dropWhile (· = []))) :
    parts = others := by
  have kept {parts : List Text} (free : ∀ part ∈ parts, '/' ∉ part) :
      (∀ part ∈ parts.dropWhile (· = []), '/' ∉ part) ∧
        ∀ part ∈ (parts.dropWhile (· = [])).head?, part ≠ [] := by
    refine ⟨fun part listed => free part ((List.dropWhile_suffix _).mem listed), ?_⟩
    intro part first
    have stops := List.head?_dropWhile_not (· = []) parts
    rw [Option.mem_def.mp first] at stops
    exact of_decide_eq_false stops
  have behind := eq_of_slashed_of_head? (kept free).1 (kept free).2 (kept freeToo).1
    (kept freeToo).2 same
  rw [eq_replicate_append_dropWhile parts, eq_replicate_append_dropWhile others, behind, length]

/-- The number of characters other than slashes. -/
def letters (text : Text) : Nat :=
  text.countP (· ≠ '/')

theorem letters_append (text more : Text) : letters (text ++ more) = letters text + letters more :=
  List.countP_append

end Text

open Text (letters letters_append)

theorem letters_rowName (segments : List Segment) :
    letters (rowName segments) = (segments.map fun segment => letters segment.routeName).sum := by
  have extended (name : Text) (segment : Segment) :
      letters (extendName name segment) = letters name + letters segment.routeName := by
    unfold extendName
    split
    · next empty =>
      subst empty
      exact (Nat.zero_add _).symm
    · exact letters_append name _
  induction segments using List.reverseRecOn with
  | nil => rfl
  | append_singleton earlier segment inductionHypothesis =>
      rw [rowName_concat, extended, inductionHypothesis, List.map_append, List.sum_append,
        List.map_singleton, List.sum_singleton]

/-- The name that is supplied to a catch-all has nine letters. -/
theorem Segment.letters_shown (segment : Segment) :
    letters ((segment.map Token.shown).flatMap Token.value) ≡ letters (segment.flatMap Token.value)
      [MOD 9] := by
  have supplied (name : Text) : letters (catchallName name) ≡ letters name [MOD 9] := by
    unfold catchallName
    split
    · next empty =>
      subst empty
      decide
    · rfl
  induction segment with
  | nil => rfl
  | cons token later inductionHypothesis =>
      rw [List.map_cons, List.flatMap_cons, List.flatMap_cons, letters_append, letters_append]
      apply Nat.ModEq.add _ inductionHypothesis
      cases token with
      | literal text => rfl
      | group name => rfl
      | parameter kind name =>
          cases kind with
          | catchall => exact supplied name
          | dynamic | optional | repeatable | optionalRepeatable => rfl

namespace Ungrouped

variable {first second segments : List Segment}

theorem body (ungrouped : Ungrouped segments) : Ungrouped (FileRoutes.body segments) := by
  rcases ungrouped.eq_body_or with whole | whole
  · rwa [← whole]
  · rw [whole] at ungrouped
    exact ungrouped.front

theorem index_not_mem_body (segments : List Segment) : Segment.index ∉ FileRoutes.body segments := by
  intro listed
  exact absurd (List.mem_filter.mp listed).2 (by decide)

/-- The letters of a name fit the path. -/
theorem letters_rowName_body (ungrouped : Ungrouped segments) :
    letters (rowName (FileRoutes.body segments)) ≡
      (((FileRoutes.body segments).map (List.map Token.shown)).map fun tokens =>
        letters (tokens.flatMap Token.value)).sum [MOD 9] := by
  have ungroupedBody := ungrouped.body
  have free := index_not_mem_body segments
  generalize FileRoutes.body segments = row at ungroupedBody free
  rw [letters_rowName]
  induction row with
  | nil => rfl
  | cons segment later inductionHypothesis =>
      rw [List.map_cons, List.map_cons, List.map_cons, List.sum_cons, List.sum_cons]
      apply Nat.ModEq.add _ (inductionHypothesis ungroupedBody.tail_cons
        (List.not_mem_of_not_mem_cons free))
      rw [Segment.routeName_of_ne_index (Ne.symm (List.ne_of_not_mem_cons free))
        (ungroupedBody.ungrouped segment List.mem_cons_self)]
      exact segment.letters_shown.symm

/-- The index page makes the name longer, and not by the letters that a path hides. -/
theorem rowName_body_concat_ne (ungrouped : Ungrouped first) (ungroupedToo : Ungrouped second)
    (shown : (FileRoutes.body first).map (List.map Token.shown) =
      (FileRoutes.body second).map (List.map Token.shown)) :
    rowName (FileRoutes.body first ++ [Segment.index]) ≠ rowName (FileRoutes.body second) := by
  intro same
  have longer := congrArg letters same
  rw [letters_rowName, List.map_append, List.sum_append, ← letters_rowName] at longer
  have five : ([Segment.index].map fun segment => letters segment.routeName).sum = 5 := by decide
  have fits := ungrouped.letters_rowName_body
  rw [shown] at fits
  have remains := fits.trans ungroupedToo.letters_rowName_body.symm
  unfold Nat.ModEq at remains
  omega

/-- Rows of segments that share their name and their path look alike. -/
theorem map_look_eq (ungrouped : Ungrouped first) (ungroupedToo : Ungrouped second)
    (names : rowName first = rowName second) (paths : trace first = trace second) :
    first.map Segment.look = second.map Segment.look := by
  have shown := ungrouped.map_shown_body_eq ungroupedToo paths
  -- What the path leaves open is whether an index page comes last, and here the name decides.
  have sameShown : first.map (List.map Token.shown) = second.map (List.map Token.shown) := by
    rcases ungrouped.eq_body_or with whole | whole <;>
      rcases ungroupedToo.eq_body_or with wholeToo | wholeToo
    · rw [whole, wholeToo, shown]
    · rw [whole, wholeToo] at names
      exact absurd names.symm (ungroupedToo.rowName_body_concat_ne ungrouped shown.symm)
    · rw [whole, wholeToo] at names
      exact absurd names (ungrouped.rowName_body_concat_ne ungroupedToo shown)
    · rw [whole, wholeToo, List.map_append, List.map_append, shown]
  have free {segments : List Segment} (ungrouped : Ungrouped segments) :
      ∀ name ∈ segments.map Segment.routeName, '/' ∉ name := by
    intro name listed
    rcases List.mem_map.mp listed with ⟨segment, isSegment, rfl⟩
    exact (ungrouped.each segment isSegment).1.slash_not_mem_routeName
  have length : first.length = second.length := by
    simpa using congrArg List.length sameShown
  have sameNames : first.map Segment.routeName = second.map Segment.routeName := by
    rw [rowName, rowName, foldl_extendName, foldl_extendName] at names
    exact Text.eq_of_slashed_dropWhile (free ungrouped) (free ungroupedToo) (by simpa) names
  apply List.ext_getElem (by simpa)
  intro i inFirst inSecond
  rw [List.length_map] at inFirst inSecond
  have name := List.getElem_of_eq sameNames (by simpa : i < _)
  have tokens := List.getElem_of_eq sameShown (by simpa : i < _)
  rw [List.getElem_map, List.getElem_map] at name tokens ⊢
  exact congrArg₂ Look.mk name tokens

end Ungrouped

end FileRoutes
