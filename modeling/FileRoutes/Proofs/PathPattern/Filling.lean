import FileRoutes.Proofs.PathPattern.Rendering

/-!
# Captures return what was filled in

A path that is made by filling in values may be a rendering of other values as well, so it matters
which ones are captured.  A capture takes the longest text with which the remaining parts still
match what follows.  After a dynamic parameter the path goes on with a slash or is at its end, and
a longer text would hold that slash.  After a repeatable one a longer text would leave fewer slashes
than the remaining segments need, if each of them is fixed text or takes one piece.  A catchall at
the end takes all there is, slashes at the end included.
-/

namespace FileRoutes

/-! ## The longest text that works -/

/-- Longer fronts are tried first, so one that works is taken if no longer one does. -/
theorem Text.findSome?_cuts {α : Type} {front back : Text} {attempt : Text × Text → Option α}
    {result : α} (here : attempt (front, back) = some result)
    (longer : ∀ more rest, more ≠ [] → more ++ rest = back → attempt (front ++ more, rest) = none) :
    (Text.cuts (front ++ back)).findSome? attempt = some result := by
  induction front generalizing attempt with
  | nil =>
      cases back with
      | nil =>
          rw [List.append_nil, cuts, List.findSome?_cons, here]
      | cons c rest =>
          have noLonger : ((cuts rest).map fun cut => (c :: cut.1, cut.2)).findSome? attempt =
              none := by
            apply List.findSome?_eq_none_iff.mpr
            intro cut listed
            rcases List.mem_map.mp listed with ⟨⟨more, tail⟩, isCut, rfl⟩
            exact longer (c :: more) tail (List.cons_ne_nil _ _)
              (congrArg (c :: ·) (mem_cuts.mp isCut))
          rw [List.nil_append, cuts, List.findSome?_append, noLonger, Option.none_or,
            List.findSome?_cons, here]
  | cons c front inductionHypothesis =>
      let attemptBehind (cut : Text × Text) : Option α := attempt (c :: cut.1, cut.2)
      have works : attemptBehind (front, back) = some result := here
      have onward := inductionHypothesis works longer
      rw [List.cons_append, cuts, List.findSome?_append, List.findSome?_map]
      exact congrArg (Option.or · _) onward

/-- A capture takes an admissible value if what is left by no longer one can be matched. -/
theorem matchPieces_capture {next : Text → Option Captures} {kind : ParameterKind}
    {name value tail : Text} {later : Captures} (admitted : kind.admits value = true)
    (onward : next tail = some later)
    (longer : ∀ more rest, more ≠ [] → more ++ rest = tail →
      kind.admits (value ++ more) = true → next rest = none) :
    matchPieces next [.capture kind name] (value ++ tail) = some ((name, value) :: later) := by
  rw [matchPieces]
  apply Text.findSome?_cuts
  · dsimp only
    rw [if_pos admitted, matchPieces, onward]
    rfl
  · intro more rest nonempty cut
    dsimp only
    split
    · next admits =>
      rw [matchPieces, longer more rest nonempty cut admits]
      rfl
    · rfl

/-! ## Filling in -/

/-- A segment of one token, which is fixed text or takes one piece of a path. -/
inductive Segment.IsSingle : Segment → Prop
  | literal (text : Text) : IsSingle [.literal text]
  | dynamic (name : Text) : IsSingle [.parameter .dynamic name]

/-- Segments that are fixed text or take one piece, and among them at most one that takes more: a
repeatable parameter anywhere, or a catchall at the end. -/
inductive IsFillable : List Segment → Prop
  | singles {segments} : (∀ segment ∈ segments, Segment.IsSingle segment) → IsFillable segments
  | repeatable {before after name} : (∀ segment ∈ before, Segment.IsSingle segment) →
      (∀ segment ∈ after, Segment.IsSingle segment) →
      IsFillable (before ++ [.parameter .repeatable name] :: after)
  | catchall {before name} : (∀ segment ∈ before, Segment.IsSingle segment) →
      IsFillable (before ++ [[.parameter .catchall name]])

/-- The path of segments with values filled in, each behind its slash. -/
def filledPath (values : Text → Text) (segments : List Segment) : Text :=
  segments.flatMap fun segment => '/' :: segment.filled values

/-- The values that were filled in, under the names of their parameters. -/
def filledValues (values : Text → Text) (segments : List Segment) : Captures :=
  (captureNames segments).map fun name => (name, values name)

variable {values : Text → Text} {segment : Segment} {segments before after : List Segment}

theorem filledPath_cons (values : Text → Text) (segment : Segment) (segments : List Segment) :
    filledPath values (segment :: segments) =
      '/' :: (segment.filled values ++ filledPath values segments) :=
  List.flatMap_cons

theorem filledValues_cons (values : Text → Text) (segment : Segment) (segments : List Segment) :
    filledValues values (segment :: segments) =
      filledValues values [segment] ++ filledValues values segments := by
  simp [filledValues, captureNames]

/-- The path goes on with a slash, or is at its end. -/
theorem slash_mem_of_filledPath {more rest : Text} (nonempty : more ≠ [])
    (cut : more ++ rest = filledPath values segments) : '/' ∈ more := by
  rcases List.exists_cons_of_ne_nil nonempty with ⟨c, others, rfl⟩
  cases segments with
  | nil => cases cut
  | cons segment later =>
      rw [filledPath_cons] at cut
      exact (List.cons.inj cut).1 ▸ List.mem_cons_self

/-! ## Segments that are fixed text or take one piece -/

theorem Segment.filled_singleton (values : Text → Text) (token : Token) :
    Segment.filled values [token] = token.filled values :=
  List.flatMap_singleton ..

/-- A segment that is seen and is fixed text or takes one piece, with an admissible value. -/
structure Segment.TakesOne (values : Text → Text) (segment : Segment) : Prop where
  single : segment.IsSingle
  visible : segment ≠ Segment.index
  admits : segment.Admits values

namespace Segment.TakesOne

theorem pieces_ne_nil (takesOne : segment.TakesOne values) : segment.pieces ≠ [] := by
  rcases takesOne with ⟨⟨text⟩ | ⟨name⟩, visible, -⟩
  · cases text with
    | nil => exact absurd rfl visible
    | cons c rest => exact List.cons_ne_nil _ _
  · exact List.cons_ne_nil _ _

theorem partsOf_cons (takesOne : segment.TakesOne values) (later : List Segment) :
    partsOf (segment :: later) = ⟨false, segment.pieces⟩ :: partsOf later := by
  rw [FileRoutes.partsOf_cons takesOne.pieces_ne_nil]
  cases takesOne.single <;> rfl

/-- Whatever it matches holds the slashes that it is filled with. -/
theorem count_le (takesOne : segment.TakesOne values) {body : Text} {own : Captures}
    (made : MatchesPieces segment.pieces body own) :
    (segment.filled values).count '/' ≤ body.count '/' := by
  rcases takesOne with ⟨⟨text⟩ | ⟨name⟩, visible, admits⟩
  · cases text with
    | nil => exact absurd rfl visible
    | cons c rest =>
        cases made with
        | literal made =>
            cases made
            exact Nat.le_refl _
  · have free := (admits .dynamic name List.mem_cons_self).2
    rw [filled_singleton]
    exact (List.count_eq_zero_of_not_mem free).trans_le (Nat.zero_le _)

/-- It is matched by what it is filled with, when this is followed by a slash or by nothing. -/
theorem matchPieces_filled (takesOne : segment.TakesOne values)
    {next : Text → Option Captures} {captures : Captures}
    (onward : next (filledPath values segments) = some captures) :
    matchPieces next segment.pieces (segment.filled values ++ filledPath values segments) =
      some (filledValues values [segment] ++ captures) := by
  rcases takesOne with ⟨⟨text⟩ | ⟨name⟩, visible, admits⟩
  · cases text with
    | nil => exact absurd rfl visible
    | cons c rest =>
        have taken : Text.after? (c :: rest) (c :: rest ++ filledPath values segments) =
            some (filledPath values segments) := Text.after?_eq_some_iff.mpr rfl
        rw [filled_singleton]
        exact (congrArg (Option.bind · _) taken).trans onward
  · have admissible := admits .dynamic name List.mem_cons_self
    rw [filled_singleton]
    apply matchPieces_capture (ParameterKind.admits_iff.mpr admissible) onward
    intro more rest nonempty cut admitsMore
    have slash := slash_mem_of_filledPath nonempty cut
    have free := (ParameterKind.admits_iff.mp admitsMore).2
    exact absurd (List.mem_append_right _ slash) free

theorem matchParts_cons (takesOne : segment.TakesOne values) {captures : Captures}
    (onward : matchParts (partsOf segments) (filledPath values segments) = some captures) :
    matchParts (partsOf (segment :: segments)) (filledPath values (segment :: segments)) =
      some (filledValues values [segment] ++ captures) := by
  rw [takesOne.partsOf_cons, filledPath_cons, FileRoutes.matchParts_cons]
  exact takesOne.matchPieces_filled onward

end Segment.TakesOne

/-- Such segments in front are matched by what they are filled with. -/
theorem matchParts_append (takeOne : ∀ segment ∈ before, segment.TakesOne values)
    (onward : matchParts (partsOf after) (filledPath values after) =
      some (filledValues values after)) :
    matchParts (partsOf (before ++ after)) (filledPath values (before ++ after)) =
      some (filledValues values (before ++ after)) := by
  induction before with
  | nil => exact onward
  | cons segment later inductionHypothesis =>
      rcases List.forall_mem_cons.mp takeOne with ⟨first, others⟩
      rw [List.cons_append, filledValues_cons]
      exact first.matchParts_cons (inductionHypothesis others)

theorem matchParts_of_takeOne (takeOne : ∀ segment ∈ segments, segment.TakesOne values) :
    matchParts (partsOf segments) (filledPath values segments) =
      some (filledValues values segments) := by
  have atEnd : matchParts (partsOf []) (filledPath values []) = some (filledValues values []) := rfl
  have whole := matchParts_append takeOne atEnd
  rwa [List.append_nil] at whole

/-- Whatever they match holds the slashes of the path that they are filled with. -/
theorem count_filledPath_le (takeOne : ∀ segment ∈ segments, segment.TakesOne values)
    {path : Text} {captures : Captures} (made : MatchesParts (partsOf segments) path captures) :
    (filledPath values segments).count '/' ≤ path.count '/' := by
  induction segments generalizing path captures with
  | nil => exact Nat.zero_le _
  | cons segment later inductionHypothesis =>
      rcases List.forall_mem_cons.mp takeOne with ⟨first, others⟩
      rw [first.partsOf_cons] at made
      rw [filledPath_cons, List.count_cons_self, List.count_append]
      cases made with
      | absent optional => cases optional
      | present pieces onward =>
          rw [List.cons_append, List.count_cons_self, List.count_append]
          exact Nat.succ_le_succ (Nat.add_le_add (first.count_le pieces)
            (inductionHypothesis others onward))

/-! ## The segment that takes more -/

section More

variable {name : Text}

theorem partsOf_parameter (kind : ParameterKind) (name : Text) (later : List Segment) :
    partsOf ([.parameter kind name] :: later) =
      ⟨(Token.parameter kind name).isOmittable,
        [.capture kind (CaptureName.ofParameter name)]⟩ :: partsOf later := by
  cases kind <;> rfl

theorem matchParts_repeatable (takeOne : ∀ segment ∈ after, segment.TakesOne values)
    (admits : Segment.Admits values [.parameter .repeatable name]) :
    matchParts (partsOf ([.parameter .repeatable name] :: after))
        (filledPath values ([.parameter .repeatable name] :: after)) =
      some (filledValues values ([.parameter .repeatable name] :: after)) := by
  have onward := matchParts_of_takeOne takeOne
  have admissible := admits .repeatable name List.mem_cons_self
  rw [partsOf_parameter, filledPath_cons, matchParts_cons, Segment.filled_singleton]
  apply matchPieces_capture (ParameterKind.admits_iff.mpr admissible) onward
  intro more rest nonempty cut _
  -- A longer value would leave fewer slashes than the segments behind need.
  apply Option.eq_none_iff_forall_ne_some.mpr
  intro captures found
  have needed := count_filledPath_le takeOne (matchesParts_of_matchParts found)
  have taken := List.count_pos_iff.mpr (slash_mem_of_filledPath nonempty cut)
  rw [← cut, List.count_append] at needed
  omega

theorem matchParts_catchall (admits : Segment.Admits values [.parameter .catchall name]) :
    matchParts (partsOf [[.parameter .catchall name]])
        (filledPath values [[.parameter .catchall name]]) =
      some (filledValues values [[.parameter .catchall name]]) := by
  have admissible := admits .catchall name List.mem_cons_self
  rw [partsOf_parameter, filledPath_cons, matchParts_cons, Segment.filled_singleton]
  have whole : matchPieces (matchParts []) [.capture .catchall (CaptureName.ofParameter name)]
      (values (CaptureName.ofParameter name) ++ []) =
        some [(CaptureName.ofParameter name, values (CaptureName.ofParameter name))] := by
    apply matchPieces_capture (ParameterKind.admits_iff.mpr admissible) rfl
    intro more rest nonempty cut
    exact absurd (List.append_eq_nil_iff.mp cut).1 nonempty
  exact congrArg (Option.or · _) whole

end More

/-! ## Whole routes -/

/-- Segments of the shape above are matched by what they are filled with, and give back the
values. -/
theorem IsFillable.matchParts_filledPath (fillable : IsFillable segments)
    (visible : ∀ segment ∈ segments, segment ≠ Segment.index)
    (admits : ∀ segment ∈ segments, segment.Admits values) :
    matchParts (partsOf segments) (filledPath values segments) =
      some (filledValues values segments) := by
  have takeOne {among : List Segment} (inside : among ⊆ segments)
      (single : ∀ segment ∈ among, Segment.IsSingle segment) :
      ∀ segment ∈ among, Segment.TakesOne values segment := fun segment listed =>
    ⟨single segment listed, visible segment (inside listed), admits segment (inside listed)⟩
  cases fillable with
  | singles single => exact matchParts_of_takeOne (takeOne (List.Subset.refl _) single)
  | @repeatable before after name singleBefore singleAfter =>
      have later : after ⊆ before ++ [.parameter .repeatable name] :: after :=
        List.subset_append_of_subset_right before (List.subset_cons_self _ after)
      have more := matchParts_repeatable (takeOne later singleAfter)
        (admits _ (List.mem_append_right before List.mem_cons_self))
      exact matchParts_append (takeOne (List.subset_append_left _ _) singleBefore) more
  | @catchall before name single =>
      have more := matchParts_catchall
        (admits _ (List.mem_append_right before List.mem_cons_self))
      exact matchParts_append (takeOne (List.subset_append_left _ _) single) more

/-- The segments that leave a slash and a text: all but the index page. -/
def seenSegments (segments : List Segment) : List Segment :=
  segments.filter (· ≠ Segment.index)

/-- The index page leaves nothing to match. -/
theorem partsOf_seenSegments (segments : List Segment) :
    partsOf (seenSegments segments) = partsOf segments := by
  unfold partsOf seenSegments
  rw [List.filterMap_filter]
  apply List.filterMap_congr
  intro segment _
  by_cases isIndex : segment = Segment.index
  · rw [isIndex]
    rfl
  · exact if_pos (decide_eq_true isIndex)

theorem captureNames_seenSegments (segments : List Segment) :
    captureNames (seenSegments segments) = captureNames segments := by
  induction segments with
  | nil => rfl
  | cons segment later inductionHypothesis =>
      by_cases isIndex : segment = Segment.index
      · rw [isIndex]
        exact inductionHypothesis
      · have seen : seenSegments (segment :: later) = segment :: seenSegments later :=
          List.filter_cons_of_pos (decide_eq_true isIndex)
        rw [seen]
        exact congrArg (segment.filterMap Token.captureName? ++ ·) inductionHypothesis

theorem slashed_eq_filledPath (nonempty : segments ≠ []) :
    '/' :: Text.slashed (segments.map (Segment.filled values)) = filledPath values segments := by
  rcases List.exists_cons_of_ne_nil nonempty with ⟨segment, later, rfl⟩
  rw [List.map_cons, ← Text.flatMap_slash_eq, List.flatMap_map, filledPath_cons]
  rfl

/-- A route whose segments are fixed text or single dynamic parameters, apart from one repeatable
parameter or one catchall at the end, is matched by the path that admissible values make.  The
captures are these values, whatever other values would make the same path. -/
theorem match?_filled {tree : RouteTree} (byName : tree.ByName) {patterns : List PathPattern}
    (made : tree.pathPatterns = .ok patterns) {route : FlatRoute} {pattern : PathPattern}
    (listed : (route, pattern) ∈ tree.flatRoutes.zip patterns)
    (fillable : IsFillable (seenSegments route.segments))
    (named : ∀ name ∈ captureNames route.segments, name ≠ []) {values : Text → Text}
    (admits : ∀ segment ∈ route.segments, segment.Admits values) :
    (captureNames route.segments).Nodup ∧
      pattern.match? ('/' :: Text.slashed
        ((seenSegments route.segments).map (Segment.filled values))) =
          some ((captureNames route.segments).map fun name => (name, values name)) := by
  have matched := (List.forall₂_iff_zip.mp (mapM_eq_ok_iff.mp made)).2 listed
  rcases PathPattern.ofRoute?_eq_ok_iff.mp matched with ⟨valid, rfl⟩
  rcases byName.coherent.linked.file_mem_filesAt (List.of_mem_zip listed).1 with ⟨slot, held⟩
  have each : ∀ segment ∈ route.segments, segment.OfName ∧ segment.isGroup = false :=
    fun _ isSegment => (byName.named slot route.file held).of_mem_position isSegment
  refine ⟨PathPattern.nodup_captureNames_of_isValid each named valid, ?_⟩
  rw [PathPattern.match?_ofRoute each named valid, ← partsOf_seenSegments,
    ← captureNames_seenSegments]
  by_cases empty : seenSegments route.segments = []
  · -- The slash is the one that may end a path.
    rw [empty]
    rfl
  · rw [slashed_eq_filledPath empty]
    apply fillable.matchParts_filledPath
    · intro segment isSegment
      exact of_decide_eq_true (List.mem_filter.mp isSegment).2
    · intro segment isSegment
      exact admits segment (List.mem_filter.mp isSegment).1

/-- A catchall that was filled with a slash at its end gives it back, though the path may end in a
slash of its own. -/
theorem match?_filled_to_the_slash :
    let tree := (RouteTree.build ([("x/[a]/[...b].vue".toList, 0)].map fun named =>
      .file named.1 named.2) {}).toOption.getD .empty
    ∃ patterns, tree.pathPatterns = .ok patterns ∧
      ∃ route pattern, (route, pattern) ∈ tree.flatRoutes.zip patterns ∧
        pattern.match? "/x/p/q/".toList = some [(['a'], ['p']), (['b'], ['q', '/'])] := by
  intro tree
  have built : RouteTree.build ([("x/[a]/[...b].vue".toList, 0)].map fun named =>
      .file named.1 named.2) {} = .ok tree := by decide +kernel
  have made : tree.pathPatterns = .ok (tree.pathPatterns.toOption.getD []) := by decide +kernel
  let before : List Segment := [[.literal ['x']], [.parameter .dynamic ['a']]]
  let values (name : Text) : Text := if name = ['a'] then ['p'] else ['q', '/']
  have found : ∃ pair ∈ tree.flatRoutes.zip (tree.pathPatterns.toOption.getD []),
      pair.1.segments = before ++ [[.parameter .catchall ['b']]] := by decide +kernel
  rcases found with ⟨⟨route, pattern⟩, listed, segments⟩
  have single : ∀ segment ∈ before, segment.IsSingle :=
    List.forall_mem_cons.mpr ⟨.literal _, List.forall_mem_singleton.mpr (.dynamic _)⟩
  have fillable : IsFillable (seenSegments route.segments) := segments ▸ IsFillable.catchall single
  have named : ∀ name ∈ captureNames route.segments, name ≠ [] := segments ▸ by decide
  have admits : ∀ segment ∈ route.segments, segment.Admits values := by
    rw [segments]
    refine List.forall_mem_cons.mpr ⟨?_, List.forall_mem_cons.mpr ⟨?_, ?_⟩⟩
    · exact fun kind name isToken => nomatch List.mem_singleton.mp isToken
    · intro kind name isToken
      cases List.mem_singleton.mp isToken
      exact ParameterKind.admits_iff.mp (by decide)
    · intro segment isLast kind name isToken
      cases List.mem_singleton.mp isLast
      cases List.mem_singleton.mp isToken
      exact ParameterKind.admits_iff.mp (by decide)
  have filled := (match?_filled (.build built) made listed fillable named admits).2
  dsimp only at segments
  rw [segments] at filled
  exact ⟨_, made, route, pattern, listed, filled⟩

end FileRoutes
