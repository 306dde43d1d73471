import FileRoutes.Proofs.Expression.Compiling
import FileRoutes.Proofs.PathPattern.Values

/-!
# The text of a pattern matches as its parts do

The text of a valid plain pattern is written, read, compiled and searched for, and what is found is
what the parts of the pattern match.  The two are compared from the end of the path to its front:
what is done after a piece agrees with what is matched after it.

They tell captures in different ways.  A search tells the latest first, says nothing of a capture
that has no name, and nothing of one that took no part.  As no name is told twice, what is said of
each name is the same.
-/

namespace FileRoutes

/-! ## Captures that agree -/

/-- What has been found is what was captured earlier and captures that follow, as far as they have
names.  One that is empty may be left out. -/
structure Told (earlier found captures : Captures) : Prop where
  sound : ∀ entry ∈ found, entry ∈ earlier ∨ entry ∈ captures
  kept : ∀ entry ∈ earlier, entry ∈ found
  full : ∀ entry ∈ captures, entry.1 ≠ [] → entry.2 ≠ [] → entry ∈ found

namespace Told

variable {earlier found captures : Captures}

theorem named {name value : Text} (told : Told ((name, value) :: earlier) found captures) :
    Told earlier found ((name, value) :: captures) where
  sound entry listed := by
    have known := told.sound entry listed
    simp only [List.mem_cons] at known ⊢
    tauto
  kept entry listed := told.kept entry (List.mem_cons_of_mem _ listed)
  full entry listed isNamed filled := by
    rcases List.mem_cons.mp listed with rfl | later
    · exact told.kept _ List.mem_cons_self
    · exact told.full entry later isNamed filled

/-- Captures that have no name or are empty make no difference. -/
theorem append {silent : Captures} (told : Told earlier found captures)
    (each : ∀ entry ∈ silent, entry.1 = [] ∨ entry.2 = []) :
    Told earlier found (silent ++ captures) where
  sound entry listed := by
    have known := told.sound entry listed
    simp only [List.mem_append]
    tauto
  kept := told.kept
  full entry listed isNamed filled := by
    rcases List.mem_append.mp listed with isSilent | later
    · rcases each entry isSilent with nameless | empty
      · exact absurd nameless isNamed
      · exact absurd empty filled
    · exact told.full entry later isNamed filled

theorem nameless (told : Told earlier found captures) (value : Text) :
    Told earlier found (([], value) :: captures) := by
  have silent : ∀ entry ∈ [(([] : Text), value)], entry.1 = [] ∨ entry.2 = [] := by simp
  exact told.append silent

/-- If no name is captured twice, the same is found under each name. -/
theorem lookup_eq (told : Told [] found captures)
    (distinct : ((captures.filter (·.1 ≠ [])).map Prod.fst).Nodup) {entry : Text × Text}
    (listed : entry ∈ captures.filter (·.1 ≠ [])) :
    (found.lookup entry.1).getD [] = entry.2 := by
  cases known : found.lookup entry.1 with
  | none =>
      by_contra filled
      rcases List.mem_filter.mp listed with ⟨isCapture, isNamed⟩
      have isFound := told.full entry isCapture (of_decide_eq_true isNamed) (Ne.symm filled)
      have unknown := List.lookup_eq_none_iff.mp known entry isFound
      simp at unknown
  | some value =>
      rcases List.lookup_eq_some_iff.mp known with ⟨before, after, rfl, -⟩
      have isFound : (entry.1, value) ∈ before ++ (entry.1, value) :: after := by simp
      have isCapture := (told.sound _ isFound).resolve_left List.not_mem_nil
      have isNamed := (List.mem_filter.mp listed).2
      have same := List.inj_on_of_nodup_map distinct (List.mem_filter.mpr ⟨isCapture, isNamed⟩)
        listed rfl
      exact congrArg Prod.snd same

end Told

/-- A group that has been gone through captures what was passed in it. -/
theorem Spot.leave_passAll {spot : Spot} {value rest : Text} (name : Text)
    (split : value ++ rest = spot.rest) :
    ((spot.enter.passAll value).leave name).rest = rest ∧
      ((spot.enter.passAll value).leave name).captures = (name, value) :: spot.captures := by
  simp [leave, enter, ← split]

section Rel

variable {α β γ : Type} {relation : α → β → Prop}

theorem rel_map {other : α → γ → Prop} {f : β → γ} {left : Option α} {right : Option β}
    (rel : Option.Rel relation left right) (each : ∀ x y, relation x y → other x (f y)) :
    Option.Rel other left (right.map f) := by
  cases rel with
  | some related => exact .some (each _ _ related)
  | none => exact .none

theorem rel_or {left otherLeft : Option α} {right otherRight : Option β}
    (rel : Option.Rel relation left right) (other : Option.Rel relation otherLeft otherRight) :
    Option.Rel relation (left.or otherLeft) (right.or otherRight) := by
  cases rel with
  | some related => exact .some related
  | none => exact other

theorem rel_findSome? {items : List γ} {left : γ → Option α} {right : γ → Option β}
    (each : ∀ item ∈ items, Option.Rel relation (left item) (right item)) :
    Option.Rel relation (items.findSome? left) (items.findSome? right) := by
  induction items with
  | nil => exact .none
  | cons item later inductionHypothesis =>
      rcases List.forall_mem_cons.mp each with ⟨here, others⟩
      rw [List.findSome?_cons, List.findSome?_cons]
      generalize left item = first at here ⊢
      generalize right item = second at here ⊢
      cases here with
      | some related => exact .some related
      | none => exact inductionHypothesis others

end Rel

/-- What is done from a spot finds what is matched by the text that is left there. -/
def Onward.Agrees (onward : Onward) (next : Text → Option Captures) : Prop :=
  ∀ spot : Spot, Option.Rel (Told spot.captures) (onward spot) (next spot.rest)

namespace Onward.Agrees

variable {onward : Onward} {next : Text → Option Captures}

theorem literal (agrees : onward.Agrees next) (text : Text) :
    Agrees ((Expression.literal text).tries onward)
      fun path => (Text.after? text path).bind next := by
  induction text with
  | nil =>
      intro spot
      have isNext : (Expression.literal []).tries onward = onward := rfl
      simpa [isNext, Text.after?] using agrees spot
  | cons c text inductionHypothesis =>
      have isTake : (Expression.literal (c :: text)).tries onward =
          Onward.take (· = c) ((Expression.literal text).tries onward) := rfl
      intro spot
      rw [isTake]
      cases isRest : spot.rest with
      | nil =>
          rw [Onward.take_of_nil isRest]
          exact .none
      | cons d rest =>
          rw [Onward.take_of_cons isRest]
          by_cases same : d = c
          · have later := inductionHypothesis (spot.pass d rest)
            simpa [same, Text.after?, Spot.pass] using later
          · have other : c ≠ d := Ne.symm same
            simp [same, other, Text.after?]

/-- The values that a capture may have are tried in one order. -/
theorem capture (agrees : onward.Agrees next) (kind : ParameterKind) (name : Text) :
    Agrees ((PatternPiece.capture kind name).form.tries onward) fun path =>
      (Text.cuts path).findSome? fun (value, rest) =>
        if kind.admits value then (next rest).map ((name, value) :: ·) else none := by
  intro spot
  cases name with
  | nil =>
      have isCut : (PatternPiece.capture kind []).form.tries onward = cut kind.admits onward :=
        kind.tries_form onward
      rw [isCut]
      apply rel_findSome?
      rintro ⟨value, rest⟩ listed
      dsimp only
      split
      · have later := agrees (spot.passAll value)
        rw [Spot.rest_passAll, Spot.captures_passAll, ← Text.mem_cuts.mp listed,
          List.drop_left] at later
        exact rel_map later fun found captures told => told.nameless value
      · exact .none
  | cons c name =>
      have isCut : (PatternPiece.capture kind (c :: name)).form.tries onward = fun spot =>
          cut kind.admits (fun later => onward (later.leave (c :: name))) spot.enter := by
        funext spot
        exact congrFun (kind.tries_form _) spot.enter
      rw [isCut]
      apply rel_findSome?
      rintro ⟨value, rest⟩ listed
      dsimp only
      split
      · have later := agrees ((spot.enter.passAll value).leave (c :: name))
        have isCut : value ++ rest = spot.rest := Text.mem_cuts.mp listed
        have place := Spot.leave_passAll (c :: name) isCut
        rw [place.1, place.2] at later
        exact rel_map later fun found captures told => told.named
      · exact .none

end Onward.Agrees

open Onward (Agrees)

variable {onward : Onward} {next : Text → Option Captures}

/-! ## Pieces and parts -/

theorem agrees_piece {pieces : List PatternPiece} (agrees : onward.Agrees (matchPieces next pieces))
    (piece : PatternPiece) :
    Agrees (piece.form.tries onward) (matchPieces next (piece :: pieces)) := by
  cases piece with
  | literal text => exact agrees.literal text
  | capture kind name => exact agrees.capture kind name

theorem agrees_pieces (agrees : onward.Agrees next) (pieces : List PatternPiece) :
    Agrees ((Expression.chain (pieces.map PatternPiece.form)).tries onward)
      (matchPieces next pieces) := by
  induction pieces with
  | nil => exact agrees
  | cons piece pieces inductionHypothesis => exact agrees_piece inductionHypothesis piece

theorem after?_slash (path : Text) (pieces : List PatternPiece) :
    (Text.after? ['/'] path).bind (matchPieces next pieces) = matchPresent next pieces path := by
  cases path with
  | nil => simp [Text.after?, matchPresent]
  | cons c rest =>
      by_cases isSlash : c = '/'
      · subst isSlash
        simp [Text.after?, matchPresent]
      · have other : '/' ≠ c := Ne.symm isSlash
        simp [Text.after?, matchPresent, isSlash, other]

theorem agrees_present (agrees : onward.Agrees next) (part : PatternPart) :
    Agrees (part.presentForm.tries onward) (matchPresent next part.pieces) := by
  have whole := (agrees_pieces agrees part.pieces).literal ['/']
  simp only [after?_slash] at whole
  exact whole

theorem agrees_part {parts : List PatternPart} (agrees : onward.Agrees (matchParts parts))
    (part : PatternPart) : Agrees (part.form.tries onward) (matchParts (part :: parts)) := by
  have present := agrees_present agrees part
  intro spot
  rw [matchParts_cons, PatternPart.form]
  split
  · have mayMiss : (Expression.repetition 0 (some 1) true part.presentForm).tries onward =
        Onward.offer true (part.presentForm.tries onward) onward := rfl
    rw [mayMiss]
    refine rel_or (present spot) (rel_map (agrees spot) fun found captures told => ?_)
    apply told.append
    intro entry listed
    rcases List.mem_filterMap.mp listed with ⟨_ | ⟨kind, name⟩, -, isEntry⟩
    · cases isEntry
    · exact .inr (Option.some.inj isEntry ▸ rfl)
  · exact present spot

theorem agrees_parts {parts : List PatternPart} (agrees : onward.Agrees (matchParts [])) :
    Agrees ((Expression.chain (parts.map PatternPart.form)).tries onward) (matchParts parts) := by
  induction parts with
  | nil => exact agrees
  | cons part parts inductionHypothesis => exact agrees_part inductionHypothesis part

theorem agrees_end :
    Agrees (PathPattern.endForm.tries fun spot => some spot.captures) (matchParts []) := by
  intro spot
  have same : Told spot.captures spot.captures [] :=
    ⟨fun _ listed => .inl listed, fun _ listed => listed, nofun⟩
  have isOffer : PathPattern.endForm.tries (fun spot => some spot.captures) = Onward.offer true
      (Onward.take (· = '/') fun spot =>
        if spot.satisfies .textEnd then some spot.captures else none)
      (fun spot => if spot.satisfies .textEnd then some spot.captures else none) := rfl
  rw [isOffer]
  rcases isRest : spot.rest with _ | ⟨c, _ | ⟨d, rest⟩⟩
  · simpa [Onward.offer, Onward.take_of_nil isRest, Spot.satisfies, Place.holds, isRest, matchParts]
      using same
  · by_cases isSlash : c = '/'
    · simpa [Onward.offer, Onward.take_of_cons isRest, Spot.satisfies, Place.holds, isSlash,
        Spot.pass, matchParts] using same
    · simp [Onward.offer, Onward.take_of_cons isRest, Spot.satisfies, Place.holds, isSlash, isRest,
        matchParts]
  · simp [Onward.offer, Onward.take_of_cons isRest, Spot.satisfies, Place.holds, isRest, Spot.pass,
      matchParts]

/-! ## The whole text -/

/-- What is anchored at the start of the text is found there or nowhere. -/
theorem Onward.firstMatch_eq_of_anchored {onward : Onward}
    (anchored : ∀ c rest, onward (.start (some c) rest) = none) (text : Text) :
    onward.firstMatch none text = onward (.start none text) := by
  have nowhere (c : Char) (rest : Text) : onward.firstMatch (some c) rest = none := by
    induction rest generalizing c with
    | nil => exact anchored c []
    | cons d rest inductionHypothesis =>
        rw [Onward.firstMatch, anchored, inductionHypothesis, Option.or_none]
  cases text with
  | nil => rfl
  | cons c rest => rw [Onward.firstMatch, nowhere, Option.or_none]

namespace PathPattern

variable {pattern : PathPattern}

theorem map_fst_filter_of_matchParts {path : Text} {captures : Captures}
    (matched : matchParts pattern.parts path = some captures) :
    (captures.filter (·.1 ≠ [])).map Prod.fst = pattern.keys := by
  have names := (matchesParts_of_matchParts matched).map_fst
  have outside : (captures.filter (·.1 ≠ [])).map Prod.fst =
      (captures.map Prod.fst).filter (· ≠ []) := by
    rw [List.filter_map]
    rfl
  rw [outside, names, List.filter_flatMap]
  simp only [keys, PatternPiece.keys_eq]

/-- The first match of a valid plain pattern's text is that of its parts. -/
theorem match?_eq_matchByParts? (plain : pattern.isPlain = true) (valid : pattern.isValid = true)
    (path : Text) : pattern.match? path = pattern.matchByParts? path := by
  rcases exists_parse plain valid with ⟨expression, parsed, solid, tries⟩
  have found : expression.search path =
      pattern.form.tries (fun spot => some spot.captures) (.start none path) := by
    rw [Expression.search_eq solid, tries]
    exact Onward.firstMatch_eq_of_anchored (fun _ _ => rfl) path
  have distinct : pattern.keys.Nodup :=
    ((isExpression_iff plain).mp ((isValid_iff_isExpression plain).mp valid)).2
  have agrees : Option.Rel (Told []) (expression.search path) (matchParts pattern.parts path) := by
    rw [found]
    exact agrees_parts agrees_end (.start none path)
  rw [match?, matchByParts?, parsed, Option.bind_some]
  generalize expression.search path = searched at agrees ⊢
  cases matched : matchParts pattern.parts path with
  | none =>
      rw [matched] at agrees
      cases agrees
      rfl
  | some captures =>
      rw [matched] at agrees
      cases agrees with
      | @some told _ isTold =>
        have names := map_fst_filter_of_matchParts matched
        have same : ∀ entry ∈ captures.filter (·.1 ≠ []),
            (entry.1, (told.lookup entry.1).getD []) = entry := fun entry listed =>
          Prod.ext rfl (isTold.lookup_eq (names ▸ distinct) listed)
        rw [Option.map_some, Option.map_some, ← names, List.map_map, Option.some.injEq]
        exact (List.map_congr_left same).trans (List.map_id _)

end PathPattern
end FileRoutes
