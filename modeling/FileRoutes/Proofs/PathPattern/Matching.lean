import FileRoutes.PathPattern.Match
import Mathlib.Data.List.Basic

/-!
# Matching a path part by part

A path may be matched by the parts of a pattern, with no expression between.  A capture takes the
longest text that its kind admits and gives way to shorter ones, and a part that may be missing is
tried before it is left out.  The first way that leads to the end of the path is taken, so captures
on the left are as long as they can be.

`MatchesParts` says which ways there are, each with the captures that go with it, and leaves open
which one is taken.  The matcher takes one of these ways, and finds one if there is any.
-/

namespace FileRoutes

namespace Text

def isSlashFree (text : Text) : Bool :=
  !text.contains '/'

/-- Whether text is one or more non-empty pieces with single slashes between them. -/
def isPieces (text : Text) : Bool :=
  (text.splitOn '/').all (· ≠ [])

/-- The ways to cut a text in two, the longest front first. -/
def cuts : Text → List (Text × Text)
  | [] => [([], [])]
  | c :: rest => (cuts rest).map (fun cut => (c :: cut.1, cut.2)) ++ [([], c :: rest)]

theorem mem_cuts {text front back : Text} :
    (front, back) ∈ cuts text ↔ front ++ back = text := by
  induction text generalizing front with
  | nil =>
      simp only [cuts, List.mem_singleton, Prod.mk.injEq, List.append_eq_nil_iff]
  | cons c rest inductionHypothesis =>
      cases front with
      | nil => simp [cuts]
      | cons d front =>
          simp only [cuts, List.mem_append, List.mem_map, List.mem_singleton, Prod.mk.injEq,
            List.cons.injEq, List.cons_append, reduceCtorEq, false_and, or_false]
          constructor
          · rintro ⟨⟨start, tail⟩, listed, ⟨rfl, rfl⟩, rfl⟩
            exact ⟨rfl, inductionHypothesis.mp listed⟩
          · rintro ⟨rfl, same⟩
            exact ⟨(front, back), inductionHypothesis.mpr same, ⟨rfl, rfl⟩, rfl⟩

end Text

/-- What a parameter of a kind admits as its value. -/
def ParameterKind.admits : ParameterKind → Text → Bool
  | dynamic, text => text ≠ [] && text.isSlashFree
  | optional, text => text.isSlashFree
  | repeatable, text => text.isPieces
  | optionalRepeatable, text => ((text.splitOn '/').drop 1).all (· ≠ [])
  | catchall, text => !text.contains '\n'

/-- Match pieces at the front of a path, and the remaining path by `next`. -/
def matchPieces (next : Text → Option Captures) : List PatternPiece → Text → Option Captures
  | [], path => next path
  | .literal text :: pieces, path => (Text.after? text path).bind (matchPieces next pieces)
  | .capture kind name :: pieces, path =>
      (Text.cuts path).findSome? fun (value, rest) =>
        if kind.admits value then
          (matchPieces next pieces rest).map ((name, value) :: ·)
        else none

/-- The captures of a part that is left out: every value is empty. -/
def absentCaptures (pieces : List PatternPiece) : Captures :=
  pieces.filterMap fun
    | .literal _ => none
    | .capture _ name => some (name, [])

/-- Match a path against the parts of a pattern. -/
def matchParts : List PatternPart → Text → Option Captures
  | [], path => if path = [] ∨ path = ['/'] then some [] else none
  | part :: parts, path =>
      let present :=
        match path with
        | '/' :: rest => matchPieces (matchParts parts) part.pieces rest
        | _ => none
      if part.optional then
        present <|> (matchParts parts path).map (absentCaptures part.pieces ++ ·)
      else present

/-- The captures of the first match of a whole path by the parts of a pattern, those without a name
left out. -/
def PathPattern.matchByParts? (pattern : PathPattern) (path : Text) : Option Captures :=
  (matchParts pattern.parts path).map (·.filter (·.1 ≠ []))

/-! ## Ways to match -/

/-- A text is made of pieces in order, with these captures. -/
inductive MatchesPieces : List PatternPiece → Text → Captures → Prop
  | nil : MatchesPieces [] [] []
  | literal {text pieces body captures} : MatchesPieces pieces body captures →
      MatchesPieces (.literal text :: pieces) (text ++ body) captures
  | capture {kind name value pieces body captures} : kind.admits value = true →
      MatchesPieces pieces body captures →
      MatchesPieces (.capture kind name :: pieces) (value ++ body) ((name, value) :: captures)

/-- A path is made of parts in order, with these captures. -/
inductive MatchesParts : List PatternPart → Text → Captures → Prop
  | last {path} : path = [] ∨ path = ['/'] → MatchesParts [] path []
  | present {part parts body path own later} : MatchesPieces part.pieces body own →
      MatchesParts parts path later →
      MatchesParts (part :: parts) ('/' :: body ++ path) (own ++ later)
  | absent {part parts path later} : part.optional = true → MatchesParts parts path later →
      MatchesParts (part :: parts) path (absentCaptures part.pieces ++ later)

variable {next : Text → Option Captures} {pieces : List PatternPiece} {parts : List PatternPart}
  {path : Text} {captures : Captures}

/-! ## The way that is taken -/

theorem matchesPieces_of_matchPieces (matched : matchPieces next pieces path = some captures) :
    ∃ body rest own later, path = body ++ rest ∧ captures = own ++ later ∧
      MatchesPieces pieces body own ∧ next rest = some later := by
  induction pieces generalizing path captures with
  | nil => exact ⟨[], path, [], captures, rfl, rfl, .nil, matched⟩
  | cons piece pieces inductionHypothesis =>
      cases piece with
      | literal text =>
          rcases Option.bind_eq_some_iff.mp matched with ⟨tail, taken, onward⟩
          rcases inductionHypothesis onward with ⟨body, rest, own, later, rfl, rfl, made, ends⟩
          refine ⟨text ++ body, rest, own, later, ?_, rfl, .literal made, ends⟩
          rw [Text.after?_eq_some_iff.mp taken, List.append_assoc]
      | capture kind name =>
          rcases List.exists_of_findSome?_eq_some matched with ⟨⟨value, tail⟩, isCut, tried⟩
          dsimp only at tried
          split at tried
          · next admitted =>
            rcases Option.map_eq_some_iff.mp tried with ⟨inner, onward, rfl⟩
            rcases inductionHypothesis onward with ⟨body, rest, own, later, rfl, rfl, made, ends⟩
            refine ⟨value ++ body, rest, (name, value) :: own, later, ?_, rfl,
              .capture admitted made, ends⟩
            rw [← Text.mem_cuts.mp isCut, List.append_assoc]
          · cases tried

/-- Match a part that is present, behind its slash, and the remaining path by `next`. -/
def matchPresent (next : Text → Option Captures) (pieces : List PatternPiece) :
    Text → Option Captures
  | '/' :: rest => matchPieces next pieces rest
  | _ => none

/-- A part that may be missing is tried before it is left out. -/
theorem matchParts_cons (part : PatternPart) (parts : List PatternPart) (path : Text) :
    matchParts (part :: parts) path =
      if part.optional then
        (matchPresent (matchParts parts) part.pieces path).or
          ((matchParts parts path).map (absentCaptures part.pieces ++ ·))
      else matchPresent (matchParts parts) part.pieces path := by
  rw [← Option.orElse_eq_or (f := fun _ => (matchParts parts path).map _)]
  rfl

theorem exists_of_matchPresent (matched : matchPresent next pieces path = some captures) :
    ∃ rest, path = '/' :: rest ∧ matchPieces next pieces rest = some captures := by
  unfold matchPresent at matched
  split at matched
  · next rest => exact ⟨rest, rfl, matched⟩
  · cases matched

theorem matchesParts_of_matchParts (matched : matchParts parts path = some captures) :
    MatchesParts parts path captures := by
  induction parts generalizing path captures with
  | nil =>
      unfold matchParts at matched
      split at matched
      · next ends =>
        rcases Option.some.inj matched with rfl
        exact .last ends
      · cases matched
  | cons part parts inductionHypothesis =>
      have taken {captures : Captures}
          (matched : matchPresent (matchParts parts) part.pieces path = some captures) :
          MatchesParts (part :: parts) path captures := by
        rcases exists_of_matchPresent matched with ⟨rest, rfl, onward⟩
        rcases matchesPieces_of_matchPieces onward with
          ⟨body, rest, own, later, rfl, rfl, made, ends⟩
        exact .present made (inductionHypothesis ends)
      rw [matchParts_cons] at matched
      split at matched
      · next optional =>
        rcases Option.or_eq_some_iff.mp matched with present | ⟨-, left⟩
        · exact taken present
        · rcases Option.map_eq_some_iff.mp left with ⟨later, onward, rfl⟩
          exact .absent optional (inductionHypothesis onward)
      · exact taken matched

/-! ## Some way is taken -/

theorem isSome_matchPieces {body rest : Text} (made : MatchesPieces pieces body captures)
    (onward : (next rest).isSome = true) :
    (matchPieces next pieces (body ++ rest)).isSome = true := by
  induction made with
  | nil => exact onward
  | @literal text pieces body captures _ inductionHypothesis =>
      have taken : Text.after? text (text ++ body ++ rest) = some (body ++ rest) :=
        Text.after?_eq_some_iff.mpr (List.append_assoc ..)
      rw [matchPieces, taken]
      exact inductionHypothesis
  | @capture kind name value pieces body captures admitted _ inductionHypothesis =>
      have isCut : (value, body ++ rest) ∈ Text.cuts (value ++ body ++ rest) :=
        Text.mem_cuts.mpr (List.append_assoc ..).symm
      rw [matchPieces, List.findSome?_isSome_iff]
      refine ⟨_, isCut, ?_⟩
      dsimp only
      rw [if_pos admitted, Option.isSome_map]
      exact inductionHypothesis

theorem isSome_matchParts (made : MatchesParts parts path captures) :
    (matchParts parts path).isSome = true := by
  induction made with
  | last ends =>
      unfold matchParts
      rw [if_pos ends]
      rfl
  | @present part parts body path own later made _ inductionHypothesis =>
      have found : (matchPresent (matchParts parts) part.pieces ('/' :: body ++ path)).isSome =
          true :=
        isSome_matchPieces made inductionHypothesis
      rw [matchParts_cons]
      split
      · rw [Option.isSome_or, found, Bool.true_or]
      · exact found
  | @absent part parts path later optional _ inductionHypothesis =>
      rw [matchParts_cons, if_pos optional, Option.isSome_or, Option.isSome_map,
        inductionHypothesis, Bool.or_true]

/-! ## Names -/

/-- The name of a capture, which may be empty. -/
def PatternPiece.name? : PatternPiece → Option Text
  | literal _ => none
  | capture _ name => some name

theorem PatternPiece.keys_eq (pieces : List PatternPiece) :
    keys pieces = (pieces.filterMap name?).filter (· ≠ []) := by
  unfold keys
  rw [List.filter_filterMap]
  apply List.filterMap_congr
  intro piece _
  cases piece with
  | literal text => rfl
  | capture kind name => cases name <;> rfl

theorem map_fst_absentCaptures (pieces : List PatternPiece) :
    (absentCaptures pieces).map Prod.fst = pieces.filterMap PatternPiece.name? := by
  unfold absentCaptures
  rw [List.map_filterMap]
  apply List.filterMap_congr
  intro piece _
  cases piece <;> rfl

theorem MatchesPieces.map_fst {body : Text} (made : MatchesPieces pieces body captures) :
    captures.map Prod.fst = pieces.filterMap PatternPiece.name? := by
  induction made with
  | nil => rfl
  | literal _ inductionHypothesis => exact inductionHypothesis
  | capture _ _ inductionHypothesis => exact congrArg (List.cons _) inductionHypothesis

/-- Whatever way is taken, every name is captured once for each of its pieces, in order. -/
theorem MatchesParts.map_fst (made : MatchesParts parts path captures) :
    captures.map Prod.fst = parts.flatMap fun part => part.pieces.filterMap PatternPiece.name? := by
  induction made with
  | last => rfl
  | present own _ inductionHypothesis =>
      rw [List.map_append, own.map_fst, inductionHypothesis, List.flatMap_cons]
  | absent _ _ inductionHypothesis =>
      rw [List.map_append, map_fst_absentCaptures, inductionHypothesis, List.flatMap_cons]

end FileRoutes
