import FileRoutes.Proofs.PathPattern.Searching
import FileRoutes.Proofs.RouteTree.ByName
import FileRoutes.Proofs.RouteTree.FlatRoutes

/-!
# A pattern matches the renderings of its route

A route is rendered by giving its parameters values: each segment then leaves a slash and its text,
or nothing at all if its parameters may all be missing and are.  `IsRendering` says so without
regard to patterns.  The pattern of a route matches exactly its renderings, and what it captures
are values that render the very path it was given.

It is the text of the pattern that is searched for.  As the pattern is valid and plain, its parts
find the same, and the proofs go along the parts.
-/

namespace FileRoutes

/-! ## Renderings -/

/-- What a parameter of a kind may be given as its value. -/
def ParameterKind.Admissible : ParameterKind → Text → Prop
  | dynamic, value => value ≠ [] ∧ '/' ∉ value
  | optional, value => '/' ∉ value
  | repeatable, value => ∃ pieces : List Text, pieces ≠ [] ∧
      (∀ piece ∈ pieces, piece ≠ [] ∧ '/' ∉ piece) ∧ value = Text.slashed pieces
  | optionalRepeatable, value => ∃ (first : Text) (pieces : List Text), '/' ∉ first ∧
      (∀ piece ∈ pieces, piece ≠ [] ∧ '/' ∉ piece) ∧ value = first ++ pieces.flatMap ('/' :: ·)
  | catchall, value => '\n' ∉ value

/-- The text of a token, given values for the parameters by the names under which they are
captured. -/
def Token.filled (values : Text → Text) : Token → Text
  | .literal text => text
  | .parameter _ name => values (CaptureName.ofParameter name)
  | .group _ => []

/-- The text of a segment, given values for the parameters. -/
def Segment.filled (values : Text → Text) (segment : Segment) : Text :=
  segment.flatMap (Token.filled values)

/-- The values are admissible for the parameters of a segment. -/
def Segment.Admits (values : Text → Text) (segment : Segment) : Prop :=
  ∀ kind name, .parameter kind name ∈ segment →
    ParameterKind.Admissible kind (values (CaptureName.ofParameter name))

def Segment.IsEmptied (values : Text → Text) (segment : Segment) : Prop :=
  ∀ kind name, .parameter kind name ∈ segment → values (CaptureName.ofParameter name) = []

/-- The path of some segments, given values for the parameters. -/
inductive Renders (values : Text → Text) : List Segment → Text → Prop
  | nil : Renders values [] []
  | index {later path} : Renders values later path →
      Renders values (Segment.index :: later) path
  | present {segment later path} : segment ≠ Segment.index → segment.Admits values →
      Renders values later path →
      Renders values (segment :: later) ('/' :: segment.filled values ++ path)
  | absent {segment later path} : segment.all Token.isOmittable = true →
      segment.IsEmptied values → Renders values later path →
      Renders values (segment :: later) path

/-- The path of some segments, with one more slash at the end or without. -/
def IsRendering (values : Text → Text) (segments : List Segment) (path : Text) : Prop :=
  ∃ body, Renders values segments body ∧ (path = body ∨ path = body ++ ['/'])

/-- The name under which a token's value is captured. -/
def Token.captureName? : Token → Option Text
  | .parameter _ name => some (CaptureName.ofParameter name)
  | _ => none

/-- The names under which the values of parameters are captured, in order. -/
def captureNames (segments : List Segment) : List Text :=
  segments.flatMap (List.filterMap Token.captureName?)

/-! ## Admissible values -/

theorem ParameterKind.admits_iff {kind : ParameterKind} {value : Text} :
    kind.admits value = true ↔ kind.Admissible value := by
  cases kind with
  | dynamic => simp [admits, Admissible, Text.isSlashFree]
  | optional => simp [admits, Admissible, Text.isSlashFree]
  | catchall => simp [admits, Admissible]
  | repeatable =>
      simp only [admits, Admissible, Text.isPieces, List.all_eq_true, decide_eq_true_eq]
      constructor
      · intro filled
        refine ⟨value.splitOn '/', List.splitOn_ne_nil _ _, ?_, (Text.slashed_splitOn value).symm⟩
        intro piece listed
        exact ⟨filled piece listed, Text.slash_not_mem_of_mem_splitOn listed⟩
      · rintro ⟨pieces, nonempty, each, rfl⟩
        rw [Text.splitOn_slashed (fun piece listed => (each piece listed).2) nonempty]
        exact fun piece listed => (each piece listed).1
  | optionalRepeatable =>
      simp only [admits, Admissible, List.all_eq_true, decide_eq_true_eq]
      constructor
      · intro filled
        have whole := Text.slashed_splitOn value
        rcases List.exists_cons_of_ne_nil (List.splitOn_ne_nil '/' value) with ⟨first, later, cut⟩
        have free : ∀ piece ∈ first :: later, '/' ∉ piece := by
          intro piece listed
          exact Text.slash_not_mem_of_mem_splitOn (cut ▸ listed)
        rw [cut] at filled whole
        refine ⟨first, later, free first List.mem_cons_self, ?_, ?_⟩
        · intro piece listed
          exact ⟨filled piece listed, free piece (List.mem_cons_of_mem _ listed)⟩
        · rw [Text.flatMap_slash_eq, whole]
      · rintro ⟨first, later, firstFree, each, rfl⟩
        have free : ∀ piece ∈ first :: later, '/' ∉ piece :=
          List.forall_mem_cons.mpr ⟨firstFree, fun piece listed => (each piece listed).2⟩
        rw [Text.flatMap_slash_eq, Text.splitOn_slashed free (List.cons_ne_nil _ _)]
        exact fun piece listed => (each piece listed).1

/-! ## One segment -/

/-- Values that agree with captures. -/
def Agrees (values : Text → Text) (captures : Captures) : Prop :=
  ∀ name value, (name, value) ∈ captures → values name = value

/-- Captures with different names are found by their names. -/
theorem agrees_lookup {captures : Captures} (unique : (captures.map Prod.fst).Nodup) :
    Agrees (fun name => (captures.lookup name).getD []) captures := by
  induction captures with
  | nil => exact fun _ _ listed => nomatch listed
  | cons first later inductionHypothesis =>
      rcases first with ⟨firstName, firstValue⟩
      rcases List.nodup_cons.mp unique with ⟨absent, unique⟩
      intro name value listed
      rcases List.mem_cons.mp listed with same | inLater
      · rcases Prod.mk.inj same with ⟨rfl, rfl⟩
        simp
      · have different : name ≠ firstName := by
          rintro rfl
          exact absent (List.mem_map.mpr ⟨(name, value), inLater, rfl⟩)
        have found := inductionHypothesis unique name value inLater
        simpa [List.lookup_cons, beq_eq_false_iff_ne.mpr different] using found

namespace Segment

variable {values : Text → Text} {segment : Segment}

theorem pieces_cons (token : Token) (later : Segment) :
    pieces (token :: later) = (PatternPiece.ofToken? token).toList ++ pieces later := by
  unfold pieces
  cases made : PatternPiece.ofToken? token with
  | none => rw [List.filterMap_cons_none made, Option.toList_none, List.nil_append]
  | some piece =>
      rw [List.filterMap_cons_some made, Option.toList_some, List.singleton_append]

/-- A segment whose parameters have admissible values matches its own pieces. -/
theorem exists_matchesPieces (admits : segment.Admits values) :
    ∃ own, MatchesPieces segment.pieces (segment.filled values) own := by
  induction segment with
  | nil => exact ⟨[], .nil⟩
  | cons token later inductionHypothesis =>
      rcases inductionHypothesis fun kind name listed =>
        admits kind name (List.mem_cons_of_mem _ listed) with ⟨own, made⟩
      rw [pieces_cons, filled, List.flatMap_cons]
      cases token with
      | group name => exact ⟨own, made⟩
      | literal text =>
          cases text with
          | nil => exact ⟨own, made⟩
          | cons c rest => exact ⟨own, .literal made⟩
      | parameter kind name =>
          have admitted := ParameterKind.admits_iff.mpr (admits kind name List.mem_cons_self)
          exact ⟨_, .capture admitted made⟩

/-- What the pieces of a segment match is the segment with the captured values. -/
theorem of_matchesPieces {body : Text} {own : Captures}
    (made : MatchesPieces segment.pieces body own) (agrees : Agrees values own) :
    body = segment.filled values ∧ segment.Admits values := by
  induction segment generalizing body own with
  | nil =>
      cases made
      exact ⟨rfl, fun _ _ listed => nomatch listed⟩
  | cons token later inductionHypothesis =>
      have others {body : Text} {own : Captures} (made : MatchesPieces (pieces later) body own)
          (agrees : Agrees values own) (silent : ∀ kind name, token ≠ .parameter kind name) :
          body = filled values later ∧ Admits values (token :: later) := by
        rcases inductionHypothesis made agrees with ⟨same, admits⟩
        refine ⟨same, fun kind name listed => ?_⟩
        rcases List.mem_cons.mp listed with equal | listed
        · exact absurd equal.symm (silent kind name)
        · exact admits kind name listed
      rw [pieces_cons] at made
      rw [filled, List.flatMap_cons]
      cases token with
      | group name => exact others made agrees nofun
      | literal text =>
          cases text with
          | nil => exact others made agrees nofun
          | cons c rest =>
              cases made with
              | literal made =>
                  rcases others made agrees nofun with ⟨same, admits⟩
                  exact ⟨congrArg (c :: rest ++ ·) same, admits⟩
      | parameter kind name =>
          cases made with
          | @capture _ _ value _ body own admitted made =>
              have isValue := agrees _ value List.mem_cons_self
              rcases inductionHypothesis made fun name value listed =>
                agrees name value (List.mem_cons_of_mem _ listed) with ⟨same, admits⟩
              constructor
              · rw [same, ← isValue]
                rfl
              · intro other otherName listed
                rcases List.mem_cons.mp listed with equal | listed
                · cases equal
                  exact ParameterKind.admits_iff.mp (isValue ▸ admitted)
                · exact admits other otherName listed

theorem filterMap_name?_pieces (segment : Segment) :
    segment.pieces.filterMap PatternPiece.name? = segment.filterMap Token.captureName? := by
  unfold pieces
  rw [List.filterMap_filterMap]
  apply List.filterMap_congr
  intro token _
  cases token with
  | literal text => cases text <;> rfl
  | parameter kind name => rfl
  | group name => rfl

theorem mem_pieces_of_parameter {kind : ParameterKind} {name : Text}
    (listed : .parameter kind name ∈ segment) :
    .capture kind (CaptureName.ofParameter name) ∈ segment.pieces :=
  List.mem_filterMap.mpr ⟨_, listed, rfl⟩

/-- A segment that is more than groups leaves something to match. -/
theorem OfName.pieces_ne_nil (ofName : segment.OfName) (other : segment ≠ index)
    (visible : segment.isGroup = false) : segment.pieces ≠ [] := by
  rcases ofName.readable other with ⟨nonempty, readable⟩
  rcases (isGroup_eq_false_iff nonempty).mp visible with ⟨token, listed, seen⟩
  have filled : ∃ piece, PatternPiece.ofToken? token = some piece := by
    cases token with
    | group name => cases seen
    | parameter kind name => exact ⟨_, rfl⟩
    | literal text =>
        rcases List.exists_cons_of_ne_nil (readable.each _ listed).1 with ⟨c, rest, rfl⟩
        exact ⟨_, rfl⟩
  rcases filled with ⟨piece, made⟩
  exact List.ne_nil_of_mem (List.mem_filterMap.mpr ⟨token, listed, made⟩)

theorem ofSegment?_eq_some (nonempty : segment.pieces ≠ []) :
    PatternPart.ofSegment? segment =
      some ⟨segment.all Token.isOmittable, segment.pieces⟩ := by
  unfold PatternPart.ofSegment?
  split
  · next empty => exact absurd empty nonempty
  · rfl

end Segment

/-! ## All segments -/

def partsOf (segments : List Segment) : List PatternPart :=
  segments.filterMap PatternPart.ofSegment?

theorem partsOf_cons {segment : Segment} (nonempty : segment.pieces ≠ [])
    (later : List Segment) :
    partsOf (segment :: later) =
      ⟨segment.all Token.isOmittable, segment.pieces⟩ :: partsOf later :=
  List.filterMap_cons_some (Segment.ofSegment?_eq_some nonempty)

section Segments

variable {values : Text → Text} {segments : List Segment} {path : Text} {captures : Captures}
  (each : ∀ segment ∈ segments, segment.OfName ∧ segment.isGroup = false)
include each

theorem exists_matchesParts {body tail : Text} (renders : Renders values segments body)
    (ends : tail = [] ∨ tail = ['/']) :
    ∃ captures, MatchesParts (partsOf segments) (body ++ tail) captures := by
  induction renders with
  | nil => exact ⟨[], .last ends⟩
  | index _ inductionHypothesis => exact inductionHypothesis (List.forall_mem_cons.mp each).2
  | present other admits _ inductionHypothesis =>
      rcases List.forall_mem_cons.mp each with ⟨⟨ofName, visible⟩, others⟩
      rcases inductionHypothesis others with ⟨later, onward⟩
      rcases Segment.exists_matchesPieces admits with ⟨own, made⟩
      rw [partsOf_cons (ofName.pieces_ne_nil other visible), List.append_assoc]
      exact ⟨own ++ later, .present made onward⟩
  | @absent segment rest path omittable _ _ inductionHypothesis =>
      rcases List.forall_mem_cons.mp each with ⟨⟨ofName, visible⟩, others⟩
      rcases inductionHypothesis others with ⟨later, onward⟩
      have other : segment ≠ Segment.index := by
        rintro rfl
        cases omittable
      rw [partsOf_cons (ofName.pieces_ne_nil other visible)]
      exact ⟨_, .absent omittable onward⟩

theorem isRendering_of_matchesParts (made : MatchesParts (partsOf segments) path captures)
    (agrees : Agrees values captures) : IsRendering values segments path := by
  induction segments generalizing path captures with
  | nil =>
      cases made with
      | last ends => exact ⟨[], .nil, ends⟩
  | cons segment later inductionHypothesis =>
      rcases List.forall_mem_cons.mp each with ⟨⟨ofName, visible⟩, others⟩
      by_cases isIndex : segment = Segment.index
      · subst isIndex
        rcases inductionHypothesis others made agrees with ⟨body, renders, ends⟩
        exact ⟨body, .index renders, ends⟩
      · rw [partsOf_cons (ofName.pieces_ne_nil isIndex visible)] at made
        cases made with
        | @present _ _ front path own rest pieces onward =>
            rcases inductionHypothesis others onward fun name value listed =>
              agrees name value (List.mem_append_right _ listed) with ⟨body, renders, ends⟩
            rcases Segment.of_matchesPieces pieces fun name value listed =>
              agrees name value (List.mem_append_left _ listed) with ⟨rfl, admits⟩
            refine ⟨_, .present isIndex admits renders, ?_⟩
            rcases ends with rfl | rfl
            · exact .inl rfl
            · exact .inr (List.append_assoc ..).symm
        | @absent _ _ _ rest omittable onward =>
            rcases inductionHypothesis others onward fun name value listed =>
              agrees name value (List.mem_append_right _ listed) with ⟨body, renders, ends⟩
            refine ⟨body, .absent omittable ?_ renders, ends⟩
            intro kind name listed
            apply agrees
            apply List.mem_append_left
            exact List.mem_filterMap.mpr ⟨_, Segment.mem_pieces_of_parameter listed, rfl⟩

theorem flatMap_name?_partsOf :
    (partsOf segments).flatMap (fun part => part.pieces.filterMap PatternPiece.name?) =
      captureNames segments := by
  induction segments with
  | nil => rfl
  | cons segment later inductionHypothesis =>
      rcases List.forall_mem_cons.mp each with ⟨⟨ofName, visible⟩, others⟩
      have onward := inductionHypothesis others
      by_cases isIndex : segment = Segment.index
      · subst isIndex
        exact onward
      · rw [partsOf_cons (ofName.pieces_ne_nil isIndex visible), List.flatMap_cons, onward,
          Segment.filterMap_name?_pieces]
        rfl

theorem map_fst_of_matchParts (found : matchParts (partsOf segments) path = some captures) :
    captures.map Prod.fst = captureNames segments := by
  rw [(matchesParts_of_matchParts found).map_fst, flatMap_name?_partsOf each]

theorem isSome_matchParts_of_isRendering (rendering : IsRendering values segments path) :
    (matchParts (partsOf segments) path).isSome = true := by
  rcases rendering with ⟨body, renders, rfl | rfl⟩
  · rcases exists_matchesParts each renders (.inl rfl) with ⟨captures, made⟩
    rw [List.append_nil] at made
    exact isSome_matchParts made
  · rcases exists_matchesParts each renders (.inr rfl) with ⟨captures, made⟩
    exact isSome_matchParts made

theorem isRendering_of_matchParts (unique : (captureNames segments).Nodup)
    (found : matchParts (partsOf segments) path = some captures) :
    IsRendering (fun name => (captures.lookup name).getD []) segments path := by
  have agrees := agrees_lookup (map_fst_of_matchParts each found ▸ unique)
  exact isRendering_of_matchesParts each (matchesParts_of_matchParts found) agrees

end Segments

/-! ## Names of captures -/

theorem CaptureName.mem_ofParameter {name : Text} {c : Char} (listed : c ∈ ofParameter name) :
    c ∈ name ∨ c = '_' := by
  unfold ofParameter at listed
  split at listed
  · cases listed
  · next first rest kept =>
    have ofName (inside : c ∈ first :: rest) : c ∈ name :=
      (List.mem_filter.mp (kept ▸ inside)).1
    split at listed
    · rcases List.mem_cons.mp listed with isUnderscore | inside
      · exact .inr isUnderscore
      · exact .inl (ofName inside)
    · exact .inl (ofName listed)

/-- The names of captures are those of parameters, which hold few characters in a file's name. -/
theorem exists_parameter_of_mem_captureNames {segments : List Segment}
    (each : ∀ segment ∈ segments, segment.OfName) {name : Text}
    (listed : name ∈ captureNames segments) :
    ∃ parameter, (∀ c ∈ parameter, Segment.isNameChar c = true) ∧
      name = CaptureName.ofParameter parameter := by
  rcases List.mem_flatMap.mp listed with ⟨segment, isSegment, inSegment⟩
  rcases List.mem_filterMap.mp inSegment with ⟨token, isToken, isName⟩
  cases token with
  | literal _ | group _ => cases isName
  | parameter kind parameter =>
      have other : segment ≠ Segment.index := by
        rintro rfl
        cases List.mem_singleton.mp isToken
      have readable := ((each segment isSegment).readable other).2
      exact ⟨parameter, (readable.each _ isToken).1, (Option.some.inj isName).symm⟩

/-- No name that a file can give spills into its group. -/
theorem bracket_not_mem_of_mem_captureNames {segments : List Segment}
    (each : ∀ segment ∈ segments, segment.OfName) {name : Text}
    (listed : name ∈ captureNames segments) : '>' ∉ name := by
  rcases exists_parameter_of_mem_captureNames each listed with ⟨parameter, chars, rfl⟩
  intro inside
  rcases CaptureName.mem_ofParameter inside with inName | isUnderscore
  · exact absurd (chars _ inName) (by decide)
  · exact absurd isUnderscore (by decide)

section Route

variable {route : FlatRoute}
  (each : ∀ segment ∈ route.segments, segment.OfName ∧ segment.isGroup = false)
  (named : ∀ name ∈ captureNames route.segments, name ≠ [])

namespace PathPattern

include each

theorem keys_ofRoute : (ofRoute route).keys = (captureNames route.segments).filter (· ≠ []) := by
  rw [← flatMap_name?_partsOf each, List.filter_flatMap]
  unfold keys
  apply List.flatMap_congr
  intro part _
  exact PatternPiece.keys_eq part.pieces

theorem isPlain_ofRoute : (ofRoute route).isPlain = true := by
  unfold isPlain
  rw [keys_ofRoute each]
  apply List.all_eq_true.mpr
  intro name isKey
  have free := bracket_not_mem_of_mem_captureNames (fun segment isSegment =>
    (each segment isSegment).1) (List.mem_filter.mp isKey).1
  simpa using free

include named

theorem keys_eq_captureNames : (ofRoute route).keys = captureNames route.segments := by
  rw [keys_ofRoute each]
  apply List.filter_eq_self.mpr
  intro name isName
  exact decide_eq_true (named name isName)

theorem nodup_captureNames_of_isValid (valid : (ofRoute route).isValid = true) :
    (captureNames route.segments).Nodup := by
  unfold isValid at valid
  rw [if_pos (isPlain_ofRoute each), keys_eq_captureNames each named] at valid
  exact of_decide_eq_true (Bool.and_eq_true_iff.mp valid).2

/-- Where every capture has a name, none is left out of the answer. -/
theorem match?_ofRoute (valid : (ofRoute route).isValid = true) (path : Text) :
    (ofRoute route).match? path = matchParts (partsOf route.segments) path := by
  have byParts : (ofRoute route).match? path =
      (matchParts (partsOf route.segments) path).map (·.filter (·.1 ≠ [])) :=
    match?_eq_matchByParts? (isPlain_ofRoute each) valid path
  rw [byParts]
  cases found : matchParts (partsOf route.segments) path with
  | none => rfl
  | some captures =>
      have kept : captures.filter (·.1 ≠ []) = captures := by
        apply List.filter_eq_self.mpr
        intro entry listed
        have isName := List.mem_map_of_mem (f := Prod.fst) listed
        rw [map_fst_of_matchParts each found] at isName
        exact decide_eq_true (named entry.1 isName)
      rw [Option.map_some, kept]

end PathPattern

end Route

/-! ## The patterns of a tree -/

theorem PathPattern.ofRoute?_eq_ok_iff {route : FlatRoute} {pattern : PathPattern} :
    ofRoute? route = .ok pattern ↔ (ofRoute route).isValid = true ∧ pattern = ofRoute route := by
  unfold ofRoute?
  split
  · next valid =>
    rw [and_iff_right valid, Except.ok.injEq, eq_comm]
  · next invalid =>
    constructor
    · exact nofun
    · rintro ⟨valid, -⟩
      exact absurd valid invalid

/-- A path has a match exactly when it is a rendering of the route, and then the captures have the
names of the route's parameters and are values that render the path. -/
theorem match?_isRendering {tree : RouteTree} (byName : tree.ByName) {patterns : List PathPattern}
    (made : tree.pathPatterns = .ok patterns) {route : FlatRoute} {pattern : PathPattern}
    (listed : (route, pattern) ∈ tree.flatRoutes.zip patterns)
    (named : ∀ name ∈ captureNames route.segments, name ≠ []) (path : Text) :
    ((pattern.match? path).isSome = true ↔ ∃ values, IsRendering values route.segments path) ∧
      ∀ captures, pattern.match? path = some captures →
        captures.map Prod.fst = captureNames route.segments ∧ (captures.map Prod.fst).Nodup ∧
          IsRendering (fun name => (captures.lookup name).getD []) route.segments path := by
  have matched := (List.forall₂_iff_zip.mp (mapM_eq_ok_iff.mp made)).2 listed
  rcases PathPattern.ofRoute?_eq_ok_iff.mp matched with ⟨valid, rfl⟩
  rcases byName.coherent.linked.file_mem_filesAt (List.of_mem_zip listed).1 with ⟨slot, held⟩
  have each : ∀ segment ∈ route.segments, segment.OfName ∧ segment.isGroup = false :=
    fun _ isSegment => (byName.named slot route.file held).of_mem_position isSegment
  have unique := PathPattern.nodup_captureNames_of_isValid each named valid
  rw [PathPattern.match?_ofRoute each named valid]
  constructor
  · constructor
    · intro found
      rcases Option.isSome_iff_exists.mp found with ⟨captures, found⟩
      exact ⟨_, isRendering_of_matchParts each unique found⟩
    · rintro ⟨values, rendering⟩
      exact isSome_matchParts_of_isRendering each rendering
  · intro captures found
    have names := map_fst_of_matchParts each found
    exact ⟨names, names ▸ unique, isRendering_of_matchParts each unique found⟩

/-- A path with a slash at the end is the rendering of the values that were captured from it. -/
theorem match?_of_trailing_slash :
    let tree := (RouteTree.build ([("x/[[a]]/[b]+.vue".toList, 0)].map fun named =>
      .file named.1 named.2) {}).toOption.getD .empty
    let captures : Captures := [("a".toList, "p".toList), ("b".toList, "q".toList)]
    ∃ patterns, tree.pathPatterns = .ok patterns ∧
      ∃ route pattern, (route, pattern) ∈ tree.flatRoutes.zip patterns ∧
        pattern.match? "/x/p/q/".toList = some captures ∧
        IsRendering (fun name => (captures.lookup name).getD []) route.segments
          "/x/p/q/".toList := by
  intro tree captures
  have built : RouteTree.build ([("x/[[a]]/[b]+.vue".toList, 0)].map fun named =>
      .file named.1 named.2) {} = .ok tree := by decide +kernel
  have made : tree.pathPatterns = .ok (tree.pathPatterns.toOption.getD []) := by decide +kernel
  have found : ∃ pair ∈ tree.flatRoutes.zip (tree.pathPatterns.toOption.getD []),
      pair.2.isPlain = true ∧ pair.2.isValid = true ∧
        pair.2.matchByParts? "/x/p/q/".toList = some captures ∧
          ∀ name ∈ captureNames pair.1.segments, name ≠ [] := by decide +kernel
  rcases found with ⟨⟨route, pattern⟩, listed, plain, valid, isMatch, named⟩
  rw [← PathPattern.match?_eq_matchByParts? plain valid] at isMatch
  have rendered := match?_isRendering (.build built) made listed named "/x/p/q/".toList
  exact ⟨_, made, route, pattern, listed, isMatch, (rendered.2 captures isMatch).2.2⟩

end FileRoutes
