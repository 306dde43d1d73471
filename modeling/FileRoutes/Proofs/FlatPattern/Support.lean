import FileRoutes.FlatPattern
import FileRoutes.Proofs.Mapping
import FileRoutes.RouteTree.Insert

/-!
# Which trees have flat patterns

A flat pattern has no spelling for parameters that may be missing or may repeat.  `unsupported`
lists them, tree-wide and in order, each with its segment as a file name spells it and with the file
that leads the route.  A tree has patterns if the list is empty, and is refused for the sake of the
first entry otherwise.  What a token, a segment and a route give has the same shape on its own
level, so one lemma about lists carries it from each level to the next.
-/

namespace FileRoutes

/-! ## Tokens -/

namespace Token

/-- What a flat router misses to express the token. -/
def unsupported? : Token → Option UnsupportedParameter
  | parameter .optional _ => some .optional
  | parameter .repeatable _ => some .repeatable
  | parameter .optionalRepeatable _ => some .optionalRepeatable
  | _ => none

/-- The token in a flat pattern: literal text stands for itself.  Groups leave no trace, and neither
do the parameters that have no spelling. -/
def flatSyntax : Token → Text
  | literal text => text
  | parameter .dynamic name => if name = [] then ['*'] else ':' :: name
  | parameter .catchall name => ['*', '*'] ++ if name = [] then [] else ':' :: name
  | _ => []

theorem ofToken_eq (token : Token) :
    FlatPattern.ofToken token = unlessFaulty token.unsupported?.toList token.flatSyntax := by
  cases token with
  | literal text => rfl
  | group name => rfl
  | parameter kind name => cases kind <;> rfl

/-- The token's kind is one that a flat router has no spelling for. -/
def IsUnsupported (token : Token) : Prop :=
  ∃ name, token = parameter .optional name ∨ token = parameter .repeatable name ∨
    token = parameter .optionalRepeatable name

theorem unsupported?_eq_none_iff {token : Token} :
    token.unsupported? = none ↔ ¬token.IsUnsupported := by
  cases token with
  | literal text => simp [unsupported?, IsUnsupported]
  | group name => simp [unsupported?, IsUnsupported]
  | parameter kind name => cases kind <;> simp [unsupported?, IsUnsupported]

end Token

/-! ## Segments -/

namespace Segment

/-- The segment in a flat pattern, without the slash in front. -/
def flatSyntax (segment : Segment) : Text :=
  segment.flatMap Token.flatSyntax

/-- The tokens of a file's segment that a flat router has no spelling for, in order. -/
def unsupported (file : Text) (segment : Segment) : List UnsupportedSegment :=
  (segment.filterMap Token.unsupported?).map (⟨·, segment.spelling, file⟩)

theorem ofSegment_eq (file : Text) (segment : Segment) :
    FlatPattern.ofSegment file segment =
      unlessFaulty (segment.unsupported file) segment.flatSyntax := by
  have tokens := mapM_eq_unlessFaulty Token.ofToken_eq segment
  rw [← List.filterMap_eq_flatMap_toList] at tokens
  rw [FlatPattern.ofSegment, tokens, unsupported]
  cases segment.filterMap Token.unsupported? <;> rfl

theorem unsupported_eq_nil_iff {file : Text} {segment : Segment} :
    segment.unsupported file = [] ↔ ∀ token ∈ segment, ¬token.IsUnsupported := by
  simp only [unsupported, List.map_eq_nil_iff, List.filterMap_eq_nil_iff,
    Token.unsupported?_eq_none_iff]

end Segment

/-! ## Routes -/

namespace FlatRoute

/-- The tokens that a flat router has no spelling for, in the segments of the leading file that are
not groups. -/
def unsupported (route : FlatRoute) : List UnsupportedSegment :=
  (route.file.segments.filter (!·.isGroup)).flatMap (·.unsupported route.file.path)

/-- The pattern that the route has if all its tokens have a spelling. -/
def flatPattern (route : FlatRoute) : FlatPattern where
  path := '/' :: Text.slashed ((route.segments.map Segment.flatSyntax).filter (· ≠ []))
  file := route.file.path

/-- The index page that stands in for groups has no parameters. -/
theorem flatMap_unsupported_segments (route : FlatRoute) :
    route.segments.flatMap (·.unsupported route.file.path) = route.unsupported := by
  unfold unsupported segments PageFile.position positionOf
  split
  · next grouped =>
    rw [grouped]
    rfl
  · rfl

theorem ofRoute_eq (route : FlatRoute) :
    FlatPattern.ofRoute route = unlessFaulty route.unsupported route.flatPattern := by
  have segments := mapM_eq_unlessFaulty (Segment.ofSegment_eq route.file.path) route.segments
  rw [FlatPattern.ofRoute, segments, flatMap_unsupported_segments]
  cases route.unsupported <;> rfl

theorem unsupported_eq_nil_iff {route : FlatRoute} :
    route.unsupported = [] ↔ ∀ segment ∈ route.file.segments, segment.isGroup = false →
      ∀ token ∈ segment, ¬token.IsUnsupported := by
  simp only [unsupported, List.flatMap_eq_nil_iff, List.mem_filter, Bool.not_eq_true',
    Segment.unsupported_eq_nil_iff, and_imp]

end FlatRoute

/-! ## Trees -/

namespace RouteTree

/-- The tokens that a flat router has no spelling for, in the order of the routes, of the segments
within a route and of the tokens within a segment. -/
def unsupported (tree : RouteTree) : List UnsupportedSegment :=
  tree.flatRoutes.flatMap FlatRoute.unsupported

theorem flatPatterns_eq (tree : RouteTree) :
    tree.flatPatterns = unlessFaulty tree.unsupported (tree.flatRoutes.map FlatRoute.flatPattern) :=
  mapM_eq_unlessFaulty FlatRoute.ofRoute_eq tree.flatRoutes

theorem flatPatterns_eq_ok_iff {tree : RouteTree} {patterns : List FlatPattern} :
    tree.flatPatterns = .ok patterns ↔
      tree.unsupported = [] ∧ patterns = tree.flatRoutes.map FlatRoute.flatPattern := by
  rw [flatPatterns_eq, unlessFaulty_eq_ok_iff]

/-- A tree has flat patterns if and only if no leading file has a parameter that may be missing or
may repeat in a segment other than a group.  Otherwise the fault is the first of these parameters.
The patterns are those of the routes, in order. -/
theorem flatPatterns_supported (tree : RouteTree) :
    ((∃ patterns, tree.flatPatterns = .ok patterns) ↔
      ∀ route ∈ tree.flatRoutes, ∀ segment ∈ route.file.segments, segment.isGroup = false →
        ∀ token ∈ segment, ¬token.IsUnsupported) ∧
    (∀ error, tree.flatPatterns = .error error ↔ tree.unsupported.head? = some error) ∧
    ∀ patterns, tree.flatPatterns = .ok patterns ↔
      tree.unsupported = [] ∧ patterns = tree.flatRoutes.map FlatRoute.flatPattern := by
  refine ⟨?_, fun error => ?_, fun patterns => flatPatterns_eq_ok_iff⟩
  · simp only [flatPatterns_eq_ok_iff, exists_and_left, exists_eq, and_true, unsupported,
      List.flatMap_eq_nil_iff, FlatRoute.unsupported_eq_nil_iff]
  · rw [flatPatterns_eq, unlessFaulty_eq_error_iff]

/-- The first parameter without a spelling is reported, and neither the one behind it nor the one in
the file behind. -/
example : ((build [.file "a/[b]/[[c]]d[e]+.vue".toList 0, .file "f/[g]+.vue".toList 0] {}).map
    fun tree => tree.flatPatterns.mapError UnsupportedSegment.segment) =
      .ok (.error "[[c]]d[e]+".toList) := by
  decide +kernel

end RouteTree
end FileRoutes
