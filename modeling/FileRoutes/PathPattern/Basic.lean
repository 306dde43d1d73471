import FileRoutes.FlatRoute

/-!
# Path patterns

A path pattern describes the paths of one route exactly.  It is a row of parts, each a slash and
what follows it: literal text, which stands for itself, and captures, which accept what their kind
of parameter admits.  A part whose parameters may all be missing may itself be missing, slash
included, and a path may end in one more slash.

A pattern also has a text, in the notation of regular expressions, which `PathPattern.text` writes.
The parts say the same as the text as long as the names of the captures are well formed.
-/

namespace FileRoutes

/-- A piece of a part of a pattern. -/
inductive PatternPiece where
  /-- Text that stands for itself. -/
  | literal (text : Text)
  /-- A parameter's value, under a name that may be empty. -/
  | capture (kind : ParameterKind) (name : Text)
deriving DecidableEq, Repr

/-- A slash and what follows it. -/
structure PatternPart where
  /-- The whole part may be missing. -/
  optional : Bool
  pieces : List PatternPiece
deriving DecidableEq, Repr

/-- The pattern of a route. -/
structure PathPattern where
  parts : List PatternPart
  file : Text
deriving DecidableEq, Repr

/-! ## Names of captures -/

namespace CaptureName

/-- The name under which a parameter's value is captured: dots are left out, and an underscore
stands before a leading digit. -/
def ofParameter (name : Text) : Text :=
  match name.filter (· ≠ '.') with
  | [] => []
  | c :: rest => if c.isDigit then '_' :: c :: rest else c :: rest

end CaptureName

/-! ## From tokens to parts -/

namespace PatternPiece

/-- The piece that a token gives, if any. -/
def ofToken? : Token → Option PatternPiece
  | .literal [] => none
  | .literal text => some (.literal text)
  | .parameter kind name => some (.capture kind (CaptureName.ofParameter name))
  | .group _ => none

def key? : PatternPiece → Option Text
  | literal _ => none
  | capture _ [] => none
  | capture _ name => some name

end PatternPiece

def Segment.pieces (segment : Segment) : List PatternPiece :=
  segment.filterMap PatternPiece.ofToken?

def PatternPiece.keys (pieces : List PatternPiece) : List Text :=
  pieces.filterMap PatternPiece.key?

/-- Whether a token allows its whole segment to be missing. -/
def Token.isOmittable : Token → Bool
  | .parameter .optional _ | .parameter .catchall _ | .group _ => true
  | _ => false

/-- The part that a segment gives, if it leaves anything to match. -/
def PatternPart.ofSegment? (segment : Segment) : Option PatternPart :=
  match segment.pieces with
  | [] => none
  | pieces => some ⟨segment.all Token.isOmittable, pieces⟩

namespace PathPattern

/-- The names of the captures, in order. -/
def keys (pattern : PathPattern) : List Text :=
  pattern.parts.flatMap fun part => PatternPiece.keys part.pieces

/-- The pattern that a route's segments describe. -/
def ofRoute (route : FlatRoute) : PathPattern :=
  ⟨route.segments.filterMap PatternPart.ofSegment?, route.file.path⟩

end PathPattern
end FileRoutes
