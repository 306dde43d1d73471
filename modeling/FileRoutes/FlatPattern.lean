import FileRoutes.FlatRoute

/-!
# Patterns of a flat router

A flat router matches a path piece by piece.  A colon opens a parameter and two stars take the
rest of the path; a parameter that may be missing or may repeat has no spelling, so a route with
one has no pattern.
-/

namespace FileRoutes

/-- A parameter that a flat pattern cannot express. -/
inductive UnsupportedParameter where
  | optional
  | repeatable
  | optionalRepeatable
deriving DecidableEq, Repr

def UnsupportedParameter.description : UnsupportedParameter → String
  | optional => "optional parameters"
  | repeatable => "repeatable parameters"
  | optionalRepeatable => "optional repeatable parameters"

/-- A segment without a flat pattern, in the spelling of file names. -/
structure UnsupportedSegment where
  parameter : UnsupportedParameter
  segment : Text
  file : Text
deriving DecidableEq, Repr

def UnsupportedSegment.message (error : UnsupportedSegment) : String :=
  "rou3 does not support " ++ error.parameter.description ++ ": segment '" ++
    String.ofList error.segment ++ "' in '" ++ String.ofList error.file ++ "'"

/-- A route of a flat router. -/
structure FlatPattern where
  path : Text
  file : Text
deriving DecidableEq, Repr

namespace FlatPattern

def ofToken : Token → Except UnsupportedParameter Text
  | .literal text => .ok text
  | .group _ => .ok []
  | .parameter .dynamic name => .ok (if name = [] then ['*'] else ':' :: name)
  | .parameter .catchall name => .ok (['*', '*'] ++ if name = [] then [] else ':' :: name)
  | .parameter .optional _ => .error .optional
  | .parameter .repeatable _ => .error .repeatable
  | .parameter .optionalRepeatable _ => .error .optionalRepeatable

/-- A segment in a pattern.  The first parameter without a spelling is the error. -/
def ofSegment (file : Text) (segment : Segment) : Except UnsupportedSegment Text :=
  match segment.mapM ofToken with
  | .ok parts => .ok parts.flatten
  | .error parameter => .error ⟨parameter, segment.spelling, file⟩

/-- The pattern of a route.  Segments that leave nothing add no slash. -/
def ofRoute (route : FlatRoute) : Except UnsupportedSegment FlatPattern := do
  let parts ← route.segments.mapM (ofSegment route.file.path)
  return ⟨'/' :: Text.slashed (parts.filter (· ≠ [])), route.file.path⟩

end FlatPattern

def RouteTree.flatPatterns (tree : RouteTree) : Except UnsupportedSegment (List FlatPattern) :=
  tree.flatRoutes.mapM FlatPattern.ofRoute

end FileRoutes
