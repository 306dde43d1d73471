import FileRoutes.RoutePath
import FileRoutes.Segment.Token

/-!
# The path syntax of a nested router

In the paths of nested routes a colon opens a parameter and a modifier after its name says how
often it occurs.  A catch-all has two spellings: one for the end of a path, and one that leaves
room for the segments after it.
-/

namespace FileRoutes

namespace RoutePath

/-- What follows the name of a catch-all that more segments follow. -/
def innerCatchall : Text :=
  "([^/]*)*".toList

/-- What follows the name of a catch-all that ends a path. -/
def finalCatchall : Text :=
  "(.*)*".toList

/-- The text with every catch-all spelled as at the end of a path. -/
def unifyCatchalls (path : Text) : Text :=
  Text.replace innerCatchall finalCatchall path

/-- The name of a catch-all, which is supplied when it has none. -/
def catchallName (name : Text) : Text :=
  if name = [] then "pathMatch".toList else name

end RoutePath

def ParameterKind.routeSyntax (followed : Bool) (name : Text) : ParameterKind → Text
  | dynamic => ':' :: name ++ ['(', ')']
  | optional => ':' :: name ++ ['?']
  | repeatable => ':' :: name ++ ['+']
  | optionalRepeatable => ':' :: name ++ ['*']
  | catchall =>
      ':' :: RoutePath.catchallName name ++
        if followed then RoutePath.innerCatchall else RoutePath.finalCatchall

/-- A token in a path; a group leaves no trace. -/
def Token.routeSyntax (followed : Bool) : Token → Text
  | .literal text => RoutePath.encode text
  | .parameter kind name => kind.routeSyntax followed name
  | .group _ => []

/-- A segment in a path, without the slash in front. -/
def Segment.routeSyntax (followed : Bool) (segment : Segment) : Text :=
  segment.flatMap (Token.routeSyntax followed)

namespace RoutePath

/-- Whether a path goes on after a segment: one more follows, and it is not the index page. -/
def goesOn : List Segment → Bool
  | [] => false
  | next :: _ => !next.isIndex

/-- The non-empty parts of a path; the index page adds none. -/
def parts : List Segment → List Text
  | [] => []
  | segment :: later =>
      let part := segment.routeSyntax (goesOn later)
      if segment.isIndex || part = [] then parts later else part :: parts later

theorem parts_index (later : List Segment) : parts (.index :: later) = parts later := rfl

/-- The whole path of some segments. -/
def ofSegments (segments : List Segment) : Text :=
  '/' :: Text.slashed (parts segments)

end RoutePath
end FileRoutes
