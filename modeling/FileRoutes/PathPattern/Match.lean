import FileRoutes.Expression.Match
import FileRoutes.PathPattern.Validity

/-!
# Matching a path

A path is matched by the expression that a pattern's text writes.  The first match found counts, so
captures on the left are as long as they can be.
-/

namespace FileRoutes

/-- The captures of the first match of a path.  A name that no group has, or whose group took no
part, goes with the empty text. -/
def PathPattern.match? (pattern : PathPattern) (path : Text) : Option Captures :=
  ((Expression.parse pattern.text).bind (·.search path)).map fun captures =>
    pattern.keys.map fun key => (key, (captures.lookup key).getD [])

end FileRoutes
