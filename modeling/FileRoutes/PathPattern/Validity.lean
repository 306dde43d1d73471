import FileRoutes.Expression.Read
import FileRoutes.PathPattern.Print

/-!
# Valid patterns

A pattern is valid if its text is a regular expression.  A name that holds the sign at which the
name of a group ends spills into its group: the rest of it is read as an expression.  A pattern
without such a name is plain.  Its text can only be at fault in the names, so they alone are
examined.
-/

namespace FileRoutes
namespace PathPattern

/-- Whether no name spills into its group. -/
def isPlain (pattern : PathPattern) : Bool :=
  pattern.keys.all fun key => !key.contains '>'

/-- The expression that the text of a pattern writes. -/
def expression? (pattern : PathPattern) : Option Expression :=
  Expression.read pattern.text

/-- Whether the text of a pattern is an expression.  In a plain pattern it is one when every
capture has a well-formed name of its own. -/
def isValid (pattern : PathPattern) : Bool :=
  if pattern.isPlain then pattern.keys.all GroupName.isWellFormed && decide pattern.keys.Nodup
  else pattern.expression?.isSome

/-- The pattern of a route, or the route's file when that is not valid. -/
def ofRoute? (route : FlatRoute) : Except Text PathPattern :=
  if (ofRoute route).isValid then .ok (ofRoute route) else .error route.file.path

end PathPattern

/-- The path patterns of a tree's routes, in order; otherwise the file of the first route that
has none. -/
def RouteTree.pathPatterns (tree : RouteTree) : Except Text (List PathPattern) :=
  tree.flatRoutes.mapM PathPattern.ofRoute?

end FileRoutes
