import FileRoutes.PathPattern.Basic

/-!
# The text of a path pattern

A pattern is written as a regular expression that is anchored at both ends.  Literal text is
escaped, and a capture is a group that bears the capture's name if it has one.
-/

namespace FileRoutes

/-- The characters that have a meaning of their own in a regular expression. -/
def patternMetacharacters : List Char :=
  ['\\', '.', '+', '*', '?', '(', ')', '|', '[', ']', '\x7b', '\x7d', '^', '$', '#', '&', '-', '~']

def escapeLiteral (text : Text) : Text :=
  text.flatMap fun c => if patternMetacharacters.contains c then ['\\', c] else [c]

/-- The expression for what a parameter admits. -/
def ParameterKind.expression : ParameterKind → Text
  | dynamic => "[^/]+".toList
  | optional => "[^/]*".toList
  | repeatable => "[^/]+(?:/[^/]+)*".toList
  | optionalRepeatable => "[^/]*(?:/[^/]+)*".toList
  | catchall => ".*".toList

def PatternPiece.text : PatternPiece → Text
  | literal text => escapeLiteral text
  | capture kind [] => '(' :: kind.expression ++ [')']
  | capture kind name => "(?P<".toList ++ name ++ '>' :: kind.expression ++ [')']

/-- The pieces of a segment in a regular expression, without the slash in front. -/
def PatternPiece.body (pieces : List PatternPiece) : Text :=
  pieces.flatMap PatternPiece.text

def PatternPart.text (part : PatternPart) : Text :=
  let body := '/' :: PatternPiece.body part.pieces
  if part.optional then "(?:".toList ++ body ++ [')', '?'] else body

/-- The whole pattern as a regular expression. -/
def PathPattern.text (pattern : PathPattern) : Text :=
  '^' :: pattern.parts.flatMap PatternPart.text ++ ['/', '?', '$']

end FileRoutes
