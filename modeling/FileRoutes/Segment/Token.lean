import FileRoutes.Text.Basic

/-!
# Tokens of a path segment

A segment is the text between two slashes of a file name, cut into literal text, parameters and
groups.  `Segment.spelling` writes the tokens back in file-name syntax; it is the key under which
a segment is stored, so segments with the same tokens are the same place.
-/

namespace FileRoutes

/-- What a parameter accepts: one piece or several, and whether it may be missing.  A catch-all
takes the rest of the path. -/
inductive ParameterKind where
  | dynamic
  | optional
  | catchall
  | repeatable
  | optionalRepeatable
deriving DecidableEq, Repr

/-- One item of a segment. -/
inductive Token where
  | literal (text : Text)
  | parameter (kind : ParameterKind) (name : Text)
  | group (name : Text)
deriving DecidableEq, Repr

namespace Token

/-- The literal text, or the name of the parameter or group. -/
def value : Token → Text
  | literal text => text
  | parameter _ name => name
  | group name => name

def isParameter : Token → Bool
  | parameter .. => true
  | _ => false

/-- Whether the token is a group, which leaves no trace in a route's path. -/
def isGroup : Token → Bool
  | group _ => true
  | _ => false

def spelling : Token → Text
  | literal text => text
  | parameter .dynamic name => ['['] ++ name ++ [']']
  | parameter .optional name => ['[', '['] ++ name ++ [']', ']']
  | parameter .catchall name => ['[', '.', '.', '.'] ++ name ++ [']']
  | parameter .repeatable name => ['['] ++ name ++ [']', '+']
  | parameter .optionalRepeatable name => ['[', '['] ++ name ++ [']', ']', '+']
  | group name => ['('] ++ name ++ [')']

end Token

/-- The tokens between two slashes of a file name. -/
abbrev Segment := List Token

namespace Segment

def spelling (segment : Segment) : Text :=
  segment.flatMap Token.spelling

/-- The segment of an index page: one empty literal. -/
def index : Segment :=
  [.literal []]

/-- Whether the segment is that of an index page. -/
def isIndex (segment : Segment) : Bool :=
  segment = index

/-- Whether the segment holds groups and nothing else. -/
def isGroup (segment : Segment) : Bool :=
  !segment.isEmpty && segment.all Token.isGroup

/-- The tokens that are not groups. -/
def visible (segment : Segment) : Segment :=
  segment.filter (!·.isGroup)

@[simp]
theorem spelling_nil : spelling [] = [] := rfl

@[simp]
theorem spelling_cons (token : Token) (rest : Segment) :
    spelling (token :: rest) = token.spelling ++ spelling rest := rfl

@[simp]
theorem spelling_append (first second : Segment) :
    spelling (first ++ second) = spelling first ++ spelling second := by
  simp [spelling]

end Segment
end FileRoutes
