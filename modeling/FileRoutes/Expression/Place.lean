import FileRoutes.Text.WordChar

/-!
# Places in a text

An assertion says something about a place: about the character before it and the one after it, of
which either may be missing.
-/

namespace FileRoutes

/-- How a place lies to the words around it. -/
inductive WordEdge where
  /-- A word starts or ends there. -/
  | either
  /-- No word starts or ends there. -/
  | neither
  /-- A word starts there. -/
  | start
  /-- A word ends there. -/
  | finish
  /-- No word comes up to the place. -/
  | startHalf
  /-- No word goes on from the place. -/
  | finishHalf
deriving DecidableEq, Repr

/-- An assertion about a place. -/
inductive Place where
  /-- The start of the text. -/
  | textStart
  /-- The end of the text. -/
  | textEnd
  /-- The start of a line, where a carriage return may count as a break too. -/
  | lineStart (carriageReturns : Bool)
  /-- The end of a line. -/
  | lineEnd (carriageReturns : Bool)
  /-- An edge of words, which are those of all scripts or of ASCII alone. -/
  | wordEdge (edge : WordEdge) (unicode : Bool)
deriving DecidableEq, Repr

def Text.isWordCharIn (unicode : Bool) (c : Char) : Bool :=
  if unicode then isWordChar c else c.isAlphanum || c == '_'

namespace WordEdge

/-- Whether an edge lies between a character of a word or not and another. -/
def holds : WordEdge → Bool → Bool → Bool
  | either, before, after => before != after
  | neither, before, after => before == after
  | start, before, after => !before && after
  | finish, before, after => before && !after
  | startHalf, before, _ => !before
  | finishHalf, _, after => !after

end WordEdge

/-- Whether an assertion holds between two characters.  A carriage return and a line feed are one
break, and no place between them is at the end or the start of a line. -/
def Place.holds : Place → Option Char → Option Char → Bool
  | textStart, before, _ => before.isNone
  | textEnd, _, after => after.isNone
  | lineStart false, before, _ => before.isNone || before == some '\n'
  | lineStart true, before, after =>
      before.isNone || before == some '\n' || before == some '\r' && after != some '\n'
  | lineEnd false, _, after => after.isNone || after == some '\n'
  | lineEnd true, before, after =>
      after.isNone || after == some '\r' || after == some '\n' && before != some '\r'
  | wordEdge edge unicode, before, after =>
      edge.holds (before.any (Text.isWordCharIn unicode)) (after.any (Text.isWordCharIn unicode))

end FileRoutes
