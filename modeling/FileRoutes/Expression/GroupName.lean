import FileRoutes.Text.Alphabetic
import FileRoutes.Text.Numeral

/-!
# Names of groups

A group's name starts with a letter or an underscore.  Later characters may be digits of any
script, points and square brackets too.
-/

namespace FileRoutes
namespace GroupName

def isFirst (c : Char) : Bool :=
  c == '_' || Text.isAlphabetic c

def isLater (c : Char) : Bool :=
  c == '_' || c == '.' || c == '[' || c == ']' || Text.isAlphabetic c || Text.isNumeric c

def isWellFormed : List Char → Bool
  | [] => false
  | c :: rest => isFirst c && rest.all isLater

end GroupName
end FileRoutes
