import FileRoutes.Text.Basic
import FileRoutes.Text.Alphabetic
import FileRoutes.Text.Numeral

/-!
# Natural order of texts

Names are listed as a reader expects them: punctuation before digits, digits before letters,
and case looked at only when nothing else differs.  The order of two characters takes the class
first and the lower-case character second.  Texts that agree in all of that are told apart by
their code points in descending order, so lower case stands before upper case and the order
identifies no two texts.
-/

namespace FileRoutes
namespace Text

/-- The class of a character: letters after numbers, numbers after everything else. -/
def charRank (c : Char) : Nat :=
  if isAlphabetic c then 2 else if isNumeric c then 1 else 0

/-- Compare characters by class, then without regard to ASCII case. -/
def foldedCompare (rank : Char → Nat) : Char → Char → Ordering :=
  compareLex (compareOn rank) (compareOn Char.toLower)

/-- Compare texts character by character without regard to ASCII case; texts that agree so far
are ordered by descending code points. -/
def naturalCompareBy (rank : Char → Nat) (first second : Text) : Ordering :=
  (List.compareLex (foldedCompare rank) first second).then (compare second first)

/-- The natural order under the Unicode classes of characters. -/
def naturalCompare : Text → Text → Ordering :=
  naturalCompareBy charRank

/-- Sort texts in natural order, keeping the order of equal ones. -/
def naturalSort (texts : List Text) : List Text :=
  texts.mergeSort fun first second => (naturalCompare first second).isLE

end Text
end FileRoutes
