import FileRoutes.Text.CharRange

/-!
# Blanks

A blank is a character with the property `White_Space`: spaces, tabs, and the breaks of lines,
paragraphs and pages.
-/

namespace FileRoutes
namespace Text

def blankRanges : List CharRange :=
  [(0x0009, 0x000D), (0x0020, 0x0020), (0x0085, 0x0085), (0x00A0, 0x00A0), (0x1680, 0x1680),
   (0x2000, 0x200A), (0x2028, 0x2029), (0x202F, 0x202F), (0x205F, 0x205F), (0x3000, 0x3000)]

def isBlank (c : Char) : Bool :=
  CharRange.covers blankRanges c.toNat

end Text
end FileRoutes
