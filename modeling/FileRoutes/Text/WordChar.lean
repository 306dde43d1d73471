import FileRoutes.Text.Alphabetic
import FileRoutes.Text.Mark
import FileRoutes.Text.Numeral

/-!
# Word characters

A word character is alphabetic, a combining mark, a decimal digit, connecting punctuation such
as the underscore, or one of the two joiners that stand inside words.

The words of a file name are those of Unicode 16.0, while the classes they are made of are those
of Unicode 17.0.  No character moved into or out of a word between the two editions, so the later
one differs only by the characters it added, and these are left out here.
-/

namespace FileRoutes
namespace Text

def connectorRanges : List CharRange :=
  [(0x5F, 0x5F), (0x203F, 0x2040), (0x2054, 0x2054), (0xFE33, 0xFE34), (0xFE4D, 0xFE4F),
   (0xFF3F, 0xFF3F)]

def isConnector (c : Char) : Bool :=
  CharRange.covers connectorRanges c.toNat

/-- The run of the characters that join their neighbours without being seen. -/
def joinerRanges : List CharRange :=
  [(0x200C, 0x200D)]

def isJoiner (c : Char) : Bool :=
  CharRange.covers joinerRanges c.toNat

/-- The runs of code points that Unicode 17.0 added, in ascending order. -/
def addedRanges : List CharRange :=
  [(0x088F, 0x088F), (0x0C5C, 0x0C5C), (0x0CDC, 0x0CDC), (0x1ACF, 0x1ADD),
   (0x1AE0, 0x1AEB), (0x20C1, 0x20C1), (0x2B96, 0x2B96), (0xA7CE, 0xA7CF),
   (0xA7D2, 0xA7D2), (0xA7D4, 0xA7D4), (0xA7F1, 0xA7F1), (0xFBC3, 0xFBD2),
   (0xFD90, 0xFD91), (0xFDC8, 0xFDCE), (0x10940, 0x10959), (0x10EC5, 0x10EC7),
   (0x10ED0, 0x10ED8), (0x10EFA, 0x10EFB), (0x11B60, 0x11B67), (0x11DB0, 0x11DDB),
   (0x11DE0, 0x11DE9), (0x16EA0, 0x16EB8), (0x16EBB, 0x16ED3), (0x16FF2, 0x16FF6),
   (0x187F8, 0x187FF), (0x18D09, 0x18D1E), (0x18D80, 0x18DF2), (0x1CCFA, 0x1CCFC),
   (0x1CEBA, 0x1CED0), (0x1CEE0, 0x1CEF0), (0x1E6C0, 0x1E6DE), (0x1E6E0, 0x1E6F5),
   (0x1E6FE, 0x1E6FF), (0x1F6D8, 0x1F6D8), (0x1F777, 0x1F77A), (0x1F8D0, 0x1F8D8),
   (0x1FA54, 0x1FA57), (0x1FA8A, 0x1FA8A), (0x1FA8E, 0x1FA8E), (0x1FAC8, 0x1FAC8),
   (0x1FACD, 0x1FACD), (0x1FAEA, 0x1FAEA), (0x1FAEF, 0x1FAEF), (0x1FBFA, 0x1FBFA),
   (0x2B73A, 0x2B73F), (0x2CEA2, 0x2CEAD), (0x323B0, 0x33479)]

def isAdded (c : Char) : Bool :=
  CharRange.covers addedRanges c.toNat

def isWordChar (c : Char) : Bool :=
  (isAlphabetic c || isMark c || isDecimalDigit c || isConnector c || isJoiner c) && !isAdded c

end Text
end FileRoutes
