import FileRoutes.Expression.Mode

/-!
# Classes of characters

Three classes have letters of their own: digits, blanks and word characters, as Unicode 16.0 has
them.  Others have names, which are known inside brackets only and mean characters of ASCII.
-/

namespace FileRoutes
namespace CharSet

def unicodeDigit : CharSet :=
  (ofRuns true Text.decimalDigitRanges).difference (ofRuns true Text.addedRanges)

def unicodeBlank : CharSet :=
  ofRuns true Text.blankRanges

def unicodeWord : CharSet :=
  let parts := [Text.alphabeticRanges, Text.markRanges, Text.decimalDigitRanges,
    Text.connectorRanges, Text.joinerRanges]
  (ofRuns true parts.flatten).difference (ofRuns true Text.addedRanges)

def ofAscii (property : Char → Bool) : CharSet :=
  let members := ((List.range 128).map Char.ofNat).filter property
  ofRuns false (members.map fun c => (c.toNat, c.toNat))

def digit (unicode : Bool) : CharSet :=
  if unicode then unicodeDigit else ofAscii Char.isDigit

def blank (unicode : Bool) : CharSet :=
  if unicode then unicodeBlank else ofAscii Text.isBlank

def word (unicode : Bool) : CharSet :=
  if unicode then unicodeWord else ofAscii (Text.isWordCharIn false)

/-- The class of a letter after a backslash; a capital stands for what is not in the class. -/
def ofLetter? (mode : Mode) (letter : Char) : Option CharSet :=
  match letter with
  | 'd' => some (digit mode.unicode)
  | 's' => some (blank mode.unicode)
  | 'w' => some (word mode.unicode)
  | 'D' => mode.complement? (digit mode.unicode)
  | 'S' => mode.complement? (blank mode.unicode)
  | 'W' => mode.complement? (word mode.unicode)
  | _ => none

/-- Whether a character of ASCII has a printed form; the space has none. -/
def isGraph (c : Char) : Bool :=
  0x20 < c.toNat && c.toNat < 0x7F

def ofName? (name : Text) : Option CharSet :=
  match String.ofList name with
  | "alnum" => some (ofAscii Char.isAlphanum)
  | "alpha" => some (ofAscii Char.isAlpha)
  | "ascii" => some (ofAscii fun _ => true)
  | "blank" => some (ofAscii fun c => c == '\t' || c == ' ')
  | "cntrl" => some (ofAscii fun c => !isGraph c && c != ' ')
  | "digit" => some (ofAscii Char.isDigit)
  | "graph" => some (ofAscii isGraph)
  | "lower" => some (ofAscii Char.isLower)
  | "print" => some (ofAscii fun c => isGraph c || c == ' ')
  | "punct" => some (ofAscii fun c => isGraph c && !c.isAlphanum)
  | "space" => some (ofAscii Text.isBlank)
  | "upper" => some (ofAscii Char.isUpper)
  | "word" => some (ofAscii (Text.isWordCharIn false))
  | "xdigit" => some (ofAscii fun c => c.isDigit || "abcdefABCDEF".contains c)
  | _ => none

end CharSet

def WordEdge.ofName? (name : Text) : Option WordEdge :=
  match String.ofList name with
  | "start" => some start
  | "end" => some finish
  | "start-half" => some startHalf
  | "end-half" => some finishHalf
  | _ => none

end FileRoutes
