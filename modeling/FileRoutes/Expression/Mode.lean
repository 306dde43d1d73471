import FileRoutes.Expression.Basic
import FileRoutes.Text.Blank

/-!
# Modes of reading an expression

A mode says what the parts of a written expression mean.  It is changed by flags, one letter each,
for the rest of a group or for a group of its own.
-/

namespace FileRoutes

/-- How an expression is read. -/
structure Mode where
  /-- Letters that differ in case alone are not told apart. -/
  caseless : Bool
  /-- The assertions about a line hold at every line, not only at the ends of the text. -/
  multiline : Bool
  /-- A point stands for line breaks too. -/
  dotAll : Bool
  /-- Repetitions are lazy unless they are marked, instead of greedy. -/
  lazy : Bool
  /-- Classes and letters are those of all scripts, not of ASCII alone. -/
  unicode : Bool
  /-- Carriage returns break lines too, and not between them and a line feed. -/
  carriageReturns : Bool
  /-- Blanks and comments do not count. -/
  spaced : Bool
deriving DecidableEq, Repr

namespace Mode

def initial : Mode :=
  ⟨false, false, false, false, true, false, false⟩

def set? (mode : Mode) (flag : Char) (value : Bool) : Option Mode :=
  match flag with
  | 'i' => some { mode with caseless := value }
  | 'm' => some { mode with multiline := value }
  | 's' => some { mode with dotAll := value }
  | 'U' => some { mode with lazy := value }
  | 'u' => some { mode with unicode := value }
  | 'R' => some { mode with carriageReturns := value }
  | 'x' => some { mode with spaced := value }
  | _ => none

/-- Read flags up to a colon or a closing parenthesis.  Those after a hyphen are switched off;
neither a flag nor the hyphen may occur twice, and the hyphen may not stand last. -/
def readFlags (mode : Mode) (seen : List Char) : Text → Option (Mode × Text)
  | [] => none
  | c :: rest =>
      if c = ':' ∨ c = ')' then
        if seen.head? = some '-' then none else some (mode, c :: rest)
      else if seen.contains c then none
      else if c = '-' then mode.readFlags (c :: seen) rest
      else (mode.set? c (!seen.contains '-')).bind fun mode => mode.readFlags (c :: seen) rest

/-! ## Blanks and comments -/

/-- The text from its first character that counts, when blanks and comments do not; a comment
lasts to the end of the line. -/
def dropBlanks (inComment : Bool) : Text → Text
  | [] => []
  | c :: rest =>
      if inComment then dropBlanks (c ≠ '\n') rest
      else if Text.isBlank c then dropBlanks false rest
      else if c = '#' then dropBlanks true rest
      else c :: rest

/-- The text from its first character that counts. -/
def skip (mode : Mode) (text : Text) : Text :=
  if mode.spaced then dropBlanks false text else text

/-- The run of characters with a property at the front of a text, in at most so many characters,
and what follows it.  What does not count is left out between them. -/
def span (mode : Mode) (property : Char → Bool) : Nat → Text → Text × Text
  | count + 1, c :: rest =>
      if property c then
        let (run, rest) := mode.span property count (mode.skip rest)
        (c :: run, rest)
      else ([], c :: rest)
  | _, text => ([], text)

/-! ## Sets and places -/

/-- Whether a set may be written with the character by its code point alone. -/
def admits (mode : Mode) (c : Char) : Bool :=
  mode.unicode || c.toNat < 128

/-- The set with the variants of its characters if case makes no difference. -/
def fold (mode : Mode) (set : CharSet) : CharSet :=
  if mode.caseless then set.closeUnderCase else set

/-- The complement of a set, which must not be confined to ASCII. -/
def complement? (mode : Mode) (set : CharSet) : Option CharSet :=
  if mode.unicode then some set.complement else none

def dot? (mode : Mode) : Option CharSet :=
  let breaks : List Char :=
    if mode.dotAll then [] else if mode.carriageReturns then ['\n', '\r'] else ['\n']
  mode.complement? (.ofRuns true (breaks.map fun c => (c.toNat, c.toNat)))

/-- The expression for a character that stands for itself, or for its variants too. -/
def literal (mode : Mode) (c : Char) : Expression :=
  if mode.caseless then .ofSet (CharSet.single mode.unicode c).closeUnderCase else .literal [c]

/-- The start of a line, or of the text alone. -/
def lineStart (mode : Mode) : Place :=
  if mode.multiline then .lineStart mode.carriageReturns else .textStart

/-- The end of a line, or of the text alone. -/
def lineEnd (mode : Mode) : Place :=
  if mode.multiline then .lineEnd mode.carriageReturns else .textEnd

end Mode
end FileRoutes
