import FileRoutes.Expression.Class
import FileRoutes.Expression.NamedSet

/-!
# Escapes

A backslash gives the next character another meaning: it takes a sign's own meaning away, names a
character that is hard to write, a class of characters, or a property of a place.
-/

namespace FileRoutes

/-- What one written item of an expression stands for. -/
inductive Atom where
  | literal (c : Char)
  | chars (set : CharSet)
  | place (assertion : Place)

namespace Atom

def expression (mode : Mode) : Atom → Expression
  | literal c => mode.literal c
  | chars set => .ofSet set
  | place assertion => .place assertion

def hexDigit? (c : Char) : Option Nat :=
  if c.isDigit then some (c.toNat - '0'.toNat)
  else if 'A' ≤ c ∧ c ≤ 'F' then some (c.toNat - 'A'.toNat + 10)
  else if 'a' ≤ c ∧ c ≤ 'f' then some (c.toNat - 'a'.toNat + 10)
  else none

def ofHex? (digits : Text) : Option Char :=
  let code := (digits.filterMap hexDigit?).foldl (fun code digit => 16 * code + digit) 0
  if digits ≠ [] ∧ code.isValidChar then some (Char.ofNat code) else none

/-- Read the digits of a code point: so many as the letter before them asks for, or any number in
braces.  Two bare digits do not name a byte that is no character. -/
def readHex (mode : Mode) (count : Nat) (text : Text) : Option (Atom × Text) :=
  let isHex := fun c => (hexDigit? c).isSome
  match mode.skip text with
  | '\x7b' :: rest =>
      match mode.span isHex rest.length (mode.skip rest) with
      | (digits, '\x7d' :: rest) => (ofHex? digits).map fun c => (literal c, mode.skip rest)
      | _ => none
  | text =>
      let (digits, rest) := mode.span isHex count text
      if digits.length < count then none
      else
        (ofHex? digits).bind fun c =>
          if count = 2 ∧ mode.admits c = false then none else some (literal c, rest)

/-- Read what follows the sign for a boundary of a word: the name of a special one in braces, if
the first character in them may stand in a name. -/
def readBoundary (mode : Mode) (text : Text) : Option (Atom × Text) :=
  let isNameChar := fun (c : Char) => c.isAlpha || c == '-'
  let edge := fun (edge : WordEdge) => place (.wordEdge edge mode.unicode)
  let plain := some (edge .either, text)
  match text with
  | '\x7b' :: inner =>
      match mode.span isNameChar inner.length (mode.skip inner) with
      | ([], []) => none
      | ([], _) => plain
      | (name, '\x7d' :: rest) =>
          (WordEdge.ofName? name).map fun special => (edge special, rest)
      | _ => none
  | _ => plain

/-- The control characters that have letters. -/
def control? : Char → Option Char
  | 'a' => some '\x07'
  | 'f' => some '\x0c'
  | 'n' => some '\n'
  | 'r' => some '\r'
  | 't' => some '\t'
  | 'v' => some '\x0b'
  | _ => none

def place? (mode : Mode) : Char → Option Place
  | 'A' => some .textStart
  | 'z' => some .textEnd
  | 'B' => some (.wordEdge .neither mode.unicode)
  | '<' => some (.wordEdge .start mode.unicode)
  | '>' => some (.wordEdge .finish mode.unicode)
  | _ => none

/-- Whether the backslash may stand before a character that means itself. -/
def isEscapable (c : Char) : Bool :=
  c.toNat < 128 && !c.isAlphanum && c != '<' && c != '>'

def readEscape (mode : Mode) : Text → Option (Atom × Text)
  | [] => none
  | 'x' :: rest => readHex mode 2 rest
  | 'u' :: rest => readHex mode 4 rest
  | 'U' :: rest => readHex mode 8 rest
  | 'b' :: rest => readBoundary mode rest
  | 'p' :: rest => (CharSet.readDescribed? mode false rest).map fun (set, rest) => (chars set, rest)
  | 'P' :: rest => (CharSet.readDescribed? mode true rest).map fun (set, rest) => (chars set, rest)
  | c :: rest =>
      if isEscapable c then some (literal c, rest)
      else
        ((control? c).map literal <|> (CharSet.ofLetter? mode c).map chars <|>
          (place? mode c).map place).map (·, rest)

end Atom
end FileRoutes
