import FileRoutes.Text.Basic

/-!
# Route paths

A route path is text with slashes between its parts.  Literal text enters a path through
`encode`, which leaves path punctuation readable, percent-encodes every other character byte by
byte, and puts a backslash before a colon because a bare colon opens a parameter.
-/

namespace FileRoutes
namespace RoutePath

/-- The punctuation that stands for itself in a path. -/
def safePunctuation : List Char :=
  ['-', '_', '.', '~', '!', '$', '&', '\'', '(', ')', '*', '+', ',', ';', '=', ':', '@', '/', '|']

/-- Whether a character stands for itself in a path. -/
def isSafe (c : Char) : Bool :=
  c.isAlphanum || safePunctuation.contains c

def hexDigit (n : Nat) : Char :=
  if n < 10 then Char.ofNat ('0'.toNat + n) else Char.ofNat ('A'.toNat + (n - 10))

def percentByte (byte : UInt8) : Text :=
  ['%', hexDigit (byte.toNat / 16), hexDigit (byte.toNat % 16)]

/-- A character of literal text as it stands in a path. -/
def encodeChar (c : Char) : Text :=
  if c = ':' then ['\\', ':']
  else if isSafe c then [c]
  else (String.utf8EncodeChar c).flatMap percentByte

/-- Literal text as it stands in a path. -/
def encode (text : Text) : Text :=
  text.flatMap encodeChar

/-- Put one slash between a base and a path.  An empty path or a lone slash adds nothing, and
an empty base takes the path as it is. -/
def join (base path : Text) : Text :=
  if path = [] ∨ path = ['/'] then base
  else if base = [] then path
  else
    let relative :=
      match path with
      | '.' :: '/' :: rest => rest
      | '/' :: rest => rest
      | _ => path
    if base.getLast? = some '/' then base ++ relative else base ++ '/' :: relative

/-- The path with a slash in front, added if missing. -/
def rooted (path : Text) : Text :=
  if path.head? = some '/' then path else '/' :: path

/-- The path below its parent: without the slash in front, if it has one. -/
def relative : Text → Text
  | '/' :: rest => rest
  | path => path

end RoutePath
end FileRoutes
