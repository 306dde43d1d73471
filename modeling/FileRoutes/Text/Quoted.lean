import FileRoutes.Text.Basic

/-!
# Quoted texts

A text that stands among others is put in quotes, in the notation of JSON.  A quote within the
text is escaped, and so is the backslash that does it, and so are control characters.  The
notation is compact: nothing stands between two items of a list but a comma.
-/

namespace FileRoutes
namespace Text

def quote : Char :=
  '\x22'

/-- The letter that stands for a character after a backslash, if there is one. -/
def escapeLetter? (c : Char) : Option Char :=
  if c = quote ∨ c = '\\' then some c
  else if c = '\x08' then some 'b'
  else if c = '\t' then some 't'
  else if c = '\n' then some 'n'
  else if c = '\x0c' then some 'f'
  else if c = '\r' then some 'r'
  else none

/-- A character as it stands within quotes.  A control character without a letter is written by
its code. -/
def escaped (c : Char) : Text :=
  match escapeLetter? c with
  | some letter => ['\\', letter]
  | none =>
      if c.toNat < 32 then
        ['\\', 'u', '0', '0', Nat.digitChar (c.toNat / 16), Nat.digitChar (c.toNat % 16)]
      else [c]

/-- A text in quotes. -/
def quoted (text : Text) : Text :=
  quote :: text.flatMap escaped ++ [quote]

/-- Items in brackets, with commas between them. -/
def bracketed (front back : Char) (items : List Text) : Text :=
  front :: List.intercalate [','] items ++ [back]

end Text
end FileRoutes
