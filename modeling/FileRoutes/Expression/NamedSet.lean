import FileRoutes.Expression.Mode
import FileRoutes.Text.Property
import FileRoutes.Text.Script

/-!
# Sets named by what Unicode says of their characters

A set may be named by a property, a general category or a script, and the category and the script
may also be given as values of what they are.  No other properties with values are known.  In a
name, case, spaces, hyphens, underscores and characters outside ASCII make no difference, and the
word "is" may stand in front.
-/

namespace FileRoutes
namespace CharSet

/-- The part of a name that makes a difference.  The short name of comments, which begins with the
same letters as the word in front, is kept whole, so it never names a category. -/
def essentialName (name : Text) : String :=
  let essential (text : Text) : String :=
    let counts (c : Char) : Bool := c.toNat < 128 && c != ' ' && c != '_' && c != '-'
    String.ofList ((text.filter counts).map Char.toLower)
  match name with
  | first :: second :: rest =>
      if first.toLower = 'i' ∧ second.toLower = 's' then
        if essential rest = "c" then "isc" else essential rest
      else essential name
  | _ => essential name

/-- The set of a general category.  Some unions of categories have names too. -/
def ofCategory? (name : String) : Option CharSet :=
  match name with
  | "any" => some (empty true).complement
  | "assigned" => some (ofRuns true Text.assignedRanges)
  | "ascii" => some (ofRuns true [(0, 127)])
  | _ =>
      (Text.Category.named.find? fun row => row.1.contains name).map fun (_, categories) =>
        ofRuns true (categories.flatMap Text.Category.runs)

def ofScript? (name : String) : Option CharSet :=
  (Text.Script.runs? name).map (ofRuns true)

def ofProperty? (name : String) : Option CharSet :=
  (Text.Property.named.find? fun row => row.1.contains name).map fun (_, property) =>
    ofRuns true property.runs

/-- The set of a name alone. -/
def ofBareName? (name : Text) : Option CharSet :=
  let name := essentialName name
  ofProperty? name <|> ofCategory? name <|> ofScript? name

/-- The set of a value of the category or of the script. -/
def ofValue? (name value : Text) : Option CharSet :=
  let name := essentialName name
  let value := essentialName value
  if name = "gc" ∨ name = "generalcategory" then ofCategory? value
  else if name = "sc" ∨ name = "script" then ofScript? value
  else none

/-- The parts of a text before and after the first place where a sign stands. -/
def splitAt? (sign : Text) : Text → Option (Text × Text)
  | [] => none
  | c :: rest =>
      match Text.after? sign (c :: rest) with
      | some after => some ([], after)
      | none => (splitAt? sign rest).map fun (before, after) => (c :: before, after)

/-- The set of a description in braces: a name, or a name and a value with a sign between them.
Every sign says that the value is meant, the sign of inequality too. -/
def ofDescription? (text : Text) : Option CharSet :=
  let parts := splitAt? ['!', '='] text <|> splitAt? [':'] text <|> splitAt? ['='] text
  match parts with
  | some (name, value) => ofValue? name value
  | none => ofBareName? text

/-- Read the name of a set, which is one character or a description in braces. -/
def readDescribed? (mode : Mode) (negated : Bool) (text : Text) : Option (CharSet × Text) := do
  let (set, rest) ←
    match mode.skip text with
    | [] | '\\' :: _ => none
    | '\x7b' :: rest =>
        match mode.span (· ≠ '\x7d') rest.length (mode.skip rest) with
        | (description, '\x7d' :: rest) => (ofDescription? description).map (·, rest)
        | _ => none
    | c :: rest => (ofBareName? [c]).map (·, rest)
  let set := mode.fold set
  if negated then (mode.complement? set).map (·, rest)
  else if mode.unicode then some (set, rest) else none

end CharSet
end FileRoutes
