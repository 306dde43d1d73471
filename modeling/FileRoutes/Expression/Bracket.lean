import FileRoutes.Expression.Escape

/-!
# Sets in brackets

Brackets hold characters, ranges, classes and further brackets, whose union is meant, and
operators between such unions, which are applied from left to right.  A hyphen means itself where
it cannot stand between the ends of a range, and so does a closing bracket that stands first.

Besides the set, reading finds how deep brackets, unions and operators are nested in each other.
-/

namespace FileRoutes

inductive SetOperator where
  /-- Characters of both sets. -/
  | intersection
  /-- Characters of the first set alone. -/
  | difference
  /-- Characters of one set alone. -/
  | symmetricDifference
deriving DecidableEq, Repr

def SetOperator.apply (left right : CharSet) : SetOperator → CharSet
  | intersection => left.intersection right
  | difference => left.difference right
  | symmetricDifference => left.symmetricDifference right

/-- A set that has been read. -/
structure NestedSet where
  set : CharSet
  /-- How deep it is nested. -/
  depth : Nat
deriving DecidableEq, Repr

/-- A bracket that is open. -/
structure Bracket where
  /-- The set of all other characters is meant. -/
  negated : Bool
  /-- What stands before the last operator. -/
  left : Option (NestedSet × SetOperator)
  /-- What has been read since, the latest first. -/
  members : List NestedSet

namespace Bracket

def opened (negated : Bool) : Bracket :=
  ⟨negated, none, []⟩

def add (member : NestedSet) (bracket : Bracket) : Bracket :=
  { bracket with members := member :: bracket.members }

def addChar (mode : Mode) (c : Char) (bracket : Bracket) : Bracket :=
  bracket.add ⟨.single mode.unicode c, 0⟩

/-- The union of the members; it counts for the depth when there are several. -/
def union (mode : Mode) (members : List NestedSet) : NestedSet :=
  let deepest := (members.map NestedSet.depth).foldr max 0
  { set := .ofRuns mode.unicode (members.flatMap fun member => member.set.runs)
    depth := if members.length < 2 then deepest else deepest + 1 }

/-- What has been read so far. -/
def value (mode : Mode) (bracket : Bracket) : NestedSet :=
  let right := union mode bracket.members
  match bracket.left with
  | none => right
  | some (left, operator) =>
      { set := operator.apply (mode.fold left.set) (mode.fold right.set)
        depth := max left.depth right.depth + 1 }

def operate (mode : Mode) (operator : SetOperator) (bracket : Bracket) : Bracket :=
  { bracket with left := some (bracket.value mode, operator), members := [] }

/-- What a bracket stands for when it is closed. -/
def close (mode : Mode) (bracket : Bracket) : NestedSet :=
  let value := bracket.value mode
  let set := mode.fold value.set
  { set := if bracket.negated then set.complement else set
    depth := value.depth + 1 }

/-! ## Reading -/

def readHyphens (mode : Mode) : Nat → Bracket → Text → Bracket × Text
  | enough + 1, bracket, '-' :: rest =>
      readHyphens mode enough (bracket.addChar mode '-') (mode.skip rest)
  | _, bracket, text => (bracket, text)

/-- Read what may stand only at the front of a bracket.  A complement is not confined to ASCII. -/
def readOpening (mode : Mode) (text : Text) : Option (Bracket × Text) :=
  let (negated, text) :=
    match mode.skip text with
    | '^' :: rest => (true, mode.skip rest)
    | text => (false, text)
  if negated && !mode.unicode then none
  else
    match text with
    | ']' :: rest => some ((opened negated).addChar mode ']', mode.skip rest)
    | text => some (readHyphens mode text.length (opened negated) text)

def readAtom (mode : Mode) : Text → Option (Atom × Text)
  | [] => none
  | '\\' :: rest => Atom.readEscape mode rest
  | c :: rest => some (.literal c, rest)

/-- Whether a hyphen with this text after it stands between the ends of a range.  Of a comment
only the sign that begins it is passed over. -/
def isRangeHyphen (mode : Mode) (text : Text) : Bool :=
  let next :=
    if mode.spaced then
      match text.dropWhile Text.isBlank with
      | '#' :: rest => rest.dropWhile Text.isBlank
      | text => text
    else text
  next.head? != some ']' && next.head? != some '-'

/-- Read a range, or an item that is not the first end of one. -/
def readMember (mode : Mode) (text : Text) : Option (CharSet × Text) := do
  let (first, text) ← readAtom mode text
  let range :=
    match mode.skip text with
    | '-' :: rest => if isRangeHyphen mode rest then some (mode.skip rest) else none
    | _ => none
  match range, first with
  | none, .literal c => if mode.admits c then some (.single mode.unicode c, text) else none
  | none, .chars set => some (set, text)
  | some rest, .literal low =>
      match ← readAtom mode rest with
      | (.literal high, rest) =>
          if low ≤ high ∧ mode.admits high then
            some (.ofRuns mode.unicode [(low.toNat, high.toNat)], rest)
          else none
      | _ => none
  | _, _ => none

/-- Read a class by its name, if the text after an opening bracket holds one. -/
def readNamed? (mode : Mode) : Text → Option (Option CharSet × Text)
  | ':' :: text => do
      let (negated, text) :=
        match text with
        | '^' :: rest => (true, rest)
        | text => (false, text)
      let (name, text) := text.span (· ≠ ':')
      let rest ← Text.after? [':', ']'] text
      let members ← CharSet.ofName? name
      let set := mode.fold { members with unicode := mode.unicode }
      some (if negated then mode.complement? set else some set, rest)
  | _ => none

/-- Read a bracket to its end, with as many items as the first number says.  The brackets around
it are open too. -/
def readFrom (mode : Mode) : Nat → Bracket → List Bracket → Text → Option (NestedSet × Text)
  | 0, _, _, _ => none
  | items + 1, bracket, outer, text =>
      match mode.skip text with
      | [] => none
      | '[' :: rest =>
          match readNamed? mode rest with
          | some (set, rest) =>
              set.bind fun set => readFrom mode items (bracket.add ⟨set, 0⟩) outer rest
          | none =>
              (readOpening mode rest).bind fun (inner, rest) =>
                readFrom mode items inner (bracket :: outer) rest
      | ']' :: rest =>
          match outer with
          | [] => some (bracket.close mode, rest)
          | around :: outer => readFrom mode items (around.add (bracket.close mode)) outer rest
      | '&' :: '&' :: rest => readFrom mode items (bracket.operate mode .intersection) outer rest
      | '-' :: '-' :: rest => readFrom mode items (bracket.operate mode .difference) outer rest
      | '~' :: '~' :: rest =>
          readFrom mode items (bracket.operate mode .symmetricDifference) outer rest
      | text =>
          (readMember mode text).bind fun (set, rest) =>
            readFrom mode items (bracket.add ⟨set, 0⟩) outer rest

def read (mode : Mode) (text : Text) : Option (NestedSet × Text) :=
  (readOpening mode text).bind fun (bracket, rest) =>
    readFrom mode (text.length + 1) bracket [] rest

end Bracket
end FileRoutes
