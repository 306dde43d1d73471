import FileRoutes.Expression.Bracket
import FileRoutes.Expression.GroupName
import FileRoutes.Expression.Room

/-!
# Reading an expression

The reader takes one item at a time and keeps the groups that are open around it.  Nothing is
guessed: a sign that cannot mean anything where it stands makes the whole text no expression.
Look-around and references back to a group are not known.
-/

namespace FileRoutes

/-- What has been read as one part. -/
structure Parsed where
  expression : Expression
  /-- How deep groups, brackets, repetitions, rows and choices are nested in it. -/
  depth : Nat

/-- The depth of several parts, which counts for one more if there is more than one. -/
def Parsed.joinedDepth (depths : List Nat) : Nat :=
  let deepest := depths.foldr max 0
  if depths.length < 2 then deepest else deepest + 1

/-- A group that is being read, or the whole expression. -/
structure Level where
  /-- The mode of what comes next. -/
  mode : Mode
  /-- The finished alternatives, the latest first. -/
  alternatives : List Parsed
  /-- The items of the alternative that has not ended, the latest first.  A change of the mode is
  an item of no expression, which cannot be repeated. -/
  items : List (Option Parsed)

namespace Level

def opened (mode : Mode) : Level :=
  ⟨mode, [], []⟩

def add (level : Level) (item : Expression) (depth : Nat) : Level :=
  { level with items := some ⟨item, depth⟩ :: level.items }

def setMode (level : Level) (mode : Mode) : Level :=
  { level with mode, items := none :: level.items }

/-- The alternative that has not ended. -/
def alternative (level : Level) : Parsed :=
  let items := level.items.reverse
  { expression := Expression.row (items.filterMap fun item => item.map Parsed.expression)
    depth := Parsed.joinedDepth (items.map fun item => (item.map Parsed.depth).getD 0) }

def next (level : Level) : Level :=
  { level with alternatives := level.alternative :: level.alternatives, items := [] }

/-- The expression of a group that ends. -/
def close (level : Level) : Parsed :=
  match level.alternatives with
  | [] => level.alternative
  | earlier =>
      let alternatives := (level.alternative :: earlier).reverse
      { expression := Expression.choice (alternatives.map Parsed.expression)
        depth := Parsed.joinedDepth (alternatives.map Parsed.depth) }

/-- Repeat the latest item.  A question mark that follows turns its greed round. -/
def repeat? (level : Level) (least : Nat) (most : Option Nat) (text : Text) :
    Option (Level × Text) :=
  let (marked, rest) :=
    match text with
    | '?' :: rest => (true, rest)
    | _ => (false, text)
  match level.items with
  | some body :: items =>
      let item := body.expression.repeated least most (marked == level.mode.lazy)
      some ({ level with items := some ⟨item, body.depth + 1⟩ :: items }, rest)
  | _ => none

end Level

/-! ## Bounds of a repetition -/

/-- Read a number of times, with blanks around it. -/
def Mode.readCount (mode : Mode) (text : Text) : Option (Nat × Text) :=
  let text := text.dropWhile Text.isBlank
  let (digits, rest) := mode.span Char.isDigit text.length text
  let count := digits.foldl (fun count digit => 10 * count + (digit.toNat - '0'.toNat)) 0
  if digits ≠ [] ∧ count < 0x100000000 then some (count, rest.dropWhile Text.isBlank) else none

def Mode.readBounds (mode : Mode) (text : Text) : Option ((Nat × Option Nat) × Text) := do
  let (least, text) ← mode.readCount (mode.skip text)
  match text with
  | '\x7d' :: rest => some ((least, some least), mode.skip rest)
  | ',' :: rest =>
      match mode.skip rest with
      | '\x7d' :: rest => some ((least, none), mode.skip rest)
      | text =>
          match ← mode.readCount text with
          | (most, '\x7d' :: rest) =>
              if least ≤ most then some ((least, some most), mode.skip rest) else none
          | _ => none
  | _ => none

/-! ## Groups -/

/-- How a group captures its text. -/
structure Capturing where
  number : Nat
  name : Option Text

/-- A group that is open, with the level around it. -/
structure OpenGroup where
  /-- Only some groups capture their text. -/
  capturing : Option Capturing
  around : Level

structure Reader where
  level : Level
  /-- The open groups, the innermost first. -/
  outer : List OpenGroup
  /-- The names of the groups so far that capture their text, the latest first. -/
  captures : List (Option Text)

namespace Reader

def initial : Reader :=
  ⟨.opened .initial, [], []⟩

def openPlain (reader : Reader) (mode : Mode) : Reader :=
  { reader with level := .opened mode, outer := ⟨none, reader.level⟩ :: reader.outer }

def openCapturing (reader : Reader) (name : Option Text) : Reader :=
  let capturing := ⟨reader.captures.length + 1, name⟩
  { level := .opened reader.level.mode
    outer := ⟨some capturing, reader.level⟩ :: reader.outer
    captures := name :: reader.captures }

/-- Open a group with a name, which ends at the first angle bracket and must be new. -/
def openNamed (reader : Reader) (text : Text) : Option (Reader × Text) :=
  match text.span (· ≠ '>') with
  | (name, '>' :: rest) =>
      if GroupName.isWellFormed name && !reader.captures.contains (some name) then
        some (reader.openCapturing (some name), rest)
      else none
  | _ => none

/-- Read what follows an opening parenthesis.  Flags before a colon are those of the group, and
flags before the closing parenthesis, of which there must be one, those of the rest of the group
around. -/
def readOpening (reader : Reader) (text : Text) : Option (Reader × Text) :=
  match reader.level.mode.skip text with
  | '?' :: 'P' :: '<' :: rest | '?' :: '<' :: rest => reader.openNamed rest
  | '?' :: rest =>
      match reader.level.mode.readFlags [] rest with
      | some (mode, ':' :: after) => some (reader.openPlain mode, after)
      | some (mode, ')' :: after) =>
          if rest.head? = some ')' then none
          else some ({ reader with level := reader.level.setMode mode }, after)
      | _ => none
  | rest => some (reader.openCapturing none, rest)

/-- End the innermost group.  The mode is again the one before it. -/
def closeGroup (reader : Reader) : Option Reader :=
  match reader.outer with
  | [] => none
  | group :: outer =>
      let body := reader.level.close
      let item := group.capturing.elim body.expression fun capturing =>
        .group capturing.number capturing.name body.expression
      some { reader with level := group.around.add item (body.depth + 1), outer }

/-! ## Items -/

def add (reader : Reader) (item : Expression) (depth : Nat) : Reader :=
  { reader with level := reader.level.add item depth }

def repeat? (reader : Reader) (least : Nat) (most : Option Nat) (text : Text) :
    Option (Reader × Text) :=
  (reader.level.repeat? least most text).map fun (level, rest) => ({ reader with level }, rest)

def step (reader : Reader) (text : Text) : Option (Reader × Text) :=
  let mode := reader.level.mode
  match text with
  | [] => none
  | '(' :: rest => reader.readOpening rest
  | ')' :: rest => reader.closeGroup.map (·, rest)
  | '|' :: rest => some ({ reader with level := reader.level.next }, rest)
  | '[' :: rest =>
      (Bracket.read mode rest).map fun (found, rest) =>
        (reader.add (.ofSet found.set) found.depth, rest)
  | '?' :: rest => reader.repeat? 0 (some 1) rest
  | '*' :: rest => reader.repeat? 0 none rest
  | '+' :: rest => reader.repeat? 1 none rest
  | '\x7b' :: rest =>
      (mode.readBounds rest).bind fun ((least, most), rest) => reader.repeat? least most rest
  | '\\' :: rest =>
      (Atom.readEscape mode rest).map fun (atom, rest) =>
        (reader.add (atom.expression mode) 0, rest)
  | '.' :: rest => mode.dot?.map fun set => (reader.add (.ofSet set) 0, rest)
  | '^' :: rest => some (reader.add (.place mode.lineStart) 0, rest)
  | '$' :: rest => some (reader.add (.place mode.lineEnd) 0, rest)
  | c :: rest => some (reader.add (mode.literal c) 0, rest)

/-- The whole expression, if no group is open. -/
def finish (reader : Reader) : Option Parsed :=
  if reader.outer.isEmpty then some reader.level.close else none

/-- Read all items, at most so many as the number says. -/
def readFrom : Nat → Reader → Text → Option Parsed
  | 0, _, _ => none
  | items + 1, reader, text =>
      match reader.level.mode.skip text with
      | [] => reader.finish
      | text => (reader.step text).bind fun (next, rest) => readFrom items next rest

end Reader

namespace Expression

def depthLimit : Nat :=
  250

/-- The expression that a text writes, unless it is nested too deep. -/
def parse (text : Text) : Option Expression := do
  let parsed ← Reader.initial.readFrom (text.length + 1) text
  if parsed.depth ≤ depthLimit then some parsed.expression else none

/-- The expression that a text writes, unless it is nested too deep or takes too much room. -/
def read (text : Text) : Option Expression := do
  let expression ← parse text
  if expression.fits then some expression else none

end Expression
end FileRoutes
