import FileRoutes.Segment.Token

/-!
# Reading a segment

The reader takes one character at a time.  Its state records which construct is open and what
has been collected for it; each step finishes some tokens, may leave a notice about text that is
dropped, and yields the next state, or finds a fault that no later character can repair.

Two states stand for a decision that waits for the next character.  After the closing bracket a
plus sign makes the parameter repeat, and inside a double bracket one closing bracket is dropped
unless a second one follows at once.
-/

namespace FileRoutes
namespace Segment

/-- Why a segment cannot be read. -/
inductive Fault where
  /-- A bracket was closed before it held a name. -/
  | emptyParameter
  /-- A group was closed before it held a name. -/
  | emptyGroup
  /-- The segment ends inside a bracket that holds this much of a name. -/
  | unfinishedParameter (name : Text)
  /-- The segment ends inside a group that holds this much of a name. -/
  | unfinishedGroup (name : Text)
deriving DecidableEq, Repr

/-- Text of a segment that reading drops. -/
inductive Notice where
  /-- A parameter name cannot hold this character. -/
  | droppedChar (c : Char)
  /-- A catch-all takes the rest of the path already, so its plus sign has no effect. -/
  | redundantRepeat
deriving DecidableEq, Repr

structure Bracket where
  /-- The bracket was opened twice. -/
  double : Bool
  /-- Three dots have marked the parameter as a catch-all. -/
  catchall : Bool
  name : Text
deriving DecidableEq, Repr

namespace Bracket

def opened : Bracket :=
  ⟨false, false, []⟩

/-- Turn three dots and nothing else into the mark of a catch-all. -/
def settle (bracket : Bracket) : Bracket :=
  if bracket.name = ['.', '.', '.'] then { bracket with catchall := true, name := [] } else bracket

/-- The kind of the parameter when the bracket is closed, with or without a plus sign. -/
def kind (bracket : Bracket) (repeats : Bool) : ParameterKind :=
  if bracket.catchall then .catchall
  else
    match bracket.double, repeats with
    | false, false => .dynamic
    | false, true => .repeatable
    | true, false => .optional
    | true, true => .optionalRepeatable

def token (bracket : Bracket) (repeats : Bool) : Token :=
  .parameter (bracket.kind repeats) bracket.name

end Bracket

/-- What the reader is in the middle of. -/
inductive State where
  /-- Outside every bracket and group, after this much literal text. -/
  | text (pending : Text)
  /-- Inside a bracket. -/
  | bracket (bracket : Bracket)
  /-- Inside a double bracket, just after one closing bracket. -/
  | halfClosed (bracket : Bracket)
  /-- Just after a bracket was closed. -/
  | closed (bracket : Bracket)
  /-- Inside a group. -/
  | group (name : Text)
deriving DecidableEq, Repr

/-- What one character does: tokens it finishes, notices it leaves, and the next state. -/
structure Progress where
  tokens : List Token
  notices : List Notice
  state : State
deriving DecidableEq, Repr

/-- Literal text as tokens: none when it is empty. -/
def flush (pending : Text) : List Token :=
  if pending = [] then [] else [.literal pending]

/-- Whether a parameter name may hold the character. -/
def isNameChar (c : Char) : Bool :=
  c.isAlphanum || c == '_' || c == '.'

def stepText (pending : Text) (c : Char) : Progress :=
  if c = '[' then ⟨flush pending, [], .bracket .opened⟩
  else if c = '(' then ⟨flush pending, [], .group []⟩
  else ⟨[], [], .text (pending ++ [c])⟩

def close (bracket : Bracket) : Except Fault Progress :=
  if bracket.name = [] ∧ bracket.catchall = false then .error .emptyParameter
  else .ok ⟨[], [], .closed bracket⟩

def stepBracket (bracket : Bracket) (c : Char) : Except Fault Progress :=
  if c = ']' then
    if bracket.double then .ok ⟨[], [], .halfClosed bracket⟩ else close bracket
  else if c = '[' ∧ bracket = .opened then
    .ok ⟨[], [], .bracket { bracket with double := true }⟩
  else if isNameChar c then
    .ok ⟨[], [], .bracket { bracket with name := bracket.name ++ [c] }⟩
  else .ok ⟨[], [.droppedChar c], .bracket bracket⟩

def stepClosed (bracket : Bracket) (c : Char) : Progress :=
  if c = '+' then
    ⟨[bracket.token true], if bracket.catchall then [.redundantRepeat] else [], .text []⟩
  else
    let next := stepText [] c
    { next with tokens := bracket.token false :: next.tokens }

def stepGroup (name : Text) (c : Char) : Except Fault Progress :=
  if c ≠ ')' then .ok ⟨[], [], .group (name ++ [c])⟩
  else if name = [] then .error .emptyGroup
  else .ok ⟨[.group name], [], .text []⟩

def step : State → Char → Except Fault Progress
  | .text pending, c => .ok (stepText pending c)
  | .bracket bracket, c => stepBracket bracket.settle c
  | .halfClosed bracket, c => if c = ']' then close bracket else stepBracket bracket c
  | .closed bracket, c => .ok (stepClosed bracket c)
  | .group name, c => stepGroup name c

/-- The last tokens, when the segment ends in this state. -/
def finish : State → Except Fault (List Token)
  | .text pending => .ok (flush pending)
  | .bracket bracket | .halfClosed bracket => .error (.unfinishedParameter bracket.name)
  | .closed bracket => .ok [bracket.token false]
  | .group name => .error (.unfinishedGroup name)

/-- The tokens of the rest of a segment, from a state. -/
def tokensFrom : State → Text → Except Fault (List Token)
  | state, [] => finish state
  | state, c :: rest =>
      match step state c with
      | .error fault => .error fault
      | .ok next => (tokensFrom next.state rest).map (next.tokens ++ ·)

/-- The notices that reading the rest of a segment leaves, up to the first fault. -/
def noticesFrom : State → Text → List Notice
  | _, [] => []
  | state, c :: rest =>
      match step state c with
      | .error _ => []
      | .ok next => next.notices ++ noticesFrom next.state rest

/-- A segment that spells `index` is that of an index page. -/
def normalize (segment : Segment) : Segment :=
  if segment = [.literal ['i', 'n', 'd', 'e', 'x']] then index else segment

/-- Read a segment.  The empty text is the segment of an index page, as `index` is. -/
def read (text : Text) : Except Fault Segment :=
  if text = [] then .ok index else (tokensFrom (.text []) text).map normalize

/-- The notices that reading a segment leaves, in order. -/
def notices (text : Text) : List Notice :=
  noticesFrom (.text []) text

end Segment
end FileRoutes
