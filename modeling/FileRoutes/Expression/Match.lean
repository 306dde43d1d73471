import FileRoutes.Expression.Program
import Std.Data.HashSet

/-!
# Matching an expression

A match is found by trying, in the order of preference.  Each instruction is tried at most once
at each place of the text.  What led to no match there does so again, and a repetition that comes
back to its hub without taking text has begun nothing new.
-/

namespace FileRoutes

/-- The captured values with the names of their captures. -/
abbrev Captures := List (Text × Text)

/-- Where matching has come to. -/
structure Spot where
  /-- The character before the place. -/
  before : Option Char
  /-- The text after the place. -/
  rest : Text
  /-- The texts from the beginnings of the groups that have not ended, the latest first. -/
  entered : List Text
  /-- What has been captured, the latest first. -/
  captures : Captures

namespace Spot

/-- A place where no group has begun. -/
def start (before : Option Char) (rest : Text) : Spot :=
  ⟨before, rest, [], []⟩

def pass (c : Char) (rest : Text) (spot : Spot) : Spot :=
  { spot with before := some c, rest }

/-- Go past the next character if it is one of those wanted. -/
def take? (wanted : Char → Bool) (spot : Spot) : Option Spot :=
  match spot.rest with
  | [] => none
  | c :: rest => if wanted c then some (spot.pass c rest) else none

def satisfies (spot : Spot) (assertion : Place) : Bool :=
  assertion.holds spot.before spot.rest.head?

def enter (spot : Spot) : Spot :=
  { spot with entered := spot.rest :: spot.entered }

def leave (name : Text) (spot : Spot) : Spot :=
  match spot.entered with
  | [] => spot
  | text :: entered =>
      let value := text.take (text.length - spot.rest.length)
      { spot with entered, captures := (name, value) :: spot.captures }

end Spot

/-- How matching goes on after an instruction. -/
inductive Turn where
  /-- It ends, with the captures of a match or without one. -/
  | stop (found : Option Captures)
  /-- It goes on at an address and a spot. -/
  | go (next : Nat) (spot : Spot)
  /-- It goes on at the first address or, if that leads to no match, at the second. -/
  | choose (first second : Nat)

def Turn.goIf (next : Nat) (spot : Option Spot) : Turn :=
  spot.elim (.stop none) (.go next)

/-- What an instruction does at a spot. -/
def Instruction.turn (spot : Spot) : Instruction → Turn
  | accept => .stop (some spot.captures)
  | literal c next => .goIf next (spot.take? (· = c))
  | chars set next => .goIf next (spot.take? set.contains)
  | place assertion next => .goIf next (if spot.satisfies assertion then some spot else none)
  | split first second => .choose first second
  | enter next => .go next spot.enter
  | leave name next => .go next (spot.leave name)

/-- The addresses tried so far, each with the length of the text that was left. -/
abbrev Tried := Std.HashSet (Nat × Nat)

namespace Program

def turn? (program : Program) (address : Nat) (spot : Spot) : Option Turn :=
  program[address]?.map (·.turn spot)

/-- Match from an address and a spot, with as many steps in a row as the first number says. -/
def run (program : Program) : Nat → Nat → Spot → Tried → Option Captures × Tried
  | 0, _, _, tried => (none, tried)
  | steps + 1, address, spot, tried =>
      if tried.contains (address, spot.rest.length) then (none, tried)
      else
        let tried := tried.insert (address, spot.rest.length)
        match program.turn? address spot with
        | none => (none, tried)
        | some (.stop found) => (found, tried)
        | some (.go next spot) => program.run steps next spot tried
        | some (.choose first second) =>
            let outcome := program.run steps first spot tried
            if outcome.1.isSome then outcome else program.run steps second spot outcome.2

/-- Match at one of the places of a text, from left to right. -/
def runFrom (program : Program) (steps entry : Nat) (before : Option Char) :
    Text → Tried → Option Captures
  | [], tried => (program.run steps entry (.start before []) tried).1
  | c :: rest, tried =>
      match program.run steps entry (.start before (c :: rest)) tried with
      | (some captures, _) => some captures
      | (none, tried) => program.runFrom steps entry (some c) rest tried

end Program

/-- The captures of the leftmost match in a text, the latest first.  Steps in a row are all tried
for the first time, so there are no more of them than pairs of an instruction and a place. -/
def Expression.search (expression : Expression) (text : Text) : Option Captures :=
  let (entry, program) := expression.program
  program.runFrom (program.size * (text.length + 1) + 1) entry none text ∅

end FileRoutes
