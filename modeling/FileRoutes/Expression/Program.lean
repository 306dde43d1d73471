import FileRoutes.Expression.Basic

/-!
# Programs for expressions

An expression becomes a program: instructions that name the address at which matching goes on.
The instructions for what comes later stand first, so every address is known when it is needed,
except at the hub of a repetition, which is reserved before its body and filled in after it.

A repetition without bounds that may be left out begins at its hub if its body always takes text.
A body that may take none is begun at its own start, so the first round is tried before the hub
offers to leave it out; it is left out before that round or not at all.
-/

namespace FileRoutes

/-- One step of matching. -/
inductive Instruction where
  /-- The match is complete. -/
  | accept
  /-- Take a character. -/
  | literal (c : Char) (next : Nat)
  /-- Take one character of a set. -/
  | chars (set : CharSet) (next : Nat)
  /-- Go on at a place of which an assertion holds. -/
  | place (assertion : Place) (next : Nat)
  /-- Go on at the first address or, if that leads to no match, at the second. -/
  | split (first second : Nat)
  /-- A group begins. -/
  | enter (next : Nat)
  /-- The group that began last ends, and its text is captured. -/
  | leave (name : Text) (next : Nat)
deriving DecidableEq, Repr

/-- The instructions by their addresses. -/
abbrev Program := Array Instruction

/-- How the instructions for a part are added: from the address that comes after the part, to the
address at which it begins. -/
abbrev Segmenter := Nat → Program → Nat × Program

namespace Program

/-- Add an instruction; its address comes first. -/
def add (program : Program) (instruction : Instruction) : Nat × Program :=
  (program.size, program.push instruction)

/-- A choice between another round and what comes after it. -/
def offer (greedy : Bool) (round next : Nat) : Instruction :=
  if greedy then .split round next else .split next round

def addText (text : Text) : Segmenter :=
  fun next program =>
    text.foldr (fun c (next, program) => add program (.literal c next)) (next, program)

def addCopies (part : Segmenter) : Nat → Segmenter
  | 0, next, program => (next, program)
  | count + 1, next, program =>
      let (start, program) := part next program
      addCopies part count start program

/-- At most so many copies of a part.  Any of them may be followed by what comes after all. -/
def addOptionalCopies (greedy : Bool) (part : Segmenter) (finish : Nat) : Nat → Segmenter
  | 0, next, program => (next, program)
  | count + 1, next, program =>
      let (start, program) := part next program
      let (choice, program) := program.add (offer greedy start finish)
      addOptionalCopies greedy part finish count choice program

/-- One copy of a part or more, by the address of the hub and that of the first copy. -/
def addLoop (greedy : Bool) (part : Segmenter) (next : Nat) (program : Program) :
    Nat × Nat × Program :=
  let (hub, program) := program.add .accept
  let (round, program) := part hub program
  (hub, round, program.setIfInBounds hub (offer greedy round next))

end Program

namespace Expression

def takesText (expression : Expression) : Bool :=
  expression.shortest?.any (0 < ·)

/-- Add the instructions for an expression. -/
def addTo : Expression → Segmenter
  | empty, next, program => (next, program)
  | literal text, next, program => Program.addText text next program
  | chars set, next, program => program.add (.chars set next)
  | place assertion, next, program => program.add (.place assertion next)
  | seq first rest, next, program =>
      let (middle, program) := addTo rest next program
      addTo first middle program
  | either first rest, next, program =>
      let (left, program) := addTo first next program
      let (right, program) := addTo rest next program
      program.add (.split left right)
  | repetition least (some most) greedy body, next, program =>
      let (middle, program) :=
        Program.addOptionalCopies greedy (addTo body) next (most - least) next program
      Program.addCopies (addTo body) least middle program
  | repetition 0 none greedy body, next, program =>
      let (hub, round, program) := Program.addLoop greedy (addTo body) next program
      if body.takesText then (hub, program) else program.add (Program.offer greedy round next)
  | repetition (before + 1) none greedy body, next, program =>
      let (_, round, program) := Program.addLoop greedy (addTo body) next program
      Program.addCopies (addTo body) before round program
  | group _ none body, next, program => addTo body next program
  | group _ (some name) body, next, program =>
      let (finish, program) := program.add (.leave name next)
      let (start, program) := addTo body finish program
      program.add (.enter start)

/-- The program of an expression, with the address to begin at. -/
def program (expression : Expression) : Nat × Program :=
  expression.addTo 0 #[.accept]

end Expression
end FileRoutes
