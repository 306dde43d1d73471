import FileRoutes.Expression.CharSet
import FileRoutes.Expression.Place
import FileRoutes.Text.Basic

/-!
# Regular expressions

An expression says what may stand in a text, and which of several readings is preferred: the
first of several alternatives, the longer run for a greedy repetition, the shorter one for a lazy
one.

Expressions are kept in a simple form, which the functions of this module build.  Literals that
follow one another are one, a row holds no row and a choice no choice, and a choice between single
characters is a set.  One rule decides what is matched: alternatives that begin with the same items
share them.  The shared items are read once, before any alternative is chosen, so a reading in
which they are longer comes before one in which an earlier alternative is taken.
-/

namespace FileRoutes

inductive Expression where
  /-- No text. -/
  | empty
  /-- A text that stands for itself. -/
  | literal (text : Text)
  /-- One character of a set. -/
  | chars (set : CharSet)
  /-- No text, at a place of which an assertion holds. -/
  | place (assertion : Place)
  /-- An item and the rest of the row. -/
  | seq (first rest : Expression)
  /-- An alternative and the less preferred ones. -/
  | either (first rest : Expression)
  /-- At least so many times, and at most as often as the second bound says if there is one. -/
  | repetition (least : Nat) (most : Option Nat) (greedy : Bool) (body : Expression)
  /-- A group with its number, whose text is captured if it has a name. -/
  | group (number : Nat) (name : Option Text) (body : Expression)
deriving DecidableEq, Repr

namespace Expression

/-- The items of a row; anything else is a single item. -/
def items : Expression → List Expression
  | seq first rest => first :: rest.items
  | item => [item]

/-- The alternatives of a choice; anything else is a single alternative. -/
def alternatives : Expression → List Expression
  | either first rest => first :: rest.alternatives
  | alternative => [alternative]

def size : Expression → Nat
  | empty | literal _ | chars _ | place _ => 1
  | seq first rest | either first rest => first.size + rest.size + 1
  | repetition _ _ _ body | group _ _ body => body.size + 1

/-! ## How much text is matched -/

/-- The length of the shortest text that may match, unless a part of the expression that is needed
matches nothing. -/
def shortest? : Expression → Option Nat
  | empty | place _ => some 0
  | literal text => some text.length
  | chars set => if set.runs = [] then none else some 1
  | seq first rest => do return (← first.shortest?) + (← rest.shortest?)
  | either first rest => do return min (← first.shortest?) (← rest.shortest?)
  | repetition least _ _ body => do return (← body.shortest?) * least
  | group _ _ body => body.shortest?

/-- Whether only the empty text may match. -/
def isBare : Expression → Bool
  | empty | place _ => true
  | literal text => text.isEmpty
  | chars _ => false
  | seq first rest | either first rest => first.isBare && rest.isBare
  | repetition _ most _ body => most.isSome && body.isBare
  | group _ _ body => body.isBare

/-! ## Rows -/

/-- Put an item before others: the empty expression is left out, and a literal is joined with a
literal after it. -/
def consItem : Expression → List Expression → List Expression
  | empty, later => later
  | literal text, literal next :: later => literal (text ++ next) :: later
  | item, later => item :: later

/-- The row of some items that are in simple form among themselves. -/
def ofItems : List Expression → Expression
  | [] => empty
  | [item] => item
  | item :: next :: later => seq item (ofItems (next :: later))

def row (expressions : List Expression) : Expression :=
  ofItems ((expressions.flatMap items).foldr consItem [])

/-! ## Sets, choices and repetitions -/

/-- A character of a set; the set of one character is a literal. -/
def ofSet (set : CharSet) : Expression :=
  match set.only? with
  | some c => literal [c]
  | none => if set.runs = [] then chars (.empty false) else chars set

/-- The set of the characters that an alternative stands for, if it is a single character. -/
def asSingle? : Expression → Option CharSet
  | literal [c] => some (.single true c)
  | _ => none

def asSet? : Expression → Option CharSet
  | chars set => some set
  | _ => none

def unionOf (sets : List CharSet) : Expression :=
  ofSet (.ofRuns true (sets.flatMap CharSet.runs))

/-- The items that two rows begin with in common. -/
def commonItems : List Expression → List Expression → List Expression
  | first :: left, second :: right => if first = second then first :: commonItems left right else []
  | _, _ => []

/-- The items that all alternatives begin with; an alternative of one item shares nothing. -/
def sharedItems (alternatives : List Expression) : List Expression :=
  match alternatives.map items with
  | [] => []
  | row :: rows =>
      if (row :: rows).all (·.length ≥ 2) then rows.foldl commonItems row else []

/-- The choice between some alternatives. -/
def ofAlternatives : List Expression → Expression
  | [] => chars (.empty false)
  | [alternative] => alternative
  | alternative :: next :: later => either alternative (ofAlternatives (next :: later))

/-- The choice between expressions.  Items are shared at most so often as the number says. -/
def choiceWithin : Nat → List Expression → Expression
  | 0, expressions => ofAlternatives expressions
  | sharings + 1, expressions =>
      match expressions.flatMap alternatives with
      | [] => chars (.empty false)
      | [alternative] => alternative
      | alternatives =>
          if let some sets := alternatives.mapM asSingle? then unionOf sets
          else if let some sets := alternatives.mapM asSet? then unionOf sets
          else
            match sharedItems alternatives with
            | [] => ofAlternatives alternatives
            | shared =>
                let rest := alternatives.map fun row => ofItems (row.items.drop shared.length)
                row (shared ++ [choiceWithin sharings rest])

/-- The choice between expressions, the first preferred.  Each sharing leaves fewer parts. -/
def choice (expressions : List Expression) : Expression :=
  choiceWithin (expressions.foldr (fun expression total => expression.size + total) 1) expressions

/-- A repetition.  What only matches the empty text is repeated at most once. -/
def repeated (least : Nat) (most : Option Nat) (greedy : Bool) (body : Expression) : Expression :=
  let (least, most) :=
    if body.isBare then (min least 1, some (most.elim 1 (min · 1))) else (least, most)
  if most = some 0 then empty
  else if least = 1 ∧ most = some 1 then body
  else repetition least most greedy body

end Expression
end FileRoutes
