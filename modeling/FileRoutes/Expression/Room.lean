import FileRoutes.Expression.Basic
import FileRoutes.Text.ByteRange
import Std.Data.HashSet

/-!
# The room that an expression takes

Written out, with a copy for every round of a bounded repetition, an expression may become too
large.  Its size is measured as that of a machine that reads one byte at a time, in either
direction, with 32 bytes for each of its states and more for those with several ways to go on.
-/

namespace FileRoutes

open Text (ByteRange)

inductive Direction where
  | forward
  | backward
deriving DecidableEq, Repr

namespace CharSet

/-- The different ways to go on among some pieces: a first byte and the pieces that follow it. -/
def branches (pieces : List (List ByteRange)) : List (ByteRange × List (List ByteRange)) :=
  let firsts := (pieces.filterMap List.head?).eraseDups
  let after (first : ByteRange) : List (List ByteRange) :=
    pieces.filterMap fun piece => if piece.head? = some first then some piece.tail else none
  firsts.map fun first => (first, after first)

/-- The different remainders of pieces that are not at their end, up to so many bytes on. -/
def remainders : Nat → List (List ByteRange) → Std.HashSet (List (List ByteRange)) →
    Std.HashSet (List (List ByteRange))
  | 0, _, found => found
  | bytes + 1, pieces, found =>
      if pieces = [[]] ∨ found.contains pieces then found
      else
        (branches pieces).foldl (fun found branch => remainders bytes branch.2 found)
          (found.insert pieces)

/-- The room for a set.  Read forwards, pieces that end alike share their states; read backwards,
those that begin alike. -/
def room (direction : Direction) (set : CharSet) : Nat :=
  if set.isAscii then 64 + 8 * set.runs.length
  else
    let pieces := Text.utf8Pieces set.runs
    match direction with
    | .forward =>
        (remainders 4 pieces ∅).fold (fun room rest => room + 32 + 8 * (branches rest).length) 32
    | .backward =>
        let fronts : Std.HashSet (List ByteRange) :=
          .ofList (pieces.flatMap fun piece =>
            (List.range piece.length).map fun index => piece.take (index + 1))
        64 + 4 * pieces.length + 32 * fronts.size

end CharSet

namespace Expression

def room (direction : Direction) : Expression → Nat
  | empty | place _ => 32
  | literal text => 32 * Text.byteLength text
  | chars set => set.room direction
  | seq first rest => first.room direction + rest.room direction
  | either first (either second rest) =>
      first.room direction + (either second rest).room direction + 4
  | either first second => first.room direction + second.room direction + 72
  | repetition least (some most) _ body =>
      let between := if least = 0 ∧ most = 1 ∨ least = most then 0 else if least = 0 then 64 else 32
      let last := if least = 0 ∧ most = 1 then 32 else 0
      let rounds := least * body.room direction
      rounds + (most - least) * (body.room direction + 40) + between + last
  | repetition least none _ body =>
      if least = 0 then
        body.room direction + if body.shortest?.any (0 < ·) then 40 else 112
      else least * body.room direction + 40
  | group _ _ body => body.room direction + if direction = .forward then 64 else 0

def roomLimit : Nat :=
  0xA00000

/-- Whether there is room for an expression, besides what every machine needs. -/
def fits (expression : Expression) : Bool :=
  expression.room .forward + 128 ≤ roomLimit && expression.room .backward + 64 ≤ roomLimit

end Expression
end FileRoutes
