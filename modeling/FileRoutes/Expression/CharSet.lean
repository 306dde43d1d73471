import FileRoutes.Text.CaseVariant
import FileRoutes.Text.CharRange

/-!
# Sets of characters in expressions

A set is kept as its runs in normal form, so sets with the same characters are equal however they
were written.  A set that was written in ASCII mode remembers that, since it is never taken for
one of the sets of all scripts.
-/

namespace FileRoutes

open Text (CharRange)

/-- A set of characters. -/
structure CharSet where
  /-- The set was not confined to ASCII when it was written. -/
  unicode : Bool
  /-- The runs of the characters' code points, in normal form. -/
  runs : List CharRange
deriving DecidableEq, Repr

namespace CharSet

def ofRuns (unicode : Bool) (runs : List CharRange) : CharSet :=
  ⟨unicode, CharRange.normalize runs⟩

def empty (unicode : Bool) : CharSet :=
  ⟨unicode, []⟩

def single (unicode : Bool) (c : Char) : CharSet :=
  ⟨unicode, [(c.toNat, c.toNat)]⟩

def contains (set : CharSet) (c : Char) : Bool :=
  CharRange.covers set.runs c.toNat

/-- The only character of a set that has just one. -/
def only? (set : CharSet) : Option Char :=
  match set.runs with
  | [(first, last)] => if first = last then some (Char.ofNat first) else none
  | _ => none

def isAscii (set : CharSet) : Bool :=
  set.runs.all fun run => run.2 < 128

def union (left right : CharSet) : CharSet :=
  ofRuns left.unicode (left.runs ++ right.runs)

def complement (set : CharSet) : CharSet :=
  { set with runs := CharRange.gaps 0 set.runs }

def intersection (left right : CharSet) : CharSet :=
  (left.complement.union right.complement).complement

def difference (left right : CharSet) : CharSet :=
  (left.complement.union right).complement

def symmetricDifference (left right : CharSet) : CharSet :=
  (left.difference right).union (right.difference left)

/-- The set with all variants of its characters.  In a set of ASCII, only letters of ASCII count
as variants. -/
def closeUnderCase (set : CharSet) : CharSet :=
  let variants (run : Text.CaseRun) : List CharRange :=
    run.pairs.flatMap fun (lower, upper) =>
      (if CharRange.covers set.runs lower then [(upper, upper)] else []) ++
        if CharRange.covers set.runs upper then [(lower, lower)] else []
  let pairs := if set.unicode then Text.caseRuns else [Text.asciiCaseRun]
  ofRuns set.unicode (set.runs ++ pairs.flatMap variants)

end CharSet
end FileRoutes
