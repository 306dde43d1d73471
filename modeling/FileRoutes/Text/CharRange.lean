/-!
# Sets of characters given by runs of code points

A character class is a list of disjoint runs in ascending order, so a search may stop at the
first run that ends at or after the code point.  Runs in any order are put into this form by
`normalize`, and no two of its runs could be joined; what lies between them is given by `gaps`.
-/

namespace FileRoutes
namespace Text

/-- The code points from the first component to the second, both included. -/
abbrev CharRange := Nat × Nat

namespace CharRange

/-- Whether one of the runs, which stand in ascending order, holds the code point. -/
def covers : List CharRange → Nat → Bool
  | [], _ => false
  | (first, last) :: later, code =>
      if code ≤ last then first ≤ code else covers later code

/-- Join a run with those after it, which begin no earlier, as long as one reaches up to the
next. -/
def joinFrom (run : CharRange) : List CharRange → List CharRange
  | [] => [run]
  | next :: later =>
      if next.1 ≤ run.2 + 1 then joinFrom (run.1, max run.2 next.2) later
      else run :: joinFrom next later

/-- The code points of some runs as runs in ascending order, as few as possible. -/
def normalize (runs : List CharRange) : List CharRange :=
  match runs.mergeSort fun left right => left.1 ≤ right.1 with
  | [] => []
  | run :: later => joinFrom run later

/-- The code point of the character after one; no character stands for a surrogate. -/
def following (code : Nat) : Nat :=
  if code = 0xD7FF then 0xE000 else code + 1

def preceding (code : Nat) : Nat :=
  if code = 0xE000 then 0xD7FF else code - 1

def lastCode : Nat :=
  0x10FFFF

/-- The runs between runs in ascending order, from a code point to the last one. -/
def gaps (start : Nat) : List CharRange → List CharRange
  | [] => if start ≤ lastCode then [(start, lastCode)] else []
  | (first, last) :: later =>
      let between := if start < first then [(start, preceding first)] else []
      between ++ gaps (following last) later

/-- The code points of some runs that are in no other runs, in normal form. -/
def without (runs others : List CharRange) : List CharRange :=
  gaps 0 (normalize (gaps 0 (normalize runs) ++ others))

end CharRange

end Text
end FileRoutes
