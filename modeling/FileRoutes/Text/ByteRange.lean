import FileRoutes.Text.CharRange

/-!
# Runs of code points as runs of bytes

In UTF-8 a run of code points is cut into pieces, in each of which every byte of the encoding runs
freely between two bounds.  A piece of a run is cut at surrogates, where the number of bytes
changes, and where a later byte would be bounded on one side alone.
-/

namespace FileRoutes
namespace Text

/-- Bounds of one byte. -/
abbrev ByteRange := Nat × Nat

def utf8Bytes (code : Nat) : List Nat :=
  let trail (unit : Nat) := 0x80 + code / unit % 64
  if code < 0x80 then [code]
  else if code < 0x800 then [0xC0 + code / 0x40, trail 1]
  else if code < 0x10000 then [0xE0 + code / 0x1000, trail 0x40, trail 1]
  else [0xF0 + code / 0x40000, trail 0x1000, trail 0x40, trail 1]

/-- Where the second of two pieces begins when a run is cut at the last code point of so many
bytes. -/
def lengthCut? (first last : Nat) : Option Nat :=
  [0x80, 0x800, 0x10000].find? fun start => first < start && start ≤ last

/-- Where the second of two pieces begins when a byte would be bounded on one side alone: the
period is the number of code points that the bytes after the bounded one tell apart. -/
def trailCut? (first last : Nat) : Option Nat :=
  if last < 0x80 then none
  else
    [0x40, 0x1000, 0x40000].findSome? fun period =>
      if first / period = last / period then none
      else if first % period ≠ 0 then some ((first / period + 1) * period)
      else if last % period ≠ period - 1 then some (last / period * period)
      else none

/-- The pieces of a run in ascending order, each with the bounds of its bytes.  A run needs far
fewer cuts in a row than a code point has bits. -/
def bytePieces : Nat → CharRange → List (List ByteRange)
  | 0, _ => []
  | cuts + 1, (first, last) =>
      if last < first then []
      else if first < 0xE000 ∧ 0xD7FF < last then
        bytePieces cuts (first, min last 0xD7FF) ++ bytePieces cuts (max first 0xE000, last)
      else
        match (lengthCut? first last).or (trailCut? first last) with
        | some start => bytePieces cuts (first, start - 1) ++ bytePieces cuts (start, last)
        | none => [(utf8Bytes first).zip (utf8Bytes last)]

def utf8Pieces (runs : List CharRange) : List (List ByteRange) :=
  runs.flatMap (bytePieces 32)

end Text
end FileRoutes
