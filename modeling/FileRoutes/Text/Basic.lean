/-!
# Text as a list of characters

File names, parameter names and route paths are lists of characters, so that every rule of
the library is a recursion on what it reads.  Taking a text apart never loses anything:
`after?` and `before?` say that the text is the part asked for put back in its place, and
`pieces` keeps exactly the non-empty runs between slashes.
-/

namespace FileRoutes

/-- A text, read character by character. -/
abbrev Text := List Char

namespace Text

/-- What follows `front` in a text that starts with it. -/
def after? (front text : Text) : Option Text :=
  if front <+: text then some (text.drop front.length) else none

theorem after?_eq_some_iff {front text rest : Text} :
    after? front text = some rest ↔ text = front ++ rest := by
  unfold after?
  constructor
  · intro taken
    split at taken
    · next starts =>
      obtain ⟨tail, rfl⟩ := starts
      simpa using taken
    · cases taken
  · rintro rfl
    simp

/-- What precedes `back` in a text that ends with it. -/
def before? (back text : Text) : Option Text :=
  if back <:+ text then some (text.take (text.length - back.length)) else none

theorem before?_eq_some_iff {back text stem : Text} :
    before? back text = some stem ↔ text = stem ++ back := by
  unfold before?
  constructor
  · intro taken
    split at taken
    · next ends =>
      obtain ⟨front, rfl⟩ := ends
      simpa using taken
    · cases taken
  · rintro rfl
    simp

/-- The non-empty runs between slashes, in order. -/
def pieces (text : Text) : List Text :=
  (text.splitOn '/').filter (· ≠ [])

theorem ne_nil_of_mem_pieces {text piece : Text} (listed : piece ∈ text.pieces) : piece ≠ [] := by
  simpa using (List.mem_filter.mp listed).2

/-- The parts with one slash between neighbours. -/
def slashed (parts : List Text) : Text :=
  List.intercalate ['/'] parts

/-- Replace the occurrences of a non-empty pattern from left to right.  The count is of
characters that belong to an occurrence already replaced. -/
def replaceFrom (pattern replacement : Text) : Nat → Text → Text
  | _, [] => []
  | 0, c :: rest =>
      if pattern <+: c :: rest then
        replacement ++ replaceFrom pattern replacement (pattern.length - 1) rest
      else c :: replaceFrom pattern replacement 0 rest
  | skipped + 1, _ :: rest => replaceFrom pattern replacement skipped rest

/-- Replace every occurrence of a non-empty pattern, leftmost first and without overlap. -/
def replace (pattern replacement text : Text) : Text :=
  replaceFrom pattern replacement 0 text

/-- The length of a text in UTF-8 bytes, by which names are ranked. -/
def byteLength : Text → Nat
  | [] => 0
  | c :: rest => c.utf8Size + byteLength rest

theorem byteLength_append (front back : Text) :
    byteLength (front ++ back) = byteLength front + byteLength back := by
  induction front with
  | nil => simp [byteLength]
  | cons c rest inductionHypothesis =>
      rw [List.cons_append, byteLength, byteLength, inductionHypothesis, Nat.add_assoc]

end Text
end FileRoutes
