import FileRoutes.Text.Basic
import FileRoutes.Text.ByteRange
import Mathlib.Tactic.SplitIfs

/-!
# Texts stand in the order of their bytes

In UTF-8 a code point is written in base 64.  Its lowest digits take a byte each, and the first byte
holds what they leave over, under a mark that grows with their number.  Of two code points the
greater never has the smaller first byte; where the first bytes agree, as many digits follow in
either, and the first digit in which they differ decides.  So no code point is written like the
beginning of another, and texts compare alike by their characters and by their bytes.
-/

namespace FileRoutes
namespace Text

/-! ## The bytes of a code point -/

/-- What is left of a code point without so many of its lowest digits in base 64. -/
def leftOver : Nat → Nat → Nat
  | 0, code => code
  | count + 1, code => leftOver count (code / 64)

/-- So many of the lowest digits in base 64, the highest of them first, under the mark of a byte
that follows another. -/
def trailBytes : Nat → Nat → List Nat
  | 0, _ => []
  | count + 1, code => trailBytes count (code / 64) ++ [0x80 + code % 64]

/-- How many bytes follow the first one of a code point. -/
def trailCount (code : Nat) : Nat :=
  if code < 0x80 then 0 else if code < 0x800 then 1 else if code < 0x10000 then 2 else 3

/-- The first byte of a code point: what the others leave over, under a mark of their number. -/
def leadByte (code : Nat) : Nat :=
  if code < 0x80 then code
  else if code < 0x800 then 0xC0 + leftOver 1 code
  else if code < 0x10000 then 0xE0 + leftOver 2 code
  else 0xF0 + leftOver 3 code

theorem utf8Bytes_eq_cons (code : Nat) :
    utf8Bytes code = leadByte code :: trailBytes (trailCount code) code := by
  unfold utf8Bytes leadByte trailCount
  split_ifs
  · rfl
  all_goals
    simp only [leftOver, trailBytes, Nat.div_div_eq_div_mul, Nat.div_one, List.nil_append,
      List.cons_append]

/-- The library's bytes of a character are those of its code point. -/
theorem map_toNat_utf8EncodeChar (c : Char) :
    (String.utf8EncodeChar c).map UInt8.toNat = utf8Bytes c.toNat := by
  have bound : c.toNat < 0x110000 := by
    rcases c.valid with low | ⟨-, bound⟩
    · exact Nat.lt_trans low (by decide)
    · exact bound
  unfold String.utf8EncodeChar utf8Bytes
  rw [← Char.toNat]
  dsimp only
  generalize c.toNat = code at bound ⊢
  split_ifs
  -- Both sides are cut at the same bounds, so the mixed cases are empty.
  all_goals try omega
  all_goals
    simp only [List.map_cons, List.map_nil, UInt8.toNat_ofNat', List.cons.injEq, and_true]
    omega

/-! ## The order of two code points -/

/-- A beginning that two lists have in common does not matter. -/
theorem compare_append_left (front first second : List Nat) :
    compare (front ++ first) (front ++ second) = compare first second := by
  induction front with
  | nil => rfl
  | cons byte front inductionHypothesis =>
      rw [List.cons_append, List.cons_append, List.compare_cons_cons, Nat.compare_eq_eq.mpr rfl,
        Ordering.eq_then, inductionHypothesis]

/-- Digits stand in the order of the numbers that they are the lowest digits of, if what these have
left over is the same. -/
theorem compare_trailBytes_append {count first second : Nat} (before : first < second)
    (alike : leftOver count first = leftOver count second) (rest others : List Nat) :
    compare (trailBytes count first ++ rest) (trailBytes count second ++ others) = .lt := by
  induction count generalizing first second rest others with
  | zero => exact absurd alike (Nat.ne_of_lt before)
  | succ count inductionHypothesis =>
      rw [trailBytes, trailBytes, List.append_assoc, List.append_assoc]
      rcases Nat.lt_or_eq_of_le (Nat.div_le_div_right (Nat.le_of_lt before)) with less | same
      · exact inductionHypothesis less alike _ _
      · -- The digits above are the same, so the lowest ones decide.
        have digit : 0x80 + first % 64 < 0x80 + second % 64 := by omega
        rw [same, compare_append_left, List.cons_append, List.cons_append, List.compare_cons_cons,
          Nat.compare_eq_lt.mpr digit, Ordering.lt_then]

/-- The first byte tells two code points apart, or else as many digits follow it in either and
what they leave over is the same. -/
theorem leadByte_lt_or {first second : Nat} (before : first < second) :
    leadByte first < leadByte second ∨ leadByte first = leadByte second ∧
      trailCount first = trailCount second ∧
      leftOver (trailCount first) first = leftOver (trailCount first) second := by
  unfold leadByte trailCount
  split_ifs
  all_goals
    simp only [leftOver, true_and]
    omega

/-- The smaller of two code points stands first, whatever follows them. -/
theorem compare_utf8Bytes_append {first second : Nat} (before : first < second)
    (rest others : List Nat) :
    compare (utf8Bytes first ++ rest) (utf8Bytes second ++ others) = .lt := by
  rw [utf8Bytes_eq_cons, utf8Bytes_eq_cons, List.cons_append, List.cons_append,
    List.compare_cons_cons]
  rcases leadByte_lt_or before with less | ⟨same, sameCount, alike⟩
  · rw [Nat.compare_eq_lt.mpr less, Ordering.lt_then]
  · rw [same, Nat.compare_eq_eq.mpr rfl, Ordering.eq_then, ← sameCount]
    exact compare_trailBytes_append before alike rest others

/-! ## The order of two texts -/

theorem compare_flatMap_utf8Bytes (first second : List Nat) :
    compare (first.flatMap utf8Bytes) (second.flatMap utf8Bytes) = compare first second := by
  induction first generalizing second with
  | nil =>
      cases second with
      | nil => rfl
      | cons other second =>
          rw [List.flatMap_cons, utf8Bytes_eq_cons]
          rfl
  | cons code first inductionHypothesis =>
      cases second with
      | nil =>
          rw [List.flatMap_cons, utf8Bytes_eq_cons]
          rfl
      | cons other second =>
          rw [List.flatMap_cons, List.flatMap_cons, List.compare_cons_cons]
          rcases Nat.lt_trichotomy code other with less | rfl | greater
          · rw [compare_utf8Bytes_append less, Nat.compare_eq_lt.mpr less, Ordering.lt_then]
          · rw [compare_append_left, inductionHypothesis, Nat.compare_eq_eq.mpr rfl,
              Ordering.eq_then]
          · rw [Nat.compare_eq_gt.mpr greater, Ordering.gt_then, Std.OrientedOrd.eq_swap,
              compare_utf8Bytes_append greater, Ordering.swap_lt]

/-- Numbers that compare like the items they stand for do so in lists as well. -/
theorem compare_map {α : Type} [Ord α] {number : α → Nat}
    (alike : ∀ item other, compare (number item) (number other) = compare item other)
    (first second : List α) :
    compare (first.map number) (second.map number) = compare first second := by
  induction first generalizing second with
  | nil => cases second <;> rfl
  | cons item first inductionHypothesis =>
      cases second with
      | nil => rfl
      | cons other second =>
          rw [List.map_cons, List.map_cons, List.compare_cons_cons, List.compare_cons_cons, alike,
            inductionHypothesis]

theorem compare_byte_toNat (first second : UInt8) :
    compare first.toNat second.toNat = compare first second := by
  simp only [compare, compareOfLessAndEq, UInt8.lt_iff_toNat_lt, UInt8.toNat_inj]

theorem compare_char_toNat (first second : Char) :
    compare first.toNat second.toNat = compare first second := by
  have lessIff : first < second ↔ first.toNat < second.toNat := Iff.rfl
  simp only [compare, compareOfLessAndEq, lessIff, Char.toNat_inj]

/-- Texts compare by their bytes as they do by their characters. -/
theorem compare_flatMap_utf8EncodeChar (first second : Text) :
    compare (first.flatMap String.utf8EncodeChar) (second.flatMap String.utf8EncodeChar) =
      compare first second := by
  have numbers (text : Text) : (text.flatMap String.utf8EncodeChar).map UInt8.toNat =
      (text.map Char.toNat).flatMap utf8Bytes := by
    simp only [List.map_flatMap, List.flatMap_map, map_toNat_utf8EncodeChar]
  calc compare (first.flatMap String.utf8EncodeChar) (second.flatMap String.utf8EncodeChar)
      = compare ((first.map Char.toNat).flatMap utf8Bytes)
          ((second.map Char.toNat).flatMap utf8Bytes) := by
        rw [← numbers, ← numbers, compare_map compare_byte_toNat]
    _ = compare (first.map Char.toNat) (second.map Char.toNat) := compare_flatMap_utf8Bytes _ _
    _ = compare first second := compare_map compare_char_toNat first second

end Text
end FileRoutes
