import FileRoutes.Proofs.Text.Slashes
import FileRoutes.Text.WordChar

/-!
# Words

Extensions and modes are words.  A word has no dot and no at sign, which is why it is found again
behind the last dot of a text.
-/

namespace FileRoutes
namespace Text

/-- The text is a word: it has characters, and all of them may stand in a word. -/
def IsWord (text : Text) : Prop :=
  text ≠ [] ∧ ∀ c ∈ text, isWordChar c = true

theorem toNat_lt_of_ascii {c : Char} (ascii : c.isAlphanum = true ∨ c = '_') : c.toNat < 128 := by
  have upTo {last : Char} (below : c.val ≤ last.val) (isAscii : last.toNat < 128) :
      c.toNat < 128 := Nat.lt_of_le_of_lt (UInt32.le_iff_toNat_le.mp below) isAscii
  rcases ascii with alphanumeric | rfl
  · rcases Bool.or_eq_true_iff.mp alphanumeric with letter | digit
    · rcases Bool.or_eq_true_iff.mp letter with upper | lower
      · exact upTo (of_decide_eq_true upper).2 (by decide)
      · exact upTo (of_decide_eq_true (Bool.and_eq_true_iff.mp lower).2) (by decide)
    · exact upTo (of_decide_eq_true (Bool.and_eq_true_iff.mp digit).2) (by decide)
  · decide

/-- What holds of the letters, the digits and the low line among the characters of ASCII. -/
theorem of_ascii (property : Char → Bool) {c : Char}
    (ascii : c.isAlphanum = true ∨ c = '_')
    (each : ∀ code < 128, (Char.ofNat code).isAlphanum = true ∨ Char.ofNat code = '_' →
      property (Char.ofNat code) = true) : property c = true := by
  have small := toNat_lt_of_ascii ascii
  rw [← Char.ofNat_toNat c] at ascii ⊢
  exact each _ small ascii

theorem isWordChar_of_ascii {c : Char} (ascii : c.isAlphanum = true ∨ c = '_') :
    isWordChar c = true :=
  of_ascii isWordChar ascii (by decide +kernel)

/-- Words over the letters, digits and the low line of ASCII are words. -/
theorem IsWord.of_ascii {text : Text} (nonempty : text ≠ [])
    (ascii : ∀ c ∈ text, c.isAlphanum = true ∨ c = '_') : text.IsWord :=
  ⟨nonempty, fun c listed => isWordChar_of_ascii (ascii c listed)⟩

theorem isWordChar_dot : isWordChar '.' = false := by decide +kernel

theorem isWordChar_at : isWordChar '@' = false := by decide +kernel

namespace IsWord

variable {text other front back : Text}

theorem dot_not_mem (word : text.IsWord) : '.' ∉ text := by
  intro listed
  exact absurd (word.2 _ listed) (by simp [isWordChar_dot])

theorem at_not_mem (word : text.IsWord) : '@' ∉ text := by
  intro listed
  exact absurd (word.2 _ listed) (by simp [isWordChar_at])

theorem reverse (word : text.IsWord) : IsWord text.reverse :=
  ⟨mt List.reverse_eq_nil_iff.mp word.1, fun c listed => word.2 c (List.mem_reverse.mp listed)⟩

/-- A word at the end of a text is found again behind the last dot. -/
theorem eq_of_append_dot (word : text.IsWord) (wordToo : other.IsWord)
    (same : front ++ '.' :: text = back ++ '.' :: other) : front = back ∧ text = other := by
  have turned := congrArg List.reverse same
  simp only [List.reverse_append, List.reverse_cons, List.append_assoc] at turned
  have stops (rest : Text) : ∀ c ∈ (['.'] ++ rest).head?, isWordChar c = false := by
    rintro c first
    rw [← Option.some.inj first]
    exact isWordChar_dot
  rcases append_inj_of_run word.reverse.2 wordToo.reverse.2 (stops _) (stops _) turned with
    ⟨sameText, sameFront⟩
  exact ⟨List.reverse_inj.mp (List.cons.inj sameFront).2, List.reverse_inj.mp sameText⟩

end IsWord
end Text
end FileRoutes
