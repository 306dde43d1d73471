import FileRoutes.Proofs.NestedRoute.PathSyntax

/-!
# Encoded text can be read back

Literal text is encoded character by character, and no code of a character begins the code of
another one.  So encoded text tells the text, and tells where it ends if what follows it is a
parameter or a slash, since no code begins with a bare colon and none but that of a slash begins
with a slash.
-/

namespace FileRoutes
namespace RoutePath

/-! ## Bytes -/

theorem hexDigit_inj {n m : Nat} (small : n < 16) (smallToo : m < 16)
    (same : hexDigit n = hexDigit m) : n = m := by
  have each : ∀ n < 16, ∀ m < 16, hexDigit n = hexDigit m → n = m := by decide
  exact each n small m smallToo same

theorem percentByte_append_inj {byte other : UInt8} {rest more : Text}
    (same : percentByte byte ++ rest = percentByte other ++ more) : byte = other ∧ rest = more := by
  have digits := List.append_inj same rfl
  have high : hexDigit (byte.toNat / 16) = hexDigit (other.toNat / 16) := by
    have second := congrArg (List.drop 1) digits.1
    exact (List.cons.inj second).1
  have low : hexDigit (byte.toNat % 16) = hexDigit (other.toNat % 16) := by
    have third := congrArg (List.drop 2) digits.1
    exact (List.cons.inj third).1
  have bound := byte.toNat_lt
  have boundToo := other.toNat_lt
  have sameHigh := hexDigit_inj (by omega) (by omega) high
  have sameLow := hexDigit_inj (by omega) (by omega) low
  exact ⟨UInt8.toNat_inj.mp (by omega), digits.2⟩

/-- Of two rows of bytes that begin one text, one goes on from the other. -/
theorem prefix_of_flatMap_percentByte {bytes others : List UInt8} {rest more : Text}
    (same : bytes.flatMap percentByte ++ rest = others.flatMap percentByte ++ more) :
    bytes <+: others ∨ others <+: bytes := by
  induction bytes generalizing others with
  | nil => exact .inl List.nil_prefix
  | cons byte later inductionHypothesis =>
      cases others with
      | nil => exact .inr List.nil_prefix
      | cons other further =>
          rw [List.flatMap_cons, List.flatMap_cons, List.append_assoc, List.append_assoc] at same
          rcases percentByte_append_inj same with ⟨rfl, sameRest⟩
          exact (inductionHypothesis sameRest).imp (List.prefix_cons_inj byte).mpr
            (List.prefix_cons_inj byte).mpr

/-! ## Characters -/

/-- No character's UTF-8 bytes begin those of another one. -/
theorem eq_of_prefix_utf8EncodeChar {c d : Char}
    (begins : String.utf8EncodeChar c <+: String.utf8EncodeChar d) : c = d := by
  rcases begins with ⟨rest, whole⟩
  have decoded := @ByteArray.utf8DecodeChar?_utf8EncodeChar_append rest.toByteArray c
  have decodedToo := @ByteArray.utf8DecodeChar?_utf8EncodeChar_append ByteArray.empty d
  rw [ByteArray.append_empty, ← whole, List.toByteArray_append, decoded] at decodedToo
  exact Option.some.inj decodedToo

/-- There are three kinds of code, and the first character of a code shows which kind it is. -/
theorem encodeChar_cases (c : Char) :
    (c = ':' ∧ encodeChar c = ['\\', ':']) ∨
      (c ≠ '\\' ∧ c ≠ '%' ∧ encodeChar c = [c]) ∨
      (∃ digits, encodeChar c = '%' :: digits) ∧
        encodeChar c = (String.utf8EncodeChar c).flatMap percentByte := by
  unfold encodeChar
  by_cases isColon : c = ':'
  · exact .inl ⟨isColon, if_pos isColon⟩
  · rw [if_neg isColon]
    by_cases safe : isSafe c = true
    · refine .inr (.inl ⟨?_, ?_, if_pos safe⟩) <;> rintro rfl <;> exact absurd safe (by decide)
    · rw [if_neg safe]
      rcases List.exists_cons_of_ne_nil (String.utf8EncodeChar_ne_nil (c := c)) with
        ⟨byte, later, begins⟩
      exact .inr (.inr ⟨⟨_, by rw [begins]; rfl⟩, rfl⟩)

theorem encodeChar_append_inj {c d : Char} {rest more : Text}
    (same : encodeChar c ++ rest = encodeChar d ++ more) : c = d ∧ rest = more := by
  suffices equal : c = d by
    subst equal
    exact ⟨rfl, List.append_cancel_left same⟩
  rcases encodeChar_cases c with
    ⟨isColon, code⟩ | ⟨notEscape, notPercent, code⟩ | ⟨⟨digits, code⟩, bytes⟩
  · rcases encodeChar_cases d with ⟨isColonToo, -⟩ | ⟨notEscape, -, codeToo⟩ | ⟨⟨_, codeToo⟩, -⟩
    · exact isColon.trans isColonToo.symm
    · rw [code, codeToo] at same
      exact absurd (List.cons.inj same).1.symm notEscape
    · rw [code, codeToo] at same
      exact absurd (List.cons.inj same).1 (by decide)
  · rcases encodeChar_cases d with ⟨-, codeToo⟩ | ⟨-, -, codeToo⟩ | ⟨⟨_, codeToo⟩, -⟩
    · rw [code, codeToo] at same
      exact absurd (List.cons.inj same).1 notEscape
    · rw [code, codeToo] at same
      exact (List.cons.inj same).1
    · rw [code, codeToo] at same
      exact absurd (List.cons.inj same).1 notPercent
  · rcases encodeChar_cases d with ⟨-, codeToo⟩ | ⟨-, notPercent, codeToo⟩ | ⟨-, bytesToo⟩
    · rw [code, codeToo] at same
      exact absurd (List.cons.inj same).1 (by decide)
    · rw [code, codeToo] at same
      exact absurd (List.cons.inj same).1.symm notPercent
    · rw [bytes, bytesToo] at same
      rcases prefix_of_flatMap_percentByte same with begins | begins
      · exact eq_of_prefix_utf8EncodeChar begins
      · exact (eq_of_prefix_utf8EncodeChar begins).symm

/-! ## Texts -/

/-- A path that may follow literal text: it ends, or goes on with a parameter or a slash. -/
def Bounds (rest : Text) : Prop :=
  ∀ c ∈ rest.head?, c = ':' ∨ c = '/'

/-- Text without slashes leaves nothing in a path that begins like what may follow it. -/
theorem head?_encode_append {text : Text} (nonempty : text ≠ []) (free : '/' ∉ text)
    (more : Text) : ∃ c ∈ (encode text ++ more).head?, c ≠ ':' ∧ c ≠ '/' := by
  rcases List.exists_cons_of_ne_nil (encode_ne_nil nonempty) with ⟨c, rest, begins⟩
  refine ⟨c, by rw [begins]; rfl, ?_, ?_⟩
  · rintro rfl
    rcases List.exists_cons_of_ne_nil nonempty with ⟨d, later, rfl⟩
    rcases exists_encodeChar_eq_cons d with ⟨first, others, encoded, notColon⟩
    rw [encode, List.flatMap_cons, encoded] at begins
    exact notColon (List.cons.inj begins).1
  · rintro rfl
    exact slash_not_mem_encode free (begins ▸ List.mem_cons_self)

/-- Encoded text tells the text and where it ends. -/
theorem encode_append_inj {text other rest more : Text} (free : '/' ∉ text)
    (freeToo : '/' ∉ other) (bounds : Bounds rest) (boundsToo : Bounds more)
    (same : encode text ++ rest = encode other ++ more) : text = other ∧ rest = more := by
  induction text generalizing other with
  | nil =>
      by_cases empty : other = []
      · subst empty
        exact ⟨rfl, same⟩
      · rcases head?_encode_append empty freeToo more with ⟨c, first, notColon, notSlash⟩
        rw [← same] at first
        rcases bounds c first with isColon | isSlash
        · exact absurd isColon notColon
        · exact absurd isSlash notSlash
  | cons c later inductionHypothesis =>
      cases other with
      | nil =>
          rcases head?_encode_append (List.cons_ne_nil c later) free rest with
            ⟨d, first, notColon, notSlash⟩
          rw [same] at first
          rcases boundsToo d first with isColon | isSlash
          · exact absurd isColon notColon
          · exact absurd isSlash notSlash
      | cons d further =>
          rw [encode, encode, List.flatMap_cons, List.flatMap_cons, List.append_assoc,
            List.append_assoc] at same
          rcases encodeChar_append_inj same with ⟨rfl, sameRest⟩
          rcases inductionHypothesis (List.not_mem_of_not_mem_cons free)
            (List.not_mem_of_not_mem_cons freeToo) sameRest with ⟨rfl, samePaths⟩
          exact ⟨rfl, samePaths⟩

end RoutePath
end FileRoutes
