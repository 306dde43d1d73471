import FileRoutes.Expression.Escape
import FileRoutes.Proofs.NestedRoute.Encoding

/-!
# Encoded text is decoded layer by layer

Encoded text has two layers.  Under the outer one a colon stands behind a backslash; under the inner
one a character that is not safe is written as its bytes.  The backslash and the percent sign are
not safe themselves, so every backslash in encoded text comes from the outer layer and every percent
sign from the inner one.  Each layer is therefore taken off by reading its signs wherever they
stand, and the bytes that are left are those of the text.

`encode` writes both layers at once.  `encodeWith` puts one on the other, and leaves open which
function escapes the bytes; whatever it is, the two agree.
-/

namespace FileRoutes

/-! ## Replacing -/

namespace Text

/-- Text without the first character of a pattern is left as it is. -/
theorem replace_append_of_not_mem {c : Char} {more front : Text} (replacement : Text)
    (free : c ∉ front) (rest : Text) :
    replace (c :: more) replacement (front ++ rest) =
      front ++ replace (c :: more) replacement rest := by
  induction front with
  | nil => rfl
  | cons d front inductionHypothesis =>
      rcases List.ne_and_not_mem_of_not_mem_cons free with ⟨other, free⟩
      have differs : ¬(c :: more) <+: d :: (front ++ rest) := by
        rintro ⟨later, whole⟩
        exact other (List.cons.inj whole).1
      rw [List.cons_append, replace_cons_of_not_prefix _ _ differs, inductionHypothesis free,
        List.cons_append]

end Text

namespace RoutePath

/-! ## The inner layer -/

/-- A character as the inner layer writes it. -/
def percentChar (c : Char) : Text :=
  if isSafe c then [c] else (String.utf8EncodeChar c).flatMap percentByte

def percentEncode (text : Text) : Text :=
  text.flatMap percentChar

/-- The byte that two hexadecimal digits write. -/
def byteOf? (high low : Char) : Option UInt8 :=
  (Atom.hexDigit? high).bind fun first =>
    (Atom.hexDigit? low).map fun second => UInt8.ofNat (16 * first + second)

/-- The bytes that percent-encoded text stands for: a percent sign and two digits for one byte, and
any other character for its own bytes. -/
def bytes? : Text → Option (List UInt8)
  | [] => some []
  | '%' :: high :: low :: rest => (byteOf? high low).bind fun byte => (bytes? rest).map (byte :: ·)
  | c :: rest => if c = '%' then none else (bytes? rest).map (String.utf8EncodeChar c ++ ·)

/-- The text that percent-encoded text stands for, if its bytes are those of a text. -/
def percentDecode? (text : Text) : Option Text :=
  (bytes? text).bind fun bytes => bytes.toByteArray.utf8Decode?.map Array.toList

theorem hexDigit?_hexDigit : ∀ n < 16, Atom.hexDigit? (hexDigit n) = some n := by
  decide

theorem bytes?_percentByte_append (byte : UInt8) (rest : Text) :
    bytes? (percentByte byte ++ rest) = (bytes? rest).map (byte :: ·) := by
  have bound := byte.toNat_lt
  have written : byteOf? (hexDigit (byte.toNat / 16)) (hexDigit (byte.toNat % 16)) = some byte := by
    rw [byteOf?, hexDigit?_hexDigit _ (by omega), hexDigit?_hexDigit _ (by omega),
      Option.bind_some, Option.map_some, Nat.div_add_mod, UInt8.ofNat_toNat]
  rw [percentByte, List.cons_append, List.cons_append, List.cons_append, List.nil_append, bytes?,
    written, Option.bind_some]

theorem bytes?_flatMap_percentByte_append (bytes : List UInt8) (rest : Text) :
    bytes? (bytes.flatMap percentByte ++ rest) = (bytes? rest).map (bytes ++ ·) := by
  induction bytes with
  | nil => exact (Option.map_id' ..).symm
  | cons byte later inductionHypothesis =>
      rw [List.flatMap_cons, List.append_assoc, bytes?_percentByte_append, inductionHypothesis,
        Option.map_map]
      rfl

theorem bytes?_cons_of_ne {c : Char} (other : c ≠ '%') (rest : Text) :
    bytes? (c :: rest) = (bytes? rest).map (String.utf8EncodeChar c ++ ·) := by
  rw [bytes?, if_neg other]
  rintro high low later rfl
  exact absurd rfl other

theorem bytes?_percentChar_append (c : Char) (rest : Text) :
    bytes? (percentChar c ++ rest) = (bytes? rest).map (String.utf8EncodeChar c ++ ·) := by
  unfold percentChar
  split
  · next safe =>
    apply bytes?_cons_of_ne
    rintro rfl
    exact absurd safe (by decide)
  · exact bytes?_flatMap_percentByte_append _ rest

theorem bytes?_percentEncode (text : Text) :
    bytes? (percentEncode text) = some (text.flatMap String.utf8EncodeChar) := by
  induction text with
  | nil => rfl
  | cons c rest inductionHypothesis =>
      rw [percentEncode, List.flatMap_cons, bytes?_percentChar_append, ← percentEncode,
        inductionHypothesis]
      rfl

/-- The bytes of a text are read back as the text. -/
theorem percentDecode?_percentEncode (text : Text) :
    percentDecode? (percentEncode text) = some text := by
  have decoded := @List.utf8Decode?_utf8Encode text
  rw [percentDecode?, bytes?_percentEncode, Option.bind_some]
  exact congrArg (Option.map Array.toList) decoded

/-! ## The outer layer -/

theorem encodeChar_of_ne {c : Char} (other : c ≠ ':') : encodeChar c = percentChar c :=
  if_neg other

theorem backslash_not_mem_percentChar (c : Char) : '\\' ∉ percentChar c := by
  unfold percentChar
  split
  · next safe =>
    intro same
    rcases List.mem_singleton.mp same with rfl
    exact absurd safe (by decide)
  · intro listed
    rcases List.mem_flatMap.mp listed with ⟨byte, -, inByte⟩
    exact absurd inByte (not_mem_percentByte (by decide) (by decide) byte)

theorem colon_not_mem_percentChar {c : Char} (other : c ≠ ':') : ':' ∉ percentChar c := by
  unfold percentChar
  split
  · intro same
    exact other (List.mem_singleton.mp same).symm
  · intro listed
    rcases List.mem_flatMap.mp listed with ⟨byte, -, inByte⟩
    exact absurd inByte (not_mem_percentByte (by decide) (by decide) byte)

/-- Encoded text is the inner layer with a backslash put in front of every colon. -/
theorem replace_percentEncode (text : Text) :
    Text.replace [':'] ['\\', ':'] (percentEncode text) = encode text := by
  induction text with
  | nil => rfl
  | cons c rest inductionHypothesis =>
      rw [percentEncode, encode, List.flatMap_cons, List.flatMap_cons, ← percentEncode, ← encode,
        ← inductionHypothesis]
      by_cases isColon : c = ':'
      · subst isColon
        exact Text.replace_append_of_ne_nil [':'] ['\\', ':'] (by decide) (percentEncode rest)
      · rw [encodeChar_of_ne isColon,
          Text.replace_append_of_not_mem _ (colon_not_mem_percentChar isColon)]

/-- The backslashes in front of colons can be taken away again. -/
theorem replace_encode (text : Text) :
    Text.replace ['\\', ':'] [':'] (encode text) = percentEncode text := by
  induction text with
  | nil => rfl
  | cons c rest inductionHypothesis =>
      rw [percentEncode, encode, List.flatMap_cons, List.flatMap_cons, ← percentEncode, ← encode,
        ← inductionHypothesis]
      by_cases isColon : c = ':'
      · subst isColon
        exact Text.replace_append_of_ne_nil ['\\', ':'] [':'] (by decide) (encode rest)
      · rw [encodeChar_of_ne isColon,
          Text.replace_append_of_not_mem _ (backslash_not_mem_percentChar c)]

/-! ## Escaping bytes -/

/-- Whether a byte is that of a letter, a digit or one of four signs. -/
def isUnreserved (byte : UInt8) : Bool :=
  let c := Char.ofNat byte.toNat
  c.isAlphanum || ['-', '_', '.', '~'].contains c

/-- What escapes text for a URL: every byte that is not unreserved is written as a percent sign and
two upper-case digits. -/
def Escapes (escape : Text → Text) : Prop :=
  ∀ text, escape text = (text.flatMap String.utf8EncodeChar).flatMap fun byte =>
    if isUnreserved byte then [Char.ofNat byte.toNat] else percentByte byte

/-- Literal text as it stands in a path, one layer after the other: characters that are not safe are
escaped one at a time, and then every colon gets a backslash. -/
def encodeWith (escape : Text → Text) (text : Text) : Text :=
  Text.replace [':'] ['\\', ':'] (text.flatMap fun c => if isSafe c then [c] else escape [c])

theorem isUnreserved_of_le {byte : UInt8} (high : 128 ≤ byte.toNat) :
    isUnreserved byte = false := by
  have each : ∀ n < 256, 128 ≤ n → isUnreserved (UInt8.ofNat n) = false := by decide +kernel
  rw [← UInt8.ofNat_toNat (x := byte)]
  exact each byte.toNat byte.toNat_lt high

/-- The bytes of a character beyond ASCII are beyond ASCII. -/
theorem le_of_mem_utf8EncodeChar {c : Char} (wide : 127 < c.val.toNat) {byte : UInt8}
    (listed : byte ∈ String.utf8EncodeChar c) : 128 ≤ byte.toNat := by
  have least (n : Nat) (low : 128 ≤ n) (high : n < 256) : 128 ≤ (UInt8.ofNat n).toNat := by
    rwa [UInt8.toNat_ofNat', Nat.mod_eq_of_lt high]
  unfold String.utf8EncodeChar at listed
  dsimp only at listed
  rw [if_neg (Nat.not_le.mpr wide)] at listed
  split at listed
  · simp only [List.mem_cons, List.not_mem_nil, or_false] at listed
    rcases listed with rfl | rfl <;> exact least _ (by omega) (by omega)
  · split at listed
    · simp only [List.mem_cons, List.not_mem_nil, or_false] at listed
      rcases listed with rfl | rfl | rfl <;> exact least _ (by omega) (by omega)
    · simp only [List.mem_cons, List.not_mem_nil, or_false] at listed
      rcases listed with rfl | rfl | rfl | rfl <;> exact least _ (by omega) (by omega)

/-- What is unreserved is safe, so every byte of a character that is not safe is escaped. -/
theorem isUnreserved_of_mem {c : Char} (notSafe : isSafe c = false) {byte : UInt8}
    (listed : byte ∈ String.utf8EncodeChar c) : isUnreserved byte = false := by
  by_cases wide : 127 < c.val.toNat
  · exact isUnreserved_of_le (le_of_mem_utf8EncodeChar wide listed)
  · have narrow : c.toNat < 2 ^ 8 := lt_of_le_of_lt (Nat.not_lt.mp wide) (by decide)
    have single : byte = UInt8.ofNat c.toNat := by
      unfold String.utf8EncodeChar at listed
      dsimp only at listed
      rw [if_pos (Nat.not_lt.mp wide)] at listed
      exact List.mem_singleton.mp listed
    have same : Char.ofNat byte.toNat = c := by
      rw [single, UInt8.toNat_ofNat', Nat.mod_eq_of_lt narrow, Char.ofNat_toNat]
    have among : ∀ d ∈ ['-', '_', '.', '~'], d ∈ safePunctuation := by simp [safePunctuation]
    simp only [isSafe, Bool.or_eq_false_iff, List.contains_eq_mem, decide_eq_false_iff_not]
      at notSafe
    simp only [isUnreserved, same, notSafe.1, Bool.false_or, List.contains_eq_mem,
      decide_eq_false_iff_not]
    exact fun listed => notSafe.2 (among c listed)

theorem escape_singleton {escape : Text → Text} (escapes : Escapes escape) {c : Char}
    (notSafe : isSafe c = false) :
    escape [c] = (String.utf8EncodeChar c).flatMap percentByte := by
  rw [escapes, List.flatMap_singleton]
  apply List.flatMap_congr
  intro byte listed
  rw [isUnreserved_of_mem notSafe listed]
  rfl

theorem encodeWith_eq {escape : Text → Text} (escapes : Escapes escape) (text : Text) :
    encodeWith escape text = encode text := by
  rw [encodeWith, ← replace_percentEncode, percentEncode]
  congr 1
  apply List.flatMap_congr
  intro c _
  unfold percentChar
  split
  · rfl
  · next notSafe => exact escape_singleton escapes (Bool.eq_false_iff.mpr notSafe)

/-! ## What encoded text consists of -/

/-- Text in which colons and backslashes stand together and nowhere else. -/
inductive Paired : Text → Prop
  | nil : Paired []
  | other {c rest} : c ≠ '\\' → c ≠ ':' → Paired rest → Paired (c :: rest)
  | pair {rest} : Paired rest → Paired ('\\' :: ':' :: rest)

theorem Paired.append_of_not_mem {front rest : Text} (noBackslash : '\\' ∉ front)
    (noColon : ':' ∉ front) (paired : Paired rest) : Paired (front ++ rest) := by
  induction front with
  | nil => exact paired
  | cons c front inductionHypothesis =>
      rcases List.ne_and_not_mem_of_not_mem_cons noBackslash with ⟨notBackslash, noBackslash⟩
      rcases List.ne_and_not_mem_of_not_mem_cons noColon with ⟨notColon, noColon⟩
      exact .other notBackslash.symm notColon.symm (inductionHypothesis noBackslash noColon)

theorem paired_encode (text : Text) : Paired (encode text) := by
  induction text with
  | nil => exact .nil
  | cons c rest inductionHypothesis =>
      rw [encode, List.flatMap_cons, ← encode]
      by_cases isColon : c = ':'
      · subst isColon
        exact .pair inductionHypothesis
      · rw [encodeChar_of_ne isColon]
        exact .append_of_not_mem (backslash_not_mem_percentChar c)
          (colon_not_mem_percentChar isColon) inductionHypothesis

/-- In front of a colon is a backslash, and behind a backslash a colon. -/
theorem Paired.beside {text front back : Text} {c : Char} (paired : Paired text)
    (whole : text = front ++ c :: back) :
    (c = ':' → front.getLast? = some '\\') ∧ (c = '\\' → back.head? = some ':') := by
  induction paired generalizing front with
  | nil => cases front <;> cases whole
  | @other d rest notBackslash notColon _ inductionHypothesis =>
      cases front with
      | nil =>
          rcases List.cons.inj whole with ⟨rfl, -⟩
          exact ⟨fun isColon => absurd isColon notColon,
            fun isBackslash => absurd isBackslash notBackslash⟩
      | cons e front =>
          rcases inductionHypothesis (List.cons.inj whole).2 with ⟨colon, backslash⟩
          refine ⟨fun isColon => ?_, backslash⟩
          rw [List.getLast?_cons, colon isColon]
          rfl
  | @pair rest _ inductionHypothesis =>
      cases front with
      | nil =>
          rcases List.cons.inj whole with ⟨rfl, rfl⟩
          exact ⟨fun isColon => absurd isColon (by decide), fun _ => rfl⟩
      | cons e front =>
          rcases List.cons.inj whole with ⟨rfl, behind⟩
          cases front with
          | nil =>
              rcases List.cons.inj behind with ⟨rfl, -⟩
              exact ⟨fun _ => rfl, fun isBackslash => absurd isBackslash (by decide)⟩
          | cons f front =>
              rcases inductionHypothesis (List.cons.inj behind).2 with ⟨colon, backslash⟩
              refine ⟨fun isColon => ?_, backslash⟩
              rw [List.getLast?_cons, List.getLast?_cons, colon isColon]
              rfl

theorem isAlphanum_hexDigit : ∀ n < 16, (hexDigit n).isAlphanum = true := by
  decide

theorem mem_percentByte {byte : UInt8} {c : Char} (listed : c ∈ percentByte byte) :
    c = '%' ∨ c.isAlphanum = true := by
  have bound := byte.toNat_lt
  rw [percentByte, List.mem_cons, List.mem_cons, List.mem_singleton] at listed
  rcases listed with isPercent | rfl | rfl
  · exact .inl isPercent
  · exact .inr (isAlphanum_hexDigit _ (by omega))
  · exact .inr (isAlphanum_hexDigit _ (by omega))

theorem mem_encode_cases {text : Text} {c : Char} (listed : c ∈ encode text) :
    c.isAlphanum = true ∨ c ∈ safePunctuation ∨ c = '%' ∨ c = '\\' := by
  rcases List.mem_flatMap.mp listed with ⟨d, -, inChar⟩
  by_cases isColon : d = ':'
  · subst isColon
    rcases List.mem_cons.mp inChar with isBackslash | inColon
    · exact .inr (.inr (.inr isBackslash))
    · rcases List.mem_singleton.mp inColon with rfl
      exact .inr (.inl (by decide))
  · rw [encodeChar_of_ne isColon, percentChar] at inChar
    split at inChar
    · next safe =>
      rcases List.mem_singleton.mp inChar with rfl
      rcases Bool.or_eq_true_iff.mp safe with letter | sign
      · exact .inl letter
      · exact .inr (.inl (List.contains_iff_mem.mp sign))
    · rcases List.mem_flatMap.mp inChar with ⟨byte, -, inByte⟩
      rcases mem_percentByte inByte with isPercent | letter
      · exact .inr (.inr (.inl isPercent))
      · exact .inl letter

/-- Encoded text gives the text back when its layers are taken off one after the other, whichever
function escapes the bytes, and nothing stands in it but letters, digits, safe punctuation, percent
signs and backslashes, these right in front of the colons and nowhere else. -/
theorem percentDecode?_replace_encode {escape : Text → Text} (escapes : Escapes escape)
    (text : Text) :
    encodeWith escape text = encode text ∧
      percentDecode? (Text.replace ['\\', ':'] [':'] (encode text)) = some text ∧
      (∀ c ∈ encode text, c.isAlphanum = true ∨ c ∈ safePunctuation ∨ c = '%' ∨ c = '\\') ∧
      ∀ front c back, encode text = front ++ c :: back →
        (c = ':' → front.getLast? = some '\\') ∧ (c = '\\' → back.head? = some ':') := by
  refine ⟨encodeWith_eq escapes text, ?_, fun _ => mem_encode_cases,
    fun _ _ _ => (paired_encode text).beside⟩
  rw [replace_encode, percentDecode?_percentEncode]

/-- Signs that look like those of either layer come back as they were. -/
theorem percentDecode?_of_signs :
    let escape : Text → Text := fun text =>
      (text.flatMap String.utf8EncodeChar).flatMap fun byte =>
        if isUnreserved byte then [Char.ofNat byte.toNat] else percentByte byte
    let text : Text := "é%3A\\:~".toList
    let encoded : Text := "%C3%A9%253A%5C\\:~".toList
    Escapes escape ∧ encodeWith escape text = encoded ∧
      percentDecode? (Text.replace ['\\', ':'] [':'] encoded) = some text := by
  intro escape text encoded
  have escapes : Escapes escape := fun _ => rfl
  have written : encode text = encoded := by decide
  rcases percentDecode?_replace_encode escapes text with ⟨layered, decoded, -⟩
  rw [written] at layered decoded
  exact ⟨escapes, layered, decoded⟩

end RoutePath
end FileRoutes
