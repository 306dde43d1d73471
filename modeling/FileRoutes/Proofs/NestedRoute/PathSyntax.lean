import FileRoutes.NestedRoute.PathSyntax
import FileRoutes.Proofs.PagePath.Segments

/-!
# The two spellings of a catch-all

A path names its catch-alls in one of two spellings, and `unifyCatchalls` makes them one by
replacing text.  An opening square bracket stands nowhere else in a path: literal text is encoded,
and names of parameters hold none.  So the replacement finds the catch-alls and nothing that only
looks like one, even across the border of two segments.  `Unifies` says this of a path piece by
piece, and is what the pieces of a path are known by.
-/

namespace FileRoutes

/-! ## Replacing -/

namespace Text

variable (pattern replacement : Text)

/-- The count runs out after as many characters. -/
theorem replaceFrom_append (front rest : Text) :
    replaceFrom pattern replacement front.length (front ++ rest) =
      replace pattern replacement rest := by
  induction front with
  | nil => rfl
  | cons c front inductionHypothesis => exact inductionHypothesis

theorem replace_append_of_ne_nil (nonempty : pattern ≠ []) (rest : Text) :
    replace pattern replacement (pattern ++ rest) =
      replacement ++ replace pattern replacement rest := by
  rcases List.exists_cons_of_ne_nil nonempty with ⟨c, more, rfl⟩
  have starts : c :: more <+: c :: (more ++ rest) := List.prefix_append (c :: more) rest
  have skipped := replaceFrom_append (c :: more) replacement more rest
  rw [List.cons_append, replace, replaceFrom, if_pos starts]
  exact congrArg (replacement ++ ·) skipped

theorem replace_cons_of_not_prefix {c : Char} {rest : Text} (differs : ¬pattern <+: c :: rest) :
    replace pattern replacement (c :: rest) = c :: replace pattern replacement rest := by
  rw [replace, replaceFrom, if_neg differs, replace]

end Text

namespace RoutePath

/-- The second text is the first with every catch-all spelled as at the end of a path. -/
inductive Unifies : Text → Text → Prop
  | nil : Unifies [] []
  | char {c path unified} : c ≠ '[' → Unifies path unified → Unifies (c :: path) (c :: unified)
  | catchall {path unified} : Unifies path unified →
      Unifies (innerCatchall ++ path) (finalCatchall ++ unified)

namespace Unifies

variable {path unified : Text}

theorem append {later more : Text} (first : Unifies path unified) (second : Unifies later more) :
    Unifies (path ++ later) (unified ++ more) := by
  induction first with
  | nil => exact second
  | char other _ inductionHypothesis => exact .char other inductionHypothesis
  | catchall _ inductionHypothesis =>
      rw [List.append_assoc, List.append_assoc]
      exact .catchall inductionHypothesis

/-- Text without an opening bracket is spelled one way only. -/
theorem of_not_mem (free : '[' ∉ path) : Unifies path path := by
  induction path with
  | nil => exact .nil
  | cons c rest inductionHypothesis =>
      have later := inductionHypothesis (List.not_mem_of_not_mem_cons free)
      exact .char (Ne.symm (List.ne_of_not_mem_cons free)) later

theorem not_mem (unifies : Unifies path unified) : '[' ∉ unified := by
  induction unifies with
  | nil => exact List.not_mem_nil
  | char other _ inductionHypothesis =>
      exact List.not_mem_cons_of_ne_of_not_mem (Ne.symm other) inductionHypothesis
  | catchall _ inductionHypothesis =>
      intro listed
      rcases List.mem_append.mp listed with inFront | later
      · exact absurd inFront (by decide)
      · exact inductionHypothesis later

theorem head?_eq (unifies : Unifies path unified) : path.head? = unified.head? := by
  cases unifies <;> rfl

theorem getLast?_eq (unifies : Unifies path unified) : path.getLast? = unified.getLast? := by
  induction unifies with
  | nil => rfl
  | char other _ inductionHypothesis =>
      rw [List.getLast?_cons, List.getLast?_cons, inductionHypothesis]
  | catchall _ inductionHypothesis =>
      rw [List.getLast?_append, List.getLast?_append, inductionHypothesis]
      rfl

theorem head?_ne (unifies : Unifies path unified) : path.head? ≠ some '[' := by
  cases unifies with
  | nil => exact nofun
  | char other _ =>
      intro isBracket
      exact other (Option.some.inj isBracket)
  | catchall _ => exact nofun

/-- The replacement does what it is meant to: a catch-all that begins before the border of two
pieces ends there as well. -/
theorem unifyCatchalls_eq (unifies : Unifies path unified) : unifyCatchalls path = unified := by
  induction unifies with
  | nil => rfl
  | @char c path unified other later inductionHypothesis =>
      have differs : ¬innerCatchall <+: c :: path := by
        rintro ⟨tail, same⟩
        have opened : path.head? = some '[' := by
          rw [← (List.cons.inj same).2]
          rfl
        exact later.head?_ne opened
      rw [unifyCatchalls, Text.replace_cons_of_not_prefix _ _ differs]
      exact congrArg (c :: ·) inductionHypothesis
  | @catchall path unified _ inductionHypothesis =>
      have replaced := Text.replace_append_of_ne_nil innerCatchall finalCatchall (by decide) path
      exact replaced.trans (congrArg (finalCatchall ++ ·) inductionHypothesis)

theorem unifyCatchalls (unifies : Unifies path unified) :
    Unifies (RoutePath.unifyCatchalls path) unified := by
  rw [unifies.unifyCatchalls_eq]
  exact .of_not_mem unifies.not_mem

end Unifies

/-! ## What a token leaves in a path -/

/-- A character that is neither a digit nor a letter enters a path only as itself. -/
theorem not_mem_percentByte {c : Char} (isOther : ∀ n < 16, hexDigit n ≠ c) (isNotPercent : c ≠ '%')
    (byte : UInt8) : c ∉ percentByte byte := by
  have high := isOther (byte.toNat / 16) (by have := byte.toNat_lt; omega)
  have low := isOther (byte.toNat % 16) (by omega)
  simp [percentByte, high.symm, low.symm, isNotPercent]

theorem mem_encode {text : Text} {c : Char} (isOther : ∀ n < 16, hexDigit n ≠ c)
    (isNotPercent : c ≠ '%') (isNotEscape : c ∉ ['\\', ':']) (listed : c ∈ encode text) :
    c ∈ text ∧ isSafe c = true := by
  rcases List.mem_flatMap.mp listed with ⟨d, inText, inChar⟩
  unfold encodeChar at inChar
  split at inChar
  · exact absurd inChar isNotEscape
  · split at inChar
    · next safe =>
      rcases List.mem_singleton.mp inChar with rfl
      exact ⟨inText, safe⟩
    · rcases List.mem_flatMap.mp inChar with ⟨byte, -, inByte⟩
      exact absurd inByte (not_mem_percentByte isOther isNotPercent byte)

theorem bracket_not_mem_encode (text : Text) : '[' ∉ encode text := by
  intro listed
  have safe := (mem_encode (by decide) (by decide) (by decide) listed).2
  exact absurd safe (by decide)

theorem slash_not_mem_encode {text : Text} (free : '/' ∉ text) : '/' ∉ encode text := by
  intro listed
  exact free (mem_encode (by decide) (by decide) (by decide) listed).1

end RoutePath

open RoutePath

theorem bracket_not_mem_of_isNameChar {name : Text}
    (chars : ∀ c ∈ name, Segment.isNameChar c = true) : '[' ∉ name := by
  intro listed
  exact absurd (chars _ listed) (by decide)

/-- A token's place in the path does not matter once the spellings are one. -/
theorem Token.Readable.unifies {token : Token} (readable : token.Readable) (followed : Bool) :
    Unifies (token.routeSyntax followed) (token.routeSyntax false) := by
  cases token with
  | literal text => exact .of_not_mem (bracket_not_mem_encode text)
  | group name => exact .nil
  | parameter kind name =>
      have free := bracket_not_mem_of_isNameChar readable.1
      cases kind with
      | catchall =>
          have named : '[' ∉ ':' :: catchallName name := by
            unfold catchallName
            split
            · decide
            · simpa using free
          apply Unifies.append (.of_not_mem named)
          cases followed with
          | false => exact .of_not_mem (by decide)
          | true => exact Unifies.catchall .nil
      | dynamic | optional | repeatable | optionalRepeatable =>
          apply Unifies.of_not_mem
          simp [Token.routeSyntax, ParameterKind.routeSyntax, free]

theorem Segment.unifies_of_forall {segment : Segment} (each : ∀ token ∈ segment, token.Readable)
    (followed : Bool) : Unifies (segment.routeSyntax followed) (segment.routeSyntax false) := by
  induction segment with
  | nil => exact .nil
  | cons token later inductionHypothesis =>
      rcases List.forall_mem_cons.mp each with ⟨first, others⟩
      exact (first.unifies followed).append (inductionHypothesis others)

/-! ## Slashes around a segment -/

/-- The text neither begins nor ends with a slash. -/
def Text.Trimmed (text : Text) : Prop :=
  text.head? ≠ some '/' ∧ text.getLast? ≠ some '/'

theorem Text.Trimmed.append {first second : Text} (trimmed : first.Trimmed)
    (trimmedToo : second.Trimmed) : Trimmed (first ++ second) := by
  constructor
  · cases first with
    | nil => exact trimmedToo.1
    | cons c rest => exact trimmed.1
  · rw [List.getLast?_append]
    cases last : second.getLast? with
    | none => exact trimmed.2
    | some c =>
        intro isSlash
        exact trimmedToo.2 (last.trans isSlash)

theorem Text.Trimmed.of_not_mem {text : Text} (free : '/' ∉ text) : text.Trimmed :=
  ⟨fun first => free (List.mem_of_mem_head? first), fun last => free (List.mem_of_getLast? last)⟩

/-- Every character leaves something in a path, and a colon is written with a backslash in front. -/
theorem RoutePath.exists_encodeChar_eq_cons (c : Char) :
    ∃ first rest, encodeChar c = first :: rest ∧ first ≠ ':' := by
  unfold encodeChar
  split
  · exact ⟨_, _, rfl, by decide⟩
  · next notColon =>
    split
    · exact ⟨_, _, rfl, notColon⟩
    · rcases List.exists_cons_of_ne_nil (String.utf8EncodeChar_ne_nil (c := c)) with
        ⟨byte, more, bytes⟩
      rw [bytes]
      exact ⟨_, _, rfl, by decide⟩

theorem RoutePath.encode_ne_nil {text : Text} (nonempty : text ≠ []) : encode text ≠ [] := by
  rcases List.exists_cons_of_ne_nil nonempty with ⟨c, rest, rfl⟩
  rcases exists_encodeChar_eq_cons c with ⟨first, more, encoded, -⟩
  rw [encode, List.flatMap_cons, encoded]
  exact List.cons_ne_nil _ _

theorem Token.Readable.trimmed_routeSyntax {token : Token} (readable : token.Readable)
    (free : '/' ∉ token.value) (followed : Bool) : (token.routeSyntax followed).Trimmed := by
  cases token with
  | literal text => exact .of_not_mem (slash_not_mem_encode free)
  | group name => exact .of_not_mem List.not_mem_nil
  | parameter kind name =>
      constructor
      · cases kind <;> exact nofun
      · cases kind with
        | catchall =>
            rw [routeSyntax, ParameterKind.routeSyntax, List.getLast?_append]
            cases followed <;> exact nofun
        | dynamic | optional | repeatable | optionalRepeatable =>
            rw [routeSyntax, ParameterKind.routeSyntax, List.getLast?_append]
            exact nofun

theorem Token.Readable.routeSyntax_ne_nil {token : Token} (readable : token.Readable)
    (visible : token.isGroup = false) (followed : Bool) : token.routeSyntax followed ≠ [] := by
  cases token with
  | literal text => exact encode_ne_nil readable.1
  | group name => cases visible
  | parameter kind name => cases kind <;> exact List.cons_ne_nil _ _

namespace Segment.OfName

variable {segment : Segment}

theorem trimmed_routeSyntax (ofName : segment.OfName) (other : segment ≠ index)
    (followed : Bool) : (segment.routeSyntax followed).Trimmed := by
  have each : ∀ token ∈ segment, (token.routeSyntax followed).Trimmed := by
    intro token listed
    have readable := (ofName.readable other).2.each token listed
    exact readable.trimmed_routeSyntax (ofName.slash_not_mem_value listed) followed
  clear ofName other
  induction segment with
  | nil => exact .of_not_mem List.not_mem_nil
  | cons token later inductionHypothesis =>
      rcases List.forall_mem_cons.mp each with ⟨first, others⟩
      exact first.append (inductionHypothesis others)

/-- A segment that is more than groups leaves something in the path. -/
theorem routeSyntax_ne_nil (ofName : segment.OfName) (other : segment ≠ index)
    (visible : segment.isGroup = false) (followed : Bool) : segment.routeSyntax followed ≠ [] := by
  rcases ofName.readable other with ⟨nonempty, readable⟩
  rcases (isGroup_eq_false_iff nonempty).mp visible with ⟨token, listed, seen⟩
  intro empty
  exact (readable.each token listed).routeSyntax_ne_nil seen followed
    (List.flatMap_eq_nil_iff.mp empty token listed)

theorem unifies_routeSyntax (ofName : segment.OfName) (other : segment ≠ index)
    (followed : Bool) : Unifies (segment.routeSyntax followed) (segment.routeSyntax false) :=
  unifies_of_forall (ofName.readable other).2.each followed

end Segment.OfName
end FileRoutes
