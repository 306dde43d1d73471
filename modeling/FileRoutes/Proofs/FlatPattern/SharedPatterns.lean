import FileRoutes.Proofs.FlatPattern.Support
import FileRoutes.Proofs.RouteTree.ByName
import FileRoutes.Proofs.RouteTree.Census
import FileRoutes.Proofs.RouteTree.FlatRoutes
import Mathlib.Data.List.TakeWhile

/-!
# Which routes share a flat pattern

A flat pattern writes the tokens of a segment one behind the other, and nothing ends the name of a
parameter but a character that no name can hold.  So the letters of literal text go on with the name
in front of them, and a catch-all without a name takes that of a parameter right behind it.  `joined`
is the segment as its pattern is read, with each token attached to what follows.  Its tokens stand
apart, and a pattern tells such tokens one by one, since the first character of each gives its kind
and the first character of the next one ends it.

Two routes share their pattern if and only if their segments are the same once they are joined, and
where all tokens stand apart, joining changes nothing.
-/

namespace FileRoutes

/-! ## Tokens -/

namespace Token

/-- Tokens as files give them, of the kinds that flat patterns have, without the signs that open a
parameter. -/
def IsFlat : Token → Prop
  | literal text => text ≠ [] ∧ ':' ∉ text ∧ '*' ∉ text
  | parameter .dynamic name => name ≠ [] ∧ ∀ c ∈ name, Segment.isNameChar c = true
  | parameter .catchall name => ∀ c ∈ name, Segment.isNameChar c = true
  | _ => False

/-- Whether the character, right behind the token in a pattern, is not taken for a part of it. -/
def endsAt : Token → Char → Bool
  | literal _, c => c = ':' || c = '*'
  | parameter _ [], c => c ≠ ':'
  | parameter _ (_ :: _), c => !Segment.isNameChar c
  | group _, _ => true

/-- The text is not taken for a part of the token when it follows in a pattern. -/
def EndsBefore (token : Token) (rest : Text) : Prop :=
  ∀ c ∈ rest.head?, token.endsAt c = true

/-- The second token is not taken for a part of the first when it follows in a pattern. -/
def StandsApart (token next : Token) : Prop :=
  token.EndsBefore next.flatSyntax

instance (token next : Token) : Decidable (token.StandsApart next) :=
  decidable_of_iff (next.flatSyntax.head?.all token.endsAt = true) (Option.all_eq_true _ _)

variable {token other next : Token} {rest more : Text}

/-- The first character of a token tells its kind. -/
theorem IsFlat.opens (flat : token.IsFlat) :
    ∃ c, token.flatSyntax.head? = some c ∧
      (c = ':' ↔ ∃ name, token = .parameter .dynamic name) ∧
      (c = '*' ↔ ∃ name, token = .parameter .catchall name) := by
  cases token with
  | group name => exact flat.elim
  | literal text =>
      rcases List.exists_cons_of_ne_nil flat.1 with ⟨c, later, rfl⟩
      refine ⟨c, rfl, iff_of_false ?_ nofun, iff_of_false ?_ nofun⟩
      · exact (List.ne_and_not_mem_of_not_mem_cons flat.2.1).1.symm
      · exact (List.ne_and_not_mem_of_not_mem_cons flat.2.2).1.symm
  | parameter kind name =>
      cases kind with
      | dynamic => exact ⟨':', by simp [flatSyntax, flat.1], by simp, by simp⟩
      | catchall => exact ⟨'*', rfl, by simp, by simp⟩
      | optional | repeatable | optionalRepeatable => exact flat.elim

theorem IsFlat.flatSyntax_ne_nil (flat : token.IsFlat) : token.flatSyntax ≠ [] := by
  rcases flat.opens with ⟨c, opens, -⟩
  intro empty
  rw [empty] at opens
  cases opens

theorem IsFlat.sameKind (flat : token.IsFlat) (flatToo : other.IsFlat)
    (same : token.flatSyntax ++ rest = other.flatSyntax ++ more) :
    ((∃ name, token = .parameter .dynamic name) ↔ ∃ name, other = .parameter .dynamic name) ∧
      ((∃ name, token = .parameter .catchall name) ↔
        ∃ name, other = .parameter .catchall name) := by
  rcases flat.opens with ⟨c, opens, dynamic, catchall⟩
  rcases flatToo.opens with ⟨d, opensToo, dynamicToo, catchallToo⟩
  have heads := congrArg List.head? same
  rw [List.head?_append, opens, List.head?_append, opensToo] at heads
  rcases Option.some.inj heads with rfl
  exact ⟨dynamic.symm.trans dynamicToo, catchall.symm.trans catchallToo⟩

/-- Literal text goes on until a parameter opens. -/
theorem literal_append_inj {text front : Text} (flat : (literal text).IsFlat)
    (flatToo : (literal front).IsFlat) (ends : (literal text).EndsBefore rest)
    (endsToo : (literal front).EndsBefore more) (same : text ++ rest = front ++ more) :
    text = front ∧ rest = more := by
  have run {text : Text} (flat : (literal text).IsFlat) :
      ∀ c ∈ text, (!(literal text).endsAt c) = true := by
    intro c listed
    simp [endsAt, ne_of_mem_of_not_mem listed flat.2.1, ne_of_mem_of_not_mem listed flat.2.2]
  have stop {text rest : Text} (ends : (literal text).EndsBefore rest) :
      ∀ c ∈ rest.head?, (!(literal text).endsAt c) = false := by
    intro c first
    rw [ends c first, Bool.not_true]
  exact Text.append_inj_of_run (run flat) (run flatToo) (stop ends) (stop endsToo) same

/-- A name goes on as long as characters of names follow. -/
theorem name_append_inj {kind : ParameterKind} {c d : Char} {name label : Text}
    (run : ∀ e ∈ c :: name, Segment.isNameChar e = true)
    (runToo : ∀ e ∈ d :: label, Segment.isNameChar e = true)
    (ends : (parameter kind (c :: name)).EndsBefore rest)
    (endsToo : (parameter kind (d :: label)).EndsBefore more)
    (same : c :: name ++ rest = d :: label ++ more) : c :: name = d :: label ∧ rest = more := by
  apply Text.append_inj_of_run run runToo _ _ same
  · exact fun e first => (Bool.not_eq_true' _).mp (ends e first)
  · exact fun e first => (Bool.not_eq_true' _).mp (endsToo e first)

/-- A catch-all has a name if and only if a colon follows. -/
theorem catchall_append_inj {name label : Text} (flat : (parameter .catchall name).IsFlat)
    (flatToo : (parameter .catchall label).IsFlat) (ends : (parameter .catchall name).EndsBefore rest)
    (endsToo : (parameter .catchall label).EndsBefore more)
    (same : (parameter .catchall name).flatSyntax ++ rest =
      (parameter .catchall label).flatSyntax ++ more) : name = label ∧ rest = more := by
  rw [flatSyntax, flatSyntax, List.append_assoc, List.append_assoc] at same
  have behind := List.append_cancel_left same
  cases name with
  | nil =>
      cases label with
      | nil => exact ⟨rfl, behind⟩
      | cons d others =>
          have colon : rest.head? = some ':' := congrArg List.head? behind
          exact absurd (ends ':' colon) nofun
  | cons c later =>
      cases label with
      | nil =>
          have colon : more.head? = some ':' := congrArg List.head? behind.symm
          exact absurd (endsToo ':' colon) nofun
      | cons d others => exact name_append_inj flat flatToo ends endsToo (List.cons.inj behind).2

/-- A pattern tells its first token and what comes after it, if the token ends there. -/
theorem IsFlat.append_inj (flat : token.IsFlat) (flatToo : other.IsFlat)
    (ends : token.EndsBefore rest) (endsToo : other.EndsBefore more)
    (same : token.flatSyntax ++ rest = other.flatSyntax ++ more) : token = other ∧ rest = more := by
  rcases flat.sameKind flatToo same with ⟨dynamic, catchall⟩
  cases token with
  | group name => exact flat.elim
  | literal text =>
      cases other with
      | group name => exact flatToo.elim
      | literal front =>
          rcases literal_append_inj flat flatToo ends endsToo same with ⟨rfl, rfl⟩
          exact ⟨rfl, rfl⟩
      | parameter kind name =>
          cases kind with
          | dynamic => exact absurd (dynamic.mpr ⟨name, rfl⟩) nofun
          | catchall => exact absurd (catchall.mpr ⟨name, rfl⟩) nofun
          | optional | repeatable | optionalRepeatable => exact flatToo.elim
  | parameter kind name =>
      cases kind with
      | optional | repeatable | optionalRepeatable => exact flat.elim
      | dynamic =>
          rcases dynamic.mp ⟨name, rfl⟩ with ⟨label, rfl⟩
          rw [flatSyntax, flatSyntax, if_neg flat.1, if_neg flatToo.1] at same
          rcases List.exists_cons_of_ne_nil flat.1 with ⟨c, later, rfl⟩
          rcases List.exists_cons_of_ne_nil flatToo.1 with ⟨d, others, rfl⟩
          have behind := (List.cons.inj same).2
          rcases name_append_inj flat.2 flatToo.2 ends endsToo behind with ⟨sameName, rfl⟩
          exact ⟨congrArg (parameter .dynamic) sameName, rfl⟩
      | catchall =>
          rcases catchall.mp ⟨name, rfl⟩ with ⟨label, rfl⟩
          rcases catchall_append_inj flat flatToo ends endsToo same with ⟨rfl, rfl⟩
          exact ⟨rfl, rfl⟩

/-- Neighbours that stand apart end each other, whatever follows. -/
theorem StandsApart.endsBefore (apart : token.StandsApart next) (flat : next.IsFlat) (rest : Text) :
    token.EndsBefore (next.flatSyntax ++ rest) := by
  intro c first
  rw [List.head?_append_of_ne_nil _ flat.flatSyntax_ne_nil] at first
  exact apart c first

/-- Literal text stands apart from all tokens but other literal text. -/
theorem standsApart_literal_iff {text : Text} (flat : next.IsFlat) :
    (literal text).StandsApart next ↔ ∀ other, next ≠ .literal other := by
  rcases flat.opens with ⟨c, opens, dynamic, catchall⟩
  have sign : (literal text).StandsApart next ↔ c = ':' ∨ c = '*' := by
    simp [StandsApart, EndsBefore, opens, endsAt]
  rw [sign, dynamic, catchall]
  cases next with
  | group name => exact flat.elim
  | literal other => simp
  | parameter kind name =>
      cases kind with
      | dynamic | catchall => simp
      | optional | repeatable | optionalRepeatable => exact flat.elim

/-- A parameter without a name stands apart from all tokens but parameters that could name it. -/
theorem standsApart_nameless_iff {kind : ParameterKind} (flat : next.IsFlat) :
    (parameter kind []).StandsApart next ↔ ∀ name, next ≠ .parameter .dynamic name := by
  rcases flat.opens with ⟨c, opens, dynamic, -⟩
  have sign : (parameter kind []).StandsApart next ↔ c ≠ ':' := by
    simp [StandsApart, EndsBefore, opens, endsAt]
  rw [sign, Ne, dynamic, not_exists]

/-- What ends literal text ends a name. -/
theorem StandsApart.of_literal {text name : Text} (apart : (literal text).StandsApart next)
    (kind : ParameterKind) (c : Char) : (parameter kind (c :: name)).StandsApart next := by
  intro d first
  have sign : d = ':' ∨ d = '*' := by simpa [endsAt] using apart d first
  rcases sign with rfl | rfl <;> rfl

theorem slash_not_mem_flatSyntax (free : '/' ∉ token.value) : '/' ∉ token.flatSyntax := by
  have behind {name : Text} (free : '/' ∉ name) : '/' ∉ ':' :: name :=
    List.not_mem_cons_of_ne_of_not_mem (by decide) free
  unfold flatSyntax
  split
  · exact free
  · split
    · decide
    · exact behind free
  · split
    · decide
    · exact List.not_mem_append (by decide) (behind free)
  · exact List.not_mem_nil

theorem IsFlat.named_append {kind : ParameterKind} {c : Char} {name run : Text}
    (flat : (parameter kind (c :: name)).IsFlat) (chars : ∀ c ∈ run, Segment.isNameChar c = true) :
    (parameter kind (c :: name ++ run)).IsFlat ∧
      (parameter kind (c :: name ++ run)).flatSyntax =
        (parameter kind (c :: name)).flatSyntax ++ run := by
  cases kind with
  | dynamic =>
      exact ⟨⟨List.cons_ne_nil _ _, List.forall_mem_append.mpr ⟨flat.2, chars⟩⟩, rfl⟩
  | catchall => exact ⟨List.forall_mem_append.mpr ⟨flat, chars⟩, rfl⟩
  | optional | repeatable | optionalRepeatable => exact flat.elim

/-- The token in front of some others, with what would be read as part of it. -/
def attach : Token → Segment → Segment
  | parameter .catchall [], parameter .dynamic name :: later => parameter .catchall name :: later
  | parameter kind (c :: name), literal text :: later =>
      parameter kind (c :: name ++ text.takeWhile Segment.isNameChar) ::
        (Segment.flush (text.dropWhile Segment.isNameChar) ++ later)
  | token, later => token :: later

end Token

/-! ## Segments -/

namespace Segment

/-- Tokens that a flat pattern keeps apart. -/
structure Separated (segment : Segment) : Prop where
  each : ∀ token ∈ segment, token.IsFlat
  neighbours : segment.IsChain Token.StandsApart

variable {token : Token} {segment later first second : Segment}

theorem separated_cons_iff :
    Separated (token :: later) ↔
      token.IsFlat ∧ (∀ next ∈ later.head?, token.StandsApart next) ∧ Separated later := by
  constructor
  · rintro ⟨each, neighbours⟩
    rcases List.forall_mem_cons.mp each with ⟨flat, others⟩
    rcases List.isChain_cons.mp neighbours with ⟨apart, chain⟩
    exact ⟨flat, apart, others, chain⟩
  · rintro ⟨flat, apart, others, chain⟩
    exact ⟨List.forall_mem_cons.mpr ⟨flat, others⟩, List.isChain_cons.mpr ⟨apart, chain⟩⟩

theorem flatSyntax_cons (token : Token) (later : Segment) :
    flatSyntax (token :: later) = token.flatSyntax ++ later.flatSyntax := rfl

theorem flatSyntax_append (first second : Segment) :
    flatSyntax (first ++ second) = first.flatSyntax ++ second.flatSyntax :=
  List.flatMap_append

theorem Separated.endsBefore (separated : Separated (token :: later)) :
    token.EndsBefore later.flatSyntax := by
  rcases separated_cons_iff.mp separated with ⟨-, apart, others⟩
  cases later with
  | nil => exact nofun
  | cons next onward => exact (apart next rfl).endsBefore (others.each next List.mem_cons_self) _

/-- A pattern tells the tokens that it keeps apart. -/
theorem Separated.eq_of_flatSyntax_eq (separated : first.Separated)
    (separatedToo : second.Separated) (same : first.flatSyntax = second.flatSyntax) :
    first = second := by
  have filled {token : Token} {later : Segment} (separated : Separated (token :: later)) :
      flatSyntax (token :: later) ≠ [] :=
    List.append_ne_nil_of_left_ne_nil (separated_cons_iff.mp separated).1.flatSyntax_ne_nil _
  induction first generalizing second with
  | nil =>
      cases second with
      | nil => rfl
      | cons other others => exact absurd same.symm (filled separatedToo)
  | cons token later inductionHypothesis =>
      cases second with
      | nil => exact absurd same (filled separated)
      | cons other others =>
          rcases separated_cons_iff.mp separated with ⟨flat, -, onward⟩
          rcases separated_cons_iff.mp separatedToo with ⟨flatToo, -, onwardToo⟩
          rcases flat.append_inj flatToo separated.endsBefore separatedToo.endsBefore same with
            ⟨rfl, behind⟩
          rw [inductionHypothesis onward onwardToo behind]

def joined (segment : Segment) : Segment :=
  segment.foldr Token.attach []

theorem joined_cons (token : Token) (later : Segment) :
    joined (token :: later) = token.attach later.joined := rfl

/-- A literal stays first only where it was first. -/
theorem head?_attach {text : Text} (isFirst : .literal text ∈ (token.attach later).head?) :
    token = .literal text := by
  unfold Token.attach at isFirst
  split at isFirst
  · cases isFirst
  · cases isFirst
  · exact Option.some.inj isFirst

theorem flatSyntax_flush (text : Text) : flatSyntax (flush text) = text := by
  unfold flush
  split
  · next empty => exact empty.symm
  · exact List.append_nil text

theorem flatSyntax_attach (flat : token.IsFlat) (flatToo : ∀ next ∈ later, next.IsFlat) :
    (token.attach later).flatSyntax = token.flatSyntax ++ later.flatSyntax := by
  unfold Token.attach
  split
  · next name onward =>
    have named := (flatToo _ List.mem_cons_self).1
    simp [flatSyntax_cons, Token.flatSyntax, named]
  · next kind c name text onward =>
    have run : ∀ d ∈ text.takeWhile isNameChar, isNameChar d = true :=
      fun _ => List.mem_takeWhile_imp
    have cut : text.takeWhile isNameChar ++ text.dropWhile isNameChar = text :=
      List.takeWhile_append_dropWhile
    rw [flatSyntax_cons, (flat.named_append run).2, flatSyntax_append, flatSyntax_flush,
      List.append_assoc, ← List.append_assoc (text.takeWhile isNameChar), cut]
    rfl
  · rfl

/-- What is left of literal text that opens with characters of names is separated from them. -/
theorem separated_cut {kind : ParameterKind} {c : Char} {name text : Text}
    (flat : (Token.parameter kind (c :: name)).IsFlat)
    (separated : Separated (.literal text :: later)) :
    Separated (.parameter kind (c :: name) :: (flush (text.dropWhile isNameChar) ++ later)) := by
  rcases separated_cons_iff.mp separated with ⟨⟨-, noColon, noStar⟩, apart, others⟩
  have stops := List.head?_dropWhile_not isNameChar text
  have part := (List.dropWhile_sublist (l := text) isNameChar).subset
  cases left : text.dropWhile isNameChar with
  | nil =>
      refine separated_cons_iff.mpr ⟨flat, fun next isNext => ?_, others⟩
      exact (apart next isNext).of_literal kind c
  | cons d rest =>
      rw [left] at stops part
      have plain : (Token.literal (d :: rest)).IsFlat :=
        ⟨List.cons_ne_nil _ _, mt (@part ':') noColon, mt (@part '*') noStar⟩
      refine separated_cons_iff.mpr ⟨flat, ?_, separated_cons_iff.mpr ⟨plain, apart, others⟩⟩
      rintro _ ⟨⟩ e ⟨⟩
      exact congrArg not stops

theorem separated_attach (flat : token.IsFlat) (separated : later.Separated)
    (apart : ∀ text, token = .literal text → ∀ other, .literal other ∉ later.head?) :
    (token.attach later).Separated := by
  unfold Token.attach
  split
  · next name onward =>
    rcases separated_cons_iff.mp separated with ⟨⟨named, chars⟩, follows, others⟩
    rcases List.exists_cons_of_ne_nil named with ⟨c, rest, rfl⟩
    exact separated_cons_iff.mpr ⟨chars, follows, others⟩
  · next kind c name text onward =>
    exact separated_cut (flat.named_append fun _ => List.mem_takeWhile_imp).1 separated
  · next notNameless notNamed =>
    -- Nothing was attached, so no name follows that the token lacks and no text that it could end in.
    refine separated_cons_iff.mpr ⟨flat, fun next isNext => ?_, separated⟩
    have flatToo := separated.each next (List.mem_of_mem_head? isNext)
    cases token with
    | group name => exact flat.elim
    | literal text =>
        apply (Token.standsApart_literal_iff flatToo).mpr
        rintro other rfl
        exact apart text rfl other isNext
    | parameter kind name =>
        rcases List.head?_eq_some_iff.mp isNext with ⟨onward, isLater⟩
        cases name with
        | nil =>
            apply (Token.standsApart_nameless_iff flatToo).mpr
            rintro label rfl
            cases kind with
            | catchall => exact notNameless label onward rfl isLater
            | dynamic => exact flat.1 rfl
            | optional | repeatable | optionalRepeatable => exact flat
        | cons c rest =>
            have notLiteral : ∀ other, next ≠ .literal other := by
              rintro other rfl
              exact notNamed kind c rest other onward rfl isLater
            have apart : (Token.literal []).StandsApart next :=
              (Token.standsApart_literal_iff flatToo).mpr notLiteral
            exact apart.of_literal kind c

theorem attach_eq_cons (flat : ∀ next ∈ later, next.IsFlat)
    (apart : ∀ next ∈ later.head?, token.StandsApart next) :
    token.attach later = token :: later := by
  unfold Token.attach
  split
  · next name onward =>
    have follows := apart _ rfl
    rw [Token.standsApart_nameless_iff (flat _ List.mem_cons_self)] at follows
    exact absurd rfl (follows name)
  · next kind c name text onward =>
    rcases List.exists_cons_of_ne_nil (flat _ List.mem_cons_self).1 with ⟨d, rest, rfl⟩
    have ends : ¬isNameChar d = true := by
      have isEnd := apart _ rfl d rfl
      simpa [Token.endsAt] using isEnd
    rw [List.takeWhile_cons_of_neg ends, List.dropWhile_cons_of_neg ends, List.append_nil, flush,
      if_neg (List.cons_ne_nil _ _)]
    rfl
  · rfl

/-- A segment as a file gives it, with tokens that flat patterns have. -/
structure IsFlat (segment : Segment) : Prop where
  nonempty : segment ≠ []
  each : ∀ token ∈ segment, token.IsFlat
  neighbours : segment.IsChain Token.MayPrecede

theorem head?_joined {text : Text} (isFirst : .literal text ∈ segment.joined.head?) :
    .literal text ∈ segment.head? := by
  cases segment with
  | nil => cases isFirst
  | cons token later => exact congrArg some (head?_attach isFirst)

theorem separated_joined (each : ∀ token ∈ segment, token.IsFlat)
    (neighbours : segment.IsChain Token.MayPrecede) :
    segment.joined.Separated ∧ segment.joined.flatSyntax = segment.flatSyntax := by
  induction segment with
  | nil => exact ⟨⟨nofun, .nil⟩, rfl⟩
  | cons token later inductionHypothesis =>
      rcases List.forall_mem_cons.mp each with ⟨flat, others⟩
      rcases List.isChain_cons.mp neighbours with ⟨follows, chain⟩
      rcases inductionHypothesis others chain with ⟨separated, same⟩
      rw [joined_cons, flatSyntax_attach flat separated.each, same]
      refine ⟨separated_attach flat separated ?_, rfl⟩
      rintro text rfl other isFirst
      exact follows _ (head?_joined isFirst)

/-- Two segments make one pattern if and only if they are the same once their tokens are joined. -/
theorem IsFlat.flatSyntax_eq_iff (isFlat : first.IsFlat) (isFlatToo : second.IsFlat) :
    first.flatSyntax = second.flatSyntax ↔ first.joined = second.joined := by
  rcases separated_joined isFlat.each isFlat.neighbours with ⟨separated, same⟩
  rcases separated_joined isFlatToo.each isFlatToo.neighbours with ⟨separatedToo, sameToo⟩
  rw [← same, ← sameToo]
  exact ⟨separated.eq_of_flatSyntax_eq separatedToo, congrArg flatSyntax⟩

/-- Tokens that stand apart are joined to nothing. -/
theorem joined_eq_self (each : ∀ token ∈ segment, token.IsFlat)
    (apart : segment.IsChain Token.StandsApart) : segment.joined = segment := by
  induction segment with
  | nil => rfl
  | cons token later inductionHypothesis =>
      rcases List.forall_mem_cons.mp each with ⟨-, others⟩
      rcases List.isChain_cons.mp apart with ⟨follows, chain⟩
      rw [joined_cons, inductionHypothesis others chain, attach_eq_cons others follows]

theorem IsFlat.flatSyntax_ne_nil (isFlat : segment.IsFlat) : segment.flatSyntax ≠ [] := by
  rcases List.exists_cons_of_ne_nil isFlat.nonempty with ⟨token, later, rfl⟩
  have flat := isFlat.each token List.mem_cons_self
  exact List.append_ne_nil_of_left_ne_nil flat.flatSyntax_ne_nil _

theorem slash_not_mem_flatSyntax (free : ∀ token ∈ segment, '/' ∉ token.value) :
    '/' ∉ segment.flatSyntax := by
  intro inside
  rcases List.mem_flatMap.mp inside with ⟨token, listed, inToken⟩
  exact Token.slash_not_mem_flatSyntax (free token listed) inToken

theorem IsFlat.isGroup_eq_false (isFlat : segment.IsFlat) : segment.isGroup = false := by
  apply isGroup_eq_false_of_ungrouped isFlat.nonempty
  intro token listed
  have flat := isFlat.each token listed
  cases token with
  | group name => exact flat.elim
  | literal text => rfl
  | parameter kind name => rfl

/-- A segment without groups that a flat router has spellings for. -/
theorem OfName.isFlat (ofName : segment.OfName) (other : segment ≠ index)
    (supported : ∀ token ∈ segment, ¬token.IsUnsupported)
    (ungrouped : ∀ token ∈ segment, token.isGroup = false)
    (free : ∀ text, Token.literal text ∈ segment → ':' ∉ text ∧ '*' ∉ text) : segment.IsFlat := by
  rcases ofName.readable other with ⟨nonempty, readable⟩
  refine ⟨nonempty, fun token listed => ?_, readable.neighbours⟩
  have isReadable := readable.each token listed
  have isSupported := supported token listed
  cases token with
  | literal text => exact ⟨isReadable.1, free text listed⟩
  | group name => exact absurd (ungrouped _ listed) nofun
  | parameter kind name =>
      cases kind with
      | dynamic => exact ⟨fun empty => absurd (isReadable.2.2 empty) nofun, isReadable.1⟩
      | catchall => exact isReadable.1
      | optional => exact isSupported ⟨name, .inl rfl⟩
      | repeatable => exact isSupported ⟨name, .inr (.inl rfl)⟩
      | optionalRepeatable => exact isSupported ⟨name, .inr (.inr rfl)⟩

end Segment

/-! ## Rows of segments -/

/-- A pattern leaves out none of the segments. -/
theorem filter_flatSyntax_positionOf {segments : List Segment}
    (flat : ∀ segment ∈ segments, segment.IsFlat) :
    ((positionOf segments).map Segment.flatSyntax).filter (· ≠ []) =
      segments.map Segment.flatSyntax := by
  have kept : segments.filter (!·.isGroup) = segments := by
    apply List.filter_eq_self.mpr
    intro segment listed
    rw [(flat segment listed).isGroup_eq_false]
    rfl
  unfold positionOf
  rw [kept]
  split
  · rfl
  · apply List.filter_eq_self.mpr
    intro part listed
    rcases List.mem_map.mp listed with ⟨segment, isSegment, rfl⟩
    exact decide_eq_true (flat segment isSegment).flatSyntax_ne_nil

/-- Rows of segments make one pattern if and only if they are the same once they are joined. -/
theorem slashed_flatSyntax_eq_iff {first second : List Segment}
    (each : ∀ segment ∈ first ++ second, segment.IsFlat ∧ ∀ token ∈ segment, '/' ∉ token.value) :
    Text.slashed (first.map Segment.flatSyntax) = Text.slashed (second.map Segment.flatSyntax) ↔
      first.map Segment.joined = second.map Segment.joined := by
  rw [List.forall_mem_append] at each
  have part {segments : List Segment}
      (each : ∀ segment ∈ segments, segment.IsFlat ∧ ∀ token ∈ segment, '/' ∉ token.value) :
      ∀ part ∈ segments.map Segment.flatSyntax, '/' ∉ part ∧ part ≠ [] := by
    intro part listed
    rcases List.mem_map.mp listed with ⟨segment, isSegment, rfl⟩
    rcases each segment isSegment with ⟨isFlat, free⟩
    exact ⟨Segment.slash_not_mem_flatSyntax free, isFlat.flatSyntax_ne_nil⟩
  have slashes : Text.slashed (first.map Segment.flatSyntax) =
      Text.slashed (second.map Segment.flatSyntax) ↔
        first.map Segment.flatSyntax = second.map Segment.flatSyntax :=
    ⟨Text.eq_of_slashed_eq (fun text listed => (part each.1 text listed).1)
      (fun text listed => (part each.1 text listed).2)
      (fun text listed => (part each.2 text listed).1)
      (fun text listed => (part each.2 text listed).2), congrArg Text.slashed⟩
  rw [slashes]
  exact map_eq_map_iff fun segment listed other listedToo =>
    (each.1 segment listed).1.flatSyntax_eq_iff (each.2 other listedToo).1

/-! ## Trees -/

namespace RouteTree

variable {tree : RouteTree} {patterns : List FlatPattern}

/-- The pattern that a file leads is made of all its segments. -/
theorem ByName.path_eq (byName : tree.ByName) (made : tree.flatPatterns = .ok patterns)
    {pattern : FlatPattern} (listed : pattern ∈ patterns) {file : PageFile}
    (isAttached : file ∈ tree.attached) (leads : file.path = pattern.file)
    (visible : ∀ segment ∈ file.segments,
      segment ≠ Segment.index ∧ ∀ token ∈ segment, token.isGroup = false)
    (free : ∀ segment ∈ file.segments,
      ∀ text, Token.literal text ∈ segment → ':' ∉ text ∧ '*' ∉ text) :
    pattern.path = '/' :: Text.slashed (file.segments.map Segment.flatSyntax) ∧
      ∀ segment ∈ file.segments, segment.IsFlat ∧ ∀ token ∈ segment, '/' ∉ token.value := by
  rcases flatPatterns_eq_ok_iff.mp made with ⟨supported, rfl⟩
  rcases List.mem_map.mp listed with ⟨route, isRoute, rfl⟩
  have sameFile : file = route.file := by
    have held := mem_attached_iff.mpr (byName.coherent.linked.file_mem_filesAt isRoute)
    exact List.inj_on_of_nodup_map byName.coherent.indexed.nodup_attached isAttached held leads
  subst sameFile
  rcases mem_attached_iff.mp isAttached with ⟨slot, isHere⟩
  have flat (segment : Segment) (isSegment : segment ∈ route.file.segments) :
      segment.IsFlat ∧ ∀ token ∈ segment, '/' ∉ token.value := by
    have ofName := (byName.named slot _ isHere).of_mem_segments isSegment
    rcases visible segment isSegment with ⟨notIndex, ungrouped⟩
    have isSupported := FlatRoute.unsupported_eq_nil_iff.mp
      (List.flatMap_eq_nil_iff.mp supported route isRoute) segment isSegment
      (Segment.isGroup_eq_false_of_ungrouped (ofName.readable notIndex).1 ungrouped)
    exact ⟨ofName.isFlat notIndex isSupported ungrouped (free segment isSegment),
      fun token => ofName.slash_not_mem_value⟩
  refine ⟨?_, flat⟩
  rw [FlatRoute.flatPattern, FlatRoute.segments, PageFile.position,
    filter_flatSyntax_positionOf fun segment isSegment => (flat segment isSegment).1]

/-- Two routes of a tree without groups and index pages, in which no literal text holds the signs
that open a parameter, share their pattern if and only if the segments of their files are the same
once they are joined.  So files with different segments have different patterns where all tokens
stand apart. -/
theorem flatPatterns_path_eq_iff (byName : tree.ByName) (made : tree.flatPatterns = .ok patterns)
    (visible : ∀ file ∈ tree.attached, ∀ segment ∈ file.segments,
      segment ≠ Segment.index ∧ ∀ token ∈ segment, token.isGroup = false)
    (free : ∀ file ∈ tree.attached, ∀ segment ∈ file.segments,
      ∀ text, Token.literal text ∈ segment → ':' ∉ text ∧ '*' ∉ text)
    {first second : FlatPattern} (listed : first ∈ patterns) (listedToo : second ∈ patterns)
    {file other : PageFile} (isAttached : file ∈ tree.attached) (leads : file.path = first.file)
    (isAttachedToo : other ∈ tree.attached) (leadsToo : other.path = second.file) :
    (first.path = second.path ↔
        file.segments.map Segment.joined = other.segments.map Segment.joined) ∧
      ((∀ segment ∈ file.segments ++ other.segments, segment.IsChain Token.StandsApart) →
        file.segments ≠ other.segments → first.path ≠ second.path) := by
  rcases byName.path_eq made listed isAttached leads (visible file isAttached)
    (free file isAttached) with ⟨path, flat⟩
  rcases byName.path_eq made listedToo isAttachedToo leadsToo (visible other isAttachedToo)
    (free other isAttachedToo) with ⟨pathToo, flatToo⟩
  have shared : first.path = second.path ↔
      file.segments.map Segment.joined = other.segments.map Segment.joined := by
    rw [path, pathToo, List.cons.injEq, and_iff_right rfl,
      slashed_flatSyntax_eq_iff (List.forall_mem_append.mpr ⟨flat, flatToo⟩)]
  refine ⟨shared, fun apart differ same => differ ?_⟩
  have unjoined {segments : List Segment}
      (flat : ∀ segment ∈ segments, segment.IsFlat ∧ ∀ token ∈ segment, '/' ∉ token.value)
      (apart : ∀ segment ∈ segments, segment.IsChain Token.StandsApart) :
      segments.map Segment.joined = segments.map id :=
    List.map_congr_left fun segment isSegment =>
      Segment.joined_eq_self (flat segment isSegment).1.each (apart segment isSegment)
  rw [List.forall_mem_append] at apart
  have rejoined := shared.mp same
  rwa [unjoined flat apart.1, unjoined flatToo apart.2, List.map_id, List.map_id] at rejoined

/-- Literal text can belong to the name before it, and a name to the catch-all before it.  A dash
belongs to no name. -/
theorem flatPatterns_path_eq_of_joined :
    let names := ["[...][a]b/c.vue".toList, "[...ab]/c.vue".toList, "[...]-[a]/c.vue".toList]
    let tree := (build (names.map (.file · 0)) {}).toOption.getD .empty
    let patterns := tree.flatPatterns.toOption.getD []
    patterns.map FlatPattern.file = names ∧
      ∃ first ∈ patterns, ∃ second ∈ patterns, ∃ third ∈ patterns, first.file ≠ second.file ∧
        first.path = second.path ∧ second.path ≠ third.path := by
  intro names tree patterns
  have built : build ((names.map (·, 0)).map fun named => .file named.1 named.2) {} = .ok tree := by
    decide +kernel
  have made : tree.flatPatterns = .ok patterns := by decide +kernel
  have visible : ∀ file ∈ tree.attached, ∀ segment ∈ file.segments,
      segment ≠ Segment.index ∧ ∀ token ∈ segment, token.isGroup = false := by decide +kernel
  have plain : ∀ file ∈ tree.attached, ∀ segment ∈ file.segments,
      ∀ token ∈ segment, ':' ∉ token.value ∧ '*' ∉ token.value := by decide +kernel
  have free : ∀ file ∈ tree.attached, ∀ segment ∈ file.segments,
      ∀ text, Token.literal text ∈ segment → ':' ∉ text ∧ '*' ∉ text :=
    fun file listed segment isSegment _ isToken => plain file listed segment isSegment _ isToken
  have files : ∃ file ∈ tree.attached, ∃ other ∈ tree.attached, ∃ last ∈ tree.attached,
      [file, other, last].map PageFile.path = names ∧
      file.segments.map Segment.joined = other.segments.map Segment.joined ∧
      (∀ segment ∈ other.segments ++ last.segments, segment.IsChain Token.StandsApart) ∧
      other.segments ≠ last.segments := by
    decide +kernel
  have routes : ∃ first ∈ patterns, ∃ second ∈ patterns, ∃ third ∈ patterns,
      [first, second, third].map FlatPattern.file = names ∧ first.file ≠ second.file := by
    decide +kernel
  rcases files with ⟨file, isFile, other, isOther, last, isLast, named, joined, apart, differ⟩
  rcases routes with ⟨first, isFirst, second, isSecond, third, isThird, leads, different⟩
  have inOrder := named.trans leads.symm
  simp only [List.map_cons, List.map_nil, List.cons.injEq, and_true] at inOrder
  rcases inOrder with ⟨isLed, isLedToo, isLedLast⟩
  have byName : tree.ByName := .build built
  refine ⟨by decide +kernel, first, isFirst, second, isSecond, third, isThird, different, ?_, ?_⟩
  · exact (flatPatterns_path_eq_iff byName made visible free isFirst isSecond isFile isLed isOther
      isLedToo).1.mpr joined
  · exact (flatPatterns_path_eq_iff byName made visible free isSecond isThird isOther isLedToo
      isLast isLedLast).2 apart differ

/-- Letters go on with the name of the parameter in front of them. -/
theorem not_flatPatterns_path_ne :
    ¬∀ (tree : RouteTree) (patterns : List FlatPattern), tree.ByName →
      tree.flatPatterns = .ok patterns →
      (∀ file ∈ tree.attached, ∀ segment ∈ file.segments,
        segment ≠ Segment.index ∧ ∀ token ∈ segment, token.isGroup = false) →
      (∀ file ∈ tree.attached, ∀ segment ∈ file.segments,
        ∀ text, Token.literal text ∈ segment → ':' ∉ text ∧ '*' ∉ text) →
      ∀ first ∈ patterns, ∀ second ∈ patterns, ∀ file ∈ tree.attached, ∀ other ∈ tree.attached,
        file.path = first.file → other.path = second.file → file.segments ≠ other.segments →
        first.path ≠ second.path := by
  intro distinct
  let names := ["[a]b.vue".toList, "[ab].vue".toList]
  let tree := (build (names.map (.file · 0)) {}).toOption.getD .empty
  let patterns := tree.flatPatterns.toOption.getD []
  have built : build ((names.map (·, 0)).map fun named => .file named.1 named.2) {} = .ok tree := by
    decide +kernel
  have made : tree.flatPatterns = .ok patterns := by decide +kernel
  have visible : ∀ file ∈ tree.attached, ∀ segment ∈ file.segments,
      segment ≠ Segment.index ∧ ∀ token ∈ segment, token.isGroup = false := by decide +kernel
  have plain : ∀ file ∈ tree.attached, ∀ segment ∈ file.segments,
      ∀ token ∈ segment, ':' ∉ token.value ∧ '*' ∉ token.value := by decide +kernel
  have free : ∀ file ∈ tree.attached, ∀ segment ∈ file.segments,
      ∀ text, Token.literal text ∈ segment → ':' ∉ text ∧ '*' ∉ text :=
    fun file listed segment isSegment _ isToken => plain file listed segment isSegment _ isToken
  have shared : ∃ first ∈ patterns, ∃ second ∈ patterns, ∃ file ∈ tree.attached,
      ∃ other ∈ tree.attached, file.path = first.file ∧ other.path = second.file ∧
        file.segments ≠ other.segments ∧ first.path = second.path := by
    decide +kernel
  rcases shared with ⟨first, isFirst, second, isSecond, file, isFile, other, isOther, leads,
    leadsToo, differ, same⟩
  exact distinct tree patterns (.build built) made visible free first isFirst second isSecond file
    isFile other isOther leads leadsToo differ same

end RouteTree
end FileRoutes
