import FileRoutes.Proofs.Segment.Canonical

/-!
# Reading what a segment spells

The spelling of a segment is text for the reader again.  It reads each construct as the token that
was spelled, with one exception.  A catch-all takes a plus sign that follows it, and its spelling
does not give that sign back; so a plus sign that opens the literal text after a catch-all is lost
when the spelling is read.  `reread` is the segment without such signs.
-/

namespace FileRoutes
namespace Segment

/-- The segment without the plus signs right after its catch-alls. -/
def reread : Segment → Segment
  | [] => []
  | .parameter .catchall name :: .literal ('+' :: rest) :: later =>
      .parameter .catchall name :: (flush rest ++ reread later)
  | token :: later => token :: reread later

theorem reread_cons {token : Token} {later : Segment}
    (other : ∀ name rest last, token = .parameter .catchall name →
      later = .literal ('+' :: rest) :: last → False) :
    reread (token :: later) = token :: reread later := by
  rw [reread]
  exact other

theorem eq_nil_of_reread_eq_nil {tokens : Segment} (nothing : reread tokens = []) :
    tokens = [] := by
  unfold reread at nothing
  split at nothing
  · rfl
  · cases nothing
  · cases nothing

/-! ## Reading one construct -/

theorem tokensFrom_cons {state : State} {c : Char} {next : Progress}
    (stepped : step state c = .ok next) (rest : Text) :
    tokensFrom state (c :: rest) = (tokensFrom next.state rest).map (next.tokens ++ ·) := by
  rw [tokensFrom, stepped]

/-- A character that finishes no token only changes the state. -/
theorem tokensFrom_cons_of_silent {state next : State} {c : Char} {notices : List Notice}
    (stepped : step state c = .ok ⟨[], notices, next⟩) (rest : Text) :
    tokensFrom state (c :: rest) = tokensFrom next rest := by
  rw [tokensFrom_cons stepped]
  cases tokensFrom next rest <;> rfl

theorem tokensFrom_text_append (pending : Text) {text : Text} (noBracket : '[' ∉ text)
    (noGroup : '(' ∉ text) (rest : Text) :
    tokensFrom (.text pending) (text ++ rest) = tokensFrom (.text (pending ++ text)) rest := by
  induction text generalizing pending with
  | nil => simp
  | cons c text inductionHypothesis =>
      rw [List.mem_cons, not_or] at noBracket noGroup
      have stepped : step (.text pending) c = .ok ⟨[], [], .text (pending ++ [c])⟩ := by
        simp [step, stepText, Ne.symm noBracket.1, Ne.symm noGroup.1]
      rw [List.cons_append, tokensFrom_cons_of_silent stepped,
        inductionHypothesis _ noBracket.2 noGroup.2, List.append_assoc, List.singleton_append]

theorem tokensFrom_group_append (read : Text) {name : Text} (inside : ')' ∉ name) (rest : Text) :
    tokensFrom (.group read) (name ++ rest) = tokensFrom (.group (read ++ name)) rest := by
  induction name generalizing read with
  | nil => simp
  | cons c name inductionHypothesis =>
      rw [List.mem_cons, not_or] at inside
      have stepped : step (.group read) c = .ok ⟨[], [], .group (read ++ [c])⟩ := by
        simp [step, stepGroup, Ne.symm inside.1]
      rw [List.cons_append, tokensFrom_cons_of_silent stepped, inductionHypothesis _ inside.2,
        List.append_assoc, List.singleton_append]

/-- A character of a name is neither of the brackets. -/
theorem ne_bracket_of_isNameChar {c : Char} (allowed : isNameChar c = true) :
    c ≠ '[' ∧ c ≠ ']' := by
  constructor <;> (rintro rfl; exact absurd allowed (by decide))

theorem step_bracket_of_isNameChar {bracket : Bracket} {c : Char}
    (settled : bracket.settle = bracket) (allowed : isNameChar c = true) :
    step (.bracket bracket) c =
      .ok ⟨[], [], .bracket { bracket with name := bracket.name ++ [c] }⟩ := by
  rcases ne_bracket_of_isNameChar allowed with ⟨notOpen, notClose⟩
  simp [step, settled, stepBracket, notOpen, notClose, allowed]

/-- A name is collected character by character, as long as it does not open with three dots. -/
theorem tokensFrom_bracket_append (bracket : Bracket) {name : Text}
    (chars : ∀ c ∈ name, isNameChar c = true)
    (dots : ¬['.', '.', '.'] <+: bracket.name ++ name) (rest : Text) :
    tokensFrom (.bracket bracket) (name ++ rest) =
      tokensFrom (.bracket { bracket with name := bracket.name ++ name }) rest := by
  induction name generalizing bracket with
  | nil => simp
  | cons c name inductionHypothesis =>
      rcases List.forall_mem_cons.mp chars with ⟨allowed, others⟩
      have settled : bracket.settle = bracket := by
        apply if_neg
        intro same
        exact dots (same ▸ List.prefix_append _ _)
      have more : ¬['.', '.', '.'] <+: (bracket.name ++ [c]) ++ name := by
        rwa [List.append_assoc, List.singleton_append]
      rw [List.cons_append, tokensFrom_cons_of_silent (step_bracket_of_isNameChar settled allowed),
        inductionHypothesis _ others more, List.append_assoc, List.singleton_append]

/-- Closing a bracket that holds a name or is a catch-all, once or twice. -/
theorem tokensFrom_close {bracket : Bracket} (settled : bracket.settle = bracket)
    (named : bracket.name = [] → bracket.catchall = true) (rest : Text) :
    tokensFrom (.bracket bracket)
        ((if bracket.double then [']', ']'] else [']']) ++ rest) =
      tokensFrom (.closed bracket) rest := by
  have closing : close bracket = .ok ⟨[], [], .closed bracket⟩ := by
    apply if_neg
    rintro ⟨empty, plain⟩
    rw [named empty] at plain
    cases plain
  cases double : bracket.double with
  | false =>
      have stepped : step (.bracket bracket) ']' = .ok ⟨[], [], .closed bracket⟩ := by
        simp [step, settled, stepBracket, double, closing]
      exact tokensFrom_cons_of_silent stepped rest
  | true =>
      have first : step (.bracket bracket) ']' = .ok ⟨[], [], .halfClosed bracket⟩ := by
        simp [step, settled, stepBracket, double]
      have second : step (.halfClosed bracket) ']' = .ok ⟨[], [], .closed bracket⟩ := by
        simp [step, closing]
      exact (tokensFrom_cons_of_silent first _).trans (tokensFrom_cons_of_silent second rest)

theorem tokensFrom_closed_plus (bracket : Bracket) (rest : Text) :
    tokensFrom (.closed bracket) ('+' :: rest) =
      (tokensFrom (.text []) rest).map (bracket.token true :: ·) := by
  have stepped : step (.closed bracket) '+' = .ok ⟨[bracket.token true],
      if bracket.catchall then [.redundantRepeat] else [], .text []⟩ := by
    simp [step, stepClosed]
  exact tokensFrom_cons stepped rest

/-- Without a plus sign the parameter is finished before anything else is read. -/
theorem tokensFrom_closed (bracket : Bracket) {rest : Text} (other : rest.head? ≠ some '+') :
    tokensFrom (.closed bracket) rest =
      (tokensFrom (.text []) rest).map (bracket.token false :: ·) := by
  cases rest with
  | nil => rfl
  | cons c rest =>
      have notPlus : c ≠ '+' := fun isPlus => other (congrArg some isPlus)
      have stepped : step (.closed bracket) c = .ok { stepText [] c with
          tokens := bracket.token false :: (stepText [] c).tokens } := by
        simp [step, stepClosed, notPlus]
      have started : step (.text []) c = .ok (stepText [] c) := rfl
      rw [tokensFrom_cons stepped, tokensFrom_cons started]
      cases tokensFrom (stepText [] c).state rest <;> rfl

/-! ## Reading one token -/

theorem tokensFrom_named {name : Text} (double : Bool) (readable : ∀ c ∈ name, isNameChar c = true)
    (dots : ¬['.', '.', '.'] <+: name) (nonempty : name ≠ []) (rest : Text) :
    tokensFrom (.bracket ⟨double, false, []⟩)
        (name ++ ((if double then [']', ']'] else [']']) ++ rest)) =
      tokensFrom (.closed ⟨double, false, name⟩) rest := by
  have settled : Bracket.settle ⟨double, false, name⟩ = ⟨double, false, name⟩ := by
    apply if_neg
    rintro rfl
    exact dots List.prefix_rfl
  have collected := tokensFrom_bracket_append ⟨double, false, []⟩ readable dots
  rw [collected]
  exact tokensFrom_close settled (fun empty => absurd empty nonempty) rest

/-- Three dots are forgotten when the next character comes. -/
theorem tokensFrom_dots (c : Char) (rest : Text) :
    tokensFrom (.bracket .opened) ('.' :: '.' :: '.' :: c :: rest) =
      tokensFrom (.bracket ⟨false, true, []⟩) (c :: rest) := by
  have dot {name : Text} (short : name ≠ ['.', '.', '.']) :
      step (.bracket ⟨false, false, name⟩) '.' =
        .ok ⟨[], [], .bracket ⟨false, false, name ++ ['.']⟩⟩ :=
    step_bracket_of_isNameChar (if_neg short) (by decide)
  have marked : step (.bracket ⟨false, false, ['.', '.', '.']⟩) c =
      step (.bracket ⟨false, true, []⟩) c := rfl
  rw [Bracket.opened, tokensFrom_cons_of_silent (dot (by decide)),
    tokensFrom_cons_of_silent (dot (by decide)), tokensFrom_cons_of_silent (dot (by decide))]
  simp only [List.nil_append, List.cons_append, tokensFrom, marked]

theorem tokensFrom_catchall {name : Text} (readable : ∀ c ∈ name, isNameChar c = true)
    (dots : ¬['.', '.', '.'] <+: name) (rest : Text) :
    tokensFrom (.bracket .opened) (['.', '.', '.'] ++ name ++ [']'] ++ rest) =
      tokensFrom (.closed ⟨false, true, name⟩) rest := by
  have settled : Bracket.settle ⟨false, true, name⟩ = ⟨false, true, name⟩ := by
    apply if_neg
    rintro rfl
    exact dots List.prefix_rfl
  have marked : tokensFrom (.bracket .opened) (['.', '.', '.'] ++ name ++ [']'] ++ rest) =
      tokensFrom (.bracket ⟨false, true, []⟩) (name ++ ([']'] ++ rest)) := by
    cases name with
    | nil => exact tokensFrom_dots ']' rest
    | cons c name => simpa using tokensFrom_dots c (name ++ ']' :: rest)
  have collected := tokensFrom_bracket_append ⟨false, true, []⟩ readable dots
  rw [marked, collected]
  exact tokensFrom_close settled (fun _ => rfl) rest

/-- A parameter is read from its opening bracket on, after the literal text before it. -/
theorem tokensFrom_opened {bracket : Bracket} {repeats : Bool} {inside rest : Text}
    (read : tokensFrom (.bracket .opened) inside =
      (tokensFrom (.text []) rest).map (bracket.token repeats :: ·)) (pending : Text)
    (token : Token) (isToken : bracket.token repeats = token) :
    tokensFrom (.text pending) ('[' :: inside) =
      (tokensFrom (.text []) rest).map (flush pending ++ token :: ·) := by
  have opened : step (.text pending) '[' = .ok ⟨flush pending, [], .bracket .opened⟩ := by
    simp [step, stepText]
  rw [tokensFrom_cons opened, read, isToken]
  cases tokensFrom (.text []) rest <;> rfl

/-- A parameter is read back, if no plus sign follows that its spelling does not hold already. -/
theorem tokensFrom_parameter {kind : ParameterKind} {name : Text}
    (readable : (Token.parameter kind name).Readable) (pending : Text) {rest : Text}
    (other : kind ≠ .repeatable → kind ≠ .optionalRepeatable → rest.head? ≠ some '+') :
    tokensFrom (.text pending) ((Token.parameter kind name).spelling ++ rest) =
      (tokensFrom (.text []) rest).map (flush pending ++ .parameter kind name :: ·) := by
  rcases readable with ⟨chars, dots, named⟩
  have twice : step (.bracket .opened) '[' = .ok ⟨[], [], .bracket ⟨true, false, []⟩⟩ := by decide
  cases kind with
  | dynamic =>
      have read := tokensFrom_named false chars dots (fun empty => nomatch named empty) rest
      rw [tokensFrom_closed _ (other nofun nofun)] at read
      simpa [Token.spelling] using tokensFrom_opened read pending (.parameter .dynamic name) rfl
  | optional =>
      have read := tokensFrom_named true chars dots (fun empty => nomatch named empty) rest
      rw [tokensFrom_closed _ (other nofun nofun), ← tokensFrom_cons_of_silent twice] at read
      simpa [Token.spelling] using tokensFrom_opened read pending (.parameter .optional name) rfl
  | catchall =>
      have read := tokensFrom_catchall chars dots rest
      rw [tokensFrom_closed _ (other nofun nofun)] at read
      simpa [Token.spelling] using tokensFrom_opened read pending (.parameter .catchall name) rfl
  | repeatable =>
      have read := tokensFrom_named false chars dots (fun empty => nomatch named empty)
        ('+' :: rest)
      rw [tokensFrom_closed_plus] at read
      simpa [Token.spelling] using tokensFrom_opened read pending (.parameter .repeatable name) rfl
  | optionalRepeatable =>
      have read := tokensFrom_named true chars dots (fun empty => nomatch named empty)
        ('+' :: rest)
      rw [tokensFrom_closed_plus, ← tokensFrom_cons_of_silent twice] at read
      simpa [Token.spelling] using
        tokensFrom_opened read pending (.parameter .optionalRepeatable name) rfl

/-- A catch-all takes a plus sign that follows it. -/
theorem tokensFrom_catchall_plus {name : Text}
    (readable : (Token.parameter .catchall name).Readable) (pending rest : Text) :
    tokensFrom (.text pending) ((Token.parameter .catchall name).spelling ++ '+' :: rest) =
      (tokensFrom (.text []) rest).map (flush pending ++ .parameter .catchall name :: ·) := by
  have read := tokensFrom_catchall readable.1 readable.2.1 ('+' :: rest)
  rw [tokensFrom_closed_plus] at read
  simpa [Token.spelling] using tokensFrom_opened read pending (.parameter .catchall name) rfl

theorem tokensFrom_group {name : Text} (readable : (Token.group name).Readable) (pending : Text)
    (rest : Text) :
    tokensFrom (.text pending) ((Token.group name).spelling ++ rest) =
      (tokensFrom (.text []) rest).map (flush pending ++ Token.group name :: ·) := by
  have opened : step (.text pending) '(' = .ok ⟨flush pending, [], .group []⟩ := by
    simp [step, stepText]
  have closed : step (.group name) ')' = .ok ⟨[.group name], [], .text []⟩ := by
    simp [step, stepGroup, readable.1]
  have inside := tokensFrom_group_append [] readable.2 (')' :: rest)
  have spelled : (Token.group name).spelling ++ rest = '(' :: (name ++ ')' :: rest) := by
    simp [Token.spelling]
  rw [spelled, tokensFrom_cons opened, inside, List.nil_append, tokensFrom_cons closed]
  cases tokensFrom (.text []) rest <;> rfl

/-! ## Reading a whole spelling -/

/-- Only literal text spells a plus sign first. -/
theorem head?_spelling_ne_plus {tokens : Segment} (readable : tokens.Readable)
    (plain : ∀ rest, ∀ next ∈ tokens.head?, next ≠ .literal ('+' :: rest)) :
    (spelling tokens).head? ≠ some '+' := by
  cases tokens with
  | nil => exact nofun
  | cons token later =>
      have first := (readable_cons_iff.mp readable).1
      cases token with
      | group name => simp [Token.spelling]
      | parameter kind name => cases kind <;> simp [Token.spelling]
      | literal text =>
          cases text with
          | nil => exact absurd rfl first.1
          | cons c rest =>
              intro isPlus
              rcases Option.some.inj isPlus with rfl
              exact plain rest _ rfl rfl

/-- Literal text is read together with what waits, since neighbours are not both literal. -/
theorem apart_of_mayPrecede {text : Text} {later : Segment}
    (follows : ∀ next ∈ later.head?, (Token.literal text).MayPrecede next) (other : Text) :
    ∀ next ∈ later.head?, next ≠ .literal other := by
  rintro next isNext rfl
  exact follows _ isNext

/-- Literal text that waits stands before the tokens, unless they go on with literal text. -/
theorem tokensFrom_spelling {tokens : Segment} (readable : tokens.Readable) {pending : Text}
    (apart : pending ≠ [] → ∀ text, ∀ next ∈ tokens.head?, next ≠ .literal text) :
    tokensFrom (.text pending) (spelling tokens) = .ok (flush pending ++ reread tokens) := by
  induction tokens using reread.induct generalizing pending with
  | case1 => simp [tokensFrom, finish, reread]
  | case2 name rest later inductionHypothesis =>
      rcases readable_cons_iff.mp readable with ⟨catchall, -, others⟩
      rcases readable_cons_iff.mp others with ⟨⟨-, noBracket, noGroup⟩, follows, onward⟩
      rw [List.mem_cons, not_or] at noBracket noGroup
      have taken : tokensFrom (.text []) (rest ++ spelling later) =
          .ok (flush rest ++ reread later) := by
        rw [tokensFrom_text_append [] noBracket.2 noGroup.2]
        exact inductionHypothesis onward fun _ => apart_of_mayPrecede follows
      refine (tokensFrom_catchall_plus catchall pending (rest ++ spelling later)).trans ?_
      rw [taken]
      rfl
  | case3 token later other inductionHypothesis =>
      rcases readable_cons_iff.mp readable with ⟨first, follows, onward⟩
      have afterwards : tokensFrom (.text []) (spelling later) = .ok (reread later) :=
        inductionHypothesis onward (absurd rfl)
      rw [spelling_cons, reread_cons other]
      cases token with
      | literal text =>
          have empty : pending = [] := by
            by_contra busy
            exact apart busy text _ rfl rfl
          have flushed : flush text = [.literal text] := if_neg first.1
          rw [empty, Token.spelling, tokensFrom_text_append [] first.2.1 first.2.2, List.nil_append,
            inductionHypothesis onward fun _ => apart_of_mayPrecede follows, flushed]
          rfl
      | group name =>
          rw [tokensFrom_group first, afterwards]
          rfl
      | parameter kind name =>
          rw [tokensFrom_parameter first, afterwards]
          · rfl
          · intro notRepeatable notOptionalRepeatable
            apply head?_spelling_ne_plus onward
            rintro rest next isNext rfl
            have fits := follows _ isNext
            cases kind with
            | dynamic | optional => exact fits rfl
            | repeatable => exact notRepeatable rfl
            | optionalRepeatable => exact notOptionalRepeatable rfl
            | catchall =>
                rcases List.head?_eq_some_iff.mp isNext with ⟨last, rfl⟩
                exact other name rest last rfl rfl

theorem spelling_ne_nil {tokens : Segment} (readable : tokens.Readable) (some : tokens ≠ []) :
    spelling tokens ≠ [] := by
  cases tokens with
  | nil => exact absurd rfl some
  | cons token later =>
      have first := (readable_cons_iff.mp readable).1
      cases token with
      | literal text => simp [Token.spelling, first.1]
      | group name => simp [Token.spelling]
      | parameter kind name => cases kind <;> simp [Token.spelling]

/-- `reread` does not make the word for the index page out of anything else. -/
theorem eq_of_reread_eq_literal {tokens : Segment} {text : Text}
    (same : reread tokens = [.literal text]) : tokens = [.literal text] := by
  unfold reread at same
  split at same
  · cases same
  · cases same
  · next token later _ =>
    rcases List.cons.inj same with ⟨rfl, nothing⟩
    rw [eq_nil_of_reread_eq_nil nothing]

/-- What the reader makes of a spelling. -/
theorem read_spelling {segment : Segment} (canonical : segment.Canonical) :
    read segment.spelling = .ok segment.reread := by
  rcases canonical with rfl | ⟨some, notIndex, readable⟩
  · rfl
  · have taken : tokensFrom (.text []) segment.spelling = .ok (reread segment) :=
      tokensFrom_spelling readable (absurd rfl)
    have kept : normalize (reread segment) = reread segment :=
      if_neg fun isIndex => notIndex (eq_of_reread_eq_literal isIndex)
    rw [read, if_neg (spelling_ne_nil readable some), taken]
    exact congrArg Except.ok kept

/-! ## Spellings that are read as they were meant -/

theorem length_reread_le (segment : Segment) : segment.reread.length ≤ segment.length := by
  induction segment using reread.induct with
  | case1 => simp [reread]
  | case2 name rest later inductionHypothesis =>
      have flushed : (flush rest).length ≤ 1 := by
        unfold flush
        split <;> simp
      simp only [reread, List.length_cons, List.length_append]
      omega
  | case3 token later other inductionHypothesis =>
      rw [reread_cons other]
      simpa using inductionHypothesis

/-- A plus sign that was dropped makes the literal text shorter, or makes it vanish. -/
theorem flush_append_reread_ne (rest : Text) (later : Segment) :
    flush rest ++ reread later ≠ .literal ('+' :: rest) :: later := by
  intro same
  unfold flush at same
  split at same
  · have shorter := length_reread_le later
    rw [List.nil_append] at same
    rw [same, List.length_cons] at shorter
    omega
  · rcases List.cons.inj same with ⟨shorter, -⟩
    exact List.cons_ne_self _ _ (Token.literal.inj shorter).symm

theorem reread_eq_self_iff {segment : Segment} :
    segment.reread = segment ↔ ¬∃ front name rest later,
      segment = front ++ .parameter .catchall name :: .literal ('+' :: rest) :: later := by
  induction segment using reread.induct with
  | case1 => simp [reread]
  | case2 name rest later inductionHypothesis =>
      apply iff_of_false
      · intro same
        exact flush_append_reread_ne rest later (List.cons.inj same).2
      · exact not_not.mpr ⟨[], name, rest, later, rfl⟩
  | case3 token later other inductionHypothesis =>
      rw [reread_cons other, List.cons.injEq, and_iff_right rfl, inductionHypothesis]
      apply not_congr
      constructor
      · rintro ⟨front, name, rest, last, rfl⟩
        exact ⟨token :: front, name, rest, last, rfl⟩
      · rintro ⟨front, name, rest, last, same⟩
        cases front with
        | nil =>
            rcases List.cons.inj same with ⟨isCatchall, isLater⟩
            exact (other name rest last isCatchall isLater).elim
        | cons first front => exact ⟨front, name, rest, last, (List.cons.inj same).2⟩

/-- The spelling of a segment that was read is read as that segment, unless literal text that opens
with a plus sign comes right after a catch-all in it. -/
theorem read_spelling_eq_self_iff {text : Text} {segment : Segment}
    (taken : read text = .ok segment) :
    read segment.spelling = .ok segment ↔ ¬∃ front name rest later,
      segment = front ++ .parameter .catchall name :: .literal ('+' :: rest) :: later := by
  rw [read_spelling (canonical_of_read taken), Except.ok.injEq]
  exact reread_eq_self_iff

/-- A plus sign that a catch-all drops, and a closing bracket that is dropped, do not come back. -/
theorem read_spelling_of_dropped :
    read "[...a]+b[[c]d]]".toList = .ok [.parameter .catchall ['a'], .literal ['b'],
        .parameter .optional ['c', 'd']] ∧
      read "[...a]b[[cd]]".toList = .ok [.parameter .catchall ['a'], .literal ['b'],
        .parameter .optional ['c', 'd']] := by
  have taken : read "[...a]+b[[c]d]]".toList = .ok [.parameter .catchall ['a'], .literal ['b'],
      .parameter .optional ['c', 'd']] := by decide
  refine ⟨taken, (read_spelling_eq_self_iff taken).mpr ?_⟩
  rw [← reread_eq_self_iff]
  decide

/-- After a catch-all and its plus sign, another plus sign is literal text.  Its spelling has one
plus sign, which the catch-all takes. -/
theorem not_read_spelling_of_plus_after_catchall :
    ¬∀ text segment, read text = .ok segment → read segment.spelling = .ok segment := by
  intro preserved
  have taken : read "[...a]++".toList = .ok [.parameter .catchall ['a'], .literal ['+']] := by
    decide
  have again := preserved _ _ taken
  revert again
  decide

end Segment
end FileRoutes
