import FileRoutes.Segment.Read
import Mathlib.Data.List.Chain

/-!
# What reading a segment can give

A token that comes out of the reader holds only text that the reader lets into it, and two
neighbours are told apart: literal text is never cut in two, and a plus sign right after a
parameter belongs to the parameter.  A plus sign that opens literal text after a catch-all is the
exception, since the catch-all itself has taken another one before.

The reader decides token by token, so the proof follows its states.  `State.Sound` is what a state
has collected so far, and `State.Opens` says how the first token of the rest goes on from there.
-/

namespace FileRoutes

namespace Token

/-- What the text of a token that was read may hold. -/
def Readable : Token → Prop
  | literal text => text ≠ [] ∧ '[' ∉ text ∧ '(' ∉ text
  | parameter kind name =>
      (∀ c ∈ name, Segment.isNameChar c = true) ∧ ¬['.', '.', '.'] <+: name ∧
        (name = [] → kind = .catchall)
  | group name => name ≠ [] ∧ ')' ∉ name

/-- Which token may follow which. -/
def MayPrecede : Token → Token → Prop
  | literal _, literal _ => False
  | parameter .dynamic _, literal text => text.head? ≠ some '+'
  | parameter .optional _, literal text => text.head? ≠ some '+'
  | _, _ => True

end Token

namespace Segment

/-- Tokens as reading gives them, before `index` is taken for the index page. -/
structure Readable (tokens : Segment) : Prop where
  each : ∀ token ∈ tokens, token.Readable
  neighbours : tokens.IsChain Token.MayPrecede

theorem Readable.nil : Readable [] :=
  ⟨fun _ listed => absurd listed List.not_mem_nil, .nil⟩

theorem readable_cons_iff {token : Token} {later : Segment} :
    Readable (token :: later) ↔
      token.Readable ∧ (∀ next ∈ later.head?, token.MayPrecede next) ∧ Readable later := by
  constructor
  · rintro ⟨each, neighbours⟩
    rcases List.forall_mem_cons.mp each with ⟨first, others⟩
    rcases List.isChain_cons.mp neighbours with ⟨next, chain⟩
    exact ⟨first, next, others, chain⟩
  · rintro ⟨first, next, others, chain⟩
    exact ⟨List.forall_mem_cons.mpr ⟨first, others⟩, List.isChain_cons.mpr ⟨next, chain⟩⟩

/-- The segments that reading can give. -/
def Canonical (segment : Segment) : Prop :=
  segment = index ∨
    (segment ≠ [] ∧ segment ≠ [.literal ['i', 'n', 'd', 'e', 'x']] ∧ segment.Readable)

/-! ## What a bracket can hold -/

namespace Bracket

/-- A bracket holds characters of names, and three dots in front only until the next character
comes. -/
structure Sound (bracket : Bracket) : Prop where
  chars : ∀ c ∈ bracket.name, isNameChar c = true
  dots : ['.', '.', '.'] <+: bracket.name → bracket.name = ['.', '.', '.']

/-- A bracket in which three dots in front have been turned into the mark of a catch-all. -/
structure Settled (bracket : Bracket) : Prop where
  chars : ∀ c ∈ bracket.name, isNameChar c = true
  dots : ¬['.', '.', '.'] <+: bracket.name

variable {bracket : Bracket}

theorem sound_opened : opened.Sound :=
  ⟨fun _ listed => absurd listed List.not_mem_nil, by decide⟩

theorem Settled.sound (settled : bracket.Settled) : bracket.Sound :=
  ⟨settled.chars, fun opening => absurd opening settled.dots⟩

theorem Sound.settle (sound : bracket.Sound) : bracket.settle.Settled := by
  unfold Bracket.settle
  split
  · exact ⟨fun _ listed => absurd listed List.not_mem_nil, by simp⟩
  · next others => exact ⟨sound.chars, fun dots => others (sound.dots dots)⟩

/-- One more character makes at most three dots out of a name that does not open with them. -/
theorem Settled.push (settled : bracket.Settled) {c : Char} (allowed : isNameChar c = true) :
    Sound { bracket with name := bracket.name ++ [c] } where
  chars other listed := by
    rcases List.mem_append.mp listed with old | new
    · exact settled.chars other old
    · rwa [List.mem_singleton.mp new]
  dots opening := by
    rcases List.prefix_concat_iff.mp opening with whole | early
    · exact whole.symm
    · exact absurd early settled.dots

theorem Settled.readable_token (settled : bracket.Settled)
    (named : ¬(bracket.name = [] ∧ bracket.catchall = false)) (repeats : Bool) :
    (bracket.token repeats).Readable := by
  refine ⟨settled.chars, settled.dots, fun empty => ?_⟩
  have catchall : bracket.catchall = true := by
    cases isCatchall : bracket.catchall
    · exact absurd ⟨empty, isCatchall⟩ named
    · rfl
  simp [kind, catchall]

/-- After a plus sign of its own a parameter may be followed by anything. -/
theorem mayPrecede_token_true (bracket : Bracket) (next : Token) :
    (bracket.token true).MayPrecede next := by
  rcases bracket with ⟨double, catchall, name⟩
  cases catchall <;> cases double <;> trivial

theorem mayPrecede_token_false (bracket : Bracket) {next : Token}
    (plain : ∀ rest, next ≠ .literal ('+' :: rest)) : (bracket.token false).MayPrecede next := by
  cases next with
  | parameter kind name => cases kind' : bracket.kind false <;> simp [token, kind', Token.MayPrecede]
  | group name => cases kind' : bracket.kind false <;> simp [token, kind', Token.MayPrecede]
  | literal text =>
      have head : text.head? ≠ some '+' := by
        cases text with
        | nil => exact nofun
        | cons c rest =>
            intro isPlus
            rcases Option.some.inj isPlus with rfl
            exact plain rest rfl
      cases kind' : bracket.kind false <;> simp [token, kind', Token.MayPrecede, head]

end Bracket

/-! ## What a state can hold -/

namespace State

/-- What a state has collected can stand in a token. -/
def Sound : State → Prop
  | text pending => '[' ∉ pending ∧ '(' ∉ pending
  | bracket held => held.Sound
  | halfClosed held => held.Settled
  | closed held => held.Settled ∧ ¬(held.name = [] ∧ held.catchall = false)
  | group name => ')' ∉ name

/-- How the tokens that a state leads to begin. -/
def Opens : State → Segment → Prop
  | text [], _ => True
  | text pending, tokens => ∃ more later, tokens = .literal (pending ++ more) :: later
  | bracket _, tokens | halfClosed _, tokens | closed _, tokens =>
      ∃ kind name later, tokens = .parameter kind name :: later
  | group _, tokens => ∃ name later, tokens = .group name :: later

theorem sound_text_nil : (text []).Sound :=
  ⟨List.not_mem_nil, List.not_mem_nil⟩

theorem Opens.ne_nil {state : State} {tokens : Segment} (opens : state.Opens tokens)
    (busy : state ≠ .text []) : tokens ≠ [] := by
  cases state with
  | text pending =>
      cases pending with
      | nil => exact absurd rfl busy
      | cons c rest =>
          rcases opens with ⟨more, later, rfl⟩
          exact List.cons_ne_nil _ _
  | bracket _ | halfClosed _ | closed _ =>
      rcases opens with ⟨kind, name, later, rfl⟩
      exact List.cons_ne_nil _ _
  | group _ =>
      rcases opens with ⟨name, later, rfl⟩
      exact List.cons_ne_nil _ _

end State

/-- Literal text may be flushed before tokens that open with something else. -/
theorem readable_flush_append {pending : Text} {tokens : Segment}
    (sound : (State.text pending).Sound) (readable : tokens.Readable)
    (other : ∀ text later, tokens ≠ .literal text :: later) :
    Readable (flush pending ++ tokens) ∧ (State.text pending).Opens (flush pending ++ tokens) := by
  cases pending with
  | nil => exact ⟨readable, trivial⟩
  | cons c rest =>
      have first : (Token.literal (c :: rest)).Readable := ⟨List.cons_ne_nil _ _, sound⟩
      refine ⟨readable_cons_iff.mpr ⟨first, ?_, readable⟩, [], tokens, by simp [flush]⟩
      intro next isNext
      cases tokens with
      | nil => cases isNext
      | cons head later =>
          rcases Option.some.inj isNext with rfl
          cases head with
          | literal text => exact absurd rfl (other text later)
          | parameter kind name => trivial
          | group name => trivial

/-! ## One character -/

/-- What a character leads to from a state: the next state is sound, and the tokens finished by
the character fit in front of those that the next state leads to. -/
def Progress.Fits (state : State) (next : Progress) : Prop :=
  next.state.Sound ∧ ∀ tokens : Segment, tokens.Readable → next.state.Opens tokens →
    Readable (next.tokens ++ tokens) ∧ state.Opens (next.tokens ++ tokens)

theorem stepText_fits {pending : Text} (sound : (State.text pending).Sound) (c : Char) :
    (stepText pending c).Fits (.text pending) := by
  unfold stepText
  split
  · refine ⟨Bracket.sound_opened, fun tokens readable opens => ?_⟩
    rcases opens with ⟨kind, name, later, rfl⟩
    exact readable_flush_append sound readable (by simp)
  · next notBracket =>
    split
    · refine ⟨List.not_mem_nil, fun tokens readable opens => ?_⟩
      rcases opens with ⟨name, later, rfl⟩
      exact readable_flush_append sound readable (by simp)
    · next notGroup =>
      have pushed : (State.text (pending ++ [c])).Sound := by
        simpa [State.Sound, sound.1, sound.2, eq_comm] using And.intro notBracket notGroup
      refine ⟨pushed, fun tokens readable opens => ⟨readable, ?_⟩⟩
      cases pending with
      | nil => trivial
      | cons first rest =>
          rcases opens with ⟨more, later, rfl⟩
          exact ⟨c :: more, later, by simp⟩

theorem close_fits {bracket : Bracket} (settled : bracket.Settled) {next : Progress}
    (closed : close bracket = .ok next) : next.Fits (.bracket bracket) := by
  unfold close at closed
  split at closed
  · cases closed
  · next named =>
    rcases Except.ok.inj closed with rfl
    exact ⟨⟨settled, named⟩, fun _ readable opens => ⟨readable, opens⟩⟩

theorem stepBracket_fits {bracket : Bracket} (settled : bracket.Settled) {c : Char}
    {next : Progress} (stepped : stepBracket bracket c = .ok next) :
    next.Fits (.bracket bracket) := by
  unfold stepBracket at stepped
  split at stepped
  · split at stepped
    · rcases Except.ok.inj stepped with rfl
      exact ⟨settled, fun _ readable opens => ⟨readable, opens⟩⟩
    · exact close_fits settled stepped
  · split at stepped
    · rcases Except.ok.inj stepped with rfl
      exact ⟨⟨settled.chars, settled.sound.dots⟩, fun _ readable opens => ⟨readable, opens⟩⟩
    · split at stepped
      · next allowed =>
        rcases Except.ok.inj stepped with rfl
        exact ⟨settled.push allowed, fun _ readable opens => ⟨readable, opens⟩⟩
      · rcases Except.ok.inj stepped with rfl
        exact ⟨settled.sound, fun _ readable opens => ⟨readable, opens⟩⟩

/-- Literal text that starts right after a bracket does not start with the plus sign, which would
have been the bracket's. -/
theorem head_ne_plus_of_opens {c : Char} (notPlus : c ≠ '+') {tokens : Segment}
    (opens : (stepText [] c).state.Opens tokens) (rest : Text) :
    ∀ next ∈ tokens.head?, next ≠ .literal ('+' :: rest) := by
  rintro next isNext rfl
  unfold stepText at opens
  split at opens
  · rcases opens with ⟨kind, name, later, rfl⟩
    cases isNext
  · split at opens
    · rcases opens with ⟨name, later, rfl⟩
      cases isNext
    · rcases opens with ⟨more, later, rfl⟩
      rcases List.cons.inj (Token.literal.inj (Option.some.inj isNext)) with ⟨isPlus, -⟩
      exact notPlus isPlus

theorem stepClosed_fits {bracket : Bracket} (sound : (State.closed bracket).Sound) (c : Char) :
    (stepClosed bracket c).Fits (.closed bracket) := by
  rcases sound with ⟨settled, named⟩
  have readable := settled.readable_token named
  unfold stepClosed
  split
  · refine ⟨State.sound_text_nil, fun tokens after _ => ⟨?_, _, _, _, rfl⟩⟩
    have follows (next : Token) := bracket.mayPrecede_token_true next
    exact readable_cons_iff.mpr ⟨readable true, fun next _ => follows next, after⟩
  · next notPlus =>
    rcases stepText_fits State.sound_text_nil c with ⟨nextSound, fits⟩
    refine ⟨nextSound, fun tokens after opens => ⟨?_, _, _, _, rfl⟩⟩
    have flushed : (stepText [] c).tokens = [] := by
      unfold stepText
      split
      · rfl
      · split <;> rfl
    have later := (fits tokens after opens).1
    refine readable_cons_iff.mpr ⟨readable false, fun next isNext => ?_, later⟩
    have isHead : next ∈ tokens.head? := by rwa [flushed] at isNext
    apply bracket.mayPrecede_token_false
    intro rest
    exact head_ne_plus_of_opens notPlus opens rest next isHead

theorem stepGroup_fits {name : Text} (sound : (State.group name).Sound) {c : Char}
    {next : Progress} (stepped : stepGroup name c = .ok next) : next.Fits (.group name) := by
  unfold stepGroup at stepped
  split at stepped
  · next inside =>
    rcases Except.ok.inj stepped with rfl
    have pushed : (State.group (name ++ [c])).Sound := by
      simpa [State.Sound, eq_comm] using And.intro sound inside
    exact ⟨pushed, fun _ readable opens => ⟨readable, opens⟩⟩
  · split at stepped
    · cases stepped
    · next nonempty =>
      rcases Except.ok.inj stepped with rfl
      refine ⟨State.sound_text_nil, fun tokens after _ => ⟨?_, _, _, rfl⟩⟩
      exact readable_cons_iff.mpr ⟨⟨nonempty, sound⟩, fun _ _ => trivial, after⟩

theorem step_fits {state : State} (sound : state.Sound) {c : Char} {next : Progress}
    (stepped : step state c = .ok next) : next.Fits state := by
  cases state with
  | text pending =>
      rcases Except.ok.inj stepped with rfl
      exact stepText_fits sound c
  | bracket bracket => exact stepBracket_fits (Bracket.Sound.settle sound) stepped
  | halfClosed bracket =>
      unfold step at stepped
      dsimp only at stepped
      split at stepped
      · exact close_fits sound stepped
      · exact stepBracket_fits sound stepped
  | closed bracket =>
      rcases Except.ok.inj stepped with rfl
      exact stepClosed_fits sound c
  | group name => exact stepGroup_fits sound stepped

/-! ## A whole segment -/

theorem finish_fits {state : State} (sound : state.Sound) {tokens : Segment}
    (finished : finish state = .ok tokens) : tokens.Readable ∧ state.Opens tokens := by
  cases state with
  | text pending =>
      rcases Except.ok.inj finished with rfl
      simpa using readable_flush_append sound Readable.nil (by simp)
  | bracket _ | halfClosed _ | group _ => cases finished
  | closed bracket =>
      rcases Except.ok.inj finished with rfl
      rcases sound with ⟨settled, named⟩
      have token := settled.readable_token named false
      exact ⟨readable_cons_iff.mpr ⟨token, by simp, Readable.nil⟩, _, _, _, rfl⟩

theorem tokensFrom_cons_eq_ok {state : State} {c : Char} {rest : Text} {tokens : Segment}
    (taken : tokensFrom state (c :: rest) = .ok tokens) :
    ∃ next later, step state c = .ok next ∧ tokensFrom next.state rest = .ok later ∧
      tokens = next.tokens ++ later := by
  unfold tokensFrom at taken
  split at taken
  · cases taken
  · next next stepped =>
    cases onward : tokensFrom next.state rest with
    | error fault =>
        rw [onward] at taken
        cases taken
    | ok later =>
        rw [onward] at taken
        exact ⟨next, later, stepped, onward, (Except.ok.inj taken).symm⟩

theorem readable_of_tokensFrom {state : State} (sound : state.Sound) {text : Text}
    {tokens : Segment} (taken : tokensFrom state text = .ok tokens) :
    tokens.Readable ∧ state.Opens tokens := by
  induction text generalizing state tokens with
  | nil => exact finish_fits sound taken
  | cons c rest inductionHypothesis =>
      rcases tokensFrom_cons_eq_ok taken with ⟨next, later, stepped, onward, rfl⟩
      rcases step_fits sound stepped with ⟨nextSound, fits⟩
      rcases inductionHypothesis nextSound onward with ⟨readable, opens⟩
      exact fits later readable opens

/-- The first character of a segment is part of a token. -/
theorem ne_nil_of_tokensFrom {c : Char} {rest : Text} {tokens : Segment}
    (taken : tokensFrom (.text []) (c :: rest) = .ok tokens) : tokens ≠ [] := by
  rcases tokensFrom_cons_eq_ok taken with ⟨next, later, stepped, onward, rfl⟩
  have opens := (readable_of_tokensFrom (step_fits State.sound_text_nil stepped).1 onward).2
  have busy : next.state ≠ .text [] := by
    rcases Except.ok.inj stepped with rfl
    unfold stepText
    split
    · simp
    · split <;> simp
  exact List.append_ne_nil_of_right_ne_nil _ (opens.ne_nil busy)

theorem read_cons_eq_ok {c : Char} {rest : Text} {segment : Segment}
    (taken : read (c :: rest) = .ok segment) :
    ∃ tokens, tokensFrom (.text []) (c :: rest) = .ok tokens ∧ segment = normalize tokens := by
  rw [read, if_neg (List.cons_ne_nil c rest)] at taken
  cases onward : tokensFrom (.text []) (c :: rest) with
  | error fault =>
      rw [onward] at taken
      cases taken
  | ok tokens =>
      rw [onward] at taken
      exact ⟨tokens, rfl, (Except.ok.inj taken).symm⟩

theorem canonical_of_read {text : Text} {segment : Segment} (taken : read text = .ok segment) :
    segment.Canonical := by
  cases text with
  | nil => exact .inl (Except.ok.inj taken).symm
  | cons c rest =>
      rcases read_cons_eq_ok taken with ⟨tokens, onward, rfl⟩
      unfold normalize
      split
      · exact .inl rfl
      · next other =>
        have readable := (readable_of_tokensFrom State.sound_text_nil onward).1
        exact .inr ⟨ne_nil_of_tokensFrom onward, other, readable⟩

end Segment
end FileRoutes
