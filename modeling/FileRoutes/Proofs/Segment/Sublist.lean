import FileRoutes.Proofs.Segment.Canonical
import FileRoutes.Segment.Warning

/-!
# Reading adds no text

What a segment spells is part of the text that it was read from, in the same order.  `written` is
the spelling of what a state has collected; a character goes on with it or is dropped, and whatever
token is finished has been written before.
-/

namespace FileRoutes
namespace Segment

namespace Bracket

/-- An open bracket in file-name syntax. -/
def written (bracket : Bracket) : Text :=
  (if bracket.double then ['[', '['] else ['[']) ++
    ((if bracket.catchall then ['.', '.', '.'] else []) ++ bracket.name)

theorem written_settle_sublist (bracket : Bracket) :
    bracket.settle.written.Sublist bracket.written := by
  rcases bracket with ⟨double, catchall, name⟩
  unfold settle
  split
  · next dots =>
    rcases dots with rfl
    cases double <;> cases catchall <;> decide
  · exact List.Sublist.refl _

/-- The signs that close a bracket, with the plus sign that may follow. -/
theorem spelling_token_sublist (bracket : Bracket) (repeats : Bool) :
    (bracket.token repeats).spelling.Sublist
      (bracket.written ++ ((if bracket.double then [']', ']'] else [']']) ++
        if repeats then ['+'] else [])) := by
  rcases bracket with ⟨double, catchall, name⟩
  cases catchall <;> cases double <;> cases repeats <;>
    simp [token, kind, Token.spelling, written]

end Bracket

/-- What a state has collected, in file-name syntax. -/
def State.written : State → Text
  | text pending => pending
  | bracket held => held.written
  | halfClosed held => held.written ++ [']']
  | closed held => held.written ++ if held.double then [']', ']'] else [']']
  | group name => '(' :: name

theorem spelling_flush (pending : Text) : spelling (flush pending) = pending := by
  unfold flush
  split
  · next empty => simp [empty]
  · simp [Token.spelling]

/-! ## One character -/

/-- What is finished and what has been collected after a character was there before, or is the
character. -/
def Progress.Within (state : State) (c : Char) (next : Progress) : Prop :=
  (spelling next.tokens ++ next.state.written).Sublist (state.written ++ [c])

theorem stepText_within (pending : Text) (c : Char) :
    (stepText pending c).Within (.text pending) c := by
  unfold stepText
  split
  · next isOpen => simp [Progress.Within, spelling_flush, State.written, Bracket.written,
      Bracket.opened, isOpen]
  · split
    · next isOpen => simp [Progress.Within, spelling_flush, State.written, isOpen]
    · simp [Progress.Within, State.written]

theorem close_within {bracket : Bracket} {next : Progress} (closed : close bracket = .ok next) :
    next.tokens = [] ∧ next.state.written =
      bracket.written ++ if bracket.double then [']', ']'] else [']'] := by
  unfold close at closed
  split at closed
  · cases closed
  · rcases Except.ok.inj closed with rfl
    exact ⟨rfl, rfl⟩

theorem stepBracket_within {bracket : Bracket} {c : Char} {next : Progress}
    (stepped : stepBracket bracket c = .ok next) : next.Within (.bracket bracket) c := by
  unfold stepBracket at stepped
  split at stepped
  · next isClose =>
    split at stepped
    · rcases Except.ok.inj stepped with rfl
      simp [Progress.Within, State.written, isClose]
    · next single =>
      rcases close_within stepped with ⟨tokens, written⟩
      rw [Progress.Within, tokens, written, isClose, if_neg single]
      exact List.Sublist.refl _
  · split at stepped
    · next isSecond =>
      rcases Except.ok.inj stepped with rfl
      rcases isSecond with ⟨rfl, rfl⟩
      simp [Progress.Within, State.written, Bracket.written, Bracket.opened]
    · split at stepped
      · rcases Except.ok.inj stepped with rfl
        simp [Progress.Within, State.written, Bracket.written]
      · rcases Except.ok.inj stepped with rfl
        simp [Progress.Within, State.written]

theorem stepClosed_within (bracket : Bracket) (c : Char) :
    (stepClosed bracket c).Within (.closed bracket) c := by
  unfold stepClosed
  split
  · next isPlus =>
    have finished := bracket.spelling_token_sublist true
    simpa [Progress.Within, State.written, isPlus] using finished
  · have finished := bracket.spelling_token_sublist false
    have onward := stepText_within [] c
    simp only [Progress.Within, State.written, List.nil_append, Bool.false_eq_true, if_false,
      List.append_nil] at finished onward ⊢
    simpa using finished.append onward

theorem stepGroup_within {name : Text} {c : Char} {next : Progress}
    (stepped : stepGroup name c = .ok next) : next.Within (.group name) c := by
  unfold stepGroup at stepped
  split at stepped
  · rcases Except.ok.inj stepped with rfl
    simp [Progress.Within, State.written]
  · next isClose =>
    split at stepped
    · cases stepped
    · rcases Except.ok.inj stepped with rfl
      have same : c = ')' := not_not.mp isClose
      simp [Progress.Within, State.written, Token.spelling, same]

theorem step_within {state : State} {c : Char} {next : Progress}
    (stepped : step state c = .ok next) : next.Within state c := by
  cases state with
  | text pending =>
      rcases Except.ok.inj stepped with rfl
      exact stepText_within pending c
  | bracket bracket =>
      exact (stepBracket_within stepped).trans
        (bracket.written_settle_sublist.append (List.Sublist.refl [c]))
  | halfClosed bracket =>
      unfold step at stepped
      dsimp only at stepped
      split at stepped
      · next isClose =>
        rcases close_within stepped with ⟨tokens, written⟩
        rw [Progress.Within, tokens, written, isClose]
        cases bracket.double <;> simp [State.written]
      · refine (stepBracket_within stepped).trans ?_
        exact (List.sublist_append_left _ _).append (List.Sublist.refl [c])
  | closed bracket =>
      rcases Except.ok.inj stepped with rfl
      exact stepClosed_within bracket c
  | group name => exact stepGroup_within stepped

/-! ## A whole segment -/

theorem spelling_sublist_of_tokensFrom {state : State} {text : Text} {tokens : Segment}
    (taken : tokensFrom state text = .ok tokens) :
    (spelling tokens).Sublist (state.written ++ text) := by
  induction text generalizing state tokens with
  | nil =>
      rw [List.append_nil]
      cases state with
      | text pending =>
          rcases Except.ok.inj taken with rfl
          rw [spelling_flush]
          exact List.Sublist.refl _
      | bracket _ | halfClosed _ | group _ => cases taken
      | closed bracket =>
          rcases Except.ok.inj taken with rfl
          simpa [State.written] using bracket.spelling_token_sublist false
  | cons c rest inductionHypothesis =>
      rcases tokensFrom_cons_eq_ok taken with ⟨next, later, stepped, onward, rfl⟩
      calc (spelling (next.tokens ++ later)).Sublist
            (spelling next.tokens ++ (next.state.written ++ rest)) := by
              rw [spelling_append]
              exact (List.Sublist.refl _).append (inductionHypothesis onward)
        List.Sublist _ ((state.written ++ [c]) ++ rest) := by
              rw [← List.append_assoc]
              exact (step_within stepped).append (List.Sublist.refl rest)
        List.Sublist _ (state.written ++ c :: rest) := by
              rw [List.append_assoc, List.singleton_append]

/-- The spelling of a segment is part of the text that it was read from, in the same order. -/
theorem spelling_sublist {text : Text} {segment : Segment} (taken : read text = .ok segment) :
    segment.spelling.Sublist text := by
  cases text with
  | nil =>
      rcases Except.ok.inj taken with rfl
      exact List.Sublist.refl _
  | cons c rest =>
      rcases read_cons_eq_ok taken with ⟨tokens, onward, rfl⟩
      unfold normalize
      split
      · exact List.nil_sublist _
      · simpa [State.written] using spelling_sublist_of_tokensFrom onward

/-- No token holds a character that was not in the text. -/
theorem mem_of_mem_value {text : Text} {segment : Segment} (taken : read text = .ok segment)
    {token : Token} (listed : token ∈ segment) {c : Char} (inside : c ∈ token.value) :
    c ∈ text := by
  apply (spelling_sublist taken).subset
  apply List.mem_flatMap.mpr
  refine ⟨token, listed, ?_⟩
  cases token with
  | literal text => exact inside
  | group name => simp [Token.spelling, show c ∈ name from inside]
  | parameter kind name => cases kind <;> simp [Token.spelling, show c ∈ name from inside]

/-- Reading a segment of a file invents, repeats and reorders nothing: whatever file it belongs to,
its tokens in file-name syntax are what is left of the text when some characters are dropped. -/
theorem spelling_sublist_of_readIn {file text : Text} {segment : Segment}
    (taken : readIn file text = .ok segment) : segment.spelling.Sublist text :=
  spelling_sublist (readIn_eq_ok_iff.mp taken)

/-- A catch-all loses its second bracket, a character that no name may hold, a closing bracket on its
own and its plus sign; the plus sign behind that is text and stays. -/
theorem spelling_sublist_of_double_catchall :
    let text : Text := "(g)[[...a-]b]]++".toList
    ∃ segment, readIn "p/(g)[[...a-]b]]++.vue".toList text = .ok segment ∧
      segment.spelling = "(g)[...ab]+".toList ∧ segment.spelling.Sublist text := by
  intro text
  have taken : readIn "p/(g)[[...a-]b]]++.vue".toList text =
      .ok [.group ['g'], .parameter .catchall ['a', 'b'], .literal ['+']] := by decide +kernel
  exact ⟨_, taken, by decide, spelling_sublist_of_readIn taken⟩

end Segment
end FileRoutes
