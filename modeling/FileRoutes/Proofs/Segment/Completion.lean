import FileRoutes.Proofs.Segment.Rereading

/-!
# Which texts can be completed to a segment

A text that the reader gets through without a fault can always be made into a segment: `completion`
says what to write behind it.  A name or a group that is open gets a letter first, so that it does
not end up empty, and is then closed.  A fault inside the text is one of the two that an empty name
gives, and nothing that follows can mend it, since the reader has not looked any further.
-/

namespace FileRoutes
namespace Segment

namespace Fault

/-- The segment ended too early. -/
def IsUnfinished (fault : Fault) : Prop :=
  (∃ name, fault = unfinishedParameter name) ∨ ∃ name, fault = unfinishedGroup name

/-- A bracket or a group was closed before it held a name. -/
def IsEmpty (fault : Fault) : Prop :=
  fault = emptyParameter ∨ fault = emptyGroup

theorem IsEmpty.not_isUnfinished {fault : Fault} (empty : fault.IsEmpty) :
    ¬fault.IsUnfinished := by
  rcases empty with rfl | rfl <;> rintro (⟨name, same⟩ | ⟨name, same⟩) <;> cases same

end Fault

/-! ## Faults -/

theorem isEmpty_of_close {bracket : Bracket} {fault : Fault}
    (failed : close bracket = .error fault) : fault.IsEmpty := by
  unfold close at failed
  split at failed
  · exact .inl (Except.error.inj failed).symm
  · cases failed

theorem isEmpty_of_stepBracket {bracket : Bracket} {c : Char} {fault : Fault}
    (failed : stepBracket bracket c = .error fault) : fault.IsEmpty := by
  unfold stepBracket at failed
  split at failed
  · split at failed
    · cases failed
    · exact isEmpty_of_close failed
  · split at failed
    · cases failed
    · split at failed <;> cases failed

/-- A character is at fault only if it closes something empty. -/
theorem isEmpty_of_step {state : State} {c : Char} {fault : Fault}
    (failed : step state c = .error fault) : fault.IsEmpty := by
  cases state with
  | text pending => cases failed
  | closed bracket => cases failed
  | bracket bracket => exact isEmpty_of_stepBracket failed
  | halfClosed bracket =>
      unfold step at failed
      dsimp only at failed
      split at failed
      · exact isEmpty_of_close failed
      · exact isEmpty_of_stepBracket failed
  | group name =>
      unfold step stepGroup at failed
      dsimp only at failed
      split at failed
      · cases failed
      · split at failed
        · exact .inr (Except.error.inj failed).symm
        · cases failed

theorem isUnfinished_of_finish {state : State} {fault : Fault}
    (failed : finish state = .error fault) : fault.IsUnfinished := by
  cases state with
  | text pending => cases failed
  | closed bracket => cases failed
  | bracket held | halfClosed held => exact .inl ⟨_, (Except.error.inj failed).symm⟩
  | group name => exact .inr ⟨_, (Except.error.inj failed).symm⟩

/-! ## Reading on -/

/-- A text either stops the reader for good, or leads it to a state in which the rest is read. -/
theorem tokensFrom_append_cases (state : State) (text : Text) :
    (∃ fault : Fault, fault.IsEmpty ∧
        ∀ more, tokensFrom state (text ++ more) = .error fault) ∨
      ∃ tokens reached, ∀ more,
        tokensFrom state (text ++ more) = (tokensFrom reached more).map (tokens ++ ·) := by
  induction text generalizing state with
  | nil =>
      refine .inr ⟨[], state, fun more => ?_⟩
      rw [List.nil_append]
      cases tokensFrom state more <;> rfl
  | cons c rest inductionHypothesis =>
      cases stepped : step state c with
      | error fault =>
          refine .inl ⟨fault, isEmpty_of_step stepped, fun more => ?_⟩
          rw [List.cons_append, tokensFrom, stepped]
      | ok next =>
          rcases inductionHypothesis next.state with
            ⟨fault, empty, stops⟩ | ⟨tokens, reached, goesOn⟩
          · refine .inl ⟨fault, empty, fun more => ?_⟩
            rw [List.cons_append, tokensFrom_cons stepped, stops]
            rfl
          · refine .inr ⟨next.tokens ++ tokens, reached, fun more => ?_⟩
            rw [List.cons_append, tokensFrom_cons stepped, goesOn]
            cases tokensFrom reached more with
            | error fault => rfl
            | ok later => exact congrArg Except.ok (List.append_assoc ..).symm

/-! ## Completions -/

/-- Text with which a segment can end behind a state. -/
def State.completion : State → Text
  | text _ | closed _ => []
  | bracket held | halfClosed held => 'a' :: if held.double then [']', ']'] else [']']
  | group _ => ['a', ')']

/-- A letter in a bracket makes a name, whatever the bracket held before. -/
theorem exists_tokensFrom_bracket (bracket : Bracket) :
    ∃ tokens, tokensFrom (.bracket { bracket with name := bracket.name ++ ['a'] })
      (if bracket.double then [']', ']'] else [']']) = .ok tokens := by
  have settled : Bracket.settle { bracket with name := bracket.name ++ ['a'] } =
      { bracket with name := bracket.name ++ ['a'] } := by
    apply if_neg
    intro dots
    have last := congrArg List.getLast? dots
    rw [List.getLast?_concat] at last
    exact absurd last (by decide)
  have named : bracket.name ++ ['a'] = [] → bracket.catchall = true := by simp
  have closes := tokensFrom_close settled named []
  rw [List.append_nil] at closes
  exact ⟨_, closes⟩

theorem exists_tokensFrom_completion (state : State) :
    ∃ tokens, tokensFrom state state.completion = .ok tokens := by
  have letter : isNameChar 'a' = true := by decide
  cases state with
  | text pending => exact ⟨_, rfl⟩
  | closed bracket => exact ⟨_, rfl⟩
  | group name =>
      have pushed : step (.group name) 'a' = .ok ⟨[], [], .group (name ++ ['a'])⟩ := rfl
      have closed : step (.group (name ++ ['a'])) ')' =
          .ok ⟨[.group (name ++ ['a'])], [], .text []⟩ := by
        simp [step, stepGroup]
      refine ⟨[.group (name ++ ['a'])], ?_⟩
      rw [State.completion, tokensFrom_cons_of_silent pushed, tokensFrom_cons closed]
      rfl
  | halfClosed bracket =>
      have pushed : step (.halfClosed bracket) 'a' =
          .ok ⟨[], [], .bracket { bracket with name := bracket.name ++ ['a'] }⟩ := by
        simp [step, stepBracket, letter]
      rw [State.completion, tokensFrom_cons_of_silent pushed]
      exact exists_tokensFrom_bracket bracket
  | bracket bracket =>
      have double : bracket.settle.double = bracket.double := by
        unfold Bracket.settle
        split <;> rfl
      have pushed : step (.bracket bracket) 'a' = .ok ⟨[], [],
          .bracket { bracket.settle with name := bracket.settle.name ++ ['a'] }⟩ := by
        simp [step, stepBracket, letter]
      rw [State.completion, tokensFrom_cons_of_silent pushed, ← double]
      exact exists_tokensFrom_bracket bracket.settle

/-! ## Whole texts -/

theorem exists_read_iff_tokensFrom (text : Text) :
    (∃ segment, read text = .ok segment) ↔ ∃ tokens, tokensFrom (.text []) text = .ok tokens := by
  unfold read
  split
  · next empty =>
    subst empty
    exact iff_of_true ⟨_, rfl⟩ ⟨_, rfl⟩
  · cases tokensFrom (.text []) text with
    | error fault => exact iff_of_false nofun nofun
    | ok tokens => exact iff_of_true ⟨_, rfl⟩ ⟨_, rfl⟩

theorem read_eq_error_iff {text : Text} {fault : Fault} :
    read text = .error fault ↔ tokensFrom (.text []) text = .error fault := by
  unfold read
  split
  · next empty =>
    subst empty
    exact iff_of_false nofun nofun
  · cases tokensFrom (.text []) text with
    | error other => exact Iff.rfl
    | ok tokens => exact iff_of_false nofun nofun

/-- A text either is at fault for good, or can be completed and is not at fault yet. -/
theorem read_append_cases (text : Text) :
    (∃ fault : Fault, fault.IsEmpty ∧ ∀ more, read (text ++ more) = .error fault) ∨
      (∃ more segment, read (text ++ more) = .ok segment) ∧
        ((∃ segment, read text = .ok segment) ∨
          ∃ fault : Fault, fault.IsUnfinished ∧ read text = .error fault) := by
  rcases tokensFrom_append_cases (.text []) text with
    ⟨fault, empty, stops⟩ | ⟨tokens, reached, goesOn⟩
  · exact .inl ⟨fault, empty, fun more => read_eq_error_iff.mpr (stops more)⟩
  · right
    constructor
    · rcases exists_tokensFrom_completion reached with ⟨rest, completed⟩
      have whole := goesOn reached.completion
      rw [completed] at whole
      exact ⟨_, (exists_read_iff_tokensFrom _).mpr ⟨_, whole⟩⟩
    · have whole := goesOn []
      rw [List.append_nil, tokensFrom] at whole
      cases finished : finish reached with
      | ok rest =>
          rw [finished] at whole
          exact .inl ((exists_read_iff_tokensFrom _).mpr ⟨_, whole⟩)
      | error fault =>
          rw [finished] at whole
          exact .inr ⟨fault, isUnfinished_of_finish finished, read_eq_error_iff.mpr whole⟩

theorem exists_read_append_iff {text : Text} :
    (∃ more segment, read (text ++ more) = .ok segment) ↔
      (∃ segment, read text = .ok segment) ∨
        ∃ fault : Fault, fault.IsUnfinished ∧ read text = .error fault := by
  rcases read_append_cases text with ⟨fault, empty, stops⟩ | ⟨completed, ended⟩
  · have failed : read text = .error fault := by rw [← stops [], List.append_nil]
    apply iff_of_false
    · rintro ⟨more, segment, taken⟩
      rw [stops more] at taken
      cases taken
    · rintro (⟨segment, taken⟩ | ⟨other, unfinished, failedToo⟩)
      · rw [failed] at taken
        cases taken
      · rw [failed] at failedToo
        rcases Except.error.inj failedToo with rfl
        exact empty.not_isUnfinished unfinished
  · exact iff_of_true completed ended

theorem not_exists_read_append_iff {text : Text} :
    (¬∃ more segment, read (text ++ more) = .ok segment) ↔
      ∃ fault : Fault, fault.IsEmpty ∧ read text = .error fault := by
  constructor
  · intro never
    rcases read_append_cases text with ⟨fault, empty, stops⟩ | ⟨completed, -⟩
    · exact ⟨fault, empty, by rw [← stops [], List.append_nil]⟩
    · exact absurd completed never
  · rintro ⟨fault, empty, failed⟩ begins
    rcases exists_read_append_iff.mp begins with ⟨segment, taken⟩ | ⟨other, unfinished, failedToo⟩
    · rw [failed] at taken
      cases taken
    · rw [failed] at failedToo
      rcases Except.error.inj failedToo with rfl
      exact empty.not_isUnfinished unfinished

/-- Something empty that has been closed stays so, whatever follows. -/
theorem read_eq_error_iff_forall {text : Text} {fault : Fault} (empty : fault.IsEmpty) :
    read text = .error fault ↔ ∀ more, read (text ++ more) = .error fault := by
  constructor
  · intro failed
    rcases read_append_cases text with ⟨other, -, stops⟩ | ⟨begins, -⟩
    · have stopped := stops []
      rw [List.append_nil, failed] at stopped
      rwa [Except.error.inj stopped]
    · exact absurd begins (not_exists_read_append_iff.mpr ⟨fault, empty, failed⟩)
  · intro stops
    rw [← stops [], List.append_nil]

/-- A text is read, or ends too early, if and only if it begins some text that is read.  It closes
something empty if and only if it begins no such text, and then all texts that it begins are at
fault in the same way. -/
theorem read_tells_beginnings (text : Text) :
    (((∃ segment, read text = .ok segment) ∨
        (∃ name, read text = .error (.unfinishedParameter name)) ∨
        ∃ name, read text = .error (.unfinishedGroup name)) ↔
      ∃ more segment, read (text ++ more) = .ok segment) ∧
    ((read text = .error .emptyParameter ∨ read text = .error .emptyGroup) ↔
      ¬∃ more segment, read (text ++ more) = .ok segment) ∧
    (read text = .error .emptyParameter ↔
      ∀ more, read (text ++ more) = .error .emptyParameter) ∧
    (read text = .error .emptyGroup ↔ ∀ more, read (text ++ more) = .error .emptyGroup) := by
  have unfinished : (∃ fault : Fault, fault.IsUnfinished ∧ read text = .error fault) ↔
      (∃ name, read text = .error (.unfinishedParameter name)) ∨
        ∃ name, read text = .error (.unfinishedGroup name) := by
    simp [Fault.IsUnfinished, or_and_right, exists_or]
  have empty : (∃ fault : Fault, fault.IsEmpty ∧ read text = .error fault) ↔
      read text = .error .emptyParameter ∨ read text = .error .emptyGroup := by
    simp [Fault.IsEmpty]
  refine ⟨?_, ?_, read_eq_error_iff_forall (.inl rfl), read_eq_error_iff_forall (.inr rfl)⟩
  · rw [exists_read_append_iff, unfinished]
  · rw [not_exists_read_append_iff, empty]

/-- A double bracket that one closing bracket has not closed yet can still get a name. -/
example : read "[[]".toList = .error (.unfinishedParameter []) ∧
    read "[[]]".toList = .error .emptyParameter ∧
    read "[[]a]]".toList = .ok [.parameter .optional ['a']] := by
  decide

end Segment
end FileRoutes
