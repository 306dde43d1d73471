import FileRoutes.Proofs.PathPattern.Matching
import FileRoutes.Proofs.PathPattern.Reading

/-!
# The values that the expression for a kind tries

The expression for a kind of parameter cuts the text that is left in two, at every place at which
the front is a value that the kind admits.  The longest front is tried first.

A run of characters of a set is such an expression, whatever the set.  Pieces with slashes between
them are a repetition of runs, and it is there that the order of trying shows: a piece is gone on
with before another one is begun, and this is again the order of the lengths.
-/

namespace FileRoutes

def Spot.passAll (value : Text) (spot : Spot) : Spot :=
  value.foldl (fun spot c => spot.pass c spot.rest.tail) spot

namespace Spot

variable {spot : Spot}

theorem passAll_cons (c : Char) (value : Text) (spot : Spot) :
    spot.passAll (c :: value) = (spot.pass c spot.rest.tail).passAll value :=
  rfl

@[simp] theorem rest_passAll (value : Text) (spot : Spot) :
    (spot.passAll value).rest = spot.rest.drop value.length := by
  induction value generalizing spot with
  | nil => rfl
  | cons c value inductionHypothesis =>
      rw [passAll_cons, inductionHypothesis]
      simp [pass]

@[simp] theorem entered_passAll (value : Text) (spot : Spot) :
    (spot.passAll value).entered = spot.entered := by
  induction value generalizing spot with
  | nil => rfl
  | cons c value inductionHypothesis => exact inductionHypothesis _

@[simp] theorem captures_passAll (value : Text) (spot : Spot) :
    (spot.passAll value).captures = spot.captures := by
  induction value generalizing spot with
  | nil => rfl
  | cons c value inductionHypothesis => exact inductionHypothesis _

end Spot

namespace Onward

variable {next first second : Onward} {spot : Spot} {c : Char} {rest : Text}
  {admits other : Text → Bool} {wanted : Char → Bool}

theorem take_of_nil (ends : spot.rest = []) : take wanted next spot = none := by
  simp [take, Spot.take?, ends]

theorem take_of_cons (isRest : spot.rest = c :: rest) :
    take wanted next spot = if wanted c then next (spot.pass c rest) else none := by
  simp only [take, Spot.take?, isRest]
  split <;> rfl

/-! ## Cutting off values -/

/-- Cut off a value that is admitted, the longest first. -/
def cut (admits : Text → Bool) (next : Onward) : Onward :=
  fun spot => (Text.cuts spot.rest).findSome? fun parts =>
    if admits parts.1 then next (spot.passAll parts.1) else none

theorem cut_of_nil (ends : spot.rest = []) :
    cut admits next spot = if admits [] then next spot else none := by
  simp [cut, ends, Text.cuts, Spot.passAll]

theorem cut_of_cons (isRest : spot.rest = c :: rest) :
    cut admits next spot =
      (cut (fun value => admits (c :: value)) next (spot.pass c rest)).or
        (if admits [] then next spot else none) := by
  simp only [cut, isRest, Text.cuts, List.findSome?_append, List.findSome?_map, Function.comp_def,
    Spot.passAll_cons, List.tail_cons, List.findSome?_singleton]
  rfl

theorem cut_none (next : Onward) (spot : Spot) : cut (fun _ => false) next spot = none := by
  simp [cut]

/-! ## Rounds that take text -/

/-- What is done after a part counts only where no more text is left than before it. -/
def Keeps (part : Onward → Onward) : Prop :=
  ∀ (first second : Onward) (spot : Spot), (∀ later : Spot,
    later.rest.length ≤ spot.rest.length → first later = second later) →
      part first spot = part second spot

/-- What is done after a part counts only where less text is left. -/
def Shrinks (part : Onward → Onward) : Prop :=
  ∀ (first second : Onward) (spot : Spot), (∀ later : Spot,
    later.rest.length < spot.rest.length → first later = second later) →
      part first spot = part second spot

theorem keeps_cut : Keeps (cut admits) := by
  intro first second spot same
  have each (parts : Text × Text) : first (spot.passAll parts.1) = second (spot.passAll parts.1) :=
    same _ (by simp)
  simp only [cut, each]

theorem Keeps.shrinks_take {part : Onward → Onward} (keeps : Keeps part) :
    Shrinks fun next => take wanted (part next) := by
  intro first second spot same
  dsimp only
  cases isRest : spot.rest with
  | nil => rw [take_of_nil isRest, take_of_nil isRest]
  | cons c rest =>
      have shorter : (spot.pass c rest).rest.length < spot.rest.length := by
        simp [isRest, Spot.pass]
      rw [take_of_cons isRest, take_of_cons isRest,
        keeps _ _ _ fun later short => same later (by omega)]

theorem shrinks_take : Shrinks (take wanted) := by
  have keeps : Keeps id := fun _ _ _ same => same _ (Nat.le_refl _)
  exact keeps.shrinks_take

/-- So many rounds as there are characters, and one more, are as good as any number above. -/
theorem rounds_eq_rounds {greedy : Bool} {body : Onward → Onward} (shrinks : Shrinks body)
    {count more : Nat} (enough : spot.rest.length < count) (enoughToo : spot.rest.length < more) :
    rounds greedy body next count spot = rounds greedy body next more spot := by
  induction count generalizing spot more with
  | zero => omega
  | succ count inductionHypothesis =>
      obtain ⟨more, rfl⟩ : ∃ fewer, more = fewer + 1 := ⟨more - 1, by omega⟩
      have round : body (rounds greedy body next count) spot =
          body (rounds greedy body next more) spot :=
        shrinks _ _ _ fun later less => inductionHypothesis (by omega) (by omega)
      simp only [rounds, offer, round]

/-- A loop is a round and the loop again, or what comes after it. -/
theorem loop_eq {greedy : Bool} {body : Onward → Onward} (shrinks : Shrinks body) :
    loop greedy body next = offer greedy (body (loop greedy body next)) next := by
  funext spot
  have round : body (rounds greedy body next spot.rest.length) spot =
      body (loop greedy body next) spot :=
    shrinks _ _ _ fun later less => rounds_eq_rounds shrinks less (Nat.lt_succ_self _)
  simp only [loop, rounds, offer, ← round]

/-- A greedy run of characters cuts off all of them, and gives back one after the other. -/
theorem loop_take : loop true (take wanted) next = cut (·.all wanted) next := by
  funext spot
  generalize isRest : spot.rest = rest
  induction rest generalizing spot with
  | nil =>
      rw [loop_eq shrinks_take, cut_of_nil isRest]
      simp [offer, take_of_nil isRest]
  | cons c rest inductionHypothesis =>
      rw [loop_eq shrinks_take, cut_of_cons isRest]
      simp only [offer, if_true, take_of_cons isRest, List.all_cons, List.all_nil]
      by_cases isWanted : wanted c = true
      · simp only [isWanted, if_true, Bool.true_and]
        rw [inductionHypothesis _ rfl]
      · simp only [isWanted, Bool.false_and, cut_none]
        rfl

/-- A run of one character at least. -/
theorem take_loop_take : take wanted (loop true (take wanted) next) =
    cut (fun value => value ≠ [] && value.all wanted) next := by
  funext spot
  cases isRest : spot.rest with
  | nil => simp [take_of_nil isRest, cut_of_nil isRest]
  | cons c rest =>
      rw [take_of_cons isRest, cut_of_cons isRest, loop_take]
      by_cases isWanted : wanted c = true
      · simp [isWanted]
      · simp [isWanted, cut_none]

end Onward

/-! ## Characters -/

theorem Text.toNat_le (c : Char) : c.toNat ≤ 0x10FFFF := by
  rcases c.valid with low | ⟨-, high⟩
  · exact Nat.le_of_lt (Nat.lt_trans low (by decide))
  · exact Nat.le_of_lt_succ high

theorem CharSet.contains_slashless (c : Char) : slashless.contains c = (c != '/') := by
  have last := Text.toNat_le c
  have isSlash : c = '/' ↔ c.toNat = 0x2F := Char.toNat_inj.symm
  rw [Bool.eq_iff_iff, bne_iff_ne, ne_eq, isSlash]
  simp [slashless, contains, Text.CharRange.covers]
  omega

theorem CharSet.contains_unbroken (c : Char) : unbroken.contains c = (c != '\n') := by
  have last := Text.toNat_le c
  have isBreak : c = '\n' ↔ c.toNat = 10 := Char.toNat_inj.symm
  rw [Bool.eq_iff_iff, bne_iff_ne, ne_eq, isBreak]
  simp [unbroken, contains, Text.CharRange.covers]
  omega

/-! ## Kinds -/

namespace ParameterKind

open Onward

variable {next : Onward} {c : Char}

theorem admits_nil : optionalRepeatable.admits [] = true ∧ repeatable.admits [] = false := by
  simp [admits, Text.isPieces]

theorem admits_cons_of_ne (other : c ≠ '/') (value : Text) :
    optionalRepeatable.admits (c :: value) = optionalRepeatable.admits value ∧
      repeatable.admits (c :: value) = optionalRepeatable.admits value := by
  rcases List.exists_cons_of_ne_nil (List.splitOn_ne_nil '/' value) with ⟨first, later, isCut⟩
  simp [admits, Text.isPieces, List.splitOn_cons_eq_if_modifyHead, other, isCut]

theorem admits_cons_slash (value : Text) :
    optionalRepeatable.admits ('/' :: value) = repeatable.admits value ∧
      repeatable.admits ('/' :: value) = false := by
  simp [admits, Text.isPieces, List.splitOn_cons_eq_if_modifyHead]

theorem all_slashless (value : Text) :
    value.all CharSet.slashless.contains = value.isSlashFree := by
  simp only [Text.isSlashFree, ← List.all_bne', funext CharSet.contains_slashless]

theorem tries_run_zero_eq_loop (next : Onward) :
    (run 0).tries next = loop true (take CharSet.slashless.contains) next :=
  rfl

theorem tries_run_one_eq_take (next : Onward) :
    (run 1).tries next = take CharSet.slashless.contains ((run 0).tries next) :=
  rfl

theorem tries_run_zero (next : Onward) : (run 0).tries next = cut optional.admits next := by
  simp only [tries_run_zero_eq_loop, loop_take, all_slashless]
  rfl

theorem tries_run_one (next : Onward) : (run 1).tries next = cut dynamic.admits next := by
  simp only [tries_run_one_eq_take, tries_run_zero_eq_loop, take_loop_take, all_slashless]
  rfl

/-- Another piece with a slash in front is tried before the pieces end. -/
theorem tries_laterPieces (next : Onward) :
    laterPieces.tries next =
      offer true (take (· = '/') ((run 1).tries (laterPieces.tries next))) next := by
  have body : (Expression.row [.literal ['/'], run 1]).tries =
      fun next => take (· = '/') ((run 1).tries next) := by
    funext next
    simp [Expression.tries_row, Expression.tries]
  have isLoop : laterPieces.tries next =
      loop true (fun next => take (· = '/') ((run 1).tries next)) next := by
    rw [← body]
    rfl
  have keeps : Keeps (run 1).tries := by
    rw [funext tries_run_one]
    exact keeps_cut
  rw [isLoop]
  exact loop_eq keeps.shrinks_take

/-- A piece is gone on with before another one is begun. -/
theorem tries_pieces (next : Onward) (spot : Spot) :
    (run 0).tries (laterPieces.tries next) spot = cut optionalRepeatable.admits next spot ∧
      (run 1).tries (laterPieces.tries next) spot = cut repeatable.admits next spot := by
  have goesOn (later : Onward) : (run 0).tries later =
      offer true (take CharSet.slashless.contains ((run 0).tries later)) later := by
    rw [tries_run_zero_eq_loop]
    exact loop_eq shrinks_take
  have more := congrFun (tries_laterPieces next)
  rw [goesOn, tries_run_one_eq_take]
  generalize isRest : spot.rest = rest
  induction rest generalizing spot with
  | nil =>
      simp [offer, more, take_of_nil isRest, cut_of_nil isRest, admits_nil]
  | cons c rest inductionHypothesis =>
      have onward := inductionHypothesis (spot.pass c rest) rfl
      rw [← goesOn, ← tries_run_one_eq_take] at onward
      simp only [offer, more spot, take_of_cons isRest, cut_of_cons isRest, onward,
        CharSet.contains_slashless]
      by_cases isSlash : c = '/'
      · subst isSlash
        simp [admits_cons_slash, admits_nil, cut_none]
      · simp [isSlash, admits_cons_of_ne isSlash, admits_nil]

/-- The expression for a kind cuts off the values that the kind admits. -/
theorem tries_form (kind : ParameterKind) (next : Onward) :
    kind.form.tries next = cut kind.admits next := by
  cases kind with
  | dynamic => exact tries_run_one next
  | optional => exact tries_run_zero next
  | repeatable => exact funext fun spot => (tries_pieces next spot).2
  | optionalRepeatable => exact funext fun spot => (tries_pieces next spot).1
  | catchall =>
      have isLoop : catchall.form.tries next =
          loop true (take CharSet.unbroken.contains) next := rfl
      simp only [isLoop, loop_take, funext CharSet.contains_unbroken, List.all_bne']
      rfl

end ParameterKind
end FileRoutes
