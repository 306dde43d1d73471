import FileRoutes.Proofs.Expression.Trying
import Mathlib.Data.List.Perm.Subperm
import Mathlib.Data.List.ProdSigma

/-!
# Backtracking without a record

A program may be run with nothing said of what has been tried: `Ends` tells what comes of that, if
it ends.  The record changes nothing then.  Whether there is a match from an address and a place
does not depend on what has been captured, so an entry of the record that has led to no match leads
to none again.

An entry may also stand in the record because it is being tried.  It cannot be met again before
that is over, since a run that ends comes to no address twice at one place, and this is seen from
the number of its steps: within fewer steps than it needs, an entry that is being tried has led to
no match either.
-/

namespace FileRoutes
namespace Program

variable {program : Program} {address next first second steps more : Nat} {spot later : Spot}
  {found other : Option Captures}

/-- Match from an address and a spot, whatever has been tried before.  Nothing comes of it when
the steps do not suffice or an address has no instruction. -/
def backtrack (program : Program) : Nat → Nat → Spot → Option (Option Captures)
  | 0, _, _ => none
  | steps + 1, address, spot =>
      match program.turn? address spot with
      | none => none
      | some (.stop found) => some found
      | some (.go next spot) => program.backtrack steps next spot
      | some (.choose first second) =>
          (program.backtrack steps first spot).bind fun found =>
            if found.isSome then some found else program.backtrack steps second spot

/-- Matching from an address and a spot comes to an end. -/
def Ends (program : Program) (address : Nat) (spot : Spot) (found : Option Captures) : Prop :=
  ∃ steps, program.backtrack steps address spot = some found

theorem backtrack_choose (turn : program.turn? address spot = some (.choose first second)) :
    program.backtrack (steps + 1) address spot =
      (program.backtrack steps first spot).bind fun found =>
        if found.isSome then some found else program.backtrack steps second spot := by
  simp only [backtrack, turn]

theorem backtrack_mono (ends : program.backtrack steps address spot = some found)
    (enough : steps ≤ more) : program.backtrack more address spot = some found := by
  induction steps generalizing more address spot found with
  | zero => simp [backtrack] at ends
  | succ steps inductionHypothesis =>
      obtain ⟨more, rfl⟩ : ∃ fewer, more = fewer + 1 := ⟨more - 1, by omega⟩
      have still : steps ≤ more := by omega
      cases turn : program.turn? address spot with
      | none => simp [backtrack, turn] at ends
      | some turned =>
          cases turned with
          | stop result => simpa [backtrack, turn] using ends
          | go next later =>
              simp only [backtrack, turn] at ends ⊢
              exact inductionHypothesis ends still
          | choose first second =>
              rw [backtrack_choose turn] at ends ⊢
              rcases Option.bind_eq_some_iff.mp ends with ⟨result, left, right⟩
              rw [inductionHypothesis left still, Option.bind_some]
              split at right
              · next isMatch => rwa [if_pos isMatch]
              · next noMatch => rw [if_neg noMatch, inductionHypothesis right still]

/-! ## One turn -/

theorem ends_stop (turn : program.turn? address spot = some (.stop found)) :
    program.Ends address spot found :=
  ⟨1, by simp only [backtrack, turn]⟩

theorem ends_go (turn : program.turn? address spot = some (.go next later))
    (onward : program.Ends next later found) : program.Ends address spot found := by
  rcases onward with ⟨steps, onward⟩
  exact ⟨steps + 1, by simpa only [backtrack, turn] using onward⟩

theorem ends_goIf {spot? : Option Spot} {onward : Onward}
    (turn : program.turn? address spot = some (.goIf next spot?))
    (each : ∀ later ∈ spot?, program.Ends next later (onward later)) :
    program.Ends address spot (spot?.bind onward) := by
  cases spot? with
  | none => exact ends_stop turn
  | some later => exact ends_go turn (each later rfl)

/-- If both ways come to an end, the first that leads to a match counts. -/
theorem ends_choose (turn : program.turn? address spot = some (.choose first second))
    (left : program.Ends first spot found) (right : program.Ends second spot other) :
    program.Ends address spot (found.or other) := by
  rcases left with ⟨steps, left⟩
  rcases right with ⟨more, right⟩
  refine ⟨max steps more + 1, ?_⟩
  rw [backtrack_choose turn, backtrack_mono left (Nat.le_max_left steps more), Option.bind_some]
  cases found with
  | none => exact backtrack_mono right (Nat.le_max_right steps more)
  | some captures => rfl

/-! ## Captures decide nothing -/

end Program

/-- Two spots are at the same place. -/
structure Spot.Alike (left right : Spot) : Prop where
  before : left.before = right.before
  rest : left.rest = right.rest

/-- Two turns are the same, up to captures. -/
inductive Turn.Alike : Turn → Turn → Prop
  | stop {left right} : left.isSome = right.isSome → Alike (.stop left) (.stop right)
  | go {next left right} : Spot.Alike left right → Alike (.go next left) (.go next right)
  | choose {first second} : Alike (.choose first second) (.choose first second)

theorem Turn.alike_goIf_take? {left right : Spot} (alike : left.Alike right) (next : Nat)
    (wanted : Char → Bool) :
    Alike (.goIf next (left.take? wanted)) (.goIf next (right.take? wanted)) := by
  unfold Spot.take?
  rw [alike.rest]
  cases right.rest with
  | nil => exact .stop rfl
  | cons c rest =>
      dsimp only
      split
      · exact .go ⟨rfl, rfl⟩
      · exact .stop rfl

theorem Spot.Alike.symm {left right : Spot} (alike : left.Alike right) : right.Alike left :=
  ⟨alike.before.symm, alike.rest.symm⟩

theorem Spot.Alike.trans {left middle right : Spot} (alike : left.Alike middle)
    (onward : middle.Alike right) : left.Alike right :=
  ⟨alike.before.trans onward.before, alike.rest.trans onward.rest⟩

theorem Spot.alike_leave (spot : Spot) (name : Text) : spot.Alike (spot.leave name) := by
  unfold leave
  split
  · exact ⟨rfl, rfl⟩
  · exact ⟨rfl, rfl⟩

theorem Instruction.alike_turn {left right : Spot} (alike : left.Alike right)
    (instruction : Instruction) : (instruction.turn left).Alike (instruction.turn right) := by
  cases instruction with
  | accept => exact .stop rfl
  | literal c next => exact Turn.alike_goIf_take? alike next _
  | chars set next => exact Turn.alike_goIf_take? alike next _
  | place assertion next =>
      have same : left.satisfies assertion = right.satisfies assertion := by
        simp only [Spot.satisfies, alike.before, alike.rest]
      simp only [turn, same]
      split
      · exact .go alike
      · exact .stop rfl
  | split first second => exact .choose
  | enter next => exact .go ⟨alike.before, alike.rest⟩
  | leave name next =>
      exact .go ((left.alike_leave name).symm.trans (alike.trans (right.alike_leave name)))

namespace Program

variable {program : Program} {address steps : Nat} {left right : Spot}

theorem map_isSome_bind (left right : Option (Option Captures)) :
    (left.bind fun found => if found.isSome then some found else right).map Option.isSome =
      (left.map Option.isSome).bind fun isMatch =>
        if isMatch then some true else right.map Option.isSome := by
  rcases left with _ | _ | captures
  · rfl
  · rfl
  · rfl

/-- How matching ends from a place, and whether it does, is the same whatever has been captured. -/
theorem map_isSome_backtrack (alike : left.Alike right) :
    (program.backtrack steps address left).map Option.isSome =
      (program.backtrack steps address right).map Option.isSome := by
  induction steps generalizing address left right with
  | zero => rfl
  | succ steps inductionHypothesis =>
      cases known : program[address]? with
      | none => simp [backtrack, turn?, known]
      | some instruction =>
          have turns (spot : Spot) : program.turn? address spot = some (instruction.turn spot) := by
            simp only [turn?, known, Option.map_some]
          simp only [backtrack, turns]
          have turned := instruction.alike_turn alike
          generalize instruction.turn left = leftTurn at turned ⊢
          generalize instruction.turn right = rightTurn at turned ⊢
          cases turned with
          | stop same => simp [same]
          | go onward => exact inductionHypothesis onward
          | choose =>
              rw [map_isSome_bind, map_isSome_bind, inductionHypothesis alike,
                inductionHypothesis alike]

end Program

/-! ## Places of one text -/

def Spot.At (whole : Text) (spot : Spot) : Prop :=
  ∃ front, whole = front ++ spot.rest ∧ spot.before = front.getLast?

namespace Spot.At

variable {whole : Text} {spot other : Spot}

theorem length_le (place : spot.At whole) : spot.rest.length ≤ whole.length := by
  rcases place with ⟨front, rfl, -⟩
  simp only [List.length_append]
  omega

/-- A place is known by how much text is left. -/
theorem alike (place : spot.At whole) (otherPlace : other.At whole)
    (same : spot.rest.length = other.rest.length) : spot.Alike other := by
  rcases place with ⟨front, rfl, before⟩
  rcases otherPlace with ⟨otherFront, split, otherBefore⟩
  rcases List.append_inj' split same with ⟨rfl, sameRest⟩
  exact ⟨before.trans otherBefore.symm, sameRest⟩

theorem of_alike (place : spot.At whole) (alike : spot.Alike other) : other.At whole := by
  rcases place with ⟨front, split, before⟩
  exact ⟨front, alike.rest ▸ split, alike.before ▸ before⟩

theorem take? {wanted : Char → Bool} (place : spot.At whole)
    (taken : spot.take? wanted = some other) : other.At whole := by
  rcases place with ⟨front, split, before⟩
  rcases Spot.take?_eq_some_iff.mp taken with ⟨c, rest, isRest, -, rfl⟩
  refine ⟨front ++ [c], ?_, by simp [Spot.pass]⟩
  simp only [split, isRest, Spot.pass, List.append_assoc, List.singleton_append]

end Spot.At

/-- Matching stays in the text. -/
theorem Instruction.at_of_turn {whole : Text} {spot later : Spot} {next : Nat}
    {instruction : Instruction} (place : spot.At whole)
    (turn : instruction.turn spot = .go next later) : later.At whole := by
  have goes {spot? : Option Spot} {address : Nat}
      (turn : Turn.goIf address spot? = .go next later) : spot? = some later := by
    cases spot? with
    | none => cases turn
    | some other => cases turn; rfl
  cases instruction with
  | accept => cases turn
  | literal c address => exact place.take? (goes turn)
  | chars set address => exact place.take? (goes turn)
  | place assertion address =>
      have stays := goes turn
      split at stays
      · cases stays; exact place
      · cases stays
  | split first second => cases turn
  | enter address => cases turn; exact place.of_alike ⟨rfl, rfl⟩
  | leave name address => cases turn; exact place.of_alike (spot.alike_leave name)

namespace Program

variable {program : Program} {whole : Text} {address steps more fuel : Nat} {spot : Spot}
  {tried : Tried} {found : Option Captures}

theorem at_of_turn? {next : Nat} {later : Spot} (place : spot.At whole)
    (turn : program.turn? address spot = some (.go next later)) : later.At whole := by
  rcases Option.map_eq_some_iff.mp turn with ⟨instruction, -, turn⟩
  exact instruction.at_of_turn place turn

/-! ## The record -/

/-- No match is found from an entry within so many steps. -/
def Fails (program : Program) (whole : Text) (steps : Nat) (entry : Nat × Nat) : Prop :=
  ∀ spot : Spot, spot.At whole → spot.rest.length = entry.2 →
    ∀ captures, program.backtrack steps entry.1 spot ≠ some (some captures)

theorem Fails.of_le {entry : Nat × Nat} (fails : Fails program whole more entry)
    (fewer : steps ≤ more) : Fails program whole steps entry :=
  fun spot place same captures ends =>
    fails spot place same captures (backtrack_mono ends fewer)

/-- While an entry is being tried, it has led to no match. -/
theorem fails_of_backtrack_eq_none (place : spot.At whole)
    (undecided : program.backtrack steps address spot = none) :
    Fails program whole steps (address, spot.rest.length) := by
  intro other otherPlace same captures ends
  have alike : (program.backtrack steps address spot).map Option.isSome =
      (program.backtrack steps address other).map Option.isSome :=
    map_isSome_backtrack (place.alike otherPlace same.symm)
  rw [undecided, ends] at alike
  cases alike

/-- What has led to no match does so again. -/
theorem fails_of_backtrack_eq_some_none (place : spot.At whole)
    (failed : program.backtrack steps address spot = some none) (more : Nat) :
    Fails program whole more (address, spot.rest.length) := by
  intro other otherPlace same captures ends
  have alike : (program.backtrack (max steps more) address spot).map Option.isSome =
      (program.backtrack (max steps more) address other).map Option.isSome :=
    map_isSome_backtrack (place.alike otherPlace same.symm)
  rw [backtrack_mono failed (Nat.le_max_left steps more),
    backtrack_mono ends (Nat.le_max_right steps more)] at alike
  cases alike

/-- The entries of a record are of the program and the text, and none leads to a match within so
many steps. -/
structure Record (program : Program) (whole : Text) (steps : Nat) (tried : Tried) : Prop where
  inRange : ∀ entry ∈ tried, entry.1 < program.size ∧ entry.2 ≤ whole.length
  fails : ∀ entry ∈ tried, Fails program whole steps entry

theorem Record.of_le (record : Record program whole more tried) (fewer : steps ≤ more) :
    Record program whole steps tried :=
  ⟨record.inRange, fun entry listed => (record.fails entry listed).of_le fewer⟩

theorem Record.insert {entry : Nat × Nat} (record : Record program whole steps tried)
    (inRange : entry.1 < program.size ∧ entry.2 ≤ whole.length)
    (fails : Fails program whole steps entry) :
    Record program whole steps (tried.insert entry) := by
  constructor
  · intro other listed
    rcases Std.HashSet.mem_insert.mp listed with same | earlier
    · exact eq_of_beq same ▸ inRange
    · exact record.inRange other earlier
  · intro other listed
    rcases Std.HashSet.mem_insert.mp listed with same | earlier
    · exact eq_of_beq same ▸ fails
    · exact record.fails other earlier

/-- There are no more entries than pairs of an instruction and a place. -/
theorem Record.size_le (record : Record program whole steps tried) :
    tried.size ≤ program.size * (whole.length + 1) := by
  have distinct : tried.toList.Nodup :=
    Std.HashSet.distinct_toList.imp fun apart same => by simp [same] at apart
  have inside : tried.toList ⊆ List.range program.size ×ˢ List.range (whole.length + 1) := by
    intro entry listed
    rcases record.inRange entry (Std.HashSet.mem_toList.mp listed) with ⟨isAddress, isPlace⟩
    exact List.pair_mem_product.mpr
      ⟨List.mem_range.mpr isAddress, List.mem_range.mpr (by omega)⟩
  calc
    tried.size = tried.toList.length := Std.HashSet.length_toList.symm
    _ ≤ (List.range program.size ×ˢ List.range (whole.length + 1)).length :=
      (distinct.subperm inside).length_le
    _ = program.size * (whole.length + 1) := by
      simp only [List.length_product, List.length_range]

theorem lt_size_of_turn? {turn : Turn} (known : program.turn? address spot = some turn) :
    address < program.size := by
  rcases Option.map_eq_some_iff.mp known with ⟨instruction, isOne, -⟩
  exact (Array.getElem?_eq_some_iff.mp isOne).1

/-- An outcome of a run is what is due.  If that is no match, the record has grown by entries that
never lead to one. -/
structure Returns (program : Program) (whole : Text) (tried : Tried) (due : Option Captures)
    (outcome : Option Captures × Tried) : Prop where
  found : outcome.1 = due
  size_le : due = none → tried.size ≤ outcome.2.size
  record : due = none → ∀ steps, Record program whole steps tried →
    Record program whole steps outcome.2

theorem returns_same (due : Option Captures) : Returns program whole tried due (due, tried) :=
  ⟨rfl, fun _ => Nat.le_refl _, fun _ _ record => record⟩

theorem Returns.trans {first second : Option Captures × Tried} {due : Option Captures}
    (returns : Returns program whole tried none first)
    (onward : Returns program whole first.2 due second) :
    Returns program whole tried due second where
  found := onward.found
  size_le none := Nat.le_trans (returns.size_le rfl) (onward.size_le none)
  record none steps record := onward.record none steps (returns.record rfl steps record)

/-- What is tried for the first time is entered, and stays entered if it has led to no match. -/
theorem Returns.of_insert {outcome : Option Captures × Tried} (place : spot.At whole)
    (ends : program.backtrack steps address spot = some found) (isAddress : address < program.size)
    (returns : Returns program whole (tried.insert (address, spot.rest.length)) found outcome) :
    Returns program whole tried found outcome where
  found := returns.found
  size_le none := Nat.le_trans Std.HashSet.size_le_size_insert (returns.size_le none)
  record none more record := by
    subst none
    exact returns.record rfl more (record.insert ⟨isAddress, place.length_le⟩
      (fails_of_backtrack_eq_some_none place ends more))

/-- What comes second is tried only if the first has led to no match. -/
theorem Returns.choose {first second : Option Captures × Tried} {result due : Option Captures}
    (returns : Returns program whole tried result first)
    (isMatch : result.isSome = true → result = due)
    (onward : result = none → Returns program whole first.2 due second) :
    Returns program whole tried due (if first.1.isSome then first else second) := by
  rw [returns.found]
  cases result with
  | none => exact returns.trans (onward rfl)
  | some captures => exact isMatch rfl ▸ returns

/-- Whenever so many steps of backtracking suffice, a run gives what comes of them. -/
def Follows (program : Program) (whole : Text) (steps : Nat) : Prop :=
  ∀ {fuel address : Nat} {spot : Spot} {tried : Tried} {found : Option Captures}, spot.At whole →
    program.backtrack steps address spot = some found → Record program whole steps tried →
    program.size * (whole.length + 1) < fuel + tried.size →
    Returns program whole tried found (program.run fuel address spot tried)

theorem returns_of_turn (follows : Follows program whole steps) (place : spot.At whole)
    (ends : program.backtrack (steps + 1) address spot = some found)
    (record : Record program whole steps tried)
    (enough : program.size * (whole.length + 1) < fuel + tried.size) (turn : Turn) :
    program.turn? address spot = some turn →
    Returns program whole tried found
      (match turn with
      | .stop found => (found, tried)
      | .go next spot => program.run fuel next spot tried
      | .choose first second =>
          let outcome := program.run fuel first spot tried
          if outcome.1.isSome then outcome else program.run fuel second spot outcome.2) := by
  intro turned
  cases turn with
  | stop result =>
      simp only [backtrack, turned, Option.some.injEq] at ends
      exact ends ▸ returns_same result
  | go next later =>
      simp only [backtrack, turned] at ends
      exact follows (at_of_turn? place turned) ends record enough
  | choose first second =>
      rw [backtrack_choose turned] at ends
      rcases Option.bind_eq_some_iff.mp ends with ⟨result, left, right⟩
      have returns := follows place left record enough
      refine returns.choose ?_ ?_
      · intro isMatch
        exact Option.some.inj ((if_pos isMatch).symm.trans right)
      · rintro rfl
        have larger := returns.size_le rfl
        exact follows place right (returns.record rfl steps record) (by omega)

theorem returns_of_new (follows : Follows program whole steps) (place : spot.At whole)
    (ends : program.backtrack (steps + 1) address spot = some found)
    (undecided : program.backtrack steps address spot = none)
    (record : Record program whole steps tried) (new : (address, spot.rest.length) ∉ tried)
    (enough : program.size * (whole.length + 1) < fuel + 1 + tried.size) :
    Returns program whole tried found (program.run (fuel + 1) address spot tried) := by
  have size : (tried.insert (address, spot.rest.length)).size = tried.size + 1 := by
    rw [Std.HashSet.size_insert, if_neg new]
  have roomy : program.size * (whole.length + 1) <
      fuel + (tried.insert (address, spot.rest.length)).size := by omega
  rw [run, if_neg (new ∘ Std.HashSet.contains_iff_mem.mp)]
  cases turned : program.turn? address spot with
  | none => simp [backtrack, turned] at ends
  | some turn =>
      have isAddress := lt_size_of_turn? turned
      have entered := record.insert ⟨isAddress, place.length_le⟩
        (fails_of_backtrack_eq_none place undecided)
      refine .of_insert place ends isAddress ?_
      have returns := returns_of_turn follows place ends entered roomy turn turned
      cases turn <;> exact returns

/-- A run gives what comes of backtracking, whatever record it begins with. -/
theorem follows (program : Program) (whole : Text) (steps : Nat) :
    Follows program whole steps := by
  induction steps with
  | zero =>
      intro fuel address spot tried found place ends
      simp [backtrack] at ends
  | succ steps inductionHypothesis =>
      intro fuel address spot tried found place ends record enough
      have fewer := record.of_le (Nat.le_succ steps)
      have room := record.size_le
      obtain ⟨fuel, rfl⟩ : ∃ left, fuel = left + 1 := ⟨fuel - 1, by omega⟩
      cases early : program.backtrack steps address spot with
      | some result =>
          have same := (backtrack_mono early (Nat.le_succ steps)).symm.trans ends
          exact inductionHypothesis place (early.trans same) fewer enough
      | none =>
          by_cases again : (address, spot.rest.length) ∈ tried
          · have failed := record.fails _ again spot place rfl
            rw [run, if_pos (Std.HashSet.contains_iff_mem.mpr again)]
            cases found with
            | none => exact returns_same none
            | some captures => exact absurd ends (failed captures)
          · exact returns_of_new inductionHypothesis place ends early fewer again enough

/-! ## Searching -/

/-- If a program comes to an end at every spot, running it at all places of a text finds the first
match. -/
theorem runFrom_eq_firstMatch {onward : Onward} {entry : Nat}
    (ends : ∀ spot, program.Ends entry spot (onward spot))
    (enough : program.size * (whole.length + 1) < fuel) {before : Option Char} {rest : Text}
    (place : (Spot.start before rest).At whole)
    (record : ∀ steps, Record program whole steps tried) :
    program.runFrom fuel entry before rest tried = onward.firstMatch before rest := by
  have roomy (tried : Tried) : program.size * (whole.length + 1) < fuel + tried.size := by omega
  induction rest generalizing before tried with
  | nil =>
      rcases ends (.start before []) with ⟨steps, ends⟩
      exact (follows program whole steps place ends (record steps) (roomy tried)).found
  | cons c rest inductionHypothesis =>
      rcases ends (.start before (c :: rest)) with ⟨steps, ends⟩
      have returns := follows program whole steps place ends (record steps) (roomy tried)
      have taken : (Spot.start before (c :: rest)).take? (fun _ => true) =
          some (.start (some c) rest) := rfl
      have next := place.take? taken
      rw [runFrom, Onward.firstMatch, ← returns.found]
      cases outcome : program.run fuel entry (.start before (c :: rest)) tried with
      | mk found later =>
        rw [outcome] at returns
        cases found with
        | none =>
            exact inductionHypothesis next fun steps =>
              returns.record returns.found.symm steps (record steps)
        | some captures => rfl

end Program

/-- A search finds the first match of what the program of an expression does. -/
theorem Expression.search_eq_firstMatch {expression : Expression} {onward : Onward}
    (ends : ∀ spot, expression.program.2.Ends expression.program.1 spot (onward spot))
    (text : Text) : expression.search text = onward.firstMatch none text :=
  Program.runFrom_eq_firstMatch ends (Nat.lt_succ_self _) ⟨[], rfl, rfl⟩ fun _ =>
    ⟨fun _ listed => absurd listed Std.HashSet.not_mem_empty,
      fun _ listed => absurd listed Std.HashSet.not_mem_empty⟩

end FileRoutes
