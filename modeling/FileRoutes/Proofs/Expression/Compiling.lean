import FileRoutes.Proofs.Expression.Backtracking

/-!
# Programs do what expressions try

The instructions for a part stand after those for what comes later, and none of them is changed
afterwards but the hub of a repetition, inside the part itself.  So a part is sound on its own:
wherever its instructions stand in a program, matching from its start ends as the part tries it, if
matching from the address after it ends as the rest does.

The rest need only be known where the text that the part takes at least is gone.  This is what a hub
needs: its body comes back to it with less text than before.
-/

namespace FileRoutes
namespace Program

variable {whole before middle after : Program} {address next : Nat} {onward : Onward}
  {taken more length : Nat}

/-! ## Instructions that stay -/

/-- Instructions are added, and none is changed. -/
structure Grows (before after : Program) : Prop where
  size_le : before.size ≤ after.size
  kept : ∀ address < before.size, after[address]? = before[address]?

/-- A program has the instructions that have been added between two others. -/
def Holds (whole before after : Program) : Prop :=
  ∀ address, before.size ≤ address → address < after.size → whole[address]? = after[address]?

theorem Grows.refl (program : Program) : program.Grows program :=
  ⟨Nat.le_refl _, fun _ _ => rfl⟩

theorem Grows.trans (grows : before.Grows middle) (onward : middle.Grows after) :
    before.Grows after where
  size_le := Nat.le_trans grows.size_le onward.size_le
  kept address early := by
    rw [onward.kept address (Nat.lt_of_lt_of_le early grows.size_le), grows.kept address early]

theorem grows_add (program : Program) (instruction : Instruction) :
    program.Grows (program.add instruction).2 where
  size_le := by simp [add]
  kept address early := by
    simp only [add, Array.getElem?_push, if_neg (Nat.ne_of_lt early)]

theorem Holds.left (holds : whole.Holds before after) (grows : middle.Grows after) :
    whole.Holds before middle := by
  intro address late early
  rw [holds address late (Nat.lt_of_lt_of_le early grows.size_le), grows.kept address early]

theorem Holds.right (holds : whole.Holds before after) (grows : before.Grows middle) :
    whole.Holds middle after :=
  fun address late early => holds address (Nat.le_trans grows.size_le late) early

theorem Holds.turn? {instruction : Instruction}
    (holds : whole.Holds before (before.add instruction).2) (spot : Spot) :
    whole.turn? before.size spot = some (instruction.turn spot) := by
  have known := holds before.size (Nat.le_refl _) (by simp [add])
  simp only [Program.turn?, known, add, Array.getElem?_push_size, Option.map_some]

/-! ## Where the rest is known -/

/-- Matching from an address ends as it is said, at every spot with so much text less than there
was. -/
def EndsAfter (whole : Program) (address : Nat) (onward : Onward) (taken length : Nat) : Prop :=
  ∀ spot : Spot, spot.rest.length + taken ≤ length → whole.Ends address spot (onward spot)

theorem EndsAfter.of_le (ends : whole.EndsAfter address onward taken length)
    (less : taken ≤ more) : whole.EndsAfter address onward more length :=
  fun spot late => ends spot (by omega)

/-- A choice ends if both ways do. -/
theorem ends_offer {greedy : Bool} {round next : Nat} {spot : Spot} {first second : Onward}
    (turn : whole.turn? address spot = some ((offer greedy round next).turn spot))
    (left : whole.Ends round spot (first spot)) (right : whole.Ends next spot (second spot)) :
    whole.Ends address spot (Onward.offer greedy first second spot) := by
  cases greedy with
  | true => exact ends_choose turn left right
  | false => exact ends_choose turn right left

end Program

open Program (EndsAfter Grows Holds)

/-! ## Sound parts -/

namespace Segmenter

/-- The instructions for a part do what it means, if it always takes so much text at least. -/
structure Sound (part : Segmenter) (meaning : Onward → Onward) (least : Nat) : Prop where
  grows : ∀ next program, Grows program (part next program).2
  ends : ∀ {whole program : Program} {next : Nat} {onward : Onward} {taken length : Nat},
    whole.Holds program (part next program).2 →
    whole.EndsAfter next onward (least + taken) length →
    whole.EndsAfter (part next program).1 (meaning onward) taken length

variable {part first second : Segmenter} {meaning firstMeaning secondMeaning : Onward → Onward}
  {least firstLeast secondLeast : Nat}

theorem Sound.of_le (sound : part.Sound meaning least) {fewer : Nat} (less : fewer ≤ least) :
    part.Sound meaning fewer where
  grows := sound.grows
  ends holds ends := sound.ends holds (ends.of_le (by omega))

theorem sound_nothing : Sound (fun next program => (next, program)) id 0 where
  grows _ program := .refl program
  ends _ ends := ends.of_le (by omega)

/-- One part after another. -/
theorem Sound.seq (sound : first.Sound firstMeaning firstLeast)
    (later : second.Sound secondMeaning secondLeast) :
    Sound (fun next program => first (second next program).1 (second next program).2)
      (fun onward => firstMeaning (secondMeaning onward)) (firstLeast + secondLeast) where
  grows next program := (later.grows next program).trans (sound.grows _ _)
  ends {_ program next} _ _ _ holds ends := by
    have holdsLater := holds.left (sound.grows _ _)
    have holdsFirst := holds.right (later.grows next program)
    exact sound.ends holdsFirst (later.ends holdsLater (ends.of_le (by omega)))

/-- One instruction that goes on if it can. -/
theorem sound_step {instruction : Nat → Instruction} {step : Spot → Option Spot}
    (turns : ∀ next spot, (instruction next).turn spot = .goIf next (step spot))
    (shorter : ∀ spot, ∀ later ∈ step spot, later.rest.length + least ≤ spot.rest.length) :
    Sound (fun next program => program.add (instruction next))
      (fun onward spot => (step spot).bind onward) least where
  grows next program := program.grows_add (instruction next)
  ends holds ends := by
    intro spot late
    have turn := holds.turn? spot
    rw [turns] at turn
    refine Program.ends_goIf turn fun later isLater => ends later ?_
    have short := shorter spot later isLater
    omega

theorem length_of_take? {wanted : Char → Bool} {spot later : Spot}
    (taken : spot.take? wanted = some later) : later.rest.length + 1 = spot.rest.length := by
  rcases Spot.take?_eq_some_iff.mp taken with ⟨c, rest, isRest, -, rfl⟩
  simp [isRest, Spot.pass]

theorem sound_take {instruction : Nat → Instruction} {wanted : Char → Bool}
    (turns : ∀ next spot, (instruction next).turn spot = .goIf next (spot.take? wanted)) :
    Sound (fun next program => program.add (instruction next)) (Onward.take wanted) 1 :=
  sound_step turns fun _ _ taken => Nat.le_of_eq (length_of_take? taken)

theorem sound_enter :
    Sound (fun next program => program.add (.enter next))
      (fun onward spot => (some spot.enter).bind onward) 0 := by
  refine sound_step (fun _ _ => rfl) fun spot later entered => ?_
  rcases Option.some.inj entered with rfl
  exact Nat.le_refl _

theorem sound_leave (name : Text) :
    Sound (fun next program => program.add (.leave name next))
      (fun onward spot => (some (spot.leave name)).bind onward) 0 := by
  refine sound_step (fun _ _ => rfl) fun spot later left => ?_
  rcases Option.some.inj left with rfl
  exact Nat.le_of_eq (congrArg List.length (spot.alike_leave name).rest.symm)

theorem sound_addText (text : Text) :
    Sound (Program.addText text) (fun onward => text.foldr (fun c => Onward.take (· = c)) onward)
      text.length := by
  induction text with
  | nil => exact sound_nothing
  | cons c text inductionHypothesis =>
      have one := sound_take fun next spot => (rfl : (Instruction.literal c next).turn spot = _)
      exact (one.seq inductionHypothesis).of_le (by simp only [List.length_cons]; omega)

theorem Sound.addCopies (sound : part.Sound meaning least) (count : Nat) :
    Sound (Program.addCopies part count) (Nat.iterate meaning count) (least * count) := by
  induction count with
  | zero => exact sound_nothing
  | succ count inductionHypothesis =>
      exact (inductionHypothesis.seq sound).of_le (Nat.le_of_eq (Nat.mul_succ least count))

theorem Sound.either (sound : first.Sound firstMeaning least)
    (other : second.Sound secondMeaning least) :
    Sound (fun next program =>
        (second next (first next program).2).2.add
          (.split (first next program).1 (second next (first next program).2).1))
      (fun onward spot => (firstMeaning onward spot).or (secondMeaning onward spot)) least where
  grows next program :=
    ((sound.grows next program).trans (other.grows next _)).trans (Program.grows_add _ _)
  ends {whole program next} _ _ _ holds ends := by
    intro spot late
    have growsOther := other.grows next (first next program).2
    have holdsBoth := holds.left (Program.grows_add _ _)
    have left := sound.ends (holdsBoth.left growsOther) ends spot late
    have right := other.ends (holdsBoth.right (sound.grows next program)) ends spot late
    have turn := (holds.right ((sound.grows next program).trans growsOther)).turn? spot
    exact Program.ends_choose turn left right

/-! ## Optional copies -/

section OptionalCopies

variable (sound : part.Sound meaning least) {greedy : Bool}
include sound

theorem grows_addOptionalCopies (finish count next : Nat) (program : Program) :
    Grows program (Program.addOptionalCopies greedy part finish count next program).2 := by
  induction count generalizing next program with
  | zero => exact .refl program
  | succ count inductionHypothesis =>
      exact ((sound.grows next program).trans (Program.grows_add _ _)).trans
        (inductionHypothesis _ _)

/-- The copies are added from the last to the first, so some rounds are done with already. -/
theorem endsAfter_addOptionalCopies {whole program : Program} {finish count next done : Nat}
    {onward : Onward} {taken length : Nat}
    (holds : whole.Holds program
      (Program.addOptionalCopies greedy part finish count next program).2)
    (ends : whole.EndsAfter finish onward taken length)
    (sofar : whole.EndsAfter next (Onward.rounds greedy meaning onward done) taken length) :
    whole.EndsAfter (Program.addOptionalCopies greedy part finish count next program).1
      (Onward.rounds greedy meaning onward (done + count)) taken length := by
  induction count generalizing done next program with
  | zero => exact sofar
  | succ count inductionHypothesis =>
      have grows := sound.grows next program
      have growsChoice := Program.grows_add (part next program).2
        (Program.offer greedy (part next program).1 finish)
      have growsOther (next : Nat) (program : Program) : Grows program
          (Program.addOptionalCopies greedy part finish count next program).2 :=
        grows_addOptionalCopies sound finish count next program
      have started := sound.ends (holds.left (growsChoice.trans (growsOther _ _)))
        (sofar.of_le (Nat.le_add_left taken least))
      have holdsChoice := (holds.right grows).left (growsOther _ _)
      have chosen : whole.EndsAfter (part next program).2.size
          (Onward.rounds greedy meaning onward (done + 1)) taken length := fun spot late =>
        Program.ends_offer (holdsChoice.turn? spot) (started spot late) (ends spot late)
      have rounds : done + (count + 1) = done + 1 + count := by omega
      rw [rounds]
      exact inductionHypothesis (holds.right (grows.trans growsChoice)) chosen

theorem Sound.addOptionalCopies (count : Nat) :
    Sound (fun next => Program.addOptionalCopies greedy part next count next)
      (fun onward => Onward.rounds greedy meaning onward count) 0 where
  grows next program := grows_addOptionalCopies sound next count next program
  ends {whole _ next onward taken length} holds ends := by
    rw [Nat.zero_add] at ends
    have none : whole.EndsAfter next (Onward.rounds greedy meaning onward 0) taken length := ends
    have each := endsAfter_addOptionalCopies sound holds ends none
    rwa [Nat.zero_add] at each

end OptionalCopies

/-! ## Loops -/

section Loop

variable (sound : part.Sound meaning least) {greedy : Bool} {next : Nat} {program whole : Program}
include sound

theorem size_addLoop :
    program.size < (Program.addLoop greedy part next program).2.2.size := by
  have grows := (sound.grows program.size (program.add .accept).2).size_le
  simp only [Program.add, Array.size_push] at grows
  simp only [Program.addLoop, Program.add, Array.size_setIfInBounds]
  omega

theorem grows_addLoop : Grows program (Program.addLoop greedy part next program).2.2 where
  size_le := Nat.le_of_lt (size_addLoop sound)
  kept address early := by
    have grows := (program.grows_add .accept).trans (sound.grows program.size _)
    have other : program.size ≠ address := Nat.ne_of_gt early
    rw [← grows.kept address early]
    exact Array.getElem?_setIfInBounds_ne other

/-- A whole program that holds a loop has its hub filled in, and its body as it was added. -/
theorem holds_addLoop
    (holds : whole.Holds program (Program.addLoop greedy part next program).2.2) :
    whole[program.size]? =
        some (Program.offer greedy (Program.addLoop greedy part next program).2.1 next) ∧
      whole.Holds (program.add .accept).2 (part program.size (program.add .accept).2).2 := by
  have size : program.size < (Program.addLoop greedy part next program).2.2.size :=
    size_addLoop sound
  constructor
  · rw [holds program.size (Nat.le_refl _) size]
    refine Array.getElem?_setIfInBounds_self_of_lt ?_
    simpa only [Program.addLoop, Program.add, Array.size_setIfInBounds] using size
  · intro address late early
    simp only [Program.add, Array.size_push] at late
    have other : program.size ≠ address := by omega
    rw [holds address (by omega)]
    · exact Array.getElem?_setIfInBounds_ne other
    · simpa only [Program.addLoop, Program.add, Array.size_setIfInBounds] using early

/-- The body of a loop comes back to the hub with less text than before. -/
theorem ends_hub (takes : 0 < least)
    (holds : whole.Holds program (Program.addLoop greedy part next program).2.2)
    {onward : Onward} {count : Nat} {spot : Spot} (short : spot.rest.length ≤ count)
    (ends : whole.EndsAfter next onward 0 spot.rest.length) :
    whole.Ends program.size spot (Onward.rounds greedy meaning onward (count + 1) spot) := by
  rcases holds_addLoop sound holds with ⟨hub, holdsBody⟩
  have turn : whole.turn? program.size spot = some
      ((Program.offer greedy (Program.addLoop greedy part next program).2.1 next).turn spot) := by
    simp only [Program.turn?, hub, Option.map_some]
  have back : whole.EndsAfter program.size (Onward.rounds greedy meaning onward count)
      (least + 0) spot.rest.length := by
    intro later less
    cases count with
    | zero => omega
    | succ count => exact ends_hub takes holds (by omega) fun other late => ends other (by omega)
  exact Program.ends_offer turn (sound.ends holdsBody back spot (Nat.le_refl _))
    (ends spot (Nat.le_refl _))

/-- The body of a loop always takes text, and comes back to the hub with less of it. -/
theorem Sound.addLoop (takes : 0 < least) :
    Sound (fun next program =>
        (program.size, (Program.addLoop greedy part next program).2.2))
      (Onward.loop greedy meaning) 0 where
  grows next program := grows_addLoop sound
  ends holds ends := by
    intro spot late
    exact ends_hub sound takes holds (Nat.le_refl _) fun other less => ends other (by omega)

/-- A loop that is entered with its body. -/
theorem Sound.addRound (takes : 0 < least) :
    Sound (fun next program => (Program.addLoop greedy part next program).2)
      (fun onward => meaning (Onward.loop greedy meaning onward)) least where
  grows next program := grows_addLoop sound
  ends holds ends := by
    have back := (Sound.addLoop sound takes).ends holds (ends.of_le (Nat.le_add_left _ 0))
    exact sound.ends (holds_addLoop sound holds).2 back

end Loop

end Segmenter

namespace Expression

open Segmenter

/-! ## Whole expressions -/

/-- So much text any match takes. -/
def least (expression : Expression) : Nat :=
  expression.shortest?.getD 0

theorem least_seq_le (first rest : Expression) :
    (seq first rest).least ≤ first.least + rest.least := by
  unfold least
  rw [shortest?]
  cases first.shortest? <;> cases rest.shortest? <;> simp

theorem least_either_le (first rest : Expression) :
    (either first rest).least ≤ first.least ∧ (either first rest).least ≤ rest.least := by
  unfold least
  rw [shortest?]
  cases first.shortest? with
  | none => exact ⟨Nat.zero_le _, Nat.zero_le _⟩
  | some left =>
      cases rest.shortest? with
      | none => exact ⟨Nat.zero_le _, Nat.zero_le _⟩
      | some right => exact ⟨Nat.min_le_left left right, Nat.min_le_right left right⟩

theorem least_repetition_le (count : Nat) (most : Option Nat) (greedy : Bool) (body : Expression) :
    (repetition count most greedy body).least ≤ body.least * count := by
  unfold least
  rw [shortest?]
  cases body.shortest? <;> simp

theorem least_pos_of_takesText {expression : Expression} (takes : expression.takesText = true) :
    0 < expression.least := by
  unfold takesText at takes
  unfold least
  cases known : expression.shortest? with
  | none => simp [known] at takes
  | some length => simpa [known] using takes

theorem sound_repetition {count : Nat} {most : Option Nat} {greedy : Bool} {body : Expression}
    (sound : Sound body.addTo body.tries body.least) (takes : most = none → body.takesText = true) :
    Sound (repetition count most greedy body).addTo (repetition count most greedy body).tries
      (body.least * count) := by
  cases most with
  | some most =>
      exact (sound.addCopies count).seq (sound.addOptionalCopies (most - count))
  | none =>
      have takesText := takes rfl
      have positive := least_pos_of_takesText takesText
      cases count with
      | zero =>
          have same : (repetition 0 none greedy body).addTo = fun next program =>
              (program.size, (Program.addLoop greedy body.addTo next program).2.2) := by
            funext next program
            simp only [addTo, if_pos takesText]
            rfl
          rw [same]
          exact sound.addLoop positive
      | succ count =>
          exact (sound.addCopies count).seq (sound.addRound positive)

/-- The program of a solid expression does what the expression tries. -/
theorem sound_addTo {expression : Expression} (solid : expression.IsSolid) :
    Sound expression.addTo expression.tries expression.least := by
  induction expression with
  | empty => exact sound_nothing
  | literal text => exact sound_addText text
  | chars set =>
      have one := sound_take fun next spot => (rfl : (Instruction.chars set next).turn spot = _)
      refine one.of_le ?_
      unfold least shortest?
      split <;> simp
  | place assertion =>
      have same : (place assertion).tries = fun onward spot =>
          (if spot.satisfies assertion then some spot else none).bind onward := by
        funext onward spot
        simp only [tries]
        split <;> rfl
      rw [same]
      refine sound_step (fun _ _ => rfl) ?_
      intro spot later stays
      split at stays
      · rw [Option.mem_some.mp stays]
        exact Nat.le_refl _
      · cases stays
  | seq first rest firstHypothesis restHypothesis =>
      exact ((firstHypothesis solid.1).seq (restHypothesis solid.2)).of_le (least_seq_le first rest)
  | either first rest firstHypothesis restHypothesis =>
      rcases least_either_le first rest with ⟨less, lessRest⟩
      exact ((firstHypothesis solid.1).of_le less).either ((restHypothesis solid.2).of_le lessRest)
  | repetition count most greedy body inductionHypothesis =>
      exact (sound_repetition (inductionHypothesis solid.1) solid.2).of_le
        (least_repetition_le count most greedy body)
  | group number name body inductionHypothesis =>
      cases name with
      | none => exact inductionHypothesis solid
      | some name =>
          exact (sound_enter.seq ((inductionHypothesis solid).seq (sound_leave name))).of_le
            (Nat.le_add_left _ 0)

/-- Searching for a solid expression finds the first match of what it tries. -/
theorem search_eq {expression : Expression} (solid : expression.IsSolid) (text : Text) :
    expression.search text =
      (expression.tries fun spot => some spot.captures).firstMatch none text := by
  apply search_eq_firstMatch
  intro spot
  have sound := sound_addTo solid
  have grows := sound.grows 0 #[.accept]
  have accepts : EndsAfter expression.program.2 0 (fun spot => some spot.captures)
      (expression.least + 0) spot.rest.length := by
    intro later _
    apply Program.ends_stop
    rw [Program.turn?, program, grows.kept 0 Nat.one_pos]
    rfl
  exact sound.ends (fun _ _ _ => rfl) accepts spot (Nat.le_refl _)

end Expression
end FileRoutes
