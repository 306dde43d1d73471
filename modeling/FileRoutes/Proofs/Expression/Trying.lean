import FileRoutes.Expression.Match
import Mathlib.Logic.Function.Iterate

/-!
# What an expression tries

An expression is read as a way to go on: given what is done after it, it says what is done from a
spot.  This is said along the expression, with no program and no record of what has been tried, and
the first way that leads to a match counts.

An unbounded repetition is tried for as many rounds as could each take a character.  That is all of
them when its body always takes text, and such expressions are called solid.
-/

namespace FileRoutes

theorem Spot.take?_eq_some_iff {wanted : Char → Bool} {spot later : Spot} :
    spot.take? wanted = some later ↔
      ∃ c rest, spot.rest = c :: rest ∧ wanted c = true ∧ spot.pass c rest = later := by
  unfold take?
  cases spot.rest with
  | nil => simp
  | cons c rest =>
      simp only [Option.ite_none_right_eq_some, Option.some.injEq, List.cons.injEq]
      constructor
      · exact fun taken => ⟨c, rest, ⟨rfl, rfl⟩, taken⟩
      · rintro ⟨_, _, ⟨rfl, rfl⟩, taken⟩
        exact taken

/-- What is done from a spot: the captures of a match, if there is one. -/
abbrev Onward := Spot → Option Captures

namespace Onward

def take (wanted : Char → Bool) (next : Onward) : Onward :=
  fun spot => (spot.take? wanted).bind next

/-- Another round, or what comes after it. -/
def offer (greedy : Bool) (round next : Onward) : Onward :=
  fun spot =>
    if greedy then (round spot).or (next spot) else (next spot).or (round spot)

/-- At most so many rounds. -/
def rounds (greedy : Bool) (body : Onward → Onward) (next : Onward) : Nat → Onward
  | 0 => next
  | count + 1 => offer greedy (body (rounds greedy body next count)) next

/-- Rounds without a bound, if each of them takes text. -/
def loop (greedy : Bool) (body : Onward → Onward) (next : Onward) : Onward :=
  fun spot => rounds greedy body next (spot.rest.length + 1) spot

/-- The captures of the first match, when one is tried at the places of a text from left to
right. -/
def firstMatch (onward : Onward) (before : Option Char) : Text → Option Captures
  | [] => onward (.start before [])
  | c :: rest => (onward (.start before (c :: rest))).or (firstMatch onward (some c) rest)

end Onward

namespace Expression

/-- What is done from a spot when something is done after an expression. -/
def tries : Expression → Onward → Onward
  | empty, next => next
  | literal text, next => text.foldr (fun c => Onward.take (· = c)) next
  | chars set, next => Onward.take set.contains next
  | place assertion, next => fun spot => if spot.satisfies assertion then next spot else none
  | seq first rest, next => first.tries (rest.tries next)
  | either first rest, next => fun spot => (first.tries next spot).or (rest.tries next spot)
  | repetition least (some most) greedy body, next =>
      Nat.iterate body.tries least (Onward.rounds greedy body.tries next (most - least))
  | repetition least none greedy body, next =>
      Nat.iterate body.tries least (Onward.loop greedy body.tries next)
  | group _ none body, next => body.tries next
  | group _ (some name) body, next =>
      fun spot => body.tries (fun later => next (later.leave name)) spot.enter

/-- In every repetition without a bound, the body always takes text. -/
def IsSolid : Expression → Prop
  | empty | literal _ | chars _ | place _ => True
  | seq first rest | either first rest => first.IsSolid ∧ rest.IsSolid
  | repetition _ most _ body => body.IsSolid ∧ (most = none → body.takesText = true)
  | group _ _ body => body.IsSolid

/-! ## Repetitions -/

/-- What may be missing is repeated as it is, even if it matches nothing but the empty text. -/
theorem repeated_mark (greedy : Bool) (body : Expression) :
    body.repeated 0 (some 1) greedy = repetition 0 (some 1) greedy body := by
  simp [repeated]

/-! ## Rows -/

theorem foldr_tries_items (expression : Expression) (next : Onward) :
    expression.items.foldr tries next = expression.tries next := by
  induction expression with
  | seq first rest _ inductionHypothesis =>
      simp only [items, List.foldr_cons, inductionHypothesis, tries]
  | _ => rfl

theorem foldr_tries_consItem (item : Expression) (later : List Expression) (next : Onward) :
    (consItem item later).foldr tries next = item.tries (later.foldr tries next) := by
  fun_cases consItem item later with
  | case1 => rfl
  | case2 => simp only [List.foldr_cons, tries, List.foldr_append]
  | case3 => rfl

theorem tries_ofItems (items : List Expression) (next : Onward) :
    (ofItems items).tries next = items.foldr tries next := by
  fun_induction ofItems items with
  | case1 => rfl
  | case2 => rfl
  | case3 _ _ _ inductionHypothesis => simp only [tries, inductionHypothesis, List.foldr_cons]

/-- A row tries its expressions one after the other. -/
theorem tries_row (expressions : List Expression) (next : Onward) :
    (row expressions).tries next = expressions.foldr tries next := by
  have joined (items : List Expression) :
      (items.foldr consItem []).foldr tries next = items.foldr tries next := by
    induction items with
    | nil => rfl
    | cons item later inductionHypothesis =>
        simp only [List.foldr_cons, foldr_tries_consItem, inductionHypothesis]
  rw [row, tries_ofItems, joined]
  induction expressions with
  | nil => rfl
  | cons expression later inductionHypothesis =>
      simp only [List.flatMap_cons, List.foldr_append, inductionHypothesis, foldr_tries_items,
        List.foldr_cons]

theorem isSolid_of_mem_items {expression item : Expression} (solid : expression.IsSolid)
    (listed : item ∈ expression.items) : item.IsSolid := by
  induction expression with
  | seq first rest _ inductionHypothesis =>
      rcases List.mem_cons.mp listed with rfl | later
      · exact solid.1
      · exact inductionHypothesis solid.2 later
  | _ => exact List.mem_singleton.mp listed ▸ solid

theorem forall_isSolid_consItem {item : Expression} {later : List Expression}
    (first : item.IsSolid) (others : ∀ other ∈ later, other.IsSolid) :
    ∀ other ∈ consItem item later, other.IsSolid := by
  fun_cases consItem item later with
  | case1 => exact others
  | case2 text next later =>
      exact List.forall_mem_cons.mpr ⟨trivial, (List.forall_mem_cons.mp others).2⟩
  | case3 => exact List.forall_mem_cons.mpr ⟨first, others⟩

theorem isSolid_ofItems {items : List Expression} (each : ∀ item ∈ items, item.IsSolid) :
    (ofItems items).IsSolid := by
  fun_induction ofItems items with
  | case1 => trivial
  | case2 item => exact each item List.mem_cons_self
  | case3 item next later inductionHypothesis =>
      rcases List.forall_mem_cons.mp each with ⟨first, others⟩
      exact ⟨first, inductionHypothesis others⟩

theorem isSolid_row {expressions : List Expression}
    (each : ∀ expression ∈ expressions, expression.IsSolid) : (row expressions).IsSolid := by
  apply isSolid_ofItems
  have items : ∀ item ∈ expressions.flatMap items, item.IsSolid := by
    intro item listed
    rcases List.mem_flatMap.mp listed with ⟨expression, isOne, inside⟩
    exact isSolid_of_mem_items (each expression isOne) inside
  generalize expressions.flatMap Expression.items = row at items ⊢
  induction row with
  | nil => exact nofun
  | cons item later inductionHypothesis =>
      rcases List.forall_mem_cons.mp items with ⟨first, others⟩
      exact forall_isSolid_consItem first (inductionHypothesis others)

end Expression
end FileRoutes
