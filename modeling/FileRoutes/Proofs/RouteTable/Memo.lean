import FileRoutes.Proofs.RouteTree.Generation
import FileRoutes.Proofs.Text.Quoted
import FileRoutes.RouteTable

/-!
# Remembered routes are the routes of the tree

A table answers from memory when neither the generation of its tree nor the fingerprint of the
options has changed.  That is right for two reasons.  Every call that changes the tree moves its
generation, failing calls and removals of nothing included.  And a fingerprint tells the options
apart, but for the naming function; so calls that name routes must agree on that.

`Session` runs calls and keeps, beside the table, the states for which routes were computed.  The
table does not know them, and they are what its answers are measured against.
-/

namespace FileRoutes

/-! ## Fingerprints -/

namespace OptionsKey

open Text

theorem delimited_entry : Delimited entry := by
  intro first second rest other same
  simp only [entry, List.append_assoc, List.cons_append] at same
  rcases delimited_quoted same with ⟨sameField, onward⟩
  have candidates := delimited_quoted.bracketed '[' (by decide : ']' ≠ ',')
    (startsOff_quoted (by decide))
  rcases candidates (List.cons.inj onward).2 with ⟨sameCandidates, end_eq⟩
  exact ⟨Prod.ext sameField sameCandidates, end_eq⟩

theorem flag_injective {first second : Bool} (same : flag first = flag second) :
    first = second := by
  cases first <;> cases second <;> first | rfl | cases same

/-- A fingerprint tells its key. -/
theorem fingerprint_injective {first second : OptionsKey}
    (same : first.fingerprint = second.fingerprint) : first = second := by
  rcases List.cons.inj same with ⟨sameNamed, same⟩
  rcases List.cons.inj same with ⟨sameReports, same⟩
  have entries := delimited_entry.bracketed '\x7b' (by decide : '\x7d' ≠ ',')
    fun field => ⟨quote, _, rfl, by decide⟩
  cases first
  cases second
  rcases flag_injective sameNamed with rfl
  rcases flag_injective sameReports with rfl
  rcases entries.injective same with rfl
  rfl

end OptionsKey

/-- Options name their routes by a function if they bring a naming function at all. -/
def NestedOptions.NamedBy (options : NestedOptions) (naming : Text → Text) : Prop :=
  options.nameOf = none ∨ options.nameOf = some naming

/-- Options that agree on the naming function are told apart by their fingerprint. -/
theorem NestedOptions.NamedBy.eq_of_fingerprint {naming : Text → Text}
    {first second : NestedOptions} (firstNamed : first.NamedBy naming)
    (secondNamed : second.NamedBy naming)
    (same : first.key.fingerprint = second.key.fingerprint) : first = second := by
  have sameKey := OptionsKey.fingerprint_injective same
  rcases first with ⟨_, reports, attributes⟩
  rcases second with ⟨_, _, _⟩
  rcases OptionsKey.mk.inj sameKey with ⟨sameNamed, rfl, rfl⟩
  rcases firstNamed with rfl | rfl <;> rcases secondNamed with rfl | rfl
  · rfl
  · cases sameNamed
  · cases sameNamed
  · rfl

namespace RouteTable

/-! ## Calls -/

inductive Call where
  | add (input : PageInput) (options : BuildOptions) (reader : Option ParseOptions)
  | remove (path : Text)
  | nested (options : NestedOptions)

/-- A call names routes by a function if its options do. -/
def Call.NamedBy (naming : Text → Text) : Call → Prop
  | .nested options => options.NamedBy naming
  | _ => True

def after (table : RouteTable) : Call → RouteTable
  | .add input options reader => (table.add input options reader).1
  | .remove path => (table.remove path).1
  | .nested options => (table.nested options).1

/-- A table with the states for which it has computed routes, the last one first. -/
structure Session where
  table : RouteTable
  computed : List (Nat × OptionsKey)

namespace Session

def start (tree : RouteTree) : Session :=
  ⟨.ofTree tree, []⟩

def state (session : Session) (options : NestedOptions) : Nat × OptionsKey :=
  (session.table.tree.generation, options.key)

/-- The states that are computed when a call has been made.  A call that is answered from memory
adds none. -/
def computedAfter (session : Session) : Call → List (Nat × OptionsKey)
  | .nested options =>
      if (session.table.remembered? options).isNone then session.state options :: session.computed
      else session.computed
  | _ => session.computed

def call (session : Session) (call : Call) : Session :=
  ⟨session.table.after call, session.computedAfter call⟩

def run (session : Session) (calls : List Call) : Session :=
  calls.foldl Session.call session

/-! ## What a table remembers -/

/-- What is remembered was computed last, for options that name routes by a function; and if the
tree has not changed since, it is what the tree gives for them. -/
def Remembers (session : Session) (naming : Text → Text) (memo : Memo) : Prop :=
  ∃ options : NestedOptions, options.NamedBy naming ∧
    memo.fingerprint = options.key.fingerprint ∧
    session.computed.head? = some (memo.generation, options.key) ∧
    memo.generation ≤ session.table.tree.generation ∧
    (memo.generation = session.table.tree.generation →
      memo.routes = session.table.tree.nestedRoutes options)

/-- A table remembers what was computed last, or nothing was computed. -/
structure Faithful (session : Session) (naming : Text → Text) : Prop where
  nothing : session.table.memo = none → session.computed = []
  remembers : ∀ memo, session.table.memo = some memo → session.Remembers naming memo

variable {session : Session} {naming : Text → Text} {options : NestedOptions}

theorem faithful_start (tree : RouteTree) (naming : Text → Text) :
    (start tree).Faithful naming :=
  ⟨fun _ => rfl, fun _ remembered => by cases remembered⟩

theorem remembered?_eq_some_iff {table : RouteTable} {routes : Forest NestedRoute} :
    table.remembered? options = some routes ↔ ∃ memo, table.memo = some memo ∧
      memo.generation = table.tree.generation ∧ memo.fingerprint = options.key.fingerprint ∧
      memo.routes = routes := by
  unfold remembered? Memo.remembered?
  rw [Option.bind_eq_some_iff]
  apply exists_congr
  intro memo
  apply and_congr_right
  intro _
  rw [Option.ite_none_right_eq_some, Option.some.injEq, and_assoc]

/-- What is given from memory is what would be computed. -/
theorem Faithful.eq_of_remembered? (faithful : session.Faithful naming)
    (named : options.NamedBy naming) {routes : Forest NestedRoute}
    (recalled : session.table.remembered? options = some routes) :
    routes = session.table.tree.nestedRoutes options := by
  rcases remembered?_eq_some_iff.mp recalled with ⟨memo, remembered, current, sameFingerprint, rfl⟩
  rcases faithful.remembers memo remembered with
    ⟨earlier, earlierNamed, fingerprint, -, -, computed⟩
  rcases earlierNamed.eq_of_fingerprint named (fingerprint.symm.trans sameFingerprint) with rfl
  exact computed current

/-- Routes are given from memory when the last state they were computed for is the present one. -/
theorem Faithful.remembered?_eq_none_iff (faithful : session.Faithful naming) :
    session.table.remembered? options = none ↔
      session.computed.head? ≠ some (session.state options) := by
  rw [← not_iff_not, ne_eq, not_not, ← ne_eq, Option.ne_none_iff_exists']
  constructor
  · rintro ⟨routes, recalled⟩
    rcases remembered?_eq_some_iff.mp recalled with ⟨memo, remembered, current, sameFingerprint, -⟩
    rcases faithful.remembers memo remembered with ⟨earlier, -, fingerprint, last, -, -⟩
    have sameKey := OptionsKey.fingerprint_injective (fingerprint.symm.trans sameFingerprint)
    rw [last, current, sameKey, state]
  · intro last
    cases remembered : session.table.memo with
    | none =>
        rw [faithful.nothing remembered] at last
        cases last
    | some memo =>
        rcases faithful.remembers memo remembered with ⟨earlier, -, fingerprint, lastToo, -, -⟩
        rcases Prod.mk.inj (Option.some.inj (lastToo.symm.trans last)) with ⟨current, sameKey⟩
        exact ⟨memo.routes, remembered?_eq_some_iff.mpr
          ⟨memo, remembered, current, sameKey ▸ fingerprint, rfl⟩⟩

/-! ## Every call keeps the memory right -/

/-- A change of the tree makes what is remembered out of date, or is none. -/
theorem Faithful.of_change (faithful : session.Faithful naming) {tree : RouteTree}
    (changed : tree = session.table.tree ∨
      tree.generation = session.table.tree.generation + 1) :
    (Session.mk { session.table with tree := tree } session.computed).Faithful naming where
  nothing := faithful.nothing
  remembers memo remembered := by
    rcases faithful.remembers memo remembered with
      ⟨earlier, named, fingerprint, last, past, computed⟩
    rcases changed with rfl | moved
    · exact ⟨earlier, named, fingerprint, last, past, computed⟩
    · refine ⟨earlier, named, fingerprint, last, ?_, ?_⟩
      · dsimp only
        omega
      · intro current
        dsimp only at current
        omega

theorem call_nested_of_remembered?_eq_some {routes : Forest NestedRoute}
    (recalled : session.table.remembered? options = some routes) :
    session.call (.nested options) = session := by
  simp [call, after, computedAfter, RouteTable.nested, recalled]

theorem call_nested_of_remembered?_eq_none (forgotten : session.table.remembered? options = none) :
    session.call (.nested options) =
      ⟨{ session.table with
          memo := some ⟨session.table.tree.generation, options.key.fingerprint,
            session.table.tree.nestedRoutes options⟩ },
        session.state options :: session.computed⟩ := by
  simp [call, after, computedAfter, RouteTable.nested, RouteTree.nestedAnswer, forgotten]

theorem Faithful.nested (faithful : session.Faithful naming) (named : options.NamedBy naming) :
    (session.call (.nested options)).Faithful naming := by
  cases recalled : session.table.remembered? options with
  | some routes => rwa [call_nested_of_remembered?_eq_some recalled]
  | none =>
      rw [call_nested_of_remembered?_eq_none recalled]
      constructor
      · intro empty
        cases empty
      · intro memo remembered
        rcases Option.some.inj remembered with rfl
        exact ⟨options, named, rfl, rfl, Nat.le_refl _, fun _ => rfl⟩

theorem Faithful.call (faithful : session.Faithful naming) {call : Call}
    (named : call.NamedBy naming) : (session.call call).Faithful naming := by
  cases call with
  | add input options reader =>
      apply faithful.of_change
      exact session.table.tree.add_eq_self_or_generation_add input options reader
  | remove path =>
      apply faithful.of_change
      exact .inr (session.table.tree.generation_remove path)
  | nested options => exact faithful.nested named

theorem Faithful.run (faithful : session.Faithful naming) {calls : List Call}
    (named : ∀ call ∈ calls, call.NamedBy naming) : (session.run calls).Faithful naming := by
  induction calls generalizing session with
  | nil => exact faithful
  | cons first later inductionHypothesis =>
      apply inductionHypothesis (faithful.call (named first List.mem_cons_self))
      intro call listed
      exact named call (List.mem_cons_of_mem _ listed)

end Session

/-! ## Answers -/

/-- A table that has to compute routes gives the answer of its tree. -/
theorem nested_of_remembered?_eq_none {table : RouteTable} {options : NestedOptions}
    (forgotten : table.remembered? options = none) :
    (table.nested options).2 = table.tree.nestedAnswer options := by
  rw [nested, forgotten]

theorem nested_of_remembered?_eq_some {table : RouteTable} {options : NestedOptions}
    {routes : Forest NestedRoute} (recalled : table.remembered? options = some routes) :
    (table.nested options).2 = ⟨routes, []⟩ := by
  rw [nested, recalled]

/-- After calls that agree on the naming function, a table gives the routes of its tree, whether
it computes them or not.  It reports duplicate names only when it computes, and it computes when
the generation or the key of the options is not that of the last routes computed. -/
theorem nested_of_run (tree : RouteTree) {naming : Text → Text} {calls : List Call}
    {options : NestedOptions}
    (agreed : ∀ call ∈ calls ++ [.nested options], call.NamedBy naming) :
    let session := (Session.start tree).run calls
    (session.table.nested options).2.routes = session.table.tree.nestedRoutes options ∧
      ((session.table.nested options).2.duplicates ≠ [] →
        session.table.remembered? options = none) ∧
      (session.table.remembered? options = none ↔
        session.computed.head? ≠ some (session.table.tree.generation, options.key)) := by
  intro session
  have faithful : session.Faithful naming := by
    apply (Session.faithful_start tree naming).run
    intro call listed
    exact agreed call (List.mem_append_left _ listed)
  have named : options.NamedBy naming :=
    agreed (.nested options) (List.mem_append_right _ (List.mem_singleton_self _))
  refine ⟨?_, ?_, faithful.remembered?_eq_none_iff⟩
  · cases recalled : session.table.remembered? options with
    | none => rw [nested_of_remembered?_eq_none recalled, RouteTree.nestedAnswer]
    | some routes =>
        rw [nested_of_remembered?_eq_some recalled, faithful.eq_of_remembered? named recalled]
  · intro reported
    cases recalled : session.table.remembered? options with
    | none => rfl
    | some routes =>
        rw [nested_of_remembered?_eq_some recalled] at reported
        exact absurd rfl reported

/-- Removing a file that is not there makes the table compute again. -/
theorem nested_after_idle_removal :
    let options : NestedOptions := { nameOf := some id, reports := true }
    let calls : List Call := [.add (.file ['a'] 0) {} none, .nested options, .remove ['b']]
    let session := (Session.start .empty).run calls
    (session.table.nested options).2.routes = session.table.tree.nestedRoutes options ∧
      session.table.remembered? options = none := by
  intro options calls session
  have agreed : ∀ call ∈ calls ++ [.nested options], call.NamedBy id := by
    intro call listed
    simp only [calls, List.cons_append, List.nil_append, List.mem_cons, List.not_mem_nil,
      or_false] at listed
    rcases listed with rfl | rfl | rfl | rfl
    · trivial
    · exact .inr rfl
    · trivial
    · exact .inr rfl
  rcases nested_of_run .empty agreed with ⟨routes, -, recomputes⟩
  refine ⟨routes, recomputes.mpr ?_⟩
  decide +kernel

end RouteTable
end FileRoutes
