import FileRoutes.NestedRoute.Draft
import FileRoutes.Proofs.Text.NaturalOrder

/-!
# The order of drafts

Drafts are compared by their scores and then by their paths.  Both comparisons are transitive and
identify nothing that differs, so drafts are preordered, and two of them are equal only in what is
compared.  The scores stand for seven kinds of segments, from literal text down to a catch-all that
ends the route.
-/

namespace FileRoutes

/-! ## Scores -/

/-- Numbers from the greatest down. -/
def compareDown (first second : Nat) : Ordering :=
  Ord.compare second first

instance transCmp_compareDown : Std.TransCmp compareDown :=
  inferInstanceAs (Std.TransCmp fun first second : Nat => Ord.compare second first)

instance lawfulEqCmp_compareDown : Std.LawfulEqCmp compareDown where
  eq_of_compare same := by
    have equal := Nat.compare_eq_eq.mp same
    exact equal.symm

theorem compareScores_eq_compareLex : compareScores = List.compareLex compareDown := by
  funext firsts seconds
  fun_induction compareScores firsts seconds with
  | case1 firsts first seconds inductionHypothesis =>
      have same : compareDown first first = .eq := Std.ReflCmp.compare_self
      rw [List.compareLex_cons_cons, inductionHypothesis, same]
      rfl
  | case2 first firsts second seconds differ =>
      have notSame : compareDown first second ≠ .eq := fun same =>
        differ (Std.LawfulEqCmp.eq_of_compare same)
      rw [List.compareLex_cons_cons]
      change compareDown first second = _
      cases decides : compareDown first second with
      | eq => exact absurd decides notSame
      | lt | gt => rfl
  | case3 | case4 | case5 => rfl

instance transCmp_compareScores : Std.TransCmp compareScores :=
  compareScores_eq_compareLex ▸ inferInstance

instance lawfulEqCmp_compareScores : Std.LawfulEqCmp compareScores :=
  compareScores_eq_compareLex ▸ inferInstance

/-- Scores come before others that are lower where they first differ, and before those that go on
from them. -/
abbrev ScoresBefore : List Nat → List Nat → Prop :=
  List.Lex fun first second => second < first

theorem compareScores_eq_lt_iff {firsts seconds : List Nat} :
    compareScores firsts seconds = .lt ↔ ScoresBefore firsts seconds := by
  fun_induction compareScores firsts seconds with
  | case1 firsts first seconds inductionHypothesis =>
      rw [inductionHypothesis]
      constructor
      · exact .cons
      · intro before
        cases before with
        | rel lower => exact absurd lower (Nat.lt_irrefl first)
        | cons later => exact later
  | case2 first firsts second seconds differ =>
      rw [Nat.compare_eq_lt]
      constructor
      · exact fun lower => .rel lower
      · intro before
        cases before with
        | rel lower => exact lower
        | cons => exact absurd rfl differ
  | case3 => exact iff_of_false nofun nofun
  | case4 => exact iff_of_true rfl .nil
  | case5 => exact iff_of_false nofun nofun

/-- Where scores first differ, those that come before are higher. -/
theorem lt_of_scoresBefore {common firsts seconds : List Nat} {first second : Nat}
    (before : ScoresBefore (common ++ first :: firsts) (common ++ second :: seconds))
    (differ : first ≠ second) : second < first := by
  induction common with
  | nil =>
      cases before with
      | rel lower => exact lower
      | cons => exact absurd rfl differ
  | cons next common inductionHypothesis =>
      cases before with
      | rel lower => exact absurd lower (Nat.lt_irrefl next)
      | cons later => exact inductionHypothesis later

/-! ## Drafts -/

theorem transCmp_on {α β : Type} (key : α → β) (cmp : β → β → Ordering) [Std.TransCmp cmp] :
    Std.TransCmp fun first second => cmp (key first) (key second) where
  eq_swap := Std.OrientedCmp.eq_swap
  isLE_trans before after := @Std.TransCmp.isLE_trans _ cmp _ _ _ _ before after

namespace Draft

instance transCmp_compare : Std.TransCmp compare := by
  have byScores := transCmp_on scores compareScores
  have byPath := transCmp_on path Text.naturalCompare
  exact inferInstanceAs (Std.TransCmp (compareLex
    (fun first second : Draft => compareScores first.scores second.scores)
    fun first second : Draft => Text.naturalCompare first.path second.path))

/-- A draft stands before those with later scores, and before those with the same scores whose path
is no earlier. -/
def Before (first second : Draft) : Prop :=
  ScoresBefore first.scores second.scores ∨
    first.scores = second.scores ∧ (Text.naturalCompare first.path second.path).isLE = true

theorem isLE_compare_iff {first second : Draft} :
    (first.compare second).isLE = true ↔ first.Before second := by
  rw [compare, Ordering.isLE_then_iff_or, compareScores_eq_lt_iff,
    Std.LawfulEqCmp.compare_eq_iff_eq, Before]

theorem compare_eq_eq_iff {first second : Draft} :
    first.compare second = .eq ↔ first.scores = second.scores ∧ first.path = second.path := by
  rw [compare, Ordering.then_eq_eq, Std.LawfulEqCmp.compare_eq_iff_eq,
    Std.LawfulEqCmp.compare_eq_iff_eq]

end Draft

/-! ## Specificities -/

/-- How specific a segment is. -/
inductive Specificity where
  | literal
  | dynamic
  | repeatable
  | optional
  | optionalRepeatable
  /-- A catch-all that something other than an index page follows. -/
  | innerCatchall
  /-- A catch-all that ends the path. -/
  | finalCatchall
deriving DecidableEq, Repr

namespace Specificity

/-- The most specific first. -/
def order : List Specificity :=
  [literal, dynamic, repeatable, optional, optionalRepeatable, innerCatchall, finalCatchall]

def Leads (first second : Specificity) : Prop :=
  [first, second].Sublist order

instance (first second : Specificity) : Decidable (first.Leads second) :=
  inferInstanceAs (Decidable ([first, second].Sublist order))

/-- The score that stands for a specificity. -/
def score (specificity : Specificity) : Nat :=
  6 - order.idxOf specificity

theorem score_lt_iff (first second : Specificity) :
    second.score < first.score ↔ first.Leads second := by
  cases first <;> cases second <;> decide

theorem pairwise_order : order.reverse.Pairwise fun first second => first.score < second.score := by
  decide

theorem mem_order (specificity : Specificity) : specificity ∈ order.reverse := by
  cases specificity <;> decide

/-- The last in the order among some of them. -/
def leastAmong (kinds : List Specificity) : Specificity :=
  (order.reverse.find? (· ∈ kinds)).getD literal

theorem leastAmong_spec (kinds : List Specificity) :
    (leastAmong kinds = literal ∨ leastAmong kinds ∈ kinds) ∧
      ∀ kind ∈ kinds, (leastAmong kinds).score ≤ kind.score := by
  rw [leastAmong]
  cases found : order.reverse.find? (· ∈ kinds) with
  | none =>
      refine ⟨.inl rfl, fun kind listed => ?_⟩
      have missing := List.find?_eq_none.mp found kind kind.mem_order
      exact absurd (decide_eq_true listed) missing
  | some last =>
      rcases List.find?_eq_some_iff_append.mp found with ⟨isKind, absent, later, split, before⟩
      refine ⟨.inr (of_decide_eq_true isKind), fun kind listed => ?_⟩
      have inOrder := pairwise_order
      have ordered := kind.mem_order
      rw [split] at inOrder ordered
      rcases List.mem_append.mp ordered with isAbsent | ordered
      · exact absurd listed (by simpa using before kind isAbsent)
      · rcases List.mem_cons.mp ordered with rfl | isLater
        · exact Nat.le_refl _
        · have lower := (List.pairwise_append.mp inOrder).2.1
          exact Nat.le_of_lt (List.rel_of_pairwise_cons lower isLater)

end Specificity

/-- The specificity of a token: groups do not count. -/
def Token.specificity (followed : Bool) : Token → Specificity
  | .literal _ | .group _ => .literal
  | .parameter .dynamic _ => .dynamic
  | .parameter .repeatable _ => .repeatable
  | .parameter .optional _ => .optional
  | .parameter .optionalRepeatable _ => .optionalRepeatable
  | .parameter .catchall _ => if followed then .innerCatchall else .finalCatchall

theorem Specificity.score_injective : Function.Injective score := by
  intro first second same
  cases first <;> cases second <;> first | rfl | cases same

theorem Token.score_eq (followed : Bool) (token : Token) :
    token.score followed = (token.specificity followed).score := by
  rcases token with text | ⟨kind, name⟩ | text
  · rfl
  · cases kind <;> cases followed <;> rfl
  · rfl

/-- A segment is as specific as the least specific of its tokens. -/
def Segment.specificity (followed : Bool) (segment : Segment) : Specificity :=
  Specificity.leastAmong (segment.map (Token.specificity followed))

theorem Segment.score_eq (followed : Bool) (segment : Segment) :
    segment.score followed = (segment.specificity followed).score := by
  let kinds : List Specificity := segment.map (Token.specificity followed)
  have scores : segment.map (Token.score followed) = kinds.map Specificity.score := by
    rw [List.map_map]
    exact List.map_congr_left fun token _ => token.score_eq followed
  have least : (6 :: kinds.map Specificity.score).min? =
      some (Specificity.leastAmong kinds).score := by
    rcases Specificity.leastAmong_spec kinds with ⟨among, below⟩
    rw [List.min?_eq_some_iff, List.mem_cons, List.forall_mem_cons, List.forall_mem_map]
    refine ⟨?_, Nat.sub_le 6 _, below⟩
    exact among.imp (congrArg Specificity.score) List.mem_map_of_mem
  rw [Segment.score, scores]
  exact Option.some.inj least

/-- The specificities of the segments of a path, which index pages do not count in. -/
def specificities : List Segment → List Specificity
  | [] => []
  | segment :: later =>
      if segment.isIndex then specificities later
      else segment.specificity (RoutePath.goesOn later) :: specificities later

/-- Of two drafts in order, the more specific one stands first where the kinds of their segments
first differ. -/
theorem Draft.leads_of_isLE_compare {first second : Draft}
    (inOrder : (first.compare second).isLE = true) (common : List Specificity)
    (kind other : Specificity) (later others : List Specificity)
    (firstKinds : first.scores = (common ++ kind :: later).map Specificity.score)
    (secondKinds : second.scores = (common ++ other :: others).map Specificity.score)
    (differ : kind ≠ other) : kind.Leads other := by
  rcases isLE_compare_iff.mp inOrder with before | ⟨same, -⟩
  · rw [firstKinds, secondKinds, List.map_append, List.map_append] at before
    apply (Specificity.score_lt_iff kind other).mp
    exact lt_of_scoresBefore before (Specificity.score_injective.ne differ)
  · rw [firstKinds, secondKinds] at same
    have sameKinds : common ++ kind :: later = common ++ other :: others :=
      (List.map_inj_right fun _ _ equal => Specificity.score_injective equal).mp same
    exact absurd (List.cons.inj (List.append_cancel_left sameKinds)).1 differ

end FileRoutes
