import FileRoutes.Proofs.NestedRoute.Look

/-!
# Catch-alls that a row goes on after

A catch-all has its inner spelling where the row goes on after it, and that spelling is the only
thing in a path with a square bracket.  `innerCatchalls` lists the parts of a row that end in such a
catch-all.
-/

namespace FileRoutes

open RoutePath

namespace Look

def hasCatchall (look : Look) : Bool :=
  look.tokens.hasCatchall

def isIndex (look : Look) : Bool :=
  look.tokens.isIndex

end Look

namespace Segment

variable {segment : Segment}

@[simp]
theorem hasCatchall_look (segment : Segment) : segment.look.hasCatchall = segment.hasCatchall :=
  segment.hasCatchall_map_shown

@[simp]
theorem isIndex_look (segment : Segment) : segment.look.isIndex = segment.isIndex :=
  decide_eq_decide.mpr map_shown_eq_index_iff

end Segment

/-! ## Square brackets -/

theorem Token.Readable.bracket_mem_routeSyntax_iff {token : Token} (readable : token.Readable)
    (followed : Bool) :
    '[' ∈ token.routeSyntax followed ↔ token.isCatchall = true ∧ followed = true := by
  cases token with
  | literal text => exact iff_of_false (bracket_not_mem_encode text) nofun
  | group name => exact iff_of_false List.not_mem_nil nofun
  | parameter kind name =>
      have free := bracket_not_mem_of_isNameChar readable.1
      cases kind with
      | catchall =>
          cases followed with
          | false => exact iff_of_false (readable.unifies true).not_mem (by simp)
          | true =>
              have inside : '[' ∈ ':' :: catchallName name ++ innerCatchall :=
                List.mem_append_right _ (by decide)
              exact iff_of_true inside ⟨rfl, rfl⟩
      | dynamic | optional | repeatable | optionalRepeatable =>
          simp [routeSyntax, ParameterKind.routeSyntax, free, isCatchall]

theorem Segment.bracket_mem_routeSyntax_iff {segment : Segment}
    (each : ∀ token ∈ segment, token.Readable) (followed : Bool) :
    '[' ∈ segment.routeSyntax followed ↔ segment.hasCatchall = true ∧ followed = true := by
  unfold routeSyntax hasCatchall
  rw [List.mem_flatMap, List.any_eq_true]
  constructor
  · rintro ⟨token, listed, inside⟩
    rcases ((each token listed).bracket_mem_routeSyntax_iff followed).mp inside with
      ⟨catchall, isFollowed⟩
    exact ⟨⟨token, listed, catchall⟩, isFollowed⟩
  · rintro ⟨⟨token, listed, catchall⟩, isFollowed⟩
    have inside := ((each token listed).bracket_mem_routeSyntax_iff followed).mpr
      ⟨catchall, isFollowed⟩
    exact ⟨token, listed, inside⟩

/-! ## Rows -/

/-- The parts of a row, from its beginning, that end in a catch-all and that the row goes on after
with more than the index page. -/
def innerCatchalls : List Look → List (List Look)
  | look :: next :: later =>
      let onward := (innerCatchalls (next :: later)).map (look :: ·)
      if look.hasCatchall && !next.isIndex then [look] :: onward else onward
  | _ => []

section

variable {known : List (List Look)} {row base run front other : List Look} {look : Look}

theorem mem_innerCatchalls_cons :
    front ∈ innerCatchalls (look :: row) ↔
      (front = [look] ∧ look.hasCatchall = true ∧ ∃ next ∈ row.head?, next.isIndex = false) ∨
        ∃ rest ∈ innerCatchalls row, front = look :: rest := by
  have onward : front ∈ (innerCatchalls row).map (look :: ·) ↔
      ∃ rest ∈ innerCatchalls row, front = look :: rest :=
    List.mem_map.trans (exists_congr fun rest => and_congr_right' eq_comm)
  cases row with
  | nil => simp [innerCatchalls]
  | cons next later =>
      rw [innerCatchalls, ← onward]
      split
      · next inner =>
        have isInner : look.hasCatchall = true ∧ next.isIndex = false := by simpa using inner
        simp [isInner]
      · next outer =>
        have notInner : ¬(look.hasCatchall = true ∧ next.isIndex = false) := by simpa using outer
        simp [notInner]

theorem innerCatchalls_eq_nil (free : ∀ look ∈ row, look.hasCatchall = false) :
    innerCatchalls row = [] := by
  induction row with
  | nil => rfl
  | cons look later inductionHypothesis =>
      rcases List.forall_mem_cons.mp free with ⟨simple, others⟩
      apply List.eq_nil_iff_forall_not_mem.mpr
      intro front inner
      rcases mem_innerCatchalls_cons.mp inner with ⟨-, catchall, -⟩ | ⟨rest, isRest, -⟩
      · exact absurd (simple ▸ catchall) Bool.false_ne_true
      · rw [inductionHypothesis others] at isRest
        cases isRest

theorem innerCatchalls_concat_concat (row : List Look) (look next : Look) :
    innerCatchalls (row ++ [look, next]) = innerCatchalls (row ++ [look]) ++
      if look.hasCatchall && !next.isIndex then [row ++ [look]] else [] := by
  induction row with
  | nil => simp [innerCatchalls]
  | cons first later inductionHypothesis =>
      cases later with
      | nil =>
          rw [List.nil_append, List.nil_append] at inductionHypothesis
          simp only [List.cons_append, List.nil_append, innerCatchalls]
          split <;> split <;> simp
      | cons second rest =>
          simp only [List.cons_append] at inductionHypothesis ⊢
          rw [innerCatchalls, innerCatchalls, inductionHypothesis]
          split <;> split <;> simp

theorem innerCatchalls_append_left (inner : front ∈ innerCatchalls base) (run : List Look) :
    front ∈ innerCatchalls (base ++ run) := by
  induction base generalizing front with
  | nil => cases inner
  | cons look later inductionHypothesis =>
      rw [List.cons_append, mem_innerCatchalls_cons]
      rcases mem_innerCatchalls_cons.mp inner with ⟨isFront, catchall, next, isNext, goesOn⟩ |
        ⟨rest, isRest, rfl⟩
      · refine .inl ⟨isFront, catchall, next, ?_, goesOn⟩
        exact List.mem_head?_append_of_mem_head? isNext
      · exact .inr ⟨rest, inductionHypothesis isRest, rfl⟩

theorem innerCatchalls_append_right (base : List Look) (inner : front ∈ innerCatchalls run) :
    base ++ front ∈ innerCatchalls (base ++ run) := by
  induction base with
  | nil => exact inner
  | cons look later inductionHypothesis =>
      exact mem_innerCatchalls_cons.mpr (.inr ⟨_, inductionHypothesis, rfl⟩)

theorem mem_innerCatchalls_append (inner : front ∈ innerCatchalls (base ++ run)) :
    front ∈ innerCatchalls base ∨ front = base ∨
      ∃ rest ∈ innerCatchalls run, front = base ++ rest := by
  induction base generalizing front with
  | nil => exact .inr (.inr ⟨front, inner, rfl⟩)
  | cons look later inductionHypothesis =>
      rcases mem_innerCatchalls_cons.mp inner with ⟨isFront, catchall, next, isNext, goesOn⟩ |
        ⟨rest, isRest, rfl⟩
      · cases later with
        | nil => exact .inr (.inl isFront)
        | cons second more =>
            exact .inl (mem_innerCatchalls_cons.mpr (.inl ⟨isFront, catchall, next, isNext, goesOn⟩))
      · rcases inductionHypothesis isRest with within | rfl | ⟨beyond, isBeyond, rfl⟩
        · exact .inl (mem_innerCatchalls_cons.mpr (.inr ⟨rest, within, rfl⟩))
        · exact .inr (.inl rfl)
        · exact .inr (.inr ⟨beyond, isBeyond, rfl⟩)

/-- The row goes on after each of its parts. -/
theorem exists_of_mem_innerCatchalls (inner : front ∈ innerCatchalls row) :
    front ≠ [] ∧ ∃ next later, row = front ++ next :: later := by
  induction row generalizing front with
  | nil => cases inner
  | cons look later inductionHypothesis =>
      rcases mem_innerCatchalls_cons.mp inner with ⟨rfl, -, next, isNext, -⟩ | ⟨rest, isRest, rfl⟩
      · rcases List.head?_eq_some_iff.mp isNext with ⟨more, rfl⟩
        exact ⟨List.cons_ne_nil _ _, next, more, rfl⟩
      · rcases inductionHypothesis isRest with ⟨-, next, more, rfl⟩
        exact ⟨List.cons_ne_nil _ _, next, more, rfl⟩

end

end FileRoutes
