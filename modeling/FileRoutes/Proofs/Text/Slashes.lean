import FileRoutes.Text.Basic

/-!
# Cutting a text at its slashes

A text is cut at its slashes and put together again without loss, in both directions: what stands
between two slashes holds none, and parts without slashes are found again.
-/

namespace FileRoutes
namespace Text

variable {text piece : Text} {parts : List Text}

/-- Two texts that are each cut at the end of a run are cut at the same place. -/
theorem append_inj_of_run {inRun : Char → Bool} {front back rest more : Text}
    (run : ∀ c ∈ front, inRun c = true) (runToo : ∀ c ∈ back, inRun c = true)
    (ends : ∀ c ∈ rest.head?, inRun c = false) (endsToo : ∀ c ∈ more.head?, inRun c = false)
    (same : front ++ rest = back ++ more) : front = back ∧ rest = more := by
  have taken {front rest : Text} (run : ∀ c ∈ front, inRun c = true)
      (ends : ∀ c ∈ rest.head?, inRun c = false) : (front ++ rest).takeWhile inRun = front := by
    rw [List.takeWhile_append_of_pos run]
    cases rest with
    | nil => exact List.append_nil front
    | cons c later =>
        have stops : ¬inRun c = true := by simp [ends c rfl]
        rw [List.takeWhile_cons_of_neg stops, List.append_nil]
  have fronts : front = back := by rw [← taken run ends, same, taken runToo endsToo]
  exact ⟨fronts, List.append_cancel_left (fronts ▸ same)⟩

theorem slash_not_mem_of_mem_splitOn (listed : piece ∈ text.splitOn '/') : '/' ∉ piece := by
  induction text generalizing piece with
  | nil =>
      rw [List.splitOn_nil, List.mem_singleton] at listed
      rw [listed]
      exact List.not_mem_nil
  | cons c rest inductionHypothesis =>
      rw [List.splitOn_cons_eq_if_modifyHead] at listed
      split at listed
      · rcases List.mem_cons.mp listed with rfl | listed
        · exact List.not_mem_nil
        · exact inductionHypothesis listed
      · next other =>
        rcases List.exists_cons_of_ne_nil (List.splitOn_ne_nil '/' rest) with ⟨first, later, cut⟩
        rw [cut] at listed inductionHypothesis
        rcases List.mem_cons.mp listed with rfl | listed
        · have different : '/' ≠ c := by
            rintro rfl
            exact other rfl
          exact List.not_mem_cons_of_ne_of_not_mem different
            (inductionHypothesis List.mem_cons_self)
        · exact inductionHypothesis (List.mem_cons_of_mem _ listed)

theorem slash_not_mem_of_mem_pieces (listed : piece ∈ text.pieces) : '/' ∉ piece :=
  slash_not_mem_of_mem_splitOn (List.mem_filter.mp listed).1

theorem slashed_splitOn (text : Text) : slashed (text.splitOn '/') = text :=
  List.intercalate_splitOn '/'

theorem splitOn_slashed (free : ∀ part ∈ parts, '/' ∉ part) (nonempty : parts ≠ []) :
    (slashed parts).splitOn '/' = parts :=
  List.splitOn_intercalate '/' free nonempty

/-- Parts that hold something other than separators are found again between them. -/
theorem filter_splitOn_intercalate {separator : Char} (free : ∀ part ∈ parts, separator ∉ part)
    (filled : ∀ part ∈ parts, part ≠ []) :
    ((List.intercalate [separator] parts).splitOn separator).filter (· ≠ []) = parts := by
  cases parts with
  | nil => rfl
  | cons part later =>
      rw [List.splitOn_intercalate separator free (List.cons_ne_nil _ _)]
      apply List.filter_eq_self.mpr
      intro part listed
      exact decide_eq_true (filled part listed)

/-- Parts that hold something other than separators are told apart by what they make. -/
theorem eq_of_intercalate_eq {separator : Char} {others : List Text}
    (free : ∀ part ∈ parts, separator ∉ part) (filled : ∀ part ∈ parts, part ≠ [])
    (freeToo : ∀ part ∈ others, separator ∉ part) (filledToo : ∀ part ∈ others, part ≠ [])
    (same : List.intercalate [separator] parts = List.intercalate [separator] others) :
    parts = others := by
  rw [← filter_splitOn_intercalate free filled, same, filter_splitOn_intercalate freeToo filledToo]

theorem pieces_slashed (free : ∀ part ∈ parts, '/' ∉ part) (filled : ∀ part ∈ parts, part ≠ []) :
    (slashed parts).pieces = parts :=
  filter_splitOn_intercalate free filled

@[simp]
theorem slashed_nil : slashed [] = [] := rfl

@[simp]
theorem slashed_singleton (part : Text) : slashed [part] = part := by
  simp [slashed, List.intercalate]

theorem slashed_cons {part : Text} (nonempty : parts ≠ []) :
    slashed (part :: parts) = part ++ '/' :: slashed parts := by
  rcases List.exists_cons_of_ne_nil nonempty with ⟨next, later, rfl⟩
  simp [slashed, List.intercalate]

theorem flatMap_slash_eq {first : Text} {pieces : List Text} :
    first ++ pieces.flatMap ('/' :: ·) = slashed (first :: pieces) := by
  induction pieces generalizing first with
  | nil => rw [List.flatMap_nil, List.append_nil, slashed_singleton]
  | cons next later inductionHypothesis =>
      rw [slashed_cons (List.cons_ne_nil _ _), ← inductionHypothesis, List.flatMap_cons]
      rfl

theorem slashed_append {others : List Text} (nonempty : parts ≠ []) (nonemptyToo : others ≠ []) :
    slashed (parts ++ others) = slashed parts ++ '/' :: slashed others := by
  induction parts with
  | nil => exact absurd rfl nonempty
  | cons part later inductionHypothesis =>
      by_cases empty : later = []
      · subst empty
        rw [List.singleton_append, slashed_cons nonemptyToo, slashed_singleton]
      · rw [List.cons_append, slashed_cons (List.append_ne_nil_of_left_ne_nil empty _),
          inductionHypothesis empty, slashed_cons empty, List.append_assoc, List.cons_append]

theorem slashed_concat (nonempty : parts ≠ []) (part : Text) :
    slashed (parts ++ [part]) = slashed parts ++ '/' :: part := by
  rw [slashed_append nonempty (List.cons_ne_nil _ _), slashed_singleton]

theorem slashed_cons_ne_nil {part : Text} (filled : part ≠ []) (others : List Text) :
    slashed (part :: others) ≠ [] := by
  by_cases empty : others = []
  · subst empty
    rwa [slashed_singleton]
  · rw [slashed_cons empty]
    exact List.append_ne_nil_of_left_ne_nil filled _

/-- Parts of which the first one is filled are told apart by what they make. -/
theorem eq_of_slashed_of_head? {others : List Text} (free : ∀ part ∈ parts, '/' ∉ part)
    (filled : ∀ part ∈ parts.head?, part ≠ []) (freeToo : ∀ part ∈ others, '/' ∉ part)
    (filledToo : ∀ part ∈ others.head?, part ≠ []) (same : slashed parts = slashed others) :
    parts = others := by
  cases parts with
  | nil =>
      cases others with
      | nil => rfl
      | cons other more => exact absurd same.symm (slashed_cons_ne_nil (filledToo other rfl) more)
  | cons part later =>
      cases others with
      | nil => exact absurd same (slashed_cons_ne_nil (filled part rfl) later)
      | cons other more =>
          rw [← splitOn_slashed free (List.cons_ne_nil _ _), same,
            splitOn_slashed freeToo (List.cons_ne_nil _ _)]

theorem eq_of_slashed_eq {others : List Text} (free : ∀ part ∈ parts, '/' ∉ part)
    (filled : ∀ part ∈ parts, part ≠ []) (freeToo : ∀ part ∈ others, '/' ∉ part)
    (filledToo : ∀ part ∈ others, part ≠ []) (same : slashed parts = slashed others) :
    parts = others :=
  eq_of_intercalate_eq free filled freeToo filledToo same

end Text
end FileRoutes
