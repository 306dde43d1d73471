import FileRoutes.Proofs.NestedRoute.InnerCatchalls
import Mathlib.Data.List.Infix

/-!
# Open rows

Drafts keep their paths as they were spelled, while the path that a draft is looked for by is
unified, so no route goes down into a draft with an inner catch-all in its path.  A row is open if
each of its inner catch-alls ends a known row.  Then no draft for the row has one in its path, since
it stands below the drafts for those rows, and each of them has the catch-all at the end of its own.
-/

namespace FileRoutes

variable {known : List (List Look)} {row base run other : List Look} {look : Look}

/-! ## Prefixes -/

/-- The known rows that a row begins with, the shortest first. -/
def prefixesIn (known : List (List Look)) (row : List Look) : List (List Look) :=
  row.inits.filter (· ∈ known)

theorem mem_prefixesIn_iff : other ∈ prefixesIn known row ↔ other <+: row ∧ other ∈ known := by
  rw [prefixesIn, List.mem_filter, List.mem_inits, decide_eq_true_iff]

/-- Of two known prefixes the shorter comes first. -/
theorem pairwise_prefixesIn (known : List (List Look)) (row : List Look) :
    (prefixesIn known row).Pairwise fun first second => first.length < second.length := by
  apply List.Pairwise.filter
  induction row with
  | nil => exact List.pairwise_singleton _ _
  | cons look later inductionHypothesis =>
      rw [List.inits, List.pairwise_cons]
      constructor
      · intro front listed
        rcases List.mem_map.mp listed with ⟨rest, -, rfl⟩
        exact Nat.zero_lt_succ _
      · apply List.pairwise_map.mpr
        exact inductionHypothesis.imp fun shorter => Nat.succ_lt_succ shorter

theorem prefixesIn_concat_of_mem (listed : row ++ [look] ∈ known) :
    prefixesIn known (row ++ [look]) = prefixesIn known row ++ [row ++ [look]] := by
  simp [prefixesIn, List.inits_append, listed]

theorem prefixesIn_concat_of_not_mem (absent : row ++ [look] ∉ known) :
    prefixesIn known (row ++ [look]) = prefixesIn known row := by
  simp [prefixesIn, List.inits_append, absent]

theorem prefixesIn_dropLast (absent : row ∉ known) :
    prefixesIn known row.dropLast = prefixesIn known row := by
  rcases List.eq_nil_or_concat' row with rfl | ⟨front, look, rfl⟩
  · rfl
  · rw [List.dropLast_concat, prefixesIn_concat_of_not_mem absent]

/-- A row goes on from those that it begins with without its last segment. -/
theorem prefix_dropLast_iff (nonempty : row ≠ []) :
    other <+: row.dropLast ↔ other <+: row ∧ other ≠ row := by
  rcases List.eq_nil_or_concat' row with empty | ⟨front, look, rfl⟩
  · exact absurd empty nonempty
  · have shorter : other <+: front → other ≠ front ++ [look] := by
      rintro isPrefix rfl
      have length := isPrefix.length_le
      rw [List.length_append, List.length_singleton] at length
      omega
    rw [List.dropLast_concat, List.prefix_concat_iff]
    exact ⟨fun begins => ⟨.inr begins, shorter begins⟩, fun both => both.1.resolve_left both.2⟩

/-- The last of the known prefixes is the longest. -/
theorem getLast?_prefixesIn (known : List (List Look)) (row : List Look) :
    ((prefixesIn known row).getLast?.getD [] = [] ∨
      (prefixesIn known row).getLast?.getD [] ∈ known) ∧
      ∀ other ∈ prefixesIn known row,
        other.length ≤ ((prefixesIn known row).getLast?.getD []).length := by
  have shorter := pairwise_prefixesIn known row
  have each {other : List Look} (listed : other ∈ prefixesIn known row) : other ∈ known :=
    (mem_prefixesIn_iff.mp listed).2
  generalize prefixesIn known row = prefixes at shorter each
  rcases List.eq_nil_or_concat' prefixes with rfl | ⟨front, longest, rfl⟩
  · exact ⟨.inl rfl, fun other listed => absurd listed List.not_mem_nil⟩
  · rw [List.getLast?_concat, Option.getD_some]
    have isLast : longest ∈ front ++ [longest] :=
      List.mem_append_right _ (List.mem_singleton_self _)
    refine ⟨.inr (each isLast), ?_⟩
    intro other listed
    rcases List.mem_append.mp listed with before | same
    · exact Nat.le_of_lt ((List.pairwise_append.mp shorter).2.2 other before longest
        (List.mem_singleton_self _))
    · rw [List.mem_singleton.mp same]

/-! ## Open rows -/

/-- A row is open if all its parts that end in an inner catch-all are known. -/
def IsOpen (known : List (List Look)) (row : List Look) : Prop :=
  ∀ front ∈ innerCatchalls row, front ∈ known

instance (known : List (List Look)) (row : List Look) : Decidable (IsOpen known row) :=
  inferInstanceAs (Decidable (∀ front ∈ innerCatchalls row, front ∈ known))

theorem IsOpen.of_append (isOpen : IsOpen known (base ++ run)) : IsOpen known base :=
  fun front inner => isOpen front (innerCatchalls_append_left inner run)

/-- The known rows that are open. -/
def openRows (known : List (List Look)) : List (List Look) :=
  known.filter (IsOpen known ·)

theorem mem_openRows_iff : row ∈ openRows known ↔ row ∈ known ∧ IsOpen known row := by
  rw [openRows, List.mem_filter, decide_eq_true_iff]

/-- Behind the longest open row that a row goes on from, it has no inner catch-all if and only if it
is open. -/
theorem isOpen_append_iff {reach : List Look}
    (isBase : base = (prefixesIn (openRows known) reach).getLast?.getD [])
    (within : ∀ row, row <+: base ++ run → row ≠ base ++ run → row <+: reach) :
    IsOpen known (base ++ run) ↔ innerCatchalls run = [] := by
  have longest := getLast?_prefixesIn (openRows known) reach
  rw [← isBase] at longest
  constructor
  · intro isOpen
    by_contra inside
    -- An inner catch-all behind the longest open row would end a longer one.
    rcases List.exists_mem_of_ne_nil _ inside with ⟨rest, inner⟩
    have innerToo := innerCatchalls_append_right base inner
    rcases (exists_of_mem_innerCatchalls innerToo).2 with ⟨next, later, whole⟩
    have isOpenToo := whole ▸ isOpen
    have opened := mem_openRows_iff.mpr ⟨isOpen _ innerToo, isOpenToo.of_append⟩
    have differs : base ++ rest ≠ base ++ run := by
      rw [whole]
      exact fun same => List.cons_ne_nil _ _ (List.append_right_eq_self.mp same.symm)
    have isPrefix := within _ ⟨next :: later, whole.symm⟩ differs
    have shorter := longest.2 _ (mem_prefixesIn_iff.mpr ⟨isPrefix, opened⟩)
    have filled := List.length_pos_iff.mpr (exists_of_mem_innerCatchalls inner).1
    rw [List.length_append] at shorter
    omega
  · intro outside inner isInner
    have isOpen (nonempty : base ≠ []) := mem_openRows_iff.mp (longest.1.resolve_left nonempty)
    rcases mem_innerCatchalls_append isInner with before | rfl | ⟨rest, behind, -⟩
    · have nonempty : base ≠ [] := by
        rintro rfl
        cases before
      exact (isOpen nonempty).2 inner before
    · exact (isOpen (exists_of_mem_innerCatchalls isInner).1).1
    · rw [outside] at behind
      cases behind

/-! ## One more row -/

/-- A new row does not matter if the row does not begin with it. -/
theorem isOpen_concat_iff (begins : other <+: row → other ∈ known) :
    IsOpen (known ++ [other]) row ↔ IsOpen known row := by
  constructor
  · intro isOpen front inner
    rcases List.mem_append.mp (isOpen front inner) with old | new
    · exact old
    · rcases List.mem_singleton.mp new with rfl
      rcases (exists_of_mem_innerCatchalls inner).2 with ⟨next, later, whole⟩
      exact begins ⟨next :: later, whole.symm⟩
  · intro isOpen front inner
    exact List.mem_append_left _ (isOpen front inner)

/-- A new row leaves the open prefixes as they are, if the row does not begin with it. -/
theorem prefixesIn_openRows_concat (begins : other <+: row → other ∈ known) :
    prefixesIn (openRows (known ++ [other])) row = prefixesIn (openRows known) row := by
  apply List.filter_congr
  intro front isFront
  have isPrefix : front <+: row := (List.mem_inits _ _).mp isFront
  have old : front ∈ known ++ [other] ↔ front ∈ known := by
    rw [List.mem_append, List.mem_singleton, or_iff_left_iff_imp]
    rintro rfl
    exact begins isPrefix
  have isOpen := @isOpen_concat_iff known front other fun further =>
    begins (further.trans isPrefix)
  simp only [mem_openRows_iff, old, isOpen]

end FileRoutes
