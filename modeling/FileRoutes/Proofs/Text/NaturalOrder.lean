import FileRoutes.Proofs.Text.ByteOrder
import FileRoutes.Text.NaturalOrder

/-!
# The natural order is transitive and identifies no two texts

The natural order of texts is put together from comparisons that are transitive, so it is
transitive itself, whatever the classes of characters are.  Things that are sorted by it are
therefore in order afterwards.  The last of the comparisons is one of code points, or of bytes,
which comes to the same; it tells different texts apart.
-/

namespace FileRoutes
namespace Text

instance transCmp_naturalCompareBy (rank : Char → Nat) : Std.TransCmp (naturalCompareBy rank) :=
  inferInstanceAs (Std.TransCmp (compareLex
    (List.compareLex (compareLex (compareOn rank) (compareOn Char.toLower)))
    fun first second => compare second first))

instance transCmp_naturalCompare : Std.TransCmp naturalCompare :=
  transCmp_naturalCompareBy charRank

instance lawfulEqCmp_naturalCompareBy (rank : Char → Nat) :
    Std.LawfulEqCmp (naturalCompareBy rank) where
  eq_of_compare same := by
    have codePoints := (Ordering.then_eq_eq.mp same).2
    exact (Std.LawfulEqCmp.eq_of_compare codePoints).symm

instance lawfulEqCmp_naturalCompare : Std.LawfulEqCmp naturalCompare :=
  lawfulEqCmp_naturalCompareBy charRank

/-- Texts that agree without regard to case are ordered by descending bytes. -/
theorem naturalCompareBy_eq_then (rank : Char → Nat) (first second : Text) :
    naturalCompareBy rank first second =
      (List.compareLex (foldedCompare rank) first second).then
        (compare (second.flatMap String.utf8EncodeChar)
          (first.flatMap String.utf8EncodeChar)) := by
  rw [compare_flatMap_utf8EncodeChar]
  rfl

/-- Whatever the classes of characters are, the natural order is a total order of all texts.  It
compares the folded characters first and the bytes, in descending order, after them.  Comparing the
other way round swaps the answer, to stand no later is transitive whichever of the two decides, and
only identical texts compare equal. -/
theorem naturalCompareBy_totalOrder (rank : Char → Nat) :
    (∀ first second, naturalCompareBy rank first second =
      (List.compareLex (foldedCompare rank) first second).then
        (compare (second.flatMap String.utf8EncodeChar)
          (first.flatMap String.utf8EncodeChar))) ∧
    (∀ first second,
      naturalCompareBy rank second first = (naturalCompareBy rank first second).swap) ∧
    (∀ first second third, (naturalCompareBy rank first second).isLE →
      (naturalCompareBy rank second third).isLE → (naturalCompareBy rank first third).isLE) ∧
    ∀ first second, naturalCompareBy rank first second = .eq ↔ first = second := by
  refine ⟨naturalCompareBy_eq_then rank, ?_, ?_, ?_⟩
  · exact fun first second => Std.OrientedCmp.eq_swap
  · exact fun first second third before after => Std.TransCmp.isLE_trans before after
  · exact fun first second => Std.LawfulEqCmp.compare_eq_iff_eq

/-- Case alone tells the first two of these texts apart, so their bytes decide; between the second
and the third the folded characters do. -/
theorem naturalCompare_of_case_and_length :
    let lower : Text := "éa".toList
    let upper : Text := "éA".toList
    let longer : Text := "éa-".toList
    List.compareLex (foldedCompare charRank) lower upper = .eq ∧
      naturalCompare lower upper = .lt ∧ naturalCompare upper longer = .lt ∧
      (naturalCompare lower longer).isLE ∧ naturalCompare longer lower ≠ .eq := by
  intro lower upper longer
  have folded : List.compareLex (foldedCompare charRank) lower upper = .eq := by decide
  have first : naturalCompare lower upper = .lt := by decide
  have second : naturalCompare upper longer = .lt := by decide
  rcases naturalCompareBy_totalOrder charRank with ⟨-, -, trans, same⟩
  refine ⟨folded, first, second, trans lower upper longer ?_ ?_, ?_⟩
  · exact Ordering.isLE_of_eq_lt first
  · exact Ordering.isLE_of_eq_lt second
  · exact fun alike => absurd ((same longer lower).mp alike) (by decide)

end Text

/-- Of two things one stands before the other. -/
theorem isLE_or_isLE {α : Type} (cmp : α → α → Ordering) [Std.OrientedCmp cmp] (first second : α) :
    ((cmp first second).isLE || (cmp second first).isLE) = true := by
  have swapped : cmp second first = (cmp first second).swap := Std.OrientedCmp.eq_swap
  rw [swapped]
  cases cmp first second <;> rfl

/-- What is sorted by an order that identifies no two things is given by what there is to sort. -/
theorem mergeSort_eq_iff_perm {α : Type} (cmp : α → α → Ordering) [Std.TransCmp cmp]
    [Std.LawfulEqCmp cmp] {items others : List α} :
    (items.mergeSort fun first second => (cmp first second).isLE) =
        (others.mergeSort fun first second => (cmp first second).isLE) ↔ items.Perm others := by
  let precedes (first second : α) : Bool := (cmp first second).isLE
  have sorted (list : List α) : (list.mergeSort precedes).Perm list :=
    List.mergeSort_perm list precedes
  have inOrder (list : List α) :
      (list.mergeSort precedes).Pairwise fun first second => precedes first second = true := by
    apply List.pairwise_mergeSort
    · exact fun first second third before after => Std.TransCmp.isLE_trans before after
    · exact isLE_or_isLE cmp
  constructor
  · intro same
    exact (sorted items).symm.trans (same ▸ sorted others)
  · intro perm
    apply List.Perm.eq_of_pairwise _ (inOrder items) (inOrder others)
      ((sorted items).trans (perm.trans (sorted others).symm))
    intro first second _ _ before after
    exact Std.LawfulEqCmp.eq_of_compare (Std.OrientedCmp.isLE_antisymm before after)

end FileRoutes
