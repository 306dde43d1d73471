import FileRoutes.Proofs.Segment.Rereading

/-!
# Every canonical segment can be read

What reading gives is canonical, and each canonical segment is read from some text.  Its spelling
will not always do: a plus sign that opens literal text after a catch-all is taken by the catch-all.
`guarded` puts another plus sign in front of such text for the catch-all to take, and then reading
the spelling gives the segment back.

Spellings tell canonical segments apart all the same, since reading two equal spellings gives the
same first token for both, and what is left of the spellings is equal again.
-/

namespace FileRoutes
namespace Segment

/-- The segment with one more plus sign wherever a catch-all takes one. -/
def guarded : Segment → Segment
  | [] => []
  | .parameter .catchall name :: .literal ('+' :: rest) :: later =>
      .parameter .catchall name :: .literal ('+' :: '+' :: rest) :: guarded later
  | token :: later => token :: guarded later

theorem guarded_cons {token : Token} {later : Segment}
    (other : ∀ name rest last, token = .parameter .catchall name →
      later = .literal ('+' :: rest) :: last → False) :
    guarded (token :: later) = token :: guarded later := by
  rw [guarded]
  exact other

/-- The first token has no catch-all in front of it. -/
theorem head?_guarded (segment : Segment) : segment.guarded.head? = segment.head? := by
  unfold guarded
  split <;> rfl

/-- What the catch-alls take is what was put there for them. -/
theorem reread_guarded (segment : Segment) : segment.guarded.reread = segment := by
  induction segment using guarded.induct with
  | case1 => rfl
  | case2 name rest later inductionHypothesis =>
      have flushed : flush ('+' :: rest) = [.literal ('+' :: rest)] := if_neg (List.cons_ne_nil _ _)
      rw [guarded, reread, flushed, inductionHypothesis]
      rfl
  | case3 token later other inductionHypothesis =>
      rw [guarded_cons other, reread_cons, inductionHypothesis]
      intro name rest last isCatchall isLater
      have opens : later.head? = some (.literal ('+' :: rest)) := by
        rw [← head?_guarded, isLater, List.head?_cons]
      rcases List.head?_eq_some_iff.mp opens with ⟨last, isLater⟩
      exact other name rest last isCatchall isLater

theorem Readable.guarded {segment : Segment} (readable : segment.Readable) :
    segment.guarded.Readable := by
  induction segment using guarded.induct with
  | case1 => exact readable
  | case2 name rest later inductionHypothesis =>
      rcases readable_cons_iff.mp readable with ⟨catchall, -, others⟩
      rcases readable_cons_iff.mp others with ⟨⟨-, noBracket, noGroup⟩, follows, onward⟩
      rw [← head?_guarded] at follows
      have plus : (Token.literal ('+' :: '+' :: rest)).Readable :=
        ⟨List.cons_ne_nil _ _, by simpa using noBracket, by simpa using noGroup⟩
      have apart : ∀ next ∈ (Segment.guarded later).head?,
          (Token.literal ('+' :: '+' :: rest)).MayPrecede next := by
        intro next isNext
        have fits := follows next isNext
        cases next with
        | literal text => exact fits
        | parameter kind name => trivial
        | group name => trivial
      rw [Segment.guarded]
      refine readable_cons_iff.mpr ⟨catchall, fun next isNext => ?_, ?_⟩
      · rcases Option.some.inj isNext with rfl
        trivial
      · exact readable_cons_iff.mpr ⟨plus, apart, inductionHypothesis onward⟩
  | case3 token later other inductionHypothesis =>
      rcases readable_cons_iff.mp readable with ⟨first, follows, onward⟩
      rw [← head?_guarded] at follows
      rw [guarded_cons other]
      exact readable_cons_iff.mpr ⟨first, follows, inductionHypothesis onward⟩

theorem Canonical.guarded {segment : Segment} (canonical : segment.Canonical) :
    segment.guarded.Canonical := by
  rcases canonical with rfl | ⟨nonempty, notIndex, readable⟩
  · exact .inl rfl
  · refine .inr ⟨?_, ?_, readable.guarded⟩
    · intro empty
      exact nonempty (by rw [← reread_guarded segment, empty, reread])
    · intro isIndex
      exact notIndex (by rw [← reread_guarded segment, isIndex]; rfl)

theorem read_spelling_guarded {segment : Segment} (canonical : segment.Canonical) :
    read segment.guarded.spelling = .ok segment := by
  rw [read_spelling canonical.guarded, reread_guarded]

/-- The segments that reading gives are the canonical ones, all of them. -/
theorem exists_read_eq_ok_iff (segment : Segment) :
    (∃ text, read text = .ok segment) ↔ segment.Canonical := by
  constructor
  · rintro ⟨text, taken⟩
    exact canonical_of_read taken
  · intro canonical
    exact ⟨segment.guarded.spelling, read_spelling_guarded canonical⟩

/-! ## Spellings tell segments apart -/

theorem head?_reread (segment : Segment) : segment.reread.head? = segment.head? := by
  unfold reread
  split <;> rfl

theorem reread_eq_of_spelling_eq {first second : Segment} (readable : first.Readable)
    (readableToo : second.Readable) (same : first.spelling = second.spelling) :
    first.reread = second.reread := by
  have taken : tokensFrom (.text []) first.spelling = .ok first.reread :=
    tokensFrom_spelling readable (absurd rfl)
  have takenToo : tokensFrom (.text []) second.spelling = .ok second.reread :=
    tokensFrom_spelling readableToo (absurd rfl)
  rw [same] at taken
  exact Except.ok.inj (taken.symm.trans takenToo)

theorem Readable.eq_of_spelling_eq {first second : Segment} (readable : first.Readable)
    (readableToo : second.Readable) (same : first.spelling = second.spelling) :
    first = second := by
  induction first generalizing second with
  | nil =>
      by_contra different
      exact spelling_ne_nil readableToo (Ne.symm different) same.symm
  | cons token later inductionHypothesis =>
      have heads : second.head? = some token := by
        rw [← head?_reread, ← reread_eq_of_spelling_eq readable readableToo same, head?_reread,
          List.head?_cons]
      rcases List.head?_eq_some_iff.mp heads with ⟨others, rfl⟩
      rw [spelling_cons, spelling_cons] at same
      have onward := (readable_cons_iff.mp readable).2.2
      have onwardToo := (readable_cons_iff.mp readableToo).2.2
      rw [inductionHypothesis onward onwardToo (List.append_cancel_left same)]

theorem Canonical.eq_of_spelling_eq {first second : Segment} (canonical : first.Canonical)
    (canonicalToo : second.Canonical) (same : first.spelling = second.spelling) :
    first = second := by
  rcases canonical with rfl | ⟨nonempty, -, readable⟩ <;>
    rcases canonicalToo with rfl | ⟨nonemptyToo, -, readableToo⟩
  · rfl
  · exact absurd same.symm (spelling_ne_nil readableToo nonemptyToo)
  · exact absurd same (spelling_ne_nil readable nonempty)
  · exact readable.eq_of_spelling_eq readableToo same

end Segment
end FileRoutes
