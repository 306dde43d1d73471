import FileRoutes.Text.Quoted
import Mathlib.Tactic.Common

/-!
# Quoted texts can be told apart

A notation is `Delimited` when what it writes shows its own end: two writings that agree, with
whatever follows them, are of one thing and are followed by the same.  That is more than being
injective, and it is what passes from the items of a list to the list.

Characters within quotes are delimited because they can be read back one at a time, and none of
them starts with a quote.
-/

namespace FileRoutes
namespace Text

/-- What is written shows where it ends. -/
def Delimited {α : Type} (write : α → Text) : Prop :=
  ∀ ⦃first second : α⦄ ⦃rest other : Text⦄,
    write first ++ rest = write second ++ other → first = second ∧ rest = other

variable {α : Type} {write : α → Text}

theorem Delimited.injective (delimited : Delimited write) {first second : α}
    (same : write first = write second) : first = second :=
  (delimited (congrArg (· ++ []) same)).1

/-! ## Characters within quotes -/

def digitValue (c : Char) : Nat :=
  if c.toNat < 58 then c.toNat - 48 else c.toNat - 87

/-- The character that a letter after a backslash stands for. -/
def ofEscapeLetter : Char → Char
  | 'b' => '\x08'
  | 't' => '\t'
  | 'n' => '\n'
  | 'f' => '\x0c'
  | 'r' => '\r'
  | c => c

def unescape? : Text → Option (Char × Text)
  | [] => none
  | '\\' :: 'u' :: _ :: _ :: high :: low :: rest =>
      some (Char.ofNat (16 * digitValue high + digitValue low), rest)
  | '\\' :: letter :: rest => some (ofEscapeLetter letter, rest)
  | c :: rest => some (c, rest)

theorem digitValue_digitChar : ∀ n < 16, digitValue (Nat.digitChar n) = n := by
  decide

theorem unescape?_escaped_append (c : Char) (rest : Text) :
    unescape? (escaped c ++ rest) = some (c, rest) := by
  unfold escaped
  split
  · next letter isLetter =>
    unfold escapeLetter? at isLetter
    split at isLetter
    · next isMark =>
      rcases Option.some.inj isLetter with rfl
      rcases isMark with rfl | rfl <;> rfl
    · repeat'
        split at isLetter
        · next isControl =>
          rcases Option.some.inj isLetter with rfl
          subst isControl
          rfl
      cases isLetter
  · next noLetter =>
    split
    · next isControl =>
      have high := digitValue_digitChar (c.toNat / 16) (by omega)
      have low := digitValue_digitChar (c.toNat % 16) (by omega)
      simp only [List.cons_append, List.nil_append, unescape?, high, low, Nat.div_add_mod,
        Char.ofNat_toNat]
    · have noBackslash : c ≠ '\\' := by
        rintro rfl
        cases noLetter
      rw [List.singleton_append]
      unfold unescape?
      split <;> simp_all

theorem delimited_escaped : Delimited escaped := by
  intro first second rest other same
  have read := congrArg unescape? same
  rw [unescape?_escaped_append, unescape?_escaped_append] at read
  exact Prod.mk.inj (Option.some.inj read)

/-- No character within quotes starts with a quote. -/
theorem escaped_eq_cons (c : Char) : ∃ head tail, escaped c = head :: tail ∧ head ≠ quote := by
  unfold escaped
  split
  · exact ⟨_, _, rfl, by decide⟩
  · next noLetter =>
    split
    · exact ⟨_, _, rfl, by decide⟩
    · refine ⟨_, _, rfl, ?_⟩
      rintro rfl
      cases noLetter

theorem delimited_quoted : Delimited quoted := by
  intro first second rest other same
  simp only [quoted, List.cons_append, List.append_assoc, List.cons.injEq, true_and,
    List.nil_append] at same
  induction first generalizing second with
  | nil =>
      cases second with
      | nil => exact ⟨rfl, (List.cons.inj same).2⟩
      | cons c later =>
          rcases escaped_eq_cons c with ⟨head, tail, spelled, noQuote⟩
          rw [List.flatMap_cons, spelled] at same
          exact absurd (List.cons.inj same).1.symm noQuote
  | cons c later inductionHypothesis =>
      cases second with
      | nil =>
          rcases escaped_eq_cons c with ⟨head, tail, spelled, noQuote⟩
          rw [List.flatMap_cons, spelled] at same
          exact absurd (List.cons.inj same).1 noQuote
      | cons d others =>
          simp only [List.flatMap_cons, List.append_assoc] at same
          rcases delimited_escaped same with ⟨rfl, onward⟩
          rcases inductionHypothesis onward with ⟨rfl, end_eq⟩
          exact ⟨rfl, end_eq⟩

/-! ## Items in brackets -/

/-- What is written starts with a character, and not with the one given. -/
def StartsOff (write : α → Text) (back : Char) : Prop :=
  ∀ item, ∃ head tail, write item = head :: tail ∧ head ≠ back

theorem intercalate_cons (item : Text) (items : List Text) :
    List.intercalate [','] (item :: items) = item ++ items.flatMap (',' :: ·) := by
  induction items generalizing item with
  | nil => simp [List.intercalate]
  | cons next later inductionHypothesis =>
      have onward := inductionHypothesis next
      unfold List.intercalate at onward ⊢
      rw [List.intersperse_cons_cons, List.flatten_cons, List.flatten_cons, onward]
      rfl

/-- After the first item each further one is announced by a comma, and the end by its absence. -/
theorem Delimited.further (delimited : Delimited write) {back : Char} (noComma : back ≠ ',')
    {items others : List α} {rest other : Text}
    (same : (items.map write).flatMap (',' :: ·) ++ back :: rest =
      (others.map write).flatMap (',' :: ·) ++ back :: other) :
    items = others ∧ rest = other := by
  induction items generalizing others with
  | nil =>
      cases others with
      | nil => exact ⟨rfl, (List.cons.inj same).2⟩
      | cons next later => exact absurd (List.cons.inj same).1 noComma
  | cons item later inductionHypothesis =>
      cases others with
      | nil => exact absurd (List.cons.inj same).1.symm noComma
      | cons next others =>
          simp only [List.map_cons, List.flatMap_cons, List.cons_append, List.append_assoc,
            List.cons.injEq, true_and] at same
          rcases delimited same with ⟨rfl, onward⟩
          rcases inductionHypothesis onward with ⟨rfl, end_eq⟩
          exact ⟨rfl, end_eq⟩

theorem Delimited.bracketed (delimited : Delimited write) (front : Char) {back : Char}
    (noComma : back ≠ ',') (starts : StartsOff write back) :
    Delimited fun items : List α => Text.bracketed front back (items.map write) := by
  intro items others rest other same
  simp only [Text.bracketed, List.cons_append, List.append_assoc, List.cons.injEq, true_and,
    List.nil_append] at same
  cases items with
  | nil =>
      cases others with
      | nil => exact ⟨rfl, (List.cons.inj same).2⟩
      | cons next later =>
          rcases starts next with ⟨head, tail, spelled, different⟩
          rw [List.map_cons, intercalate_cons, spelled] at same
          exact absurd (List.cons.inj same).1.symm different
  | cons item later =>
      cases others with
      | nil =>
          rcases starts item with ⟨head, tail, spelled, different⟩
          rw [List.map_cons, intercalate_cons, spelled] at same
          exact absurd (List.cons.inj same).1 different
      | cons next others =>
          rw [List.map_cons, List.map_cons, intercalate_cons, intercalate_cons,
            List.append_assoc, List.append_assoc] at same
          rcases delimited same with ⟨rfl, onward⟩
          rcases delimited.further noComma onward with ⟨rfl, end_eq⟩
          exact ⟨rfl, end_eq⟩

theorem startsOff_quoted {back : Char} (different : quote ≠ back) : StartsOff quoted back :=
  fun _ => ⟨_, _, rfl, different⟩

end Text

end FileRoutes
