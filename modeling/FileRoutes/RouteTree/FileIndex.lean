import FileRoutes.Text.Basic

/-!
# The index of files

The index remembers, for every file in a route tree, the slot of the node that holds it.
-/

namespace FileRoutes

/-- Files with the slots of the nodes that hold them. -/
abbrev FileIndex := List (Text × Nat)

namespace FileIndex

def find? (index : FileIndex) (path : Text) : Option Nat :=
  (List.find? (·.1 = path) index).map Prod.snd

def contains (index : FileIndex) (path : Text) : Bool :=
  (index.find? path).isSome

def erase (index : FileIndex) (path : Text) : FileIndex :=
  index.filter (·.1 ≠ path)

/-- Record the slot of a file in place of any earlier one. -/
def insert (index : FileIndex) (path : Text) (slot : Nat) : FileIndex :=
  (path, slot) :: index.erase path

theorem find?_erase (index : FileIndex) (path other : Text) :
    (index.erase path).find? other = if other = path then none else index.find? other := by
  unfold find? erase
  split
  · next same =>
    subst same
    simp
  · next different =>
    rw [List.find?_filter]
    congr 2
    funext entry
    by_cases found : entry.1 = other
    · simp [found, different]
    · simp [found]

theorem find?_insert (index : FileIndex) (path other : Text) (slot : Nat) :
    (index.insert path slot).find? other =
      if other = path then some slot else index.find? other := by
  by_cases same : other = path
  · simp [insert, find?, same]
  · have different : ¬path = other := fun equal => same equal.symm
    have kept := find?_erase index path other
    rw [if_neg same] at kept ⊢
    simpa [insert, find?, different] using kept

def names (index : FileIndex) : List Text :=
  index.map Prod.fst

theorem mem_names_iff {index : FileIndex} {path : Text} :
    path ∈ index.names ↔ ∃ slot, index.find? path = some slot := by
  induction index with
  | nil => simp [names, find?]
  | cons entry others inductionHypothesis =>
      by_cases same : entry.1 = path
      · simp [names, find?, same]
      · have different : ¬path = entry.1 := fun equal => same equal.symm
        simpa [names, find?, same, different] using inductionHypothesis

theorem names_erase (index : FileIndex) (path : Text) :
    (index.erase path).names = index.names.filter (· ≠ path) := by
  simp [names, erase, List.filter_map, Function.comp_def]

theorem nodup_names_erase {index : FileIndex} (unique : index.names.Nodup) (path : Text) :
    (index.erase path).names.Nodup := by
  rw [names_erase]
  exact unique.filter _

theorem nodup_names_insert {index : FileIndex} (unique : index.names.Nodup) (path : Text)
    (slot : Nat) : (index.insert path slot).names.Nodup := by
  refine List.nodup_cons.mpr ⟨?_, nodup_names_erase unique path⟩
  rw [← names, names_erase]
  simp

end FileIndex
end FileRoutes
