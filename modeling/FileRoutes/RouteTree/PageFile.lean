import FileRoutes.PagePath.Parsed

/-!
# Page files

A page file is what one file contributes to a route tree: where it stands, which view it fills
and in which modes.  View, groups and modes together are the file's seat at its position; two
files in one seat are duplicates, whatever their names.
-/

namespace FileRoutes

/-- A page file with its place among the routes. -/
structure PageFile where
  /-- The file's name as given. -/
  path : Text
  /-- The name below its root in canonical spelling. -/
  relativePath : Text
  /-- The view that the file fills. -/
  view : Text
  /-- The modes of the file, if its name carries any. -/
  modes : Option (List Text)
  /-- The groups that the file sits under, outermost first. -/
  groups : List Text
  /-- All segments of the file's name, groups included. -/
  segments : List Segment
  /-- The rank of the file's layer; a lower one wins. -/
  priority : Int
deriving DecidableEq, Repr

/-- The view of a file whose name asks for none. -/
def defaultView : Text :=
  ['d', 'e', 'f', 'a', 'u', 'l', 't']

/-- The segments under which a file is stored: those that are not groups, or the index page if
there are no others. -/
def positionOf (segments : List Segment) : List Segment :=
  match segments.filter (!·.isGroup) with
  | [] => [Segment.index]
  | visible => visible

theorem positionOf_ne_nil (segments : List Segment) : positionOf segments ≠ [] := by
  unfold positionOf
  split
  · exact List.cons_ne_nil _ _
  · next visible nonempty => exact nonempty

/-- The names in the segments that hold groups and nothing else. -/
def groupsOf (segments : List Segment) : List Text :=
  (segments.filter Segment.isGroup).flatMap fun segment =>
    (segment.filter Token.isGroup).map Token.value

namespace PageFile

/-- The page file of a page path. -/
def ofPagePath (path : PagePath) (priority : Int) : PageFile where
  path := path.file
  relativePath := path.relativePath
  view := path.view.getD defaultView
  modes := path.modes
  groups := groupsOf path.segments
  segments := path.segments
  priority := priority

def isDefaultView (file : PageFile) : Bool :=
  file.view = defaultView

def groupPath (file : PageFile) : Text :=
  Text.slashed file.groups

def position (file : PageFile) : List Segment :=
  positionOf file.segments

/-- What two files at one position must not have in common. -/
structure Seat where
  view : Text
  groupPath : Text
  modes : Text
deriving DecidableEq, Repr

/-- The seat that the file takes at its position.  The order of its modes does not matter. -/
def seat (file : PageFile) : Seat where
  view := file.view
  groupPath := file.groupPath
  modes := List.intercalate [',']
    ((file.modes.getD []).mergeSort fun first second => (compare first second).isLE)

/-- Put a file among others: in place of the first one in its seat, or last. -/
def takeSeat (file : PageFile) : List PageFile → List PageFile
  | [] => [file]
  | existing :: later =>
      if existing.seat = file.seat then file :: later else existing :: takeSeat file later

theorem takeSeat_ne_nil (file : PageFile) (files : List PageFile) : takeSeat file files ≠ [] := by
  cases files with
  | nil => exact List.cons_ne_nil _ _
  | cons existing later =>
      rw [takeSeat]
      split <;> exact List.cons_ne_nil _ _

/-- A file takes a seat from nobody but the one who sat there. -/
theorem mem_takeSeat_iff {file other : PageFile} {files : List PageFile}
    (unique : (files.map path).Nodup) :
    other ∈ takeSeat file files ↔
      other = file ∨ other ∈ files ∧ files.find? (·.seat = file.seat) ≠ some other := by
  induction files with
  | nil => simp [takeSeat]
  | cons existing later inductionHypothesis =>
      obtain ⟨absent, unique⟩ := List.nodup_cons.mp unique
      rw [takeSeat, List.find?_cons]
      by_cases taken : existing.seat = file.seat
      · have differs : other ∈ later → ¬existing = other := fun listed equal =>
          absent (equal ▸ List.mem_map_of_mem listed)
        simp only [taken, decide_true, if_true, List.mem_cons, ne_eq, Option.some.injEq]
        constructor
        · exact Or.imp_right fun listed => ⟨.inr listed, differs listed⟩
        · exact Or.imp_right fun kept => kept.1.resolve_left fun equal => kept.2 equal.symm
      · have kept : ∀ found, later.find? (·.seat = file.seat) = some found → existing ≠ found :=
          fun found isFound equal => taken (by simpa [equal] using List.find?_some isFound)
        simp only [taken, decide_false, if_false, List.mem_cons,
          inductionHypothesis unique]
        constructor
        · rintro (rfl | rfl | ⟨listed, differs⟩)
          · exact .inr ⟨.inl rfl, fun found => kept _ found rfl⟩
          · exact .inl rfl
          · exact .inr ⟨.inr listed, differs⟩
        · rintro (rfl | ⟨rfl | listed, differs⟩)
          · exact .inr (.inl rfl)
          · exact .inl rfl
          · exact .inr (.inr ⟨listed, differs⟩)

/-- When the file is gone again, only the one who sat in its seat is missing. -/
theorem filter_takeSeat {file : PageFile} {files : List PageFile}
    (unique : (files.map path).Nodup) (fresh : ∀ other ∈ files, other.path ≠ file.path) :
    (takeSeat file files).filter (·.path ≠ file.path) =
      files.filter fun other =>
        (files.find? (·.seat = file.seat)).map path ≠ some other.path := by
  induction files with
  | nil => simp [takeSeat]
  | cons existing later inductionHypothesis =>
      obtain ⟨absent, unique⟩ := List.nodup_cons.mp unique
      obtain ⟨freshExisting, freshLater⟩ := List.forall_mem_cons.mp fresh
      rw [takeSeat, List.find?_cons]
      by_cases taken : existing.seat = file.seat
      · have others : ∀ other ∈ later, existing.path ≠ other.path := fun other listed equal =>
          absent (equal ▸ List.mem_map_of_mem listed)
        have keptLater : later.filter (·.path ≠ file.path) = later :=
          List.filter_eq_self.mpr fun other listed => by simpa using freshLater other listed
        have keptToo : later.filter (some existing.path ≠ some ·.path) = later :=
          List.filter_eq_self.mpr fun other listed => by simpa using others other listed
        simp only [taken, decide_true, if_true, Option.map_some]
        rw [List.filter_cons_of_neg (by simp), List.filter_cons_of_neg (by simp), keptLater,
          keptToo]
      · have kept : (later.find? (·.seat = file.seat)).map path ≠ some existing.path := by
          intro named
          obtain ⟨other, found, samePath⟩ := Option.map_eq_some_iff.mp named
          exact absent (samePath ▸ List.mem_map_of_mem (List.mem_of_find?_eq_some found))
        simp only [taken, decide_false, if_false]
        rw [List.filter_cons_of_pos (by simpa using freshExisting),
          List.filter_cons_of_pos (by simpa using kept), inductionHypothesis unique freshLater]

theorem nodup_paths_takeSeat {file : PageFile} {files : List PageFile}
    (unique : (files.map path).Nodup) (fresh : ∀ other ∈ files, other.path ≠ file.path) :
    ((takeSeat file files).map path).Nodup := by
  induction files with
  | nil => simp [takeSeat]
  | cons existing later inductionHypothesis =>
      obtain ⟨absent, unique⟩ := List.nodup_cons.mp unique
      have freshLater : ∀ other ∈ later, other.path ≠ file.path := fun other listed =>
        fresh other (List.mem_cons_of_mem _ listed)
      rw [takeSeat]
      split
      · refine List.nodup_cons.mpr ⟨fun listed => ?_, unique⟩
        obtain ⟨other, isLater, equal⟩ := List.mem_map.mp listed
        exact freshLater other isLater equal
      · refine List.nodup_cons.mpr ⟨fun listed => ?_, inductionHypothesis unique freshLater⟩
        obtain ⟨other, isThere, equal⟩ := List.mem_map.mp listed
        rcases (mem_takeSeat_iff unique).mp isThere with rfl | ⟨isLater, -⟩
        · exact fresh existing List.mem_cons_self equal.symm
        · exact absent (equal ▸ List.mem_map_of_mem isLater)

end PageFile
end FileRoutes
