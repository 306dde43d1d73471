import FileRoutes.Proofs.Mapping
import FileRoutes.Proofs.PagePath.Folders
import Mathlib.Logic.Relation

/-!
# Below the root directories

The root directories are tried one after the other, those with more bytes first, and which of them
share a number of bytes is a matter of how they are listed.  It shows nowhere: of the directories
that one file is in, no two are of the same length, so the first that fits is the longest that fits.
A longest one is settled by which directories there are, and these do not change when roots are
listed in another order or more than once, or with more slashes at the end.
-/

namespace FileRoutes

open Relation

/-! ## The longest beginning -/

namespace Text

variable {text first second : Text} {candidates : Text → Prop}

/-- The longest of the candidates that the text begins with, or nothing if it begins with none. -/
def IsLongestStart (candidates : Text → Prop) (text start : Text) : Prop :=
  (candidates start ∧ start <+: text ∧
    ∀ other, candidates other → other <+: text → other.length ≤ start.length) ∨
  (start = [] ∧ ∀ other, candidates other → ¬other <+: text)

theorem IsLongestStart.unique (longest : IsLongestStart candidates text first)
    (longestToo : IsLongestStart candidates text second) : first = second := by
  rcases longest with ⟨isCandidate, starts, greatest⟩ | ⟨rfl, none⟩
  · rcases longestToo with ⟨isCandidateToo, startsToo, greatestToo⟩ | ⟨-, none⟩
    · have shorter := greatestToo first isCandidate starts
      have within := List.prefix_of_prefix_length_le starts startsToo shorter
      exact within.eq_of_length_le (greatest second isCandidateToo startsToo)
    · exact absurd starts (none first isCandidate)
  · rcases longestToo with ⟨isCandidateToo, startsToo, -⟩ | ⟨rfl, -⟩
    · exact absurd startsToo (none second isCandidateToo)
    · rfl

/-- Bytes rank the beginnings of one text as characters do. -/
theorem length_le_of_byteLength_le (starts : first <+: text) (startsToo : second <+: text)
    (fewer : second.byteLength ≤ first.byteLength) : second.length ≤ first.length := by
  rcases List.prefix_or_prefix_of_prefix starts startsToo with ⟨rest, rfl⟩ | within
  · cases rest with
    | nil => rw [List.append_nil]
    | cons c later =>
        have positive := c.utf8Size_pos
        rw [byteLength_append, byteLength] at fewer
        omega
  · exact within.length_le

end Text

/-! ## Directories -/

namespace FileName

variable {root stem directory : Text}

/-- The directory that a root names: the root without the slashes at its end, and one slash. -/
def Names (root directory : Text) : Prop :=
  ∃ stem slashes, root = stem ++ List.replicate slashes '/' ∧ stem.getLast? ≠ some '/' ∧
    directory = stem ++ ['/']

theorem directory_append_replicate (ends : stem.getLast? ≠ some '/') (slashes : Nat) :
    FileName.directory (stem ++ List.replicate slashes '/') = stem ++ ['/'] := by
  suffices dropped : (stem ++ List.replicate slashes '/').rdropWhile (· = '/') = stem from
    congrArg (· ++ ['/']) dropped
  induction slashes with
  | zero =>
      rw [List.replicate_zero, List.append_nil, List.rdropWhile_eq_self_iff]
      intro nonempty isSlash
      rw [List.getLast?_eq_some_getLast nonempty] at ends
      exact ends (congrArg some (of_decide_eq_true isSlash))
  | succ slashes inductionHypothesis =>
      rw [List.replicate_succ', ← List.append_assoc, List.rdropWhile_concat, if_pos (by decide),
        inductionHypothesis]

theorem names_directory (root : Text) : Names root (FileName.directory root) := by
  refine ⟨root.rdropWhile (· = '/'), (root.rtakeWhile (· = '/')).length, ?_, ?_, rfl⟩
  · have slashes : ∀ c ∈ root.rtakeWhile (· = '/'), c = '/' := fun c listed => by
      simpa using List.mem_rtakeWhile_imp listed
    rw [← List.eq_replicate_of_mem slashes]
    exact List.rdropWhile_append_rtakeWhile.symm
  · intro ends
    have nonempty : root.rdropWhile (· = '/') ≠ [] := by
      intro empty
      rw [empty] at ends
      cases ends
    rw [List.getLast?_eq_some_getLast nonempty] at ends
    exact List.rdropWhile_last_not _ _ nonempty (decide_eq_true (Option.some.inj ends))

theorem names_iff : Names root directory ↔ FileName.directory root = directory := by
  constructor
  · rintro ⟨stem, slashes, rfl, ends, rfl⟩
    exact directory_append_replicate ends slashes
  · rintro rfl
    exact names_directory root

/-- More slashes at the end of a root do not change its directory. -/
theorem names_append_replicate (slashes : Nat) :
    Names (root ++ List.replicate slashes '/') directory ↔ Names root directory := by
  rcases names_directory root with ⟨stem, few, rfl, ends, -⟩
  rw [names_iff, names_iff, List.append_assoc, List.replicate_append_replicate,
    directory_append_replicate ends, directory_append_replicate ends]

/-- The directories that a list of roots names; an empty root names none. -/
def IsDirectory (roots : List Text) (directory : Text) : Prop :=
  ∃ root ∈ roots, root ≠ [] ∧ Names root directory

theorem isDirectory_cons {roots : List Text} : IsDirectory (root :: roots) directory ↔
    root ≠ [] ∧ Names root directory ∨ IsDirectory roots directory := by
  simp [IsDirectory]

/-! ## Listing roots otherwise -/

/-- A list of roots is written otherwise in one of four ways. -/
inductive Relisted : List Text → List Text → Prop
  /-- The roots come in another order. -/
  | permuted {roots others} : roots.Perm others → Relisted roots others
  /-- A root is listed once more. -/
  | repeated {root roots} : root ∈ roots → Relisted roots (root :: roots)
  /-- An empty root is left out. -/
  | emptied (roots : List Text) : Relisted ([] :: roots) roots
  /-- A root that is not empty gets slashes at its end. -/
  | slashed {root : Text} (slashes : Nat) (roots : List Text) : root ≠ [] →
      Relisted (root :: roots) ((root ++ List.replicate slashes '/') :: roots)

theorem Relisted.isDirectory_iff {roots others : List Text} (relisted : Relisted roots others)
    (directory : Text) : IsDirectory roots directory ↔ IsDirectory others directory := by
  cases relisted with
  | permuted perm => simp only [IsDirectory, perm.mem_iff]
  | repeated listed =>
      rw [isDirectory_cons]
      exact (or_iff_right_of_imp fun named => ⟨_, listed, named⟩).symm
  | emptied =>
      rw [isDirectory_cons]
      exact or_iff_right fun named => named.1 rfl
  | slashed slashes later nonempty =>
      rw [isDirectory_cons, isDirectory_cons, names_append_replicate, and_iff_right nonempty,
        and_iff_right (List.append_ne_nil_of_left_ne_nil nonempty _)]

/-- However often roots are listed otherwise, they name the same directories. -/
theorem isDirectory_eq_of_relisted {roots others : List Text}
    (relisted : EqvGen Relisted roots others) : IsDirectory roots = IsDirectory others := by
  induction relisted with
  | rel _ _ step => exact funext fun directory => propext (step.isDirectory_iff directory)
  | refl => rfl
  | symm _ _ _ inductionHypothesis => exact inductionHypothesis.symm
  | trans _ _ _ _ _ first second => exact first.trans second

end FileName

namespace ParseOptions

open FileName

variable {options : ParseOptions}

def withRoots (options : ParseOptions) (roots : List Text) : ParseOptions :=
  { options with roots := roots }

/-! ## The root that is removed -/

theorem mem_directories_iff {directory : Text} :
    directory ∈ options.directories ↔ IsDirectory options.roots directory := by
  unfold directories IsDirectory
  simp [names_iff, and_assoc]

theorem pairwise_directories (options : ParseOptions) :
    options.directories.Pairwise fun first second => second.byteLength ≤ first.byteLength := by
  suffices sorted : options.directories.Pairwise fun first second =>
      decide (second.byteLength ≤ first.byteLength) = true from sorted.imp of_decide_eq_true
  apply List.pairwise_mergeSort
  · intro first second third firstLeads secondLeads
    exact decide_eq_true ((of_decide_eq_true secondLeads).trans (of_decide_eq_true firstLeads))
  · intro first second
    simpa using Nat.le_total second.byteLength first.byteLength

/-- What is removed of a file's name is the longest directory that the name begins with. -/
theorem exists_append_dropRoot (options : ParseOptions) (file : Text) :
    ∃ start, file = start ++ options.dropRoot file ∧
      Text.IsLongestStart (IsDirectory options.roots) file start := by
  unfold dropRoot
  cases tried : options.directories.findSome? (Text.after? · file) with
  | none =>
      refine ⟨[], rfl, .inr ⟨rfl, fun other isDirectory starts => ?_⟩⟩
      have missed := List.findSome?_eq_none_iff.mp tried other (mem_directories_iff.mpr isDirectory)
      rcases starts with ⟨rest, whole⟩
      rw [Text.after?_eq_some_iff.mpr whole.symm] at missed
      cases missed
  | some rest =>
      rcases List.findSome?_eq_some_iff.mp tried with ⟨earlier, start, later, listed, cut, missed⟩
      have whole := Text.after?_eq_some_iff.mp cut
      have isDirectory : IsDirectory options.roots start := by
        rw [← mem_directories_iff, listed]
        exact List.mem_append_right _ List.mem_cons_self
      refine ⟨start, whole, .inl ⟨isDirectory, ⟨rest, whole.symm⟩, ?_⟩⟩
      intro other isOther starts
      rw [← mem_directories_iff, listed, List.mem_append, List.mem_cons] at isOther
      rcases isOther with isEarlier | rfl | isLater
      · rcases starts with ⟨more, wholeToo⟩
        have unfit := missed other isEarlier
        rw [Text.after?_eq_some_iff.mpr wholeToo.symm] at unfit
        cases unfit
      · exact le_rfl
      · have sorted := options.pairwise_directories
        rw [listed, List.pairwise_append, List.pairwise_cons] at sorted
        exact Text.length_le_of_byteLength_le ⟨rest, whole.symm⟩ starts
          (sorted.2.1.1 other isLater)

/-- The roots matter for the directories that they name and for nothing else. -/
theorem dropRoot_withRoots {roots : List Text}
    (same : IsDirectory options.roots = IsDirectory roots) (file : Text) :
    (options.withRoots roots).dropRoot file = options.dropRoot file := by
  rcases options.exists_append_dropRoot file with ⟨start, whole, longest⟩
  rcases (options.withRoots roots).exists_append_dropRoot file with
    ⟨startToo, wholeToo, longestToo⟩
  rw [same] at longest
  have equal : startToo = start := longestToo.unique longest
  subst equal
  exact List.append_cancel_left (wholeToo.symm.trans whole)

/-! ## The name below the root -/

theorem cutModes_withRoots (options : ParseOptions) (roots : List Text) (path : Text) :
    (options.withRoots roots).cutModes path = options.cutModes path := by
  induction path using cutModes.induct options with
  | case1 path absent =>
      have absentToo : (options.withRoots roots).lastMode? path = none := absent
      rw [cutModes_of_none absent, cutModes_of_none absentToo]
  | case2 path mode stem found _ inductionHypothesis =>
      have foundToo : (options.withRoots roots).lastMode? path = some (mode, stem) := found
      rw [cutModes_of_some found, cutModes_of_some foundToo, inductionHypothesis]

/-- Below the root directory the roots play no part. -/
theorem partsBelow_withRoots (options : ParseOptions) (roots : List Text) (name : Text) :
    (options.withRoots roots).partsBelow name = options.partsBelow name := by
  have bare : (options.withRoots roots).bareName name = options.bareName name := rfl
  unfold partsBelow
  dsimp only
  rw [bare, cutModes_withRoots]

/-- Roots that lead to the same name below them lead to the same parts. -/
theorem parts_withRoots {roots : List Text} {file name : Text}
    (same : (options.withRoots roots).dropRoot name = options.dropRoot file) :
    (options.withRoots roots).parts name = options.parts file := by
  rw [parts_eq_partsBelow, parts_eq_partsBelow, same, partsBelow_withRoots]

/-- What reading a name gives, told of another file. -/
def retold (file : Text) (reading : Except SegmentError PagePath) : Except SegmentError PagePath :=
  (reading.map fun path => { path with file := file }).mapError fun error =>
    { error with file := file }

theorem parse_eq_retold {other : ParseOptions} {file name : Text}
    (same : options.parts file = other.parts name) :
    options.parse file = retold file (other.parse name) := by
  have each : Segment.readIn file =
      fun text => (Segment.readIn name text).mapError fun error => { error with file := file } := by
    funext text
    unfold Segment.readIn
    cases Segment.read text <;> rfl
  unfold parse
  dsimp only
  rw [same, each, mapM_mapError]
  cases (segmentTexts (other.parts name).stem).mapM (Segment.readIn name) <;> rfl

theorem warningsThrough_eq_map (file name : Text) (texts : List Text) :
    warningsThrough file texts =
      (warningsThrough name texts).map fun warning => { warning with file := file } := by
  induction texts with
  | nil => rfl
  | cons text later inductionHypothesis =>
      have here : Segment.warningsIn file text =
          (Segment.warningsIn name text).map fun warning => { warning with file := file } := by
        simp [Segment.warningsIn, Function.comp_def]
      rw [warningsThrough, warningsThrough, List.map_append, here, inductionHypothesis]
      unfold Segment.readIn
      cases Segment.read text <;> rfl

theorem warnings_eq_map {other : ParseOptions} {file name : Text}
    (same : options.parts file = other.parts name) :
    options.warnings file =
      (other.warnings name).map fun warning => { warning with file := file } := by
  rw [warnings, warnings, same, warningsThrough_eq_map file name]

/-- How the roots are listed does not show in what a file's name is read as.  The longest directory
that the name begins with is removed, and what is left is read as it is without any roots. -/
theorem parse_withRoots_of_relisted {roots : List Text}
    (relisted : EqvGen Relisted options.roots roots) (file : Text) :
    (options.withRoots roots).parse file = options.parse file ∧
      (options.withRoots roots).warnings file = options.warnings file ∧
      (∃ start, file = start ++ options.dropRoot file ∧
        Text.IsLongestStart (IsDirectory options.roots) file start) ∧
      options.parse file = retold file ((options.withRoots []).parse (options.dropRoot file)) ∧
      options.warnings file = ((options.withRoots []).warnings (options.dropRoot file)).map
        fun warning => { warning with file := file } := by
  have sameRest := dropRoot_withRoots (isDirectory_eq_of_relisted relisted) file
  have sameParts := parts_withRoots sameRest
  have rootless : (options.withRoots []).dropRoot (options.dropRoot file) =
      options.dropRoot file := by simp [dropRoot, directories, withRoots]
  have sameBelow := (parts_withRoots rootless).symm
  refine ⟨?_, ?_, options.exists_append_dropRoot file, parse_eq_retold sameBelow,
    warnings_eq_map sameBelow⟩
  · unfold parse
    rw [sameParts]
  · unfold warnings
    rw [sameParts]

/-- The longer of two roots is removed, however they are listed and written. -/
theorem parse_withRoots_of_nested_roots :
    let options : ParseOptions := { roots := ["app/pages/".toList, "app".toList] }
    let roots := [[], "app//".toList, "app/pages".toList, "app".toList]
    let file : Text := "app/pages/[id].vue".toList
    let path : PagePath := ⟨file, [[.parameter .dynamic "id".toList]], none⟩
    EqvGen Relisted options.roots roots ∧ (options.withRoots roots).parse file = .ok path ∧
      Text.IsLongestStart (IsDirectory options.roots) file "app/pages/".toList := by
  intro options roots file path
  have slash : Relisted ["app/pages".toList, "app".toList] ["app/pages/".toList, "app".toList] :=
    .slashed 1 _ (by decide)
  have slashes : Relisted ["app".toList, "app/pages".toList, "app".toList]
      ["app//".toList, "app/pages".toList, "app".toList] := .slashed 2 _ (by decide)
  have relisted : EqvGen Relisted options.roots roots := by
    refine .trans _ ["app/pages".toList, "app".toList] _ (.symm _ _ (.rel _ _ slash)) ?_
    refine .trans _ _ _ (.rel _ _ (.repeated (by decide : "app".toList ∈ _))) ?_
    exact .trans _ _ _ (.rel _ _ slashes) (.symm _ _ (.rel _ _ (.emptied _)))
  rcases parse_withRoots_of_relisted relisted file with
    ⟨same, -, ⟨start, whole, longest⟩, read, -⟩
  have directories : options.directories = ["app/pages/".toList, "app/".toList] :=
    List.mergeSort_of_pairwise (by decide)
  have rest : options.dropRoot file = "[id].vue".toList := by
    rw [dropRoot, directories]
    decide
  rw [rest] at whole read
  have isStart : start = "app/pages/".toList :=
    (List.append_cancel_right (show "app/pages/".toList ++ _ = start ++ _ from whole)).symm
  have below : (options.withRoots []).parse "[id].vue".toList =
      .ok ⟨"[id].vue".toList, path.segments, none⟩ := by decide +kernel
  rw [below] at read
  exact ⟨relisted, same.trans read, isStart ▸ longest⟩

end ParseOptions
end FileRoutes
