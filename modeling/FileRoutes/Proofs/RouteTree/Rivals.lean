import FileRoutes.Proofs.PagePath.Segments
import FileRoutes.Proofs.RouteTree.Housing
import FileRoutes.Proofs.Segment.Image
import FileRoutes.Proofs.Text.NaturalOrder

/-!
# Rivals

Two files are rivals if they stand at the same position under the same groups and fill the same
view in the same modes, in whatever order these come.  A tree does not compare all this.  It goes
by the keys on the way to a position, and there by a seat, into which groups and modes are joined
as texts.  For files whose names were read it comes to the same, provided that no mode has a comma
in it: the spellings of their segments tell these apart, a group has no slash in its name, and
neither a group nor a mode is empty.
-/

namespace FileRoutes

/-! ## What a name says -/

theorem Segment.eq_of_spellings_eq {segments others : List Segment}
    (canonical : ∀ segment ∈ segments, segment.Canonical)
    (canonicalToo : ∀ segment ∈ others, segment.Canonical)
    (same : segments.map Segment.spelling = others.map Segment.spelling) : segments = others := by
  induction segments generalizing others with
  | nil => exact (List.map_eq_nil_iff.mp same.symm).symm
  | cons segment later inductionHypothesis =>
      rcases List.map_eq_cons_iff.mp same.symm with ⟨other, rest, rfl, sameFirst, sameLater⟩
      rcases List.forall_mem_cons.mp canonical with ⟨first, onward⟩
      rcases List.forall_mem_cons.mp canonicalToo with ⟨firstToo, onwardToo⟩
      rw [first.eq_of_spelling_eq firstToo sameFirst.symm,
        inductionHypothesis onward onwardToo sameLater.symm]

/-- The groups of a name are those of its segments. -/
theorem of_mem_groupsOf {segments : List Segment}
    (ofName : ∀ segment ∈ segments, segment.OfName) {group : Text}
    (listed : group ∈ groupsOf segments) : '/' ∉ group ∧ group ≠ [] := by
  rcases List.mem_flatMap.mp listed with ⟨segment, isGroup, inSegment⟩
  rcases List.mem_map.mp inSegment with ⟨token, isToken, rfl⟩
  rcases List.mem_filter.mp isGroup with ⟨inName, allGroups⟩
  rcases List.mem_filter.mp isToken with ⟨inside, tokenIsGroup⟩
  have canBeRead := ofName segment inName
  have other : segment ≠ Segment.index := by
    rintro rfl
    cases allGroups
  refine ⟨canBeRead.slash_not_mem_value inside, ?_⟩
  have readable := (canBeRead.readable other).2.each token inside
  cases token with
  | literal text => cases tokenIsGroup
  | parameter kind name => cases tokenIsGroup
  | group name => exact readable.1

namespace ParseOptions

theorem mem_modes_of_mem_cutModes {options : ParseOptions} {path mode : Text}
    (listed : mode ∈ (options.cutModes path).2) : mode ∈ options.modes ∧ mode ≠ [] := by
  induction path using cutModes.induct options with
  | case1 path absent =>
      rw [cutModes_of_none absent] at listed
      cases listed
  | case2 path last stem found _ inductionHypothesis =>
      rw [cutModes_of_some found] at listed
      rcases List.mem_append.mp listed with earlier | isLast
      · exact inductionHypothesis earlier
      · rcases List.mem_singleton.mp isLast with rfl
        exact mem_modes_of_lastMode? found

theorem modes_of_parse {options : ParseOptions} {name : Text} {path : PagePath}
    (read : options.parse name = .ok path) : path.modes.getD [] = (options.parts name).modes := by
  rw [PagePath.modes, (parse_eq_ok_iff.mp read).2.2]
  unfold pageMeta?
  by_cases noModes : (options.parts name).modes = []
  · cases (options.parts name).view <;> simp [noModes]
  · simp [noModes]

end ParseOptions

/-! ## Rivals -/

namespace PageFile

/-- Two files that contend for one place in a tree. -/
structure Rivals (first second : PageFile) : Prop where
  position : first.position = second.position
  groups : first.groups = second.groups
  view : first.view = second.view
  modes : (first.modes.getD []).Perm (second.modes.getD [])

instance decidableRivals : DecidableRel Rivals := fun first second =>
  decidable_of_iff (first.position = second.position ∧ first.groups = second.groups ∧
      first.view = second.view ∧ (first.modes.getD []).Perm (second.modes.getD []))
    ⟨fun ⟨position, groups, view, modes⟩ => ⟨position, groups, view, modes⟩,
      fun ⟨position, groups, view, modes⟩ => ⟨position, groups, view, modes⟩⟩

namespace Rivals

variable {first second third : PageFile}

theorem refl (file : PageFile) : file.Rivals file :=
  ⟨rfl, rfl, rfl, .refl _⟩

theorem symm (rivals : first.Rivals second) : second.Rivals first :=
  ⟨rivals.position.symm, rivals.groups.symm, rivals.view.symm, rivals.modes.symm⟩

theorem trans (rivals : first.Rivals second) (further : second.Rivals third) :
    first.Rivals third :=
  ⟨rivals.position.trans further.position, rivals.groups.trans further.groups,
    rivals.view.trans further.view, rivals.modes.trans further.modes⟩

/-- Rivals have the same rivals. -/
theorem congr (rivals : first.Rivals second) : first.Rivals third ↔ second.Rivals third :=
  ⟨rivals.symm.trans, rivals.trans⟩

end Rivals

/-- What a file contributes to its keys and its seat can be read off them. -/
structure Legible (file : PageFile) : Prop where
  position : ∀ segment ∈ file.position, segment.Canonical
  groups : ∀ group ∈ file.groups, '/' ∉ group ∧ group ≠ []
  modes : ∀ mode ∈ file.modes.getD [], ',' ∉ mode ∧ mode ≠ []

/-! ## Files that were added by name -/

theorem legible_of_parse {options : ParseOptions} {name : Text} {path : PagePath}
    (read : options.parse name = .ok path) (commaFree : ∀ mode ∈ options.modes, ',' ∉ mode)
    (priority : Int) : (ofPagePath path priority).Legible where
  position segment listed := by
    rcases ParseOptions.file_of_parse read with rfl
    have ofName : (ofPagePath path priority).OfName := ⟨options, path, priority, read, rfl⟩
    exact (ofName.of_mem_position listed).1.canonical
  groups group listed :=
    of_mem_groupsOf (fun segment inName => ParseOptions.ofName_of_parse read inName) listed
  modes mode listed := by
    have inParts : mode ∈ (options.parts name).modes := ParseOptions.modes_of_parse read ▸ listed
    rcases ParseOptions.mem_modes_of_mem_cutModes inParts with ⟨isMode, nonempty⟩
    exact ⟨commaFree mode isMode, nonempty⟩

theorem legible_of_resolve {options : ParseOptions} {name : Text} {priority : Int}
    {file : PageFile} (isFile : (PageInput.file name priority).resolve options = .ok file)
    (commaFree : ∀ mode ∈ options.modes, ',' ∉ mode) : file.Legible := by
  rcases PageInput.exists_parse_of_resolve isFile with ⟨path, read, rfl⟩
  exact legible_of_parse read commaFree priority

/-! ## Keys and seats -/

namespace Legible

variable {first second : PageFile}

theorem homeOf_eq_iff (legible : first.Legible) (legibleToo : second.Legible) :
    RouteTree.homeOf first = RouteTree.homeOf second ↔ first.position = second.position :=
  ⟨Segment.eq_of_spellings_eq legible.position legibleToo.position,
    congrArg (List.map Segment.spelling)⟩

theorem seat_eq_iff (legible : first.Legible) (legibleToo : second.Legible) :
    first.seat = second.seat ↔ first.groups = second.groups ∧ first.view = second.view ∧
      (first.modes.getD []).Perm (second.modes.getD []) := by
  have groupPath : first.groupPath = second.groupPath ↔ first.groups = second.groups := by
    constructor
    · exact Text.eq_of_slashed_eq (fun group listed => (legible.groups group listed).1)
        (fun group listed => (legible.groups group listed).2)
        (fun group listed => (legibleToo.groups group listed).1)
        (fun group listed => (legibleToo.groups group listed).2)
    · exact congrArg Text.slashed
  let sorted (file : PageFile) : List Text :=
    (file.modes.getD []).mergeSort fun first second => (compare first second).isLE
  have sortedModes {file : PageFile} (legible : file.Legible) (mode : Text)
      (listed : mode ∈ sorted file) : ',' ∉ mode ∧ mode ≠ [] :=
    legible.modes mode (List.mem_mergeSort.mp listed)
  have modes : List.intercalate [','] (sorted first) = List.intercalate [','] (sorted second) ↔
      (first.modes.getD []).Perm (second.modes.getD []) := by
    rw [← mergeSort_eq_iff_perm compare]
    constructor
    · exact Text.eq_of_intercalate_eq (fun mode listed => (sortedModes legible mode listed).1)
        (fun mode listed => (sortedModes legible mode listed).2)
        (fun mode listed => (sortedModes legibleToo mode listed).1)
        (fun mode listed => (sortedModes legibleToo mode listed).2)
    · exact congrArg (List.intercalate [','])
  rw [← groupPath, ← modes, seat, seat, Seat.mk.injEq]
  exact and_left_comm

/-- A tree takes two files for rivals if, and only if, they are. -/
theorem rivals_iff (legible : first.Legible) (legibleToo : second.Legible) :
    first.Rivals second ↔
      RouteTree.homeOf first = RouteTree.homeOf second ∧ first.seat = second.seat := by
  rw [legible.homeOf_eq_iff legibleToo, legible.seat_eq_iff legibleToo]
  constructor
  · exact fun rivals => ⟨rivals.position, rivals.groups, rivals.view, rivals.modes⟩
  · exact fun ⟨position, groups, view, modes⟩ => ⟨position, groups, view, modes⟩

end Legible
end PageFile
end FileRoutes
