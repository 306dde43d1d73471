import FileRoutes.Proofs.Mapping
import FileRoutes.Proofs.Segment.Sublist
import FileRoutes.Proofs.Text.Slashes
import FileRoutes.RouteTree.PageFile

/-!
# The segments of a file's name

The segments of a page file are read from texts without slashes, since the name is cut at its
slashes first.  `Segment.OfName` and `PageFile.OfName` keep that in mind: a file that was added by
name has segments that can be read, while a page path that was made elsewhere may hold anything.
-/

namespace FileRoutes

/-! ## Segments -/

namespace Segment

/-- A segment that a file's name can give. -/
def OfName (segment : Segment) : Prop :=
  ∃ text, '/' ∉ text ∧ read text = .ok segment

theorem ofName_index : index.OfName :=
  ⟨[], List.not_mem_nil, rfl⟩

namespace OfName

variable {segment : Segment} {token : Token}

theorem canonical (ofName : segment.OfName) : segment.Canonical := by
  rcases ofName with ⟨text, -, taken⟩
  exact canonical_of_read taken

theorem readable (ofName : segment.OfName) (other : segment ≠ index) :
    segment ≠ [] ∧ segment.Readable := by
  rcases ofName.canonical.resolve_left other with ⟨nonempty, -, readable⟩
  exact ⟨nonempty, readable⟩

theorem slash_not_mem_value (ofName : segment.OfName) (listed : token ∈ segment) :
    '/' ∉ token.value := by
  rcases ofName with ⟨text, free, taken⟩
  intro inside
  exact free (mem_of_mem_value taken listed inside)

end OfName

theorem isGroup_eq_false_iff {segment : Segment} (nonempty : segment ≠ []) :
    segment.isGroup = false ↔ ∃ token ∈ segment, token.isGroup = false := by
  simp [isGroup, nonempty]

theorem isGroup_eq_false_of_ungrouped {segment : Segment} (nonempty : segment ≠ [])
    (ungrouped : ∀ token ∈ segment, token.isGroup = false) : segment.isGroup = false := by
  rcases List.exists_mem_of_ne_nil segment nonempty with ⟨token, listed⟩
  exact (isGroup_eq_false_iff nonempty).mpr ⟨token, listed, ungrouped token listed⟩

end Segment

/-! ## Files -/

/-- A name is read when each of its segments is, and what it says besides comes from its parts. -/
theorem ParseOptions.parse_eq_ok_iff {options : ParseOptions} {file : Text} {path : PagePath} :
    options.parse file = .ok path ↔
      List.Forall₂ (fun text segment => Segment.read text = .ok segment)
          (segmentTexts (options.parts file).stem) path.segments ∧
        path.file = file ∧ path.pageMeta = pageMeta? (options.parts file) := by
  have each {texts : List Text} {segments : List Segment} :
      texts.mapM (Segment.readIn file) = .ok segments ↔
        List.Forall₂ (fun text segment => Segment.read text = .ok segment) texts segments := by
    simp only [mapM_eq_ok_iff, Segment.readIn_eq_ok_iff]
  unfold parse
  dsimp only
  constructor
  · intro read
    cases mapped : (segmentTexts (options.parts file).stem).mapM (Segment.readIn file) with
    | error error =>
        rw [mapped] at read
        cases read
    | ok segments =>
        rw [mapped] at read
        rcases Except.ok.inj read with rfl
        exact ⟨each.mp mapped, rfl, rfl⟩
  · rintro ⟨texts, isFile, isMeta⟩
    subst isFile
    rw [each.mpr texts, ← isMeta]
    rfl

theorem ParseOptions.forall₂_of_parse {options : ParseOptions} {file : Text} {path : PagePath}
    (read : options.parse file = .ok path) :
    List.Forall₂ (fun text segment => Segment.read text = .ok segment)
      (segmentTexts (options.parts file).stem) path.segments :=
  (parse_eq_ok_iff.mp read).1

theorem slash_not_mem_of_mem_segmentTexts {stem text : Text} (listed : text ∈ segmentTexts stem) :
    '/' ∉ text := by
  unfold segmentTexts at listed
  split at listed
  · rw [List.mem_singleton.mp listed]
    exact List.not_mem_nil
  · exact Text.slash_not_mem_of_mem_pieces listed

theorem ParseOptions.ofName_of_parse {options : ParseOptions} {file : Text} {path : PagePath}
    (read : options.parse file = .ok path) {segment : Segment} (listed : segment ∈ path.segments) :
    segment.OfName := by
  rcases List.mem_iff_getElem.mp listed with ⟨i, inside, rfl⟩
  have texts := forall₂_of_parse read
  have matched := texts.get (i := i) (texts.length_eq ▸ inside) inside
  exact ⟨_, slash_not_mem_of_mem_segmentTexts (List.getElem_mem _), matched⟩

namespace PageFile

/-- A page file that was added by name. -/
def OfName (file : PageFile) : Prop :=
  ∃ (options : ParseOptions) (path : PagePath) (priority : Int),
    options.parse file.path = .ok path ∧ file = .ofPagePath path priority

/-- What stands at a position is a segment of the name, or the index page in its absence. -/
theorem mem_position {file : PageFile} {segment : Segment} (listed : segment ∈ file.position) :
    segment = Segment.index ∨ segment ∈ file.segments ∧ segment.isGroup = false := by
  unfold position positionOf at listed
  split at listed
  · exact .inl (List.mem_singleton.mp listed)
  · rcases List.mem_filter.mp listed with ⟨ofFile, visible⟩
    exact .inr ⟨ofFile, by simpa using visible⟩

theorem OfName.of_mem_segments {file : PageFile} (ofName : file.OfName) {segment : Segment}
    (listed : segment ∈ file.segments) : segment.OfName := by
  rcases ofName with ⟨options, path, priority, read, same⟩
  rw [same] at listed
  exact ParseOptions.ofName_of_parse read listed

theorem OfName.of_mem_position {file : PageFile} (ofName : file.OfName) {segment : Segment}
    (listed : segment ∈ file.position) : segment.OfName ∧ segment.isGroup = false := by
  rcases mem_position listed with rfl | ⟨ofFile, visible⟩
  · exact ⟨Segment.ofName_index, rfl⟩
  · exact ⟨ofName.of_mem_segments ofFile, visible⟩

end PageFile
end FileRoutes
