import FileRoutes.Proofs.Text.Words
import FileRoutes.PagePath.Parsed
import Mathlib.Data.List.Induction

/-!
# File names are read as they are put together

A page file's name is taken apart from the outside inwards.  Each part goes by a mark that no part
further out has: words hold neither dots nor at signs, so the extension is found behind the last
dot, the view behind the only at sign, and the modes behind one dot each.  What has to be asked for
is that the route path itself does not look as if it bore a view or a mode.
-/

namespace FileRoutes

/-! ## Extensions -/

/-- A word behind the last dot is the extension. -/
theorem FileName.beforeExtension?_append {extension : Text} (word : extension.IsWord)
    (front : Text) : beforeExtension? (front ++ '.' :: extension) = some front := by
  have turned : (front ++ '.' :: extension).reverse =
      extension.reverse ++ '.' :: front.reverse := by simp
  have dot : ¬Text.isWordChar '.' = true := by simp [Text.isWordChar_dot]
  rcases List.exists_cons_of_ne_nil (mt List.reverse_eq_nil_iff.mp word.1) with ⟨c, rest, begins⟩
  unfold beforeExtension?
  rw [turned, List.takeWhile_append_of_pos word.reverse.2,
    List.dropWhile_append_of_pos word.reverse.2, List.takeWhile_cons_of_neg dot,
    List.dropWhile_cons_of_neg dot, begins]
  exact congrArg some (List.reverse_reverse front)

/-! ## Views -/

namespace FileName

variable {path stem view rest : Text}

/-- The letters, the digits, the low line and the dash of ASCII may stand in the name of a view. -/
theorem isViewChar_of_ascii {c : Char} (ascii : c.isAlphanum = true ∨ c = '_' ∨ c = '-') :
    isViewChar c = true := by
  rcases ascii with letter | rfl | rfl
  · simp [isViewChar, Text.isWordChar_of_ascii (.inl letter)]
  · simp [isViewChar, Text.isWordChar_of_ascii (.inr rfl)]
  · simp [isViewChar]

theorem cutView?_eq_none (free : '@' ∉ path) : cutView? path = none := by
  induction path with
  | nil => rfl
  | cons c later inductionHypothesis =>
      rcases List.ne_and_not_mem_of_not_mem_cons free with ⟨other, free⟩
      rw [cutView?, inductionHypothesis free]
      exact if_neg other.symm

theorem viewAt?_append (nonempty : view ≠ []) (run : ∀ c ∈ view, isViewChar c = true)
    (ends : ∀ c ∈ rest.head?, c = '.') : viewAt? (view ++ rest) = some (view, rest) := by
  have dot : ¬isViewChar '.' = true := by simp [isViewChar, Text.isWordChar_dot]
  rcases List.exists_cons_of_ne_nil nonempty with ⟨c, others, rfl⟩
  unfold viewAt?
  rw [List.takeWhile_append_of_pos run, List.dropWhile_append_of_pos run]
  cases rest with
  | nil => simp
  | cons next later =>
      rcases ends next rfl with rfl
      rw [List.takeWhile_cons_of_neg dot, List.dropWhile_cons_of_neg dot, List.append_nil]
      rfl

/-- The view is cut at the last at sign, wherever others stand. -/
theorem cutView?_append (nonempty : view ≠ []) (run : ∀ c ∈ view, isViewChar c = true)
    (ends : ∀ c ∈ rest.head?, c = '.') (free : '@' ∉ rest) :
    cutView? (stem ++ '@' :: (view ++ rest)) = some (view, stem ++ rest) := by
  induction stem with
  | nil =>
      have plain : '@' ∉ view := by
        intro listed
        exact absurd (run _ listed) (by simp [isViewChar, Text.isWordChar_at])
      have uncut := cutView?_eq_none (fun listed =>
        (List.mem_append.mp listed).elim plain free)
      rw [List.nil_append, cutView?, uncut]
      exact (if_pos rfl).trans (viewAt?_append nonempty run ends)
  | cons c later inductionHypothesis =>
      rw [List.cons_append, cutView?, inductionHypothesis]
      rfl

end FileName

/-! ## Modes -/

namespace ParseOptions

variable {options : ParseOptions}

/-- A listed mode at the end of a path is found. -/
theorem lastMode?_append (words : ∀ mode ∈ options.modes, mode.IsWord) {mode : Text}
    (listed : mode ∈ options.modes) (stem : Text) :
    options.lastMode? (stem ++ '.' :: mode) = some (mode, stem) := by
  have isFound : (options.lastMode? (stem ++ '.' :: mode)).isSome := by
    have cut : Text.before? ('.' :: mode) (stem ++ '.' :: mode) = some stem :=
      Text.before?_eq_some_iff.mpr rfl
    have filled : mode ∈ options.modes.filter (· ≠ []) :=
      List.mem_filter.mpr ⟨listed, decide_eq_true (words mode listed).1⟩
    unfold lastMode?
    rw [List.findSome?_isSome_iff]
    exact ⟨mode, filled, by rw [cut]; rfl⟩
  rcases Option.isSome_iff_exists.mp isFound with ⟨⟨found, front⟩, isLast⟩
  have word := words found (mem_modes_of_lastMode? isLast).1
  rcases (words mode listed).eq_of_append_dot word (eq_append_of_lastMode? isLast) with
    ⟨rfl, rfl⟩
  exact isLast

theorem lastMode?_eq_none {path : Text}
    (apart : ∀ mode ∈ options.modes, ¬('.' :: mode) <:+ path) : options.lastMode? path = none := by
  unfold lastMode?
  rw [List.findSome?_eq_none_iff]
  intro mode listed
  rw [Text.before?, if_neg (apart mode (List.mem_filter.mp listed).1)]
  rfl

/-- Modes that stand one behind the other are all cut, the last one first. -/
theorem cutModes_append (words : ∀ mode ∈ options.modes, mode.IsWord) {modes : List Text}
    (listed : ∀ mode ∈ modes, mode ∈ options.modes) (stem : Text) :
    options.cutModes (stem ++ modes.flatMap ('.' :: ·)) =
      ((options.cutModes stem).1, (options.cutModes stem).2 ++ modes) := by
  induction modes using List.reverseRecOn with
  | nil => simp
  | append_singleton earlier mode inductionHypothesis =>
      rcases List.forall_mem_append.mp listed with ⟨others, last⟩
      have whole : stem ++ (earlier ++ [mode]).flatMap ('.' :: ·) =
          stem ++ earlier.flatMap ('.' :: ·) ++ '.' :: mode := by simp
      have found := lastMode?_append words (last mode (List.mem_singleton_self _))
        (stem ++ earlier.flatMap ('.' :: ·))
      rw [whole, cutModes_of_some found, inductionHypothesis others, List.append_assoc]

end ParseOptions

/-! ## Whole names -/

namespace NameParts

/-- The route path with the view and the modes behind it. -/
def written (parts : NameParts) : Text :=
  parts.stem ++ parts.view.elim [] ('@' :: ·) ++ parts.modes.flatMap ('.' :: ·)

/-- The parts can be told apart: the view and the modes are names that the options admit, and the
route path does not look as if it ended in any. -/
structure Fits (options : ParseOptions) (parts : NameParts) : Prop where
  view : ∀ view ∈ parts.view, view ≠ [] ∧ ∀ c ∈ view, FileName.isViewChar c = true
  modes : ∀ mode ∈ parts.modes, mode ∈ options.modes
  noView : '@' ∉ parts.stem
  noMode : ∀ mode ∈ options.modes, ¬('.' :: mode) <:+ parts.stem

end NameParts

namespace ParseOptions

variable {options : ParseOptions} {parts : NameParts} {extension : Text}

/-- The file name that is made of some parts, with the suffix of the options or without it. -/
def fileName (options : ParseOptions) (parts : NameParts) (suffixed : Bool) (extension : Text) :
    Text :=
  parts.written ++ (if suffixed then options.suffix.getD [] else []) ++ '.' :: extension

/-- The options take every last extension away and know no roots, and their modes are words. -/
structure Regular (options : ParseOptions) : Prop where
  extensions : options.extensions = none
  roots : options.roots = []
  modes : ∀ mode ∈ options.modes, mode.IsWord

theorem dropSuffix_written {suffixed : Bool}
    (leftOut : suffixed = false → ∀ suffix ∈ options.suffix, ¬suffix <:+ parts.written) :
    options.dropSuffix (parts.written ++ if suffixed then options.suffix.getD [] else []) =
      parts.written := by
  unfold dropSuffix
  cases isSuffix : options.suffix with
  | none => simp
  | some suffix =>
      cases suffixed with
      | true =>
          have cut : Text.before? suffix (parts.written ++ suffix) = some parts.written :=
            Text.before?_eq_some_iff.mpr rfl
          simp [cut]
      | false =>
          have apart := leftOut rfl suffix isSuffix
          simp [Text.before?, apart]

theorem cutView_written (fits : parts.Fits options) (words : ∀ mode ∈ options.modes, mode.IsWord) :
    (FileName.cutView? parts.written).map Prod.fst = parts.view ∧
      ((FileName.cutView? parts.written).map Prod.snd).getD parts.written =
        parts.stem ++ parts.modes.flatMap ('.' :: ·) := by
  have free : '@' ∉ parts.modes.flatMap ('.' :: ·) := by
    intro inside
    rcases List.mem_flatMap.mp inside with ⟨mode, listed, inMode⟩
    rcases List.mem_cons.mp inMode with isDot | inMode
    · cases isDot
    · exact (words mode (fits.modes mode listed)).at_not_mem inMode
  unfold NameParts.written
  cases isView : parts.view with
  | none =>
      have uncut := FileName.cutView?_eq_none (fun listed =>
        (List.mem_append.mp listed).elim fits.noView free)
      simp [uncut]
  | some view =>
      rcases fits.view view isView with ⟨nonempty, run⟩
      have ends : ∀ c ∈ (parts.modes.flatMap ('.' :: ·)).head?, c = '.' := by
        intro c first
        cases listed : parts.modes with
        | nil =>
            rw [listed] at first
            cases first
        | cons mode others =>
            rw [listed] at first
            exact (Option.some.inj first).symm
      have cut : FileName.cutView? (parts.stem ++ '@' ::
          (view ++ parts.modes.flatMap ('.' :: ·))) =
          some (view, parts.stem ++ parts.modes.flatMap ('.' :: ·)) :=
        FileName.cutView?_append nonempty run ends free
      simp [cut]

/-- A file name is taken apart into the parts that it was made of. -/
theorem parts_fileName (regular : options.Regular) (fits : parts.Fits options)
    (word : extension.IsWord) {suffixed : Bool}
    (leftOut : suffixed = false → ∀ suffix ∈ options.suffix, ¬suffix <:+ parts.written) :
    options.parts (options.fileName parts suffixed extension) = parts := by
  have rootless : options.dropRoot (options.fileName parts suffixed extension) =
      options.fileName parts suffixed extension := by
    simp [dropRoot, directories, regular.roots]
  have path : options.dropSuffix (options.dropExtension
      (options.fileName parts suffixed extension)) = parts.written := by
    rw [dropExtension, regular.extensions]
    dsimp only
    rw [fileName, FileName.beforeExtension?_append word]
    exact dropSuffix_written leftOut
  rcases cutView_written fits regular.modes with ⟨view, behind⟩
  have modes := cutModes_append regular.modes fits.modes parts.stem
  rw [cutModes_of_none (lastMode?_eq_none fits.noMode), List.nil_append] at modes
  unfold ParseOptions.parts
  dsimp only
  rw [rootless, path, view, behind, modes]

theorem pageMeta?_eq (parts : NameParts) :
    pageMeta? parts =
      if parts.modes = [] ∧ parts.view = none then none
      else some ⟨if parts.modes = [] then none else some parts.modes, parts.view⟩ := by
  unfold pageMeta?
  by_cases modeless : parts.modes = [] <;> cases view : parts.view <;> simp [modeless]

/-- A file name is read as the parts that it was made of: the segments are those of the route path,
or its first one that cannot be read is the error, and the view and the modes are told in full, if
there are any. -/
theorem parse_fileName (regular : options.Regular) (fits : parts.Fits options)
    (word : extension.IsWord) {suffixed : Bool}
    (leftOut : suffixed = false → ∀ suffix ∈ options.suffix, ¬suffix <:+ parts.written) :
    options.parse (options.fileName parts suffixed extension) =
      ((segmentTexts parts.stem).mapM
          (Segment.readIn (options.fileName parts suffixed extension))).map fun segments =>
        ⟨options.fileName parts suffixed extension, segments,
          if parts.modes = [] ∧ parts.view = none then none
          else some ⟨if parts.modes = [] then none else some parts.modes, parts.view⟩⟩ := by
  unfold parse
  dsimp only
  rw [parts_fileName regular fits word leftOut, pageMeta?_eq]
  cases (segmentTexts parts.stem).mapM
    (Segment.readIn (options.fileName parts suffixed extension)) <;> rfl

/-- All parts may stand together, and a suffix may look like a mode. -/
theorem parse_fileName_in_full :
    let options : ParseOptions :=
      { suffix := some ".page".toList, modes := ["client".toList, "page".toList] }
    let file : Text := "users/[id]@side-bar.page.client.page.vue".toList
    options.parse file =
      .ok ⟨file, [[.literal "users".toList], [.parameter .dynamic "id".toList]],
        some ⟨some ["page".toList, "client".toList], some "side-bar".toList⟩⟩ := by
  intro options file
  let parts : NameParts :=
    ⟨"users/[id]".toList, some "side-bar".toList, ["page".toList, "client".toList]⟩
  have ascii {text : Text} (nonempty : text ≠ [])
      (plain : text.all fun c => c.isAlphanum || c == '_') : text.IsWord := by
    apply Text.IsWord.of_ascii nonempty
    simpa using plain
  have client : Text.IsWord "client".toList := ascii (by decide) (by decide)
  have page : Text.IsWord "page".toList := ascii (by decide) (by decide)
  have vue : Text.IsWord "vue".toList := ascii (by decide) (by decide)
  have regular : options.Regular :=
    ⟨rfl, rfl, List.forall_mem_cons.mpr ⟨client, List.forall_mem_singleton.mpr page⟩⟩
  have fits : parts.Fits options := by
    refine ⟨?_, by decide, by decide, by decide⟩
    rintro view ⟨⟩
    have plain : "side-bar".toList.all fun c => c.isAlphanum || c = '-' := by decide
    refine ⟨by decide, fun c listed => FileName.isViewChar_of_ascii ?_⟩
    have either := List.all_eq_true.mp plain c listed
    exact (by simpa using either : c.isAlphanum = true ∨ c = '-').imp_right .inr
  have composed : options.fileName parts true "vue".toList = file := by decide
  have segments : (segmentTexts parts.stem).mapM (Segment.readIn file) =
      .ok [[.literal "users".toList], [.parameter .dynamic "id".toList]] := by decide +kernel
  have read := @parse_fileName options parts _ regular fits vue true nofun
  rw [composed, segments] at read
  exact read

end ParseOptions
end FileRoutes
