import FileRoutes.Proofs.PagePath.Composing
import FileRoutes.Proofs.PagePath.Segments
import Mathlib.Data.List.DropRight

/-!
# What is read from folders

Only the last name on a path is meant to bear a view, modes, a suffix and an extension.  Whatever
is looked for at the end of the path and holds no slash is found in the last name or nowhere, which
settles all of them but the view.  A view is cut at the last at sign that a view name follows, and
that name may end at a dot in the middle of a folder's name.  So the folders are read as they stand
if no view can be cut out of them, and otherwise only if the last name has a view of its own.
-/

namespace FileRoutes

/-! ## The last name on a path -/

namespace FileName

/-- The path up to its last slash and with it. -/
def folders (path : Text) : Text :=
  path.rdropWhile (· ≠ '/')

def ownName (path : Text) : Text :=
  path.rtakeWhile (· ≠ '/')

theorem folders_append_ownName (path : Text) : folders path ++ ownName path = path :=
  List.rdropWhile_append_rtakeWhile

end FileName

namespace Text

/-- The text ends in a slash, if it holds anything. -/
def IsClosed (text : Text) : Prop :=
  text = [] ∨ ∃ front, text = front ++ ['/']

theorem isClosed_folders (path : Text) : IsClosed (FileName.folders path) := by
  by_cases empty : FileName.folders path = []
  · exact .inl empty
  · have last := List.rdropWhile_last_not (· ≠ '/') path empty
    refine .inr ⟨(FileName.folders path).dropLast, ?_⟩
    have isSlash : (FileName.folders path).getLast empty = '/' := by
      simpa [FileName.folders] using last
    rw [← isSlash, List.dropLast_append_getLast]

variable {dir text back : Text}

theorem IsClosed.tail {c : Char} {rest : Text} (closed : IsClosed (c :: rest)) : IsClosed rest := by
  rcases closed.resolve_left (List.cons_ne_nil _ _) with ⟨front, whole⟩
  cases front with
  | nil => exact .inl (List.cons.inj whole).2
  | cons _ later => exact .inr ⟨later, (List.cons.inj whole).2⟩

/-- An end without slashes does not reach into the folders. -/
theorem IsClosed.isSuffix_append_iff (closed : dir.IsClosed) (free : '/' ∉ back) :
    back <:+ dir ++ text ↔ back <:+ text := by
  constructor
  · intro ends
    rcases List.suffix_or_suffix_of_suffix ends (List.suffix_append dir text) with inside | ⟨x, rfl⟩
    · exact inside
    · have crossing : x <:+ dir := ((List.suffix_append_inj_of_length_eq rfl).mp ends).1
      have nothing : x = [] := by
        rcases closed with rfl | ⟨front, rfl⟩
        · exact List.suffix_nil.mp crossing
        · rcases List.eq_nil_or_concat' x with empty | ⟨y, c, rfl⟩
          · exact empty
          · have single : [c].length = ['/'].length := rfl
            have last := ((List.suffix_append_inj_of_length_eq single).mp crossing).2
            rw [last] at free
            simp at free
      rw [nothing]
      exact List.suffix_refl text
  · exact fun ends => ends.trans (List.suffix_append dir text)

theorem IsClosed.before?_append (closed : dir.IsClosed) (free : '/' ∉ back) :
    before? back (dir ++ text) = (before? back text).map (dir ++ ·) := by
  apply Option.ext
  intro stem
  rw [before?_eq_some_iff, Option.map_eq_some_iff]
  constructor
  · intro whole
    rcases (closed.isSuffix_append_iff free).mp ⟨stem, whole.symm⟩ with ⟨front, rfl⟩
    refine ⟨front, before?_eq_some_iff.mpr rfl, ?_⟩
    rw [← List.append_assoc] at whole
    exact List.append_cancel_right whole
  · rintro ⟨front, cut, rfl⟩
    rw [before?_eq_some_iff.mp cut, List.append_assoc]

theorem IsClosed.pieces_append (closed : dir.IsClosed) (text : Text) :
    (dir ++ text).pieces = dir.pieces ++ text.pieces := by
  rcases closed with rfl | ⟨front, rfl⟩
  · rfl
  · have cut (rest : Text) : (front ++ '/' :: rest).pieces = front.pieces ++ rest.pieces := by
      unfold pieces
      rw [List.splitOn_eq_splitOnP, List.splitOnP_append_cons _ _ (by simp), List.filter_append,
        ← List.splitOn_eq_splitOnP, ← List.splitOn_eq_splitOnP]
    rw [List.append_assoc, List.singleton_append, cut, cut]
    exact congrArg (· ++ text.pieces) (List.append_nil _).symm

end Text

/-! ## What ends a path -/

open Text

namespace FileName

variable {path dir base stem : Text}

/-- The last extension is a word behind a dot. -/
theorem beforeExtension?_eq_some_iff : beforeExtension? path = some stem ↔
    ∃ extension : Text, extension.IsWord ∧ before? ('.' :: extension) path = some stem := by
  constructor
  · intro cut
    have whole := congrArg List.reverse
      (List.takeWhile_append_dropWhile (p := isWordChar) (l := path.reverse))
    rw [List.reverse_append, List.reverse_reverse] at whole
    unfold beforeExtension? at cut
    split at cut
    · next c rest later taken dropped =>
      rcases Option.some.inj cut with rfl
      refine ⟨(c :: rest).reverse, ?_, ?_⟩
      · have run : ∀ c ∈ path.reverse.takeWhile isWordChar, isWordChar c = true :=
          fun _ => List.mem_takeWhile_imp
        rw [taken] at run
        exact IsWord.reverse ⟨List.cons_ne_nil _ _, run⟩
      · rw [before?_eq_some_iff, ← whole, taken, dropped, List.reverse_cons, List.append_assoc]
        rfl
    · cases cut
  · rintro ⟨extension, word, cut⟩
    rw [before?_eq_some_iff.mp cut, beforeExtension?_append word]

theorem slash_not_mem_dotted {extension : Text} (free : '/' ∉ extension) :
    '/' ∉ dotted extension := by
  have kept : '/' ∉ extension.dropWhile (· = '.') :=
    fun inside => free ((List.dropWhile_sublist _).subset inside)
  simp [dotted, kept]

theorem beforeExtension?_append_left (closed : dir.IsClosed) :
    beforeExtension? (dir ++ base) = (beforeExtension? base).map (dir ++ ·) := by
  have free {extension : Text} (word : extension.IsWord) : '/' ∉ '.' :: extension := by
    have plain : '/' ∉ extension := fun inside =>
      absurd (word.2 _ inside) (by decide +kernel)
    simp [plain]
  apply Option.ext
  intro stem
  rw [beforeExtension?_eq_some_iff, Option.map_eq_some_iff]
  constructor
  · rintro ⟨extension, word, cut⟩
    rw [closed.before?_append (free word)] at cut
    rcases Option.map_eq_some_iff.mp cut with ⟨front, inner, rfl⟩
    exact ⟨front, beforeExtension?_eq_some_iff.mpr ⟨extension, word, inner⟩, rfl⟩
  · rintro ⟨front, cut, rfl⟩
    rcases beforeExtension?_eq_some_iff.mp cut with ⟨extension, word, cut⟩
    refine ⟨extension, word, ?_⟩
    rw [closed.before?_append (free word), cut, Option.map_some]

/-- A view name ends at a slash if not before. -/
theorem viewAt?_append_left (closed : dir.IsClosed) (filled : dir ≠ []) :
    viewAt? (dir ++ base) = (viewAt? dir).map fun cut => (cut.1, cut.2 ++ base) := by
  rcases closed.resolve_left filled with ⟨front, rfl⟩
  have stops : ¬isViewChar '/' = true := by decide +kernel
  have left : (front ++ ['/']).dropWhile isViewChar ≠ [] := by
    intro all
    have run := List.dropWhile_eq_nil_iff.mp all
    exact stops (run '/' (List.mem_append_right _ List.mem_cons_self))
  have taken : (front ++ ['/'] ++ base).takeWhile isViewChar =
      (front ++ ['/']).takeWhile isViewChar := by
    rw [List.takeWhile_append, if_neg]
    intro whole
    apply left
    have count := congrArg List.length
      (List.takeWhile_append_dropWhile (p := isViewChar) (l := front ++ ['/']))
    rw [List.length_append, whole] at count
    exact List.length_eq_zero_iff.mp (by omega)
  have dropped : (front ++ ['/'] ++ base).dropWhile isViewChar =
      (front ++ ['/']).dropWhile isViewChar ++ base := by
    rw [List.dropWhile_append, if_neg (by simpa using left)]
  rcases List.exists_cons_of_ne_nil left with ⟨c, rest, begins⟩
  unfold viewAt?
  rw [taken, dropped, begins]
  cases (front ++ ['/']).takeWhile isViewChar with
  | nil => rfl
  | cons d later =>
      by_cases dot : c = '.'
      · subst dot
        rfl
      · simp [dot]

/-- A view is cut out of the last name if that has one, and out of the folders otherwise. -/
theorem cutView?_append_left (closed : dir.IsClosed) :
    cutView? (dir ++ base) = ((cutView? base).map fun cut => (cut.1, dir ++ cut.2)).or
      ((cutView? dir).map fun cut => (cut.1, cut.2 ++ base)) := by
  induction dir with
  | nil => cases cut : cutView? base <;> simp [cut, cutView?]
  | cons c rest inductionHypothesis =>
      rw [List.cons_append, cutView?, inductionHypothesis closed.tail, cutView?]
      cases cutView? base with
      | some cut => rfl
      | none =>
          cases cutView? rest with
          | some cut => rfl
          | none =>
              by_cases isAt : c = '@'
              · have filled : rest ≠ [] := by
                  rintro rfl
                  rcases closed.resolve_left (List.cons_ne_nil _ _) with ⟨front, whole⟩
                  have last := List.append_eq_singleton_iff.mp whole.symm
                  subst isAt
                  simp at last
                simp [isAt, viewAt?_append_left closed.tail filled]
              · simp [isAt]

end FileName

/-! ## Names in folders -/

/-- The first find among altered results is the altered first find. -/
theorem findSome?_eq_map {α β : Type} {items : List α} {f g : α → Option β} {change : β → β}
    (each : ∀ item ∈ items, f item = (g item).map change) :
    items.findSome? f = (items.findSome? g).map change := by
  induction items with
  | nil => rfl
  | cons item later inductionHypothesis =>
      rcases List.forall_mem_cons.mp each with ⟨first, others⟩
      rw [List.findSome?_cons, List.findSome?_cons, first, inductionHypothesis others]
      cases g item <;> rfl

namespace ParseOptions

variable {options : ParseOptions} {dir base : Text}

/-- No extension, suffix or mode that is looked for holds a slash. -/
structure SlashFree (options : ParseOptions) : Prop where
  extensions : ∀ extensions ∈ options.extensions, ∀ extension ∈ extensions, '/' ∉ extension
  suffix : ∀ suffix ∈ options.suffix, '/' ∉ suffix
  modes : ∀ mode ∈ options.modes, '/' ∉ mode

/-- A name below the root directories without its extension and the suffix. -/
def bareName (options : ParseOptions) (name : Text) : Text :=
  options.dropSuffix (options.dropExtension name)

def partsBelow (options : ParseOptions) (name : Text) : NameParts :=
  let cut := FileName.cutView? (options.bareName name)
  let inner := options.cutModes ((cut.map Prod.snd).getD (options.bareName name))
  ⟨inner.1, cut.map Prod.fst, inner.2⟩

theorem parts_eq_partsBelow (options : ParseOptions) (file : Text) :
    options.parts file = options.partsBelow (options.dropRoot file) :=
  rfl

namespace SlashFree

theorem dropExtension_append (slashFree : options.SlashFree) (closed : dir.IsClosed) :
    options.dropExtension (dir ++ base) = dir ++ options.dropExtension base := by
  unfold dropExtension
  cases listed : options.extensions with
  | none =>
      dsimp only
      rw [FileName.beforeExtension?_append_left closed, Option.getD_map]
  | some extensions =>
      have each : ∀ extension ∈ extensions,
          before? (FileName.dotted extension) (dir ++ base) =
            (before? (FileName.dotted extension) base).map (dir ++ ·) := fun extension inside =>
        closed.before?_append
          (FileName.slash_not_mem_dotted (slashFree.extensions extensions listed extension inside))
      dsimp only
      rw [findSome?_eq_map each, Option.getD_map]

theorem dropSuffix_append (slashFree : options.SlashFree) (closed : dir.IsClosed) :
    options.dropSuffix (dir ++ base) = dir ++ options.dropSuffix base := by
  unfold dropSuffix
  cases isSuffix : options.suffix with
  | none => rfl
  | some suffix =>
      rw [Option.bind_some, Option.bind_some,
        closed.before?_append (slashFree.suffix suffix isSuffix), Option.getD_map]

theorem bareName_append (slashFree : options.SlashFree) (closed : dir.IsClosed) (name : Text) :
    options.bareName (dir ++ name) = dir ++ options.bareName name := by
  rw [bareName, slashFree.dropExtension_append closed, slashFree.dropSuffix_append closed, bareName]

theorem lastMode?_append (slashFree : options.SlashFree) (closed : dir.IsClosed) :
    options.lastMode? (dir ++ base) =
      (options.lastMode? base).map fun cut => (cut.1, dir ++ cut.2) := by
  apply findSome?_eq_map
  intro mode listed
  have free : '/' ∉ '.' :: mode := by
    simpa using slashFree.modes mode (List.mem_filter.mp listed).1
  rw [closed.before?_append free, Option.map_map, Option.map_map]
  rfl

theorem cutModes_append (slashFree : options.SlashFree) (closed : dir.IsClosed) (path : Text) :
    options.cutModes (dir ++ path) =
      (dir ++ (options.cutModes path).1, (options.cutModes path).2) := by
  induction path using cutModes.induct options with
  | case1 path absent =>
      have absentToo : options.lastMode? (dir ++ path) = none := by
        rw [slashFree.lastMode?_append closed, absent]
        rfl
      rw [cutModes_of_none absent, cutModes_of_none absentToo]
  | case2 path mode stem found _ inductionHypothesis =>
      have foundToo : options.lastMode? (dir ++ path) = some (mode, dir ++ stem) := by
        rw [slashFree.lastMode?_append closed, found]
        rfl
      rw [cutModes_of_some found, cutModes_of_some foundToo, inductionHypothesis]

/-- Unless the view is cut out of the folders, they are left in front of the route path and the
name says the same as without them. -/
theorem partsBelow_append (slashFree : options.SlashFree) (closed : dir.IsClosed) {name : Text}
    (own : FileName.cutView? dir = none ∨ FileName.cutView? (options.bareName name) ≠ none) :
    options.partsBelow (dir ++ name) =
      { options.partsBelow name with stem := dir ++ (options.partsBelow name).stem } := by
  have cut : FileName.cutView? (options.bareName (dir ++ name)) =
      (FileName.cutView? (options.bareName name)).map fun cut => (cut.1, dir ++ cut.2) := by
    rw [slashFree.bareName_append closed, FileName.cutView?_append_left closed]
    rcases own with uncut | isCut
    · rw [uncut, Option.map_none, Option.or_none]
    · rcases Option.ne_none_iff_exists'.mp isCut with ⟨cut, isCut⟩
      rw [isCut]
      rfl
  have below : ((FileName.cutView? (options.bareName (dir ++ name))).map Prod.snd).getD
      (options.bareName (dir ++ name)) =
        dir ++ ((FileName.cutView? (options.bareName name)).map Prod.snd).getD
          (options.bareName name) := by
    rw [cut, slashFree.bareName_append closed]
    cases FileName.cutView? (options.bareName name) <;> rfl
  unfold partsBelow
  dsimp only
  rw [below, slashFree.cutModes_append closed, cut, Option.map_map]
  rfl

/-- A view that the last name does not have is cut out of the folders. -/
theorem view_partsBelow_append (slashFree : options.SlashFree) (closed : dir.IsClosed)
    {name : Text} (viewless : FileName.cutView? (options.bareName name) = none) :
    (options.partsBelow (dir ++ name)).view = (FileName.cutView? dir).map Prod.fst := by
  unfold partsBelow
  dsimp only
  rw [slashFree.bareName_append closed, FileName.cutView?_append_left closed, viewless,
    Option.map_none, Option.none_or, Option.map_map]
  rfl

end SlashFree

theorem view_pageMeta? (parts : NameParts) : (pageMeta? parts).bind PageMeta.view = parts.view := by
  rw [pageMeta?_eq]
  split
  · next nothing => exact nothing.2.symm
  · rfl

/-! ## Folders in page paths -/

theorem take_segmentTexts_append (closed : dir.IsClosed) (stem : Text) :
    (segmentTexts (dir ++ stem)).take dir.pieces.length = dir.pieces := by
  unfold segmentTexts
  rw [closed.pieces_append]
  split
  · next empty => rw [(List.append_eq_nil_iff.mp empty).1, List.length_nil, List.take_zero]
  · exact List.take_left

/-- The folders are read as they stand, one segment each, and what the name says besides is said by
its last part alone. -/
structure KeepsFolders (options : ParseOptions) (path : PagePath) : Prop where
  segments :
    let texts := (FileName.folders (options.dropRoot path.file)).pieces
    List.Forall₂ (fun text segment => Segment.read text = .ok segment) texts
      (path.segments.take texts.length)
  pageMeta : path.pageMeta =
    pageMeta? (options.partsBelow (FileName.ownName (options.dropRoot path.file)))

/-- The folders of a page file are read as they stand exactly if no view can be cut out of them, or
the last name has a view of its own. -/
theorem keepsFolders_iff_of_parse (slashFree : options.SlashFree) {file : Text} {path : PagePath}
    (read : options.parse file = .ok path) :
    options.KeepsFolders path ↔
      FileName.cutView? (FileName.folders (options.dropRoot file)) = none ∨
        FileName.cutView? (options.bareName (FileName.ownName (options.dropRoot file))) ≠ none := by
  rcases parse_eq_ok_iff.mp read with ⟨texts, rfl, isMeta⟩
  have whole := FileName.folders_append_ownName (options.dropRoot path.file)
  have closed := isClosed_folders (options.dropRoot path.file)
  rw [parts_eq_partsBelow, ← whole] at texts isMeta
  constructor
  · intro kept
    by_contra! torn
    rcases torn with ⟨isCut, viewless⟩
    have sameMeta := isMeta.symm.trans kept.pageMeta
    have sameView := congrArg (Option.bind · PageMeta.view) sameMeta
    simp only [view_pageMeta?, slashFree.view_partsBelow_append closed viewless] at sameView
    rw [partsBelow, viewless] at sameView
    exact isCut (Option.map_eq_none_iff.mp sameView)
  · intro own
    rw [slashFree.partsBelow_append closed own] at texts isMeta
    refine ⟨?_, isMeta⟩
    intro folders
    have front := List.forall₂_take folders.length texts
    rwa [take_segmentTexts_append closed] at front

/-- At signs in folders do no harm without a view name behind them, or in front of another view. -/
theorem keepsFolders_of_view_behind :
    let options : ParseOptions := { modes := ["client".toList] }
    let file : Text := "users@home.d/@/list@side.client.vue".toList
    ∃ path, options.parse file = .ok path ∧ options.KeepsFolders path ∧
      FileName.folders file = "users@home.d/@/".toList := by
  intro options file
  have slashFree : options.SlashFree := ⟨nofun, nofun, by decide⟩
  let path : PagePath := ⟨file, [[.literal "users@home.d".toList], [.literal ['@']],
    [.literal "list".toList]], some ⟨some ["client".toList], some "side".toList⟩⟩
  have read : options.parse file = .ok path := by decide +kernel
  have own : FileName.cutView? (options.bareName (FileName.ownName (options.dropRoot file))) ≠
      none := by decide +kernel
  exact ⟨path, read, (keepsFolders_iff_of_parse slashFree read).mpr (.inr own), by decide⟩

/-- A view is cut out of a folder's name where the last name has none, and stands for a view of the
file. -/
theorem not_keepsFolders_of_view_in_folder :
    ¬∀ (options : ParseOptions) (file : Text) (path : PagePath), options.SlashFree →
      options.parse file = .ok path → options.KeepsFolders path := by
  intro kept
  let file : Text := "a@x.b/c.vue".toList
  let path : PagePath :=
    ⟨file, [[.literal "a.b".toList], [.literal ['c']]], some ⟨none, some ['x']⟩⟩
  have slashFree : ParseOptions.SlashFree {} := ⟨nofun, nofun, nofun⟩
  have read : ParseOptions.parse {} file = .ok path := by decide +kernel
  have texts : (FileName.folders (ParseOptions.dropRoot {} file)).pieces = ["a@x.b".toList] := by
    decide +kernel
  have segments := (kept {} file path slashFree read).segments
  dsimp only at segments
  rw [texts] at segments
  have folder : Segment.read "a@x.b".toList = .ok [.literal "a.b".toList] :=
    (List.forall₂_cons.mp segments).1
  revert folder
  decide +kernel

end ParseOptions
end FileRoutes
