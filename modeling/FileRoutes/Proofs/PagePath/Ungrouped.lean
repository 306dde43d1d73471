import FileRoutes.Proofs.NestedRoute.RowLook
import FileRoutes.Proofs.PagePath.Composing
import FileRoutes.Proofs.RouteTree.Rivals

/-!
# Pages without groups

A page without groups is named by its segments with slashes between them and an extension.  Its
segments are its position, they are told apart by how they are spelled, and a page that looks as if
it went on from another one has the longer relative path: both end in the same extension, and what
a row of segments looks like tells how long it is spelled.
-/

namespace FileRoutes

open RoutePath

/-! ## Extensions -/

namespace FileName

variable {texts front : List Text} {name text extension path : Text}

theorem last?_slashed_concat (free : ∀ part ∈ front ++ [name], '/' ∉ part)
    (filled : ∀ part ∈ front ++ [name], part ≠ []) (notDot : name ≠ ['.'])
    (notDots : name ≠ ['.', '.']) : last? (Text.slashed (front ++ [name])) = some name := by
  have kept : [name].filter (· ≠ ['.']) = [name] := by simp [notDot]
  unfold last?
  rw [Text.pieces_slashed free filled, List.filter_append, kept, List.getLast?_concat]
  split
  · next dots => exact absurd (Option.some.inj dots) notDots
  · rfl

theorem extension?_of_last? (isLast : last? path = some (text ++ '.' :: extension))
    (nonempty : text ≠ []) (noDot : '.' ∉ extension) : extension? path = some extension := by
  have plain : ∀ c ∈ extension.reverse, decide (c ≠ '.') = true := by
    intro c listed
    exact decide_eq_true (ne_of_mem_of_not_mem (List.mem_reverse.mp listed) noDot)
  have turned : (text ++ '.' :: extension).reverse = extension.reverse ++ '.' :: text.reverse := by
    simp
  rcases List.exists_cons_of_ne_nil (mt List.reverse_eq_nil_iff.mp nonempty) with
    ⟨c, rest, before⟩
  unfold extension?
  rw [isLast]
  dsimp only
  rw [turned, List.dropWhile_append_of_pos plain, List.takeWhile_append_of_pos plain, before]
  simp

/-- The extension of a name that holds something in front of it. -/
theorem extension?_append (nonempty : texts ≠ []) (filled : ∀ text ∈ texts, text ≠ [])
    (free : ∀ text ∈ texts, '/' ∉ text) (named : extension ≠ []) (noSlash : '/' ∉ extension)
    (noDot : '.' ∉ extension) :
    extension? (Text.slashed texts ++ '.' :: extension) = some extension := by
  rcases List.eq_nil_or_concat' texts with empty | ⟨front, text, rfl⟩
  · exact absurd empty nonempty
  · rcases List.forall_mem_append.mp filled with ⟨frontFilled, lastFilled⟩
    rcases List.forall_mem_append.mp free with ⟨frontFree, lastFree⟩
    have textFilled := lastFilled text (List.mem_singleton_self _)
    have textFree := lastFree text (List.mem_singleton_self _)
    have long : 2 < (text ++ '.' :: extension).length := by
      have first := List.length_pos_iff.mpr textFilled
      have last := List.length_pos_iff.mpr named
      rw [List.length_append, List.length_cons]
      omega
    have whole : Text.slashed (front ++ [text]) ++ '.' :: extension =
        Text.slashed (front ++ [text ++ '.' :: extension]) := by
      by_cases empty : front = []
      · subst empty
        simp
      · rw [Text.slashed_concat empty, Text.slashed_concat empty, List.append_assoc,
          List.cons_append]
    rw [whole]
    apply extension?_of_last? _ textFilled noDot
    apply last?_slashed_concat
    · have free : '/' ∉ text ++ '.' :: extension := by simp [textFree, noSlash]
      exact List.forall_mem_append.mpr ⟨frontFree, List.forall_mem_singleton.mpr free⟩
    · have filled : text ++ '.' :: extension ≠ [] := List.append_ne_nil_of_left_ne_nil textFilled _
      exact List.forall_mem_append.mpr ⟨frontFilled, List.forall_mem_singleton.mpr filled⟩
    · exact fun same => absurd (same ▸ long) (by decide)
    · exact fun same => absurd (same ▸ long) (by decide)

end FileName

/-! ## Names of pages -/

theorem segmentTexts_ne_nil (stem : Text) : segmentTexts stem ≠ [] := by
  unfold segmentTexts
  split
  · exact List.cons_ne_nil _ _
  · next nonempty => exact nonempty

theorem ParseOptions.segments_ne_nil_of_parse {options : ParseOptions} {file : Text}
    {path : PagePath} (read : options.parse file = .ok path) : path.segments ≠ [] := by
  intro empty
  have texts := forall₂_of_parse read
  rw [empty, List.forall₂_nil_right_iff] at texts
  exact segmentTexts_ne_nil _ texts

/-- A name that is nothing but an extension leaves nothing to be read. -/
theorem ParseOptions.stem_parts_dotted {extension : Text} (word : extension.IsWord) :
    (ParseOptions.parts {} ('.' :: extension)).stem = [] := by
  have regular : ParseOptions.Regular {} := ⟨rfl, rfl, nofun⟩
  have fits : NameParts.Fits {} ⟨[], none, []⟩ := ⟨nofun, nofun, List.not_mem_nil, nofun⟩
  exact congrArg NameParts.stem (@parts_fileName _ _ extension regular fits word true nofun)

/-! ## Lengths -/

namespace Token

/-- The length of a token's spelling besides its value. -/
def brackets : Token → Nat
  | literal _ => 0
  | parameter kind _ => Text.byteLength (parameter kind []).spelling
  | group _ => Text.byteLength (group []).spelling

theorem brackets_shown (token : Token) : token.shown.brackets = token.brackets := by
  cases token <;> rfl

theorem slash_not_mem_spelling {token : Token} (free : '/' ∉ token.value) :
    '/' ∉ token.spelling := by
  cases token with
  | literal text => exact free
  | group name =>
      have inside : '/' ∉ name := free
      simp [spelling, inside]
  | parameter kind name =>
      have inside : '/' ∉ name := free
      cases kind <;> simp [spelling, inside]

theorem byteLength_spelling (token : Token) :
    Text.byteLength token.spelling = Text.byteLength token.value + token.brackets := by
  cases token with
  | literal text => rfl
  | group name =>
      simp only [spelling, brackets, value, Text.byteLength_append, Text.byteLength]
      omega
  | parameter kind name =>
      cases kind <;>
        simp only [spelling, brackets, value, Text.byteLength_append, Text.byteLength] <;> omega

end Token

namespace Segment

variable {first second : Segment}

theorem byteLength_spelling (segment : Segment) :
    Text.byteLength segment.spelling = Text.byteLength (segment.flatMap Token.value) +
      ((segment.map Token.shown).map Token.brackets).sum := by
  induction segment with
  | nil => rfl
  | cons token later inductionHypothesis =>
      rw [spelling_cons, Text.byteLength_append, token.byteLength_spelling, inductionHypothesis,
        List.flatMap_cons, Text.byteLength_append, List.map_cons, List.map_cons, List.sum_cons,
        token.brackets_shown]
      omega

namespace OfName

variable {segment : Segment}

theorem slash_not_mem_label (ofName : segment.OfName) : '/' ∉ PagePath.segmentLabel segment := by
  unfold PagePath.segmentLabel
  split
  · decide
  · intro inside
    rcases List.mem_flatMap.mp inside with ⟨token, listed, inToken⟩
    exact Token.slash_not_mem_spelling (ofName.slash_not_mem_value listed) inToken

theorem label_ne_nil (ofName : segment.OfName) : PagePath.segmentLabel segment ≠ [] := by
  unfold PagePath.segmentLabel
  split
  · exact List.cons_ne_nil _ _
  · next notIndex =>
    have other : segment ≠ index := by simpa [Segment.isIndex] using notIndex
    rcases ofName.readable other with ⟨nonempty, readable⟩
    exact spelling_ne_nil readable nonempty

end OfName

theorem label_of_ne_index {segment : Segment} (other : segment ≠ index) :
    PagePath.segmentLabel segment = segment.spelling := by
  simp [PagePath.segmentLabel, Segment.isIndex, other]

/-- Segments that look alike are told apart by their labels. -/
theorem eq_of_label_eq (ofName : first.OfName) (ofNameToo : second.OfName)
    (same : first.look = second.look)
    (labels : PagePath.segmentLabel first = PagePath.segmentLabel second) : first = second := by
  have isIndex := eq_index_iff_of_look_eq same
  by_cases page : first = index
  · rw [page, isIndex.mp page]
  · rw [label_of_ne_index page, label_of_ne_index (mt isIndex.mpr page)] at labels
    exact ofName.canonical.eq_of_spelling_eq ofNameToo.canonical labels

/-- Segments that look alike are spelled at the same length. -/
theorem byteLength_label_eq (ungrouped : ∀ token ∈ first, token.isGroup = false)
    (ungroupedToo : ∀ token ∈ second, token.isGroup = false) (same : first.look = second.look) :
    Text.byteLength (PagePath.segmentLabel first) =
      Text.byteLength (PagePath.segmentLabel second) := by
  have isIndex := eq_index_iff_of_look_eq same
  by_cases page : first = index
  · rw [page, isIndex.mp page]
  · have names : first.routeName = second.routeName := congrArg Look.name same
    rw [routeName_of_ne_index page ungrouped,
      routeName_of_ne_index (mt isIndex.mpr page) ungroupedToo] at names
    rw [label_of_ne_index page, label_of_ne_index (mt isIndex.mpr page), byteLength_spelling,
      byteLength_spelling, names, map_shown_of_look_eq same]

end Segment

theorem Text.byteLength_slashed_eq {parts others : List Text}
    (same : parts.map byteLength = others.map byteLength) :
    byteLength (slashed parts) = byteLength (slashed others) := by
  induction parts generalizing others with
  | nil => rw [List.map_eq_nil_iff.mp same.symm]
  | cons part later inductionHypothesis =>
      rcases List.map_eq_cons_iff.mp same.symm with ⟨other, more, rfl, sameLength, sameLengths⟩
      have onward := inductionHypothesis sameLengths.symm
      by_cases empty : later = []
      · subst empty
        rw [List.map_eq_nil_iff.mp sameLengths, slashed_singleton, slashed_singleton, sameLength]
      · have emptyToo : more ≠ [] := by
          rintro rfl
          exact empty (List.map_eq_nil_iff.mp sameLengths.symm)
        rw [slashed_cons empty, slashed_cons emptyToo, byteLength_append, byteLength_append,
          byteLength, byteLength, onward, sameLength]

/-- Rows of segments that look alike are spelled at the same length. -/
theorem Ungrouped.byteLength_slashed_eq {first second : List Segment} (ungrouped : Ungrouped first)
    (ungroupedToo : Ungrouped second) (same : first.map Segment.look = second.map Segment.look) :
    Text.byteLength (Text.slashed (first.map PagePath.segmentLabel)) =
      Text.byteLength (Text.slashed (second.map PagePath.segmentLabel)) := by
  apply Text.byteLength_slashed_eq
  induction first generalizing second with
  | nil => rw [List.map_eq_nil_iff.mp same.symm]
  | cons segment later inductionHypothesis =>
      rcases List.map_eq_cons_iff.mp same.symm with ⟨other, more, rfl, sameLook, sameLooks⟩
      have length := Segment.byteLength_label_eq (ungrouped.ungrouped segment List.mem_cons_self)
        (ungroupedToo.ungrouped other List.mem_cons_self) sameLook.symm
      rw [List.map_cons, List.map_cons, List.map_cons, List.map_cons, length,
        inductionHypothesis ungrouped.tail_cons ungroupedToo.tail_cons sameLooks.symm]

/-! ## Pages -/

namespace PagePath

/-- What shows of the segments of a page. -/
def row (path : PagePath) : List Look :=
  path.segments.map Segment.look

/-- A page that is named by its segments and an extension, without groups, and with the index page
at the end if at all. -/
structure IsUngrouped (extension : Text) (path : PagePath) : Prop where
  word : extension.IsWord
  named : ∃ texts : List Text, (∀ text ∈ texts, text ≠ [] ∧ '/' ∉ text) ∧
    path.file = Text.slashed texts ++ '.' :: extension
  read : ParseOptions.parse {} path.file = .ok path
  ungrouped : ∀ segment ∈ path.segments, ∀ token ∈ segment, token.isGroup = false
  indexLast : Segment.index ∉ path.segments.dropLast

namespace IsUngrouped

variable {extension : Text} {path other : PagePath}

/-- A name that is put together from its pieces has no slash too many. -/
theorem of_pieces {stem : Text} (word : extension.IsWord)
    (named : path.file = Text.slashed stem.pieces ++ '.' :: extension)
    (read : ParseOptions.parse {} path.file = .ok path)
    (ungrouped : ∀ segment ∈ path.segments, ∀ token ∈ segment, token.isGroup = false)
    (indexLast : Segment.index ∉ path.segments.dropLast) : path.IsUngrouped extension where
  word := word
  named := by
    refine ⟨stem.pieces, fun text listed => ?_, named⟩
    exact ⟨Text.ne_nil_of_mem_pieces listed, Text.slash_not_mem_of_mem_pieces listed⟩
  read := read
  ungrouped := ungrouped
  indexLast := indexLast

theorem segments_ne_nil (isUngrouped : path.IsUngrouped extension) : path.segments ≠ [] :=
  ParseOptions.segments_ne_nil_of_parse isUngrouped.read

theorem ofName (isUngrouped : path.IsUngrouped extension) {segment : Segment}
    (listed : segment ∈ path.segments) : segment.OfName :=
  ParseOptions.ofName_of_parse isUngrouped.read listed

theorem segments (isUngrouped : path.IsUngrouped extension) : Ungrouped path.segments where
  each segment listed := by
    have ofName := isUngrouped.ofName listed
    refine ⟨ofName, ?_⟩
    by_cases isIndex : segment = Segment.index
    · subst isIndex
      rfl
    · exact Segment.isGroup_eq_false_of_ungrouped (ofName.readable isIndex).1
        (isUngrouped.ungrouped segment listed)
  indexLast := isUngrouped.indexLast
  ungrouped := isUngrouped.ungrouped

theorem position_eq (isUngrouped : path.IsUngrouped extension) (priority : Int) :
    (PageFile.ofPagePath path priority).position = path.segments := by
  have kept : path.segments.filter (!·.isGroup) = path.segments := by
    apply List.filter_eq_self.mpr
    intro segment listed
    rw [(isUngrouped.segments.each segment listed).2]
    rfl
  have position : (PageFile.ofPagePath path priority).position = positionOf path.segments := rfl
  rw [position, positionOf, kept]
  split
  · next empty => exact absurd empty isUngrouped.segments_ne_nil
  · rfl

/-- Only the index page may be named by its extension alone, which is then taken for the name of a
hidden file. -/
theorem extension?_eq (isUngrouped : path.IsUngrouped extension)
    (other : path.segments ≠ [Segment.index]) :
    FileName.extension? path.file = some extension := by
  have noSlash : '/' ∉ extension := fun listed =>
    absurd (isUngrouped.word.2 _ listed) (by decide +kernel)
  rcases isUngrouped.named with ⟨texts, each, isFile⟩
  by_cases empty : texts = []
  · subst empty
    have read := ParseOptions.forall₂_of_parse isUngrouped.read
    rw [isFile, Text.slashed_nil, List.nil_append, ParseOptions.stem_parts_dotted isUngrouped.word]
      at read
    rcases List.forall₂_cons_left_iff.mp read with ⟨segment, later, isIndex, rest, whole⟩
    rcases Except.ok.inj isIndex with rfl
    rw [List.forall₂_nil_left_iff.mp rest] at whole
    exact absurd whole other
  · rw [isFile]
    exact FileName.extension?_append empty (fun text listed => (each text listed).1)
      (fun text listed => (each text listed).2) isUngrouped.word.1 noSlash
      isUngrouped.word.dot_not_mem

/-- Pages that look alike are told apart by their relative paths. -/
theorem segments_eq_of_relativePath (isUngrouped : path.IsUngrouped extension)
    (isUngroupedToo : other.IsUngrouped extension) (sameRow : path.row = other.row)
    (same : path.relativePath = other.relativePath) : path.segments = other.segments := by
  by_cases isPage : path.segments = [Segment.index]
  · rw [isPage, eq_page_of_map_look_eq sameRow isPage]
  · rw [relativePath, relativePath, isUngrouped.extension?_eq isPage,
      isUngroupedToo.extension?_eq (mt (eq_page_of_map_look_eq sameRow.symm) isPage)] at same
    have labelled {path : PagePath} (isUngrouped : path.IsUngrouped extension) :
        ∀ label ∈ path.segments.map segmentLabel, '/' ∉ label ∧ label ≠ [] := by
      intro label listed
      rcases List.mem_map.mp listed with ⟨segment, isSegment, rfl⟩
      have ofName := isUngrouped.ofName isSegment
      exact ⟨ofName.slash_not_mem_label, ofName.label_ne_nil⟩
    have labels := Text.eq_of_slashed_eq (fun label listed => (labelled isUngrouped label listed).1)
      (fun label listed => (labelled isUngrouped label listed).2)
      (fun label listed => (labelled isUngroupedToo label listed).1)
      (fun label listed => (labelled isUngroupedToo label listed).2) (List.append_cancel_right same)
    have length : path.segments.length = other.segments.length := by
      simpa using congrArg List.length labels
    apply List.ext_getElem length
    intro i inPath inOther
    have label := List.getElem_of_eq labels (by simpa using inPath)
    have look := List.getElem_of_eq sameRow (by simpa [row] using inPath)
    simp only [row, List.getElem_map] at label look
    exact Segment.eq_of_label_eq (isUngrouped.ofName (List.getElem_mem inPath))
      (isUngroupedToo.ofName (List.getElem_mem inOther)) look label

/-- A page that looks as if it went on from another one has the longer relative path. -/
theorem byteLength_lt (isUngrouped : path.IsUngrouped extension)
    (isUngroupedToo : other.IsUngrouped extension) (begins : path.row <+: other.row)
    (differs : path.row ≠ other.row) :
    path.relativePath.byteLength < other.relativePath.byteLength := by
  rcases begins with ⟨looks, whole⟩
  rcases List.map_eq_append_iff.mp whole.symm with ⟨front, rest, segments, sameRow, rfl⟩
  have start := isUngrouped.segments_ne_nil
  have onward : rest ≠ [] := by
    rintro rfl
    exact differs (whole ▸ (List.append_nil _).symm)
  have startToo : front ≠ [] := by
    rintro rfl
    exact start (List.map_eq_nil_iff.mp sameRow.symm)
  -- Nothing goes on from the index page and it goes on from nothing, so both have the extension.
  have notPage : path.segments ≠ [Segment.index] := by
    intro page
    have last := isUngroupedToo.indexLast
    rw [segments, eq_page_of_map_look_eq sameRow.symm page,
      List.dropLast_append_of_ne_nil onward] at last
    exact last (List.mem_append_left _ (List.mem_singleton_self _))
  have otherNotPage : other.segments ≠ [Segment.index] := by
    intro page
    rcases List.append_eq_singleton_iff.mp (segments.symm.trans page) with ⟨empty, -⟩ | ⟨-, empty⟩
    · exact startToo empty
    · exact onward empty
  have labels : Text.byteLength (Text.slashed (path.segments.map segmentLabel)) =
      Text.byteLength (Text.slashed (front.map segmentLabel)) := by
    have frontUngrouped : Ungrouped front := (segments ▸ isUngroupedToo.segments).front
    exact isUngrouped.segments.byteLength_slashed_eq frontUngrouped sameRow.symm
  rw [relativePath, relativePath, isUngrouped.extension?_eq notPage,
    isUngroupedToo.extension?_eq otherNotPage, segments, List.map_append,
    Text.slashed_append (mt List.map_eq_nil_iff.mp startToo) (mt List.map_eq_nil_iff.mp onward)]
  have slash : 0 < ('/' : Char).utf8Size := by decide
  simp only [Text.byteLength_append, Text.byteLength, labels]
  omega

end IsUngrouped
end PagePath
end FileRoutes
