import FileRoutes.Proofs.NestedRoute.OpenRows
import FileRoutes.Proofs.PagePath.Ungrouped

/-!
# Plain pages

A plain page is named by its segments with slashes between them and an extension, and has neither
groups nor catch-alls.  Everything shows of its segments, so rows of such segments that look alike
are the same, and as it has no catch-alls its row is open.
-/

namespace FileRoutes

/-! ## Simple tokens -/

/-- Whether the token is neither a group nor a catch-all. -/
def Token.isSimple : Token → Bool
  | .literal _ => true
  | .parameter kind _ => kind ≠ .catchall
  | .group _ => false

namespace Token

variable {token : Token}

theorem isGroup_of_isSimple (simple : token.isSimple = true) : token.isGroup = false := by
  cases token with
  | literal text => rfl
  | parameter kind name => rfl
  | group name => cases simple

theorem isCatchall_of_isSimple (simple : token.isSimple = true) : token.isCatchall = false := by
  cases token with
  | literal text => rfl
  | parameter kind name => exact decide_eq_false (of_decide_eq_true simple)
  | group name => rfl

theorem shown_of_isSimple (simple : token.isSimple = true) : token.shown = token := by
  cases token with
  | literal text => rfl
  | group name => rfl
  | parameter kind name =>
      have notCatchall : kind ≠ .catchall := of_decide_eq_true simple
      rw [shown, ParameterKind.shownName, if_neg notCatchall]

end Token

/-! ## Pages -/

namespace PagePath

/-- A page that is named by its segments and an extension, without groups and catch-alls, and with
the index page at the end if at all. -/
structure IsPlain (extension : Text) (path : PagePath) : Prop where
  word : extension.IsWord
  named : ∃ texts : List Text, (∀ text ∈ texts, text ≠ [] ∧ '/' ∉ text) ∧
    path.file = Text.slashed texts ++ '.' :: extension
  read : ParseOptions.parse {} path.file = .ok path
  simple : ∀ segment ∈ path.segments, ∀ token ∈ segment, token.isSimple = true
  indexLast : Segment.index ∉ path.segments.dropLast

namespace IsPlain

variable {extension : Text} {path other : PagePath}

theorem isUngrouped (isPlain : path.IsPlain extension) : path.IsUngrouped extension where
  word := isPlain.word
  named := isPlain.named
  read := isPlain.read
  ungrouped segment listed token inSegment :=
    Token.isGroup_of_isSimple (isPlain.simple segment listed token inSegment)
  indexLast := isPlain.indexLast

/-- All of the segments shows. -/
theorem map_tokens_row (isPlain : path.IsPlain extension) :
    path.row.map Look.tokens = path.segments := by
  have whole : ∀ segment ∈ path.segments, (Look.tokens ∘ Segment.look) segment = id segment := by
    intro segment listed
    have shown := List.map_congr_left fun token inSegment =>
      Token.shown_of_isSimple (isPlain.simple segment listed token inSegment)
    exact shown.trans (List.map_id' segment)
  rw [row, List.map_map, List.map_congr_left whole, List.map_id]

theorem row_eq_iff (isPlain : path.IsPlain extension) (isPlainToo : other.IsPlain extension) :
    path.row = other.row ↔ path.segments = other.segments := by
  constructor
  · intro same
    rw [← isPlain.map_tokens_row, same, isPlainToo.map_tokens_row]
  · exact congrArg (List.map Segment.look)

theorem row_prefix_iff (isPlain : path.IsPlain extension) (isPlainToo : other.IsPlain extension) :
    path.row <+: other.row ↔ path.segments <+: other.segments := by
  constructor
  · intro begins
    have shown := begins.map Look.tokens
    rwa [isPlain.map_tokens_row, isPlainToo.map_tokens_row] at shown
  · exact fun begins => begins.map Segment.look

theorem isOpen_row (isPlain : path.IsPlain extension) (known : List (List Look)) :
    IsOpen known path.row := by
  have free : innerCatchalls path.row = [] := by
    apply innerCatchalls_eq_nil
    intro look listed
    rcases List.mem_map.mp listed with ⟨segment, isSegment, rfl⟩
    rw [segment.hasCatchall_look]
    apply List.any_eq_false.mpr
    intro token inSegment
    simp [Token.isCatchall_of_isSimple (isPlain.simple segment isSegment token inSegment)]
  intro front inner
  rw [free] at inner
  cases inner

end IsPlain
end PagePath
end FileRoutes
