import FileRoutes.NestedRoute.Draft
import FileRoutes.Proofs.NestedRoute.Encoding

/-!
# What shows of segments

A route's name and path do not show all of its segments: a catch-all without a name looks in a path
like one that bears the supplied name.  The look of a segment is what is left.  A path shows the
tokens of its segments one by one, and the name shows the rest, so rows of segments that share
their name and path look alike.
-/

namespace FileRoutes

open RoutePath

/-! ## Tokens -/

/-- The name of a parameter as it stands in a path. -/
def ParameterKind.shownName (kind : ParameterKind) (name : Text) : Text :=
  if kind = .catchall then catchallName name else name

/-- What follows the name of a parameter at the end of a path. -/
def ParameterKind.modifier : ParameterKind → Text
  | dynamic => ['(', ')']
  | optional => ['?']
  | repeatable => ['+']
  | optionalRepeatable => ['*']
  | catchall => finalCatchall

namespace Token

/-- The token as a path shows it. -/
def shown : Token → Token
  | literal text => literal text
  | parameter kind name => parameter kind (kind.shownName name)
  | group name => group name

def isCatchall : Token → Bool
  | parameter kind _ => kind = .catchall
  | _ => false

theorem isCatchall_shown (token : Token) : token.shown.isCatchall = token.isCatchall := by
  cases token <;> rfl

theorem shown_eq_literal_iff {token : Token} {text : Text} :
    token.shown = literal text ↔ token = literal text := by
  cases token <;> simp [shown]

end Token

namespace ParameterKind

theorem catchallName_catchallName (name : Text) :
    catchallName (catchallName name) = catchallName name := by
  by_cases nameless : name = []
  · subst nameless
    rfl
  · have named : catchallName name = name := if_neg nameless
    rw [named, named]

theorem routeSyntax_shownName (kind : ParameterKind) (followed : Bool) (name : Text) :
    kind.routeSyntax followed (kind.shownName name) = kind.routeSyntax followed name := by
  cases kind with
  | catchall => rw [routeSyntax, shownName, if_pos rfl, catchallName_catchallName, routeSyntax]
  | dynamic | optional | repeatable | optionalRepeatable => rfl

theorem routeSyntax_false (kind : ParameterKind) (name : Text) :
    kind.routeSyntax false name = ':' :: (kind.shownName name ++ kind.modifier) := by
  cases kind <;> rfl

theorem isNameChar_shownName {kind : ParameterKind} {name : Text}
    (chars : ∀ c ∈ name, Segment.isNameChar c = true) :
    ∀ c ∈ kind.shownName name, Segment.isNameChar c = true := by
  have supplied : "pathMatch".toList.all Segment.isNameChar = true := by decide +kernel
  unfold shownName catchallName
  split
  · split
    · exact List.all_eq_true.mp supplied
    · exact chars
  · exact chars

/-- A modifier ends the name before it. -/
theorem isNameChar_head?_modifier (kind : ParameterKind) (rest : Text) :
    ∀ c ∈ (kind.modifier ++ rest).head?, Segment.isNameChar c = false := by
  intro c first
  cases kind <;> rcases Option.some.inj first with rfl <;> decide

/-- No modifier begins another one. -/
theorem modifier_append_inj {kind other : ParameterKind} {rest more : Text}
    (same : kind.modifier ++ rest = other.modifier ++ more) : kind = other ∧ rest = more := by
  cases kind <;> cases other <;> simp_all [modifier, finalCatchall]

end ParameterKind

/-- Encoded text does not begin as a parameter does. -/
theorem RoutePath.head?_encode_ne (text : Text) : (encode text).head? ≠ some ':' := by
  cases text with
  | nil => exact nofun
  | cons c rest =>
      rcases exists_encodeChar_eq_cons c with ⟨first, more, encoded, notColon⟩
      rw [encode, List.flatMap_cons, encoded]
      intro isColon
      exact notColon (Option.some.inj isColon)

/-! ## Segments -/

/-- What names and paths show of a segment. -/
structure Look where
  name : Text
  tokens : Segment
deriving DecidableEq, Repr

namespace Segment

def look (segment : Segment) : Look :=
  ⟨segment.routeName, segment.map Token.shown⟩

def hasCatchall (segment : Segment) : Bool :=
  segment.any Token.isCatchall

variable {first second later : Segment} {token : Token}

theorem routeSyntax_cons (token : Token) (later : Segment) (followed : Bool) :
    routeSyntax followed (token :: later) =
      token.routeSyntax followed ++ later.routeSyntax followed :=
  List.flatMap_cons

theorem routeName_of_ne_index (other : first ≠ index)
    (ungrouped : ∀ token ∈ first, token.isGroup = false) :
    first.routeName = first.flatMap Token.value := by
  have allVisible : first.visible = first := by
    apply List.filter_eq_self.mpr
    intro token listed
    rw [ungrouped token listed]
    rfl
  have notIndex : ¬first.isIndex = true := by simp [isIndex, other]
  rw [routeName, if_neg notIndex, allVisible]

theorem OfName.slash_not_mem_routeName (ofName : first.OfName) : '/' ∉ first.routeName := by
  unfold routeName
  split
  · decide
  · intro inside
    rcases List.mem_flatMap.mp inside with ⟨token, visible, inToken⟩
    exact ofName.slash_not_mem_value (List.mem_filter.mp visible).1 inToken

theorem routeSyntax_map_shown (segment : Segment) (followed : Bool) :
    routeSyntax followed (segment.map Token.shown) = segment.routeSyntax followed := by
  unfold routeSyntax
  rw [List.flatMap_map]
  apply List.flatMap_congr
  intro token _
  cases token with
  | literal text => rfl
  | group name => rfl
  | parameter kind name => exact kind.routeSyntax_shownName followed name

theorem map_shown_eq_index_iff : first.map Token.shown = index ↔ first = index := by
  unfold index
  rw [List.map_eq_singleton_iff]
  simp only [Token.shown_eq_literal_iff]
  constructor
  · rintro ⟨token, rfl, rfl⟩
    rfl
  · rintro rfl
    exact ⟨_, rfl, rfl⟩

theorem hasCatchall_map_shown (segment : Segment) :
    hasCatchall (segment.map Token.shown) = segment.hasCatchall := by
  unfold hasCatchall
  rw [List.any_map]
  exact congrArg segment.any (funext Token.isCatchall_shown)

theorem map_shown_of_look_eq (same : first.look = second.look) :
    first.map Token.shown = second.map Token.shown :=
  congrArg Look.tokens same

theorem eq_index_iff_of_look_eq (same : first.look = second.look) :
    first = index ↔ second = index := by
  rw [← map_shown_eq_index_iff, map_shown_of_look_eq same, map_shown_eq_index_iff]

theorem routeSyntax_eq_of_look_eq (same : first.look = second.look) (followed : Bool) :
    first.routeSyntax followed = second.routeSyntax followed := by
  rw [← routeSyntax_map_shown, map_shown_of_look_eq same, routeSyntax_map_shown]

/-- All tokens of the segment leave a trace in a path, and none holds a slash. -/
structure Showing (segment : Segment) : Prop where
  readable : segment.Readable
  ungrouped : ∀ token ∈ segment, token.isGroup = false
  free : ∀ token ∈ segment, '/' ∉ token.value

theorem Showing.tail (showing : Showing (token :: later)) : later.Showing where
  readable := (readable_cons_iff.mp showing.readable).2.2
  ungrouped := (List.forall_mem_cons.mp showing.ungrouped).2
  free := (List.forall_mem_cons.mp showing.free).2

/-- A path goes on with a slash, if it goes on. -/
def Breaks (rest : Text) : Prop :=
  ∀ c ∈ rest.head?, c = '/'

/-- What is left of a segment behind literal text opens a parameter. -/
theorem Showing.bounds {text rest : Text} (showing : Showing (.literal text :: later))
    (breaks : Breaks rest) : Bounds (later.routeSyntax false ++ rest) := by
  intro c first
  cases later with
  | nil => exact .inr (breaks c first)
  | cons next others =>
      have neighbours := (readable_cons_iff.mp showing.readable).2.1 next rfl
      cases next with
      | literal text => exact absurd neighbours id
      | group name => exact absurd (showing.tail.ungrouped _ List.mem_cons_self) nofun
      | parameter kind name =>
          rw [routeSyntax_cons, Token.routeSyntax, kind.routeSyntax_false] at first
          exact .inl (Option.some.inj first).symm

/-- Something of a token begins a path, and it is no slash. -/
theorem Showing.not_breaks (showing : Showing (token :: later)) (rest : Text) :
    ¬Breaks (routeSyntax false (token :: later) ++ rest) := by
  intro breaks
  rw [routeSyntax_cons, List.append_assoc] at breaks
  have isToken := showing.readable.each token List.mem_cons_self
  cases token with
  | literal text =>
      rcases head?_encode_append isToken.1 (showing.free _ List.mem_cons_self)
        (later.routeSyntax false ++ rest) with ⟨c, first, -, notSlash⟩
      exact notSlash (breaks c first)
  | group name => exact absurd (showing.ungrouped _ List.mem_cons_self) nofun
  | parameter kind name =>
      rw [Token.routeSyntax, kind.routeSyntax_false] at breaks
      exact absurd (breaks ':' rfl) (by decide)

/-- A path shows the first token of a segment. -/
theorem Showing.head_eq {other : Token} {more : Segment} {behind beyond : Text}
    (showing : Showing (token :: later)) (showingToo : Showing (other :: more))
    (breaks : Breaks behind) (breaksToo : Breaks beyond)
    (same : routeSyntax false (token :: later) ++ behind =
      routeSyntax false (other :: more) ++ beyond) :
    token.shown = other.shown ∧
      later.routeSyntax false ++ behind = more.routeSyntax false ++ beyond := by
  rw [routeSyntax_cons, routeSyntax_cons, List.append_assoc, List.append_assoc] at same
  have isToken := showing.readable.each token List.mem_cons_self
  have isOther := showingToo.readable.each other List.mem_cons_self
  have apart {text rest more : Text} {kind : ParameterKind} {name : Text} (nonempty : text ≠ []) :
      encode text ++ rest ≠ kind.routeSyntax false name ++ more := by
    intro same
    have begins := congrArg List.head? same
    rw [List.head?_append_of_ne_nil _ (encode_ne_nil nonempty), kind.routeSyntax_false] at begins
    exact head?_encode_ne text begins
  cases token with
  | group name => exact absurd (showing.ungrouped _ List.mem_cons_self) nofun
  | literal text =>
      cases other with
      | group name => exact absurd (showingToo.ungrouped _ List.mem_cons_self) nofun
      | parameter kind name => exact absurd same (apart isToken.1)
      | literal otherText =>
          rcases encode_append_inj (showing.free _ List.mem_cons_self)
            (showingToo.free _ List.mem_cons_self) (showing.bounds breaks)
            (showingToo.bounds breaksToo) same with ⟨rfl, onward⟩
          exact ⟨rfl, onward⟩
  | parameter kind name =>
      cases other with
      | group name => exact absurd (showingToo.ungrouped _ List.mem_cons_self) nofun
      | literal text => exact absurd same.symm (apart isOther.1)
      | parameter otherKind otherName =>
          rw [Token.routeSyntax, Token.routeSyntax, kind.routeSyntax_false,
            otherKind.routeSyntax_false, List.cons_append, List.cons_append, List.append_assoc,
            List.append_assoc] at same
          rcases Text.append_inj_of_run (ParameterKind.isNameChar_shownName isToken.1)
            (ParameterKind.isNameChar_shownName isOther.1) (kind.isNameChar_head?_modifier _)
            (otherKind.isNameChar_head?_modifier _) (List.cons.inj same).2 with ⟨names, behind⟩
          rcases ParameterKind.modifier_append_inj behind with ⟨rfl, onward⟩
          exact ⟨by rw [Token.shown, Token.shown, names], onward⟩

/-- A path shows the tokens of a segment and where the segment ends. -/
theorem Showing.map_shown_eq (showing : first.Showing) (showingToo : second.Showing)
    {rest more : Text} (breaks : Breaks rest) (breaksToo : Breaks more)
    (same : first.routeSyntax false ++ rest = second.routeSyntax false ++ more) :
    first.map Token.shown = second.map Token.shown ∧ rest = more := by
  induction first generalizing second with
  | nil =>
      cases second with
      | nil => exact ⟨rfl, same⟩
      | cons other others => exact absurd (same ▸ breaks) (showingToo.not_breaks more)
  | cons token later inductionHypothesis =>
      cases second with
      | nil => exact absurd (same ▸ breaksToo) (showing.not_breaks rest)
      | cons other others =>
          rcases showing.head_eq showingToo breaks breaksToo same with ⟨tokens, onward⟩
          rcases inductionHypothesis showing.tail showingToo.tail onward with ⟨others, behind⟩
          exact ⟨by rw [List.map_cons, List.map_cons, tokens, others], behind⟩

end Segment
end FileRoutes
