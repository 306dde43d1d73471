import FileRoutes.PathPattern.Validity
import FileRoutes.Proofs.Expression.Reading

/-!
# The text of a pattern as an expression

Literal text is escaped, the expressions for parameters are complete, and every group is closed, so
that nothing can go wrong with the text of a pattern but the names of its groups.  It is therefore
an expression, nested only a few levels deep, exactly if these are well formed and distinct.  This
is the criterion by which plain patterns are judged without being read.
-/

namespace FileRoutes

/-! ## What the text of a pattern tries -/

/-- One run is in normal form. -/
theorem CharSet.ofRuns_singleton (unicode : Bool) (run : Text.CharRange) :
    ofRuns unicode [run] = ⟨unicode, [run]⟩ := by
  simp [ofRuns, Text.CharRange.normalize, Text.CharRange.joinFrom]

def CharSet.slashless : CharSet :=
  ⟨true, [(0, 0x2E), (0x30, 0x10FFFF)]⟩

def CharSet.unbroken : CharSet :=
  ⟨true, [(0, 9), (11, 0x10FFFF)]⟩

namespace ParameterKind

/-- So many characters of a piece or more. -/
def run (least : Nat) : Expression :=
  .repetition least none true (.chars .slashless)

/-- Any number of pieces, each with a slash in front. -/
def laterPieces : Expression :=
  .repetition 0 none true (.row [.literal ['/'], run 1])

/-- What the expression for a kind is read as. -/
def form : ParameterKind → Expression
  | dynamic => run 1
  | optional => run 0
  | repeatable => .seq (run 1) laterPieces
  | optionalRepeatable => .seq (run 0) laterPieces
  | catchall => .repetition 0 none true (.chars .unbroken)

end ParameterKind

/-- Expressions one after the other, not put into simple form. -/
def Expression.chain (expressions : List Expression) : Expression :=
  expressions.foldr .seq .empty

/-- What a piece tries.  The number of its group makes no difference. -/
def PatternPiece.form : PatternPiece → Expression
  | literal text => .literal text
  | capture kind [] => .group 0 none kind.form
  | capture kind name => .group 0 (some name) kind.form

/-- What a part tries when it is present. -/
def PatternPart.presentForm (part : PatternPart) : Expression :=
  .seq (.literal ['/']) (.chain (part.pieces.map PatternPiece.form))

def PatternPart.form (part : PatternPart) : Expression :=
  if part.optional then .repetition 0 (some 1) true part.presentForm else part.presentForm

/-- What the end of a pattern tries: one more slash may follow. -/
def PathPattern.endForm : Expression :=
  .seq (.repetition 0 (some 1) true (.literal ['/'])) (.place .textEnd)

/-- What a whole pattern tries. -/
def PathPattern.form (pattern : PathPattern) : Expression :=
  .seq (.seq (.place .textStart) (.chain (pattern.parts.map PatternPart.form))) endForm

/-! ## Literal text and parameters -/

namespace Reader

theorem addsItem_plain {c : Char} (isPlain : patternMetacharacters.contains c = false) :
    AddsItem [c] (.literal [c]) 0 := by
  apply addsItem_of_step
  intro alternatives items outer captures rest
  have standsForItself (c : Char) : Mode.initial.literal c = .literal [c] := rfl
  unfold Reader.step
  split <;> simp_all [patternMetacharacters]

theorem addsItem_escaped {c : Char} (special : patternMetacharacters.contains c = true) :
    AddsItem ['\\', c] (.literal [c]) 0 := by
  apply addsItem_of_step
  intro alternatives items outer captures rest
  have each : ∀ c ∈ patternMetacharacters,
      Reader.step ⟨⟨.initial, alternatives, items⟩, outer, captures⟩ ('\\' :: c :: rest) =
        some (Reader.add ⟨⟨.initial, alternatives, items⟩, outer, captures⟩ (.literal [c]) 0,
          rest) := by
    simp only [patternMetacharacters, List.forall_mem_cons]
    repeat refine ⟨rfl, ?_⟩
    exact nofun
  exact each c (List.contains_iff_mem.mp special)

theorem addsItem_class : AddsItem "[^/]".toList (.chars .slashless) 1 := by
  apply addsItem_of_step
  intro alternatives items outer captures rest
  have same : (CharSet.ofRuns true [(0x2F, 0x2F)]).complement = .slashless := by
    rw [CharSet.ofRuns_singleton]
    rfl
  have isChars : Expression.chars .slashless = .ofSet .slashless := rfl
  rw [isChars, ← same]
  rfl

theorem addsItem_point : AddsItem ['.'] (.chars .unbroken) 0 := by
  apply addsItem_of_step
  intro alternatives items outer captures rest
  have same : (CharSet.ofRuns true [(10, 10)]).complement = .unbroken := by
    rw [CharSet.ofRuns_singleton]
    rfl
  have isChars : Expression.chars .unbroken = .ofSet .unbroken := rfl
  rw [isChars, ← same]
  rfl

theorem makes_plus : Makes "[^/]+".toList (ParameterKind.run 1) 2 :=
  addsItem_class.repeated repeatsBy_plus

theorem makes_star : Makes "[^/]*".toList (ParameterKind.run 0) 2 :=
  addsItem_class.repeated repeatsBy_star

theorem makes_laterPieces : Makes "(?:/[^/]+)*".toList ParameterKind.laterPieces 5 :=
  ((addsItem_plain (by decide)).makes.group makes_plus).repeated repeatsBy_star

theorem makes_points :
    Makes ".*".toList (.repetition 0 none true (.chars .unbroken)) 1 :=
  addsItem_point.repeated repeatsBy_star

namespace Takes

theorem escapeLiteral (text : Text) :
    Takes (FileRoutes.escapeLiteral text) [] (.literal text) 0 := by
  have each : ∀ c ∈ text, Takes (if patternMetacharacters.contains c then ['\\', c] else [c]) []
      (.literal [c]) 0 := by
    intro c _
    split
    · next special => exact (addsItem_escaped special).makes.takes trivial
    · next isPlain => exact (addsItem_plain (eq_false_of_ne_true isPlain)).makes.takes trivial
  have same : (Expression.chain (text.map fun c => .literal [c])).tries =
      (Expression.literal text).tries := by
    funext next
    induction text with
    | nil => rfl
    | cons c text inductionHypothesis =>
        have others := inductionHypothesis fun other listed =>
          each other (List.mem_cons_of_mem c listed)
        exact congrArg (Onward.take (· = c)) others
  have takes := (flatMap each).congr (Nat.le_refl 0) same
  rwa [List.flatMap_eq_nil_iff.mpr fun _ _ => rfl] at takes

theorem expression (kind : ParameterKind) : Takes kind.expression [] kind.form 5 := by
  have solidRun (least : Nat) : (ParameterKind.run least).IsSolid := ⟨trivial, fun _ => rfl⟩
  have solidLater : ParameterKind.laterPieces.IsSolid :=
    ⟨⟨trivial, solidRun 1⟩, fun _ => rfl⟩
  have plus := (makes_plus.takes (solidRun 1)).mono (by decide : 2 ≤ 5)
  have star := (makes_star.takes (solidRun 0)).mono (by decide : 2 ≤ 5)
  have later := makes_laterPieces.takes solidLater
  cases kind with
  | dynamic => exact plus
  | optional => exact star
  | repeatable => exact plus.append later
  | optionalRepeatable => exact star.append later
  | catchall => exact (makes_points.takes ⟨trivial, fun _ => rfl⟩).mono (by decide)

/-- A group that captures its text without a name. -/
theorem unnamed (kind : ParameterKind) :
    Takes ('(' :: kind.expression ++ [')']) [] (.group 0 none kind.form) 7 where
  begins := nofun
  accepted reader rest initial ends _ := by
    have step : reader.step ('(' :: (kind.expression ++ ')' :: rest)) =
        some (reader.openCapturing none, kind.expression ++ ')' :: rest) := by
      rcases reader with ⟨⟨mode, alternatives, items⟩, outer, captures⟩
      cases initial
      cases kind <;> rfl
    have opens : Opens reader (reader.openCapturing none) (some none) :=
      ⟨congrArg Level.opened initial, ⟨some _, rfl, rfl⟩, rfl⟩
    rcases (expression kind).reads_closed opens (accepts_nil _) rest with
      ⟨item, nested, captures, shallow, solid, tries, taken, reads⟩
    have split : '(' :: kind.expression ++ [')'] ++ rest =
        '(' :: (kind.expression ++ ')' :: rest) := by
      simp
    rw [split]
    exact ⟨_, .item initial step (Nat.lt_succ_self _) reads,
      gains_add initial taken shallow solid tries⟩
  refused reader _ _ _ refused := absurd reader.accepts_nil refused

/-- A group that captures its text under a name. -/
theorem named (kind : ParameterKind) {name : Text} (free : '>' ∉ name) :
    Takes ("(?P<".toList ++ name ++ '>' :: kind.expression ++ [')']) [name]
      (.group 0 (some name) kind.form) 7 := by
  have split (rest : Text) : "(?P<".toList ++ name ++ '>' :: kind.expression ++ [')'] ++ rest =
      '(' :: '?' :: 'P' :: '<' :: (name ++ '>' :: (kind.expression ++ ')' :: rest)) := by
    simp
  have step {reader : Reader} (initial : reader.level.mode = .initial) (more : Text) :
      reader.step ('(' :: '?' :: 'P' :: '<' :: more) = reader.openNamed more := by
    rcases reader with ⟨⟨mode, alternatives, items⟩, outer, captures⟩
    cases initial
    rfl
  refine ⟨nofun, ?_, ?_⟩
  · intro reader rest initial ends accepts
    have opens : Opens reader (reader.openCapturing (some name)) (some (some name)) :=
      ⟨congrArg Level.opened initial, ⟨some _, rfl, rfl⟩, rfl⟩
    rcases (expression kind).reads_closed opens (accepts_nil _) rest with
      ⟨item, nested, captures, shallow, solid, tries, taken, reads⟩
    rw [split]
    have stepName := step initial (name ++ '>' :: (kind.expression ++ ')' :: rest))
    rw [openNamed_eq reader free, if_pos (accepts_singleton_iff.mp accepts)] at stepName
    have shorter : (kind.expression ++ ')' :: rest).length <
        ('(' :: '?' :: 'P' :: '<' :: (name ++ '>' :: (kind.expression ++ ')' :: rest))).length := by
      simp only [List.length_append, List.length_cons]
      omega
    exact ⟨_, .item initial stepName shorter reads, gains_add initial taken shallow solid tries⟩
  · intro reader rest initial ends refused
    rw [split]
    refine ⟨reader, '(', _, .done _ _, initial, ?_⟩
    rw [step initial, openNamed_eq reader free, if_neg (refused ∘ accepts_singleton_iff.mpr)]

end Takes
end Reader

open Reader (Takes)

/-! ## Patterns -/

theorem PatternPiece.takes_text (piece : PatternPiece) (free : ∀ name ∈ piece.key?, '>' ∉ name) :
    Takes piece.text piece.key?.toList piece.form 7 := by
  rcases piece with text | ⟨kind, _ | ⟨c, rest⟩⟩
  · exact (Takes.escapeLiteral text).mono (Nat.zero_le 7)
  · exact .unnamed kind
  · exact .named kind (free _ rfl)

theorem PatternPiece.takes_body {pieces : List PatternPiece}
    (free : ∀ name ∈ keys pieces, '>' ∉ name) :
    Takes (body pieces) (keys pieces) (.chain (pieces.map form)) 7 := by
  unfold keys at free ⊢
  rw [List.filterMap_eq_flatMap_toList] at free ⊢
  refine .flatMap fun piece listed => piece.takes_text fun name isKey => ?_
  exact free name (List.mem_flatMap.mpr ⟨piece, listed, Option.mem_toList.mpr isKey⟩)

theorem PatternPart.takes_text {part : PatternPart}
    (free : ∀ name ∈ PatternPiece.keys part.pieces, '>' ∉ name) :
    Takes part.text (PatternPiece.keys part.pieces) part.form 10 := by
  have slash := ((Reader.addsItem_plain (c := '/') (by decide)).makes.takes trivial).mono
    (Nat.zero_le 7)
  have present := slash.append (PatternPiece.takes_body free)
  unfold PatternPart.text PatternPart.form
  dsimp only
  split
  · exact present.group
  · exact present.mono (by decide)

namespace PathPattern

variable {pattern : PathPattern}

theorem takes_text (plain : pattern.isPlain = true) :
    Takes pattern.text pattern.keys pattern.form 10 := by
  have free : ∀ name ∈ pattern.keys, '>' ∉ name := by
    intro name isKey
    simpa using List.all_eq_true.mp plain name isKey
  have start : Reader.AddsItem ['^'] (.place .textStart) 0 :=
    Reader.addsItem_of_step fun _ _ _ _ _ => rfl
  have slash : Reader.AddsItem ['/'] (.literal ['/']) 0 := Reader.addsItem_plain (by decide)
  have mayEnd : Reader.Makes ['/', '?'] (.repetition 0 (some 1) true (.literal ['/'])) 1 :=
    slash.repeated Reader.repeatsBy_mark
  have finish : Reader.AddsItem ['$'] (.place .textEnd) 0 :=
    Reader.addsItem_of_step fun _ _ _ _ _ => rfl
  have parts : Takes (pattern.parts.flatMap PatternPart.text) pattern.keys
      (.chain (pattern.parts.map PatternPart.form)) 10 :=
    .flatMap fun part listed => PatternPart.takes_text fun name isKey =>
      free name (List.mem_flatMap.mpr ⟨part, listed, isKey⟩)
  have front := ((start.makes.takes trivial).mono (Nat.zero_le 10)).append parts
  have back := ((mayEnd.takes ⟨trivial, nofun⟩).mono (by decide : 1 ≤ 10)).append
    ((finish.makes.takes trivial).mono (Nat.zero_le 10))
  have whole := front.append back
  rwa [List.append_nil, List.append_nil] at whole

/-- The text of a pattern is an expression, whatever room that takes. -/
def IsExpression (pattern : PathPattern) : Prop :=
  ∃ parsed, Reader.initial.readFrom (pattern.text.length + 1) pattern.text = some parsed ∧
    parsed.depth ≤ Expression.depthLimit

/-- Well-formed, distinct names are all that the text of a plain pattern needs to be read. -/
theorem exists_readFrom (plain : pattern.isPlain = true)
    (wellFormed : ∀ name ∈ pattern.keys, GroupName.isWellFormed name = true)
    (distinct : pattern.keys.Nodup) :
    ∃ parsed, Reader.initial.readFrom (pattern.text.length + 1) pattern.text = some parsed ∧
      parsed.depth ≤ Expression.depthLimit ∧ parsed.expression.IsSolid ∧
      parsed.expression.tries = pattern.form.tries := by
  have accepts : Reader.initial.Accepts pattern.keys :=
    ⟨wellFormed, distinct, fun _ _ => List.not_mem_nil⟩
  rcases (takes_text plain).accepted .initial [] rfl nofun accepts with ⟨last, reads, gains⟩
  rcases gains.items with ⟨added, items, spells⟩
  rw [List.append_nil] at reads
  have only := items.trans (List.append_nil _)
  have shallow := Reader.depth_close_le gains.alternatives only spells.depth
  refine ⟨last.level.close, ?_, Nat.le_trans shallow (by decide),
    Reader.spells_close gains.alternatives only spells⟩
  rw [Reader.readFrom_of_reads reads gains.mode (Nat.lt_succ_self _), Reader.finish, gains.outer]
  rfl

/-- The text of a plain pattern is an expression if and only if the names in it are well formed and
distinct. -/
theorem isExpression_iff (plain : pattern.isPlain = true) :
    pattern.IsExpression ↔
      (∀ name ∈ pattern.keys, GroupName.isWellFormed name = true) ∧ pattern.keys.Nodup := by
  have takes := takes_text plain
  constructor
  · rintro ⟨parsed, read, -⟩
    by_contra refused
    have notAccepted : ¬Reader.initial.Accepts pattern.keys := fun accepts =>
      refused ⟨accepts.wellFormed, accepts.distinct⟩
    have stops := takes.refused .initial [] rfl nofun notAccepted
    rw [List.append_nil] at stops
    rw [Reader.readFrom_of_stops stops] at read
    cases read
  · rintro ⟨wellFormed, distinct⟩
    rcases exists_readFrom plain wellFormed distinct with ⟨parsed, read, shallow, -⟩
    exact ⟨parsed, read, shallow⟩

/-- A plain pattern is valid exactly if its text is an expression. -/
theorem isValid_iff_isExpression (plain : pattern.isPlain = true) :
    pattern.isValid = true ↔ pattern.IsExpression := by
  rw [isExpression_iff plain, isValid, if_pos plain, Bool.and_eq_true_iff, List.all_eq_true,
    decide_eq_true_iff]

/-- What the text of a valid plain pattern is parsed as is solid, and tries what the form does. -/
theorem exists_parse (plain : pattern.isPlain = true) (valid : pattern.isValid = true) :
    ∃ expression, Expression.parse pattern.text = some expression ∧ expression.IsSolid ∧
      expression.tries = pattern.form.tries := by
  rcases (isExpression_iff plain).mp ((isValid_iff_isExpression plain).mp valid) with
    ⟨wellFormed, distinct⟩
  rcases exists_readFrom plain wellFormed distinct with ⟨parsed, read, shallow, solid, tries⟩
  refine ⟨parsed.expression, ?_, solid, tries⟩
  rw [Expression.parse, read]
  exact if_pos shallow

end PathPattern
end FileRoutes
