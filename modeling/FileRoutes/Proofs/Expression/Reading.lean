import FileRoutes.Expression.Read
import FileRoutes.Proofs.Expression.Trying
import Mathlib.Data.List.Nodup
import Mathlib.Data.List.TakeDrop

/-!
# Reading an expression piece by piece

The reader takes one item at a time and looks no further than it must, so what it makes of a text
can be said of the pieces of the text.  A piece adds items to the level that is open, and the names
of the groups in it to those that have been given; it stops the reader if one of these is not well
formed or has been given before.  Pieces follow one another, and a group makes one item of what is
in it.
-/

namespace FileRoutes
namespace Reader

/-- Reading goes on from one reader and text to another, one item at a time, in the initial mode. -/
inductive Reads : Reader → Text → Reader → Text → Prop where
  | done (reader : Reader) (text : Text) : Reads reader text reader text
  | item {reader next last : Reader} {text middle rest : Text} :
      reader.level.mode = .initial → reader.step text = some (next, middle) →
      middle.length < text.length → Reads next middle last rest → Reads reader text last rest

/-- Reading comes to a place where it cannot go on. -/
def Stops (reader : Reader) (text : Text) : Prop :=
  ∃ last c rest, Reads reader text last (c :: rest) ∧ last.level.mode = .initial ∧
    last.step (c :: rest) = none

variable {reader next last : Reader} {text middle rest : Text} {fuel : Nat}

theorem Reads.trans (reads : Reads reader text next middle) (onward : Reads next middle last rest) :
    Reads reader text last rest := by
  induction reads with
  | done => exact onward
  | item initial step shorter _ inductionHypothesis =>
      exact .item initial step shorter (inductionHypothesis onward)

theorem Reads.stops (reads : Reads reader text next middle) (stops : next.Stops middle) :
    reader.Stops text := by
  rcases stops with ⟨last, c, rest, onward, initial, refused⟩
  exact ⟨last, c, rest, reads.trans onward, initial, refused⟩

theorem readFrom_succ (initial : reader.level.mode = .initial) (c : Char) (rest : Text) :
    readFrom (fuel + 1) reader (c :: rest) =
      (reader.step (c :: rest)).bind fun (next, rest) => readFrom fuel next rest := by
  rw [readFrom, initial]
  rfl

theorem readFrom_of_reads (reads : Reads reader text last []) (initial : last.level.mode = .initial)
    (enough : text.length < fuel) : readFrom fuel reader text = last.finish := by
  generalize isEnd : ([] : Text) = final at reads
  induction reads generalizing fuel with
  | done reader text =>
      subst isEnd
      rcases Nat.exists_eq_add_of_lt enough with ⟨more, rfl⟩
      rw [readFrom, initial]
      rfl
  | @item reader next last text middle rest isInitial step shorter _ inductionHypothesis =>
      cases text with
      | nil => exact absurd shorter (Nat.not_lt_zero _)
      | cons c later =>
          cases fuel with
          | zero => exact absurd enough (Nat.not_lt_zero _)
          | succ fuel =>
              rw [readFrom_succ isInitial, step]
              exact inductionHypothesis initial (by omega) isEnd

theorem readFrom_of_stops (stops : reader.Stops text) (fuel : Nat) :
    readFrom fuel reader text = none := by
  rcases stops with ⟨last, c, rest, reads, initial, refused⟩
  generalize isEnd : c :: rest = final at reads
  induction reads generalizing fuel with
  | done reader text =>
      subst isEnd
      cases fuel with
      | zero => rfl
      | succ fuel =>
          rw [readFrom_succ initial, refused]
          rfl
  | @item reader next last text middle rest isInitial step shorter _ inductionHypothesis =>
      cases fuel with
      | zero => rfl
      | succ fuel =>
          cases text with
          | nil => exact absurd shorter (Nat.not_lt_zero _)
          | cons c later =>
              rw [readFrom_succ isInitial, step]
              exact inductionHypothesis fuel initial refused isEnd

/-- The names of the groups so far, the latest first. -/
def names (reader : Reader) : List Text :=
  reader.captures.filterMap id

/-- Items that have been added, the latest first, try what one expression tries.  They are solid,
and nested no deeper than a bound. -/
structure Spells (added : List Parsed) (form : Expression) (depth : Nat) : Prop where
  depth : ∀ item ∈ added, item.depth ≤ depth
  solid : ∀ item ∈ added, item.expression.IsSolid
  tries : (Expression.row (added.reverse.map Parsed.expression)).tries = form.tries

namespace Spells

variable {added later : List Parsed} {form onward : Expression} {depth : Nat}

theorem nil (depth : Nat) : Spells [] .empty depth :=
  ⟨nofun, nofun, rfl⟩

theorem singleton {item : Parsed} (shallow : item.depth ≤ depth) (solid : item.expression.IsSolid)
    (tries : item.expression.tries = form.tries) : Spells [item] form depth where
  depth := List.forall_mem_singleton.mpr shallow
  solid := List.forall_mem_singleton.mpr solid
  tries := by
    funext next
    simp [Expression.tries_row, tries]

theorem append (spells : Spells added form depth) (more : Spells later onward depth) :
    Spells (later ++ added) (.seq form onward) depth where
  depth := List.forall_mem_append.mpr ⟨more.depth, spells.depth⟩
  solid := List.forall_mem_append.mpr ⟨more.solid, spells.solid⟩
  tries := by
    funext next
    have first := congrFun spells.tries (onward.tries next)
    have second := congrFun more.tries next
    rw [Expression.tries_row] at first second
    simp only [Expression.tries_row, List.reverse_append, List.map_append, List.foldr_append,
      second, first, Expression.tries]

theorem of_le {deeper : Nat} (spells : Spells added form depth) (least : depth ≤ deeper) :
    Spells added form deeper :=
  ⟨fun item listed => Nat.le_trans (spells.depth item listed) least, spells.solid, spells.tries⟩

theorem congr {other : Expression} (spells : Spells added form depth)
    (same : form.tries = other.tries) : Spells added other depth :=
  ⟨spells.depth, spells.solid, spells.tries.trans same⟩

end Spells

/-- What reading has added: items that try what an expression tries, and groups with some names. -/
structure Gains (reader next : Reader) (names : List Text) (form : Expression) (depth : Nat) :
    Prop where
  mode : next.level.mode = .initial
  alternatives : next.level.alternatives = reader.level.alternatives
  outer : next.outer = reader.outer
  names : next.names = names.reverse ++ reader.names
  items : ∃ added : List Parsed, next.level.items = added.map some ++ reader.level.items ∧
    Spells added form depth

theorem Gains.trans {names later : List Text} {form onward : Expression} {depth : Nat}
    (gains : Gains reader next names form depth) (more : Gains next last later onward depth) :
    Gains reader last (names ++ later) (.seq form onward) depth where
  mode := more.mode
  alternatives := more.alternatives.trans gains.alternatives
  outer := more.outer.trans gains.outer
  names := by
    rw [more.names, gains.names, List.reverse_append, List.append_assoc]
  items := by
    rcases gains.items with ⟨first, isFirst, spellsFirst⟩
    rcases more.items with ⟨second, isSecond, spellsSecond⟩
    refine ⟨second ++ first, ?_, spellsFirst.append spellsSecond⟩
    rw [isSecond, isFirst, List.map_append, List.append_assoc]

/-- One item has been added, and perhaps the names of groups in it. -/
theorem gains_add {captures : List (Option Text)} {names : List Text} {item form : Expression}
    {nested depth : Nat} (initial : reader.level.mode = .initial)
    (taken : captures.filterMap id = names.reverse ++ reader.names) (shallow : nested ≤ depth)
    (solid : item.IsSolid) (tries : item.tries = form.tries) :
    Gains reader (({ reader with captures } : Reader).add item nested) names form depth where
  mode := initial
  alternatives := rfl
  outer := rfl
  names := taken
  items := ⟨[⟨item, nested⟩], rfl, .singleton shallow solid tries⟩

/-- Names that groups may still be given. -/
structure Accepts (reader : Reader) (names : List Text) : Prop where
  wellFormed : ∀ name ∈ names, GroupName.isWellFormed name = true
  distinct : names.Nodup
  new : ∀ name ∈ names, name ∉ reader.names

theorem accepts_nil (reader : Reader) : reader.Accepts [] :=
  ⟨nofun, .nil, nofun⟩

theorem Accepts.front {names later : List Text} (accepts : reader.Accepts (names ++ later)) :
    reader.Accepts names where
  wellFormed := (List.forall_mem_append.mp accepts.wellFormed).1
  distinct := (List.nodup_append.mp accepts.distinct).1
  new := (List.forall_mem_append.mp accepts.new).1

theorem accepts_append_iff {names later : List Text} {form : Expression} {depth : Nat}
    (gains : Gains reader next names form depth) :
    reader.Accepts (names ++ later) ↔ reader.Accepts names ∧ next.Accepts later := by
  have taken (name : Text) : name ∉ next.names ↔ name ∉ names ∧ name ∉ reader.names := by
    rw [gains.names, List.mem_append, List.mem_reverse, not_or]
  constructor
  · intro accepts
    rcases List.nodup_append.mp accepts.distinct with ⟨-, second, apart⟩
    refine ⟨accepts.front, (List.forall_mem_append.mp accepts.wellFormed).2, second, ?_⟩
    intro name listed
    exact (taken name).mpr ⟨fun early => apart name early name listed rfl,
      (List.forall_mem_append.mp accepts.new).2 name listed⟩
  · rintro ⟨⟨formed, first, free⟩, formedLater, second, new⟩
    refine ⟨List.forall_mem_append.mpr ⟨formed, formedLater⟩, ?_,
      List.forall_mem_append.mpr ⟨free, fun name listed => ((taken name).mp (new name listed)).2⟩⟩
    refine List.nodup_append.mpr ⟨first, second, ?_⟩
    rintro name early _ listed rfl
    exact ((taken name).mp (new name listed)).1 early

/-- A text adds items and the names of groups wherever these are accepted, and stops the reader
where they are not.  As a question mark would turn a repetition lazy, the text begins with none, and
none follows it. -/
structure Takes (text : Text) (names : List Text) (form : Expression) (depth : Nat) : Prop where
  begins : text.head? ≠ some '?'
  accepted : ∀ (reader : Reader) (rest : Text), reader.level.mode = .initial →
    rest.head? ≠ some '?' → reader.Accepts names →
      ∃ next, Reads reader (text ++ rest) next rest ∧ Gains reader next names form depth
  refused : ∀ (reader : Reader) (rest : Text), reader.level.mode = .initial →
    rest.head? ≠ some '?' → ¬reader.Accepts names → reader.Stops (text ++ rest)

namespace Takes

variable {first second : Text} {names later : List Text} {form onward : Expression} {depth : Nat}

theorem nil (depth : Nat) : Takes [] [] .empty depth where
  begins := nofun
  accepted reader _ initial _ _ :=
    ⟨reader, .done _ _, initial, rfl, rfl, rfl, [], rfl, .nil depth⟩
  refused reader _ _ _ refused := absurd reader.accepts_nil refused

theorem append (takes : Takes first names form depth) (more : Takes second later onward depth) :
    Takes (first ++ second) (names ++ later) (.seq form onward) depth := by
  have follows {rest : Text} (ends : rest.head? ≠ some '?') :
      (second ++ rest).head? ≠ some '?' := by
    cases second with
    | nil => exact ends
    | cons c second => exact more.begins
  constructor
  · cases first with
    | nil => exact more.begins
    | cons c first => exact takes.begins
  · intro reader rest initial ends accepts
    rw [List.append_assoc]
    rcases takes.accepted reader _ initial (follows ends) accepts.front with ⟨next, reads, gains⟩
    have acceptsLater := ((accepts_append_iff gains).mp accepts).2
    rcases more.accepted next rest gains.mode ends acceptsLater with ⟨last, onward, gainsLater⟩
    exact ⟨last, reads.trans onward, gains.trans gainsLater⟩
  · intro reader rest initial ends refused
    rw [List.append_assoc]
    by_cases accepts : reader.Accepts names
    · rcases takes.accepted reader _ initial (follows ends) accepts with ⟨next, reads, gains⟩
      have refusedLater : ¬next.Accepts later := fun acceptsLater =>
        refused ((accepts_append_iff gains).mpr ⟨accepts, acceptsLater⟩)
      exact reads.stops (more.refused next rest gains.mode ends refusedLater)
    · exact takes.refused reader _ initial (follows ends) accepts

theorem flatMap {α : Type} {items : List α} {text : α → Text} {names : α → List Text}
    {form : α → Expression}
    (each : ∀ item ∈ items, Takes (text item) (names item) (form item) depth) :
    Takes (items.flatMap text) (items.flatMap names) ((items.map form).foldr .seq .empty)
      depth := by
  induction items with
  | nil => exact nil depth
  | cons item later inductionHypothesis =>
      rcases List.forall_mem_cons.mp each with ⟨here, others⟩
      exact here.append (inductionHypothesis others)

/-- Less may be said of the depth, and the same of what is tried. -/
theorem congr {other : Expression} {deeper : Nat} (takes : Takes first names form depth)
    (least : depth ≤ deeper) (same : form.tries = other.tries) :
    Takes first names other deeper where
  begins := takes.begins
  accepted reader rest initial ends accepts := by
    rcases takes.accepted reader rest initial ends accepts with ⟨next, reads, gains⟩
    rcases gains.items with ⟨added, isAdded, spells⟩
    exact ⟨next, reads, gains.mode, gains.alternatives, gains.outer, gains.names, added, isAdded,
      (spells.of_le least).congr same⟩
  refused := takes.refused

theorem mono {deeper : Nat} (takes : Takes first names form depth) (least : depth ≤ deeper) :
    Takes first names form deeper :=
  takes.congr least rfl

end Takes

/-! ## Single items -/

/-- A text makes one item, wherever no question mark follows it. -/
structure Makes (text : Text) (item : Expression) (depth : Nat) : Prop where
  begins : ∃ c more, text = c :: more ∧ c ≠ '?'
  reads : ∀ (reader : Reader) (rest : Text), reader.level.mode = .initial →
    rest.head? ≠ some '?' → Reads reader (text ++ rest) (reader.add item depth) rest

/-- A text makes one item, which a sign after it may repeat. -/
structure AddsItem (text : Text) (item : Expression) (depth : Nat) : Prop where
  begins : ∃ c more, text = c :: more ∧ c ≠ '?'
  reads : ∀ (reader : Reader) (rest : Text), reader.level.mode = .initial →
    Reads reader (text ++ rest) (reader.add item depth) rest

/-- A sign stands for a repetition with these bounds. -/
def RepeatsBy (sign : Char) (least : Nat) (most : Option Nat) : Prop :=
  ∀ (reader : Reader) (rest : Text), reader.step (sign :: rest) = reader.repeat? least most rest

theorem repeatsBy_mark : RepeatsBy '?' 0 (some 1) :=
  fun _ _ => rfl

theorem repeatsBy_star : RepeatsBy '*' 0 none :=
  fun _ _ => rfl

theorem repeatsBy_plus : RepeatsBy '+' 1 none :=
  fun _ _ => rfl

section Items

variable {item other : Expression} {depth otherDepth least : Nat} {most : Option Nat} {sign : Char}

/-- A sign repeats the latest item. -/
theorem reads_repeat (repeats : RepeatsBy sign least most) (reader : Reader)
    (initial : reader.level.mode = .initial) (body : Expression) (depth : Nat)
    (ends : rest.head? ≠ some '?') :
    Reads (reader.add body depth) (sign :: rest)
      (reader.add (body.repeated least most true) (depth + 1)) rest := by
  rcases reader with ⟨⟨mode, alternatives, items⟩, outer, captures⟩
  cases initial
  refine .item rfl ((repeats _ _).trans ?_) (Nat.lt_succ_self _) (.done _ _)
  unfold Reader.repeat? Level.repeat?
  split
  next marked after found =>
  split at found
  · exact absurd rfl ends
  · cases found
    rfl

theorem addsItem_of_step (steps : ∀ alternatives items outer captures rest,
    Reader.step ⟨⟨.initial, alternatives, items⟩, outer, captures⟩ (text ++ rest) =
      some (Reader.add ⟨⟨.initial, alternatives, items⟩, outer, captures⟩ item depth, rest)) :
    AddsItem text item depth := by
  have begins : ∃ c more, text = c :: more ∧ c ≠ '?' := by
    have step := steps [] [] [] [] []
    cases text with
    | nil => cases step
    | cons c more =>
        refine ⟨c, more, rfl, ?_⟩
        rintro rfl
        cases step
  refine ⟨begins, ?_⟩
  rintro ⟨⟨mode, alternatives, items⟩, outer, captures⟩ rest initial
  cases initial
  refine .item rfl (steps alternatives items outer captures rest) ?_ (.done _ _)
  rcases begins with ⟨c, more, rfl, -⟩
  simp only [List.length_append, List.length_cons]
  omega

theorem AddsItem.makes (adds : AddsItem text item depth) : Makes text item depth :=
  ⟨adds.begins, fun reader rest initial _ => adds.reads reader rest initial⟩

theorem AddsItem.repeated (adds : AddsItem text item depth) (repeats : RepeatsBy sign least most) :
    Makes (text ++ [sign]) (item.repeated least most true) (depth + 1) where
  begins := by
    rcases adds.begins with ⟨c, more, rfl, isOther⟩
    exact ⟨c, more ++ [sign], rfl, isOther⟩
  reads reader rest initial ends := by
    rw [List.append_assoc]
    exact (adds.reads reader (sign :: rest) initial).trans
      (reads_repeat repeats reader initial item depth ends)

theorem Makes.head?_ne (makes : Makes text item depth) (rest : Text) :
    (text ++ rest).head? ≠ some '?' := by
  rcases makes.begins with ⟨c, more, rfl, isOther⟩
  exact fun isMark => isOther (Option.some.inj isMark)

theorem Makes.takes (makes : Makes text item depth) (solid : item.IsSolid) :
    Takes text [] item depth where
  begins := by
    have begins := makes.head?_ne []
    rwa [List.append_nil] at begins
  accepted reader rest initial ends _ :=
    ⟨_, makes.reads reader rest initial ends, gains_add initial rfl (Nat.le_refl _) solid rfl⟩
  refused reader _ _ _ refused := absurd reader.accepts_nil refused

theorem head?_close_ne (rest : Text) : (')' :: rest).head? ≠ some '?' := by
  simp

/-- The text of a group that captures nothing makes one item of what is in it. -/
theorem Makes.group {second : Text} (makes : Makes text item depth)
    (more : Makes second other otherDepth) :
    AddsItem ('(' :: '?' :: ':' :: (text ++ second ++ [')'])) (Expression.row [item, other])
      (Parsed.joinedDepth [depth, otherDepth] + 1) where
  begins := ⟨'(', _, rfl, by decide⟩
  reads reader rest initial := by
    have opened : reader.step ('(' :: '?' :: ':' :: (text ++ (second ++ ')' :: rest))) =
        some (reader.openPlain .initial, text ++ (second ++ ')' :: rest)) := by
      rcases reader with ⟨⟨mode, alternatives, items⟩, outer, captures⟩
      cases initial
      rfl
    have closed : (((reader.openPlain .initial).add item depth).add other otherDepth).step
        (')' :: rest) = some (reader.add (Expression.row [item, other])
          (Parsed.joinedDepth [depth, otherDepth] + 1), rest) := rfl
    have inside := (makes.reads (reader.openPlain .initial) _ rfl (more.head?_ne _)).trans
      (more.reads _ (')' :: rest) rfl (head?_close_ne rest))
    have whole := Reads.item initial opened (by simp only [List.length_cons]; omega)
      (inside.trans (.item rfl closed (Nat.lt_succ_self _) (.done _ _)))
    simpa using whole

end Items

/-! ## Groups -/

theorem joinedDepth_le {depths : List Nat} {bound : Nat} (each : ∀ depth ∈ depths, depth ≤ bound) :
    Parsed.joinedDepth depths ≤ bound + 1 := by
  have deepest : depths.foldr max 0 ≤ bound := by
    induction depths with
    | nil => exact Nat.zero_le _
    | cons depth later inductionHypothesis =>
        rcases List.forall_mem_cons.mp each with ⟨here, others⟩
        exact Nat.max_le.mpr ⟨here, inductionHypothesis others⟩
  unfold Parsed.joinedDepth
  dsimp only
  split <;> omega

theorem depth_close_le {level : Level} {added : List Parsed} {depth : Nat}
    (alone : level.alternatives = []) (items : level.items = added.map some)
    (each : ∀ item ∈ added, item.depth ≤ depth) : level.close.depth ≤ depth + 1 := by
  unfold Level.close
  rw [alone]
  apply joinedDepth_le
  rw [items, ← List.map_reverse, List.map_map]
  intro found listed
  rcases List.mem_map.mp listed with ⟨item, isItem, rfl⟩
  exact each item (List.mem_reverse.mp isItem)

theorem spells_close {level : Level} {added : List Parsed} {form : Expression} {depth : Nat}
    (alone : level.alternatives = []) (items : level.items = added.map some)
    (spells : Spells added form depth) :
    level.close.expression.IsSolid ∧ level.close.expression.tries = form.tries := by
  have row : level.close.expression =
      Expression.row (added.reverse.map Parsed.expression) := by
    simp [Level.close, alone, Level.alternative, items, ← List.map_reverse, List.filterMap_map,
      Function.comp_def]
  rw [row]
  refine ⟨Expression.isSolid_row ?_, spells.tries⟩
  intro expression listed
  rcases List.mem_map.mp listed with ⟨item, isItem, rfl⟩
  exact spells.solid item (List.mem_reverse.mp isItem)

/-- A group that captures its text, under a name if there is one, or one that does not.  Its number
makes no difference to what is tried. -/
def grouped (capturing : Option (Option Text)) (form : Expression) : Expression :=
  capturing.elim form fun name => .group 0 name form

theorem tries_grouped {body form : Expression} (same : body.tries = form.tries)
    (capturing : Option Capturing) :
    (capturing.elim body fun group => .group group.number group.name body).tries =
      (grouped (capturing.map Capturing.name) form).tries := by
  rcases capturing with _ | ⟨number, _ | name⟩
  · exact same
  · funext next
    simp only [grouped, Option.elim, Option.map, Expression.tries, same]
  · funext next
    simp only [grouped, Option.elim, Option.map, Expression.tries, same]

/-- A group has been opened. -/
structure Opens (reader opened : Reader) (capturing : Option (Option Text)) : Prop where
  level : opened.level = .opened .initial
  outer : ∃ group : Option Capturing, group.map Capturing.name = capturing ∧
    opened.outer = ⟨group, reader.level⟩ :: reader.outer
  names : opened.names = capturing.join.toList ++ reader.names

theorem Opens.names_next {opened : Reader} {capturing : Option (Option Text)} {names : List Text}
    {form : Expression} {depth : Nat} (opens : Opens reader opened capturing)
    (gains : Gains opened next names form depth) :
    next.names = names.reverse ++ capturing.join.toList ++ reader.names := by
  rw [gains.names, opens.names, List.append_assoc]

/-- A group that ends is an item of the level around it. -/
theorem exists_step_close {opened : Reader} {capturing : Option (Option Text)} {names : List Text}
    {form : Expression} {depth : Nat} (opens : Opens reader opened capturing)
    (gains : Gains opened next names form depth) (rest : Text) :
    ∃ item nested, nested ≤ depth + 2 ∧ item.IsSolid ∧
      item.tries = (grouped capturing form).tries ∧ next.step (')' :: rest) =
        some (({ reader with captures := next.captures } : Reader).add item nested, rest) := by
  rcases opens.outer with ⟨group, rfl, outer⟩
  rcases gains.items with ⟨added, items, spells⟩
  rw [opens.level] at items
  have alone : next.level.alternatives = [] := by
    rw [gains.alternatives, opens.level]
    rfl
  have only := items.trans (List.append_nil _)
  have shallow := depth_close_le alone only spells.depth
  rcases spells_close alone only spells with ⟨solid, tries⟩
  have step : next.step (')' :: rest) = next.closeGroup.map (·, rest) := rfl
  rw [step, closeGroup, gains.outer, outer]
  refine ⟨_, _, Nat.succ_le_succ shallow, ?_, tries_grouped tries group, rfl⟩
  cases group with
  | none => exact solid
  | some capturing => exact solid

/-- A name ends at the first angle bracket. -/
theorem openNamed_eq (reader : Reader) {name : Text} (free : '>' ∉ name) (rest : Text) :
    reader.openNamed (name ++ '>' :: rest) =
      if GroupName.isWellFormed name && !reader.captures.contains (some name) then
        some (reader.openCapturing (some name), rest)
      else none := by
  have each : ∀ c ∈ name, decide (c ≠ '>') = true := fun c listed =>
    decide_eq_true fun same => free (same ▸ listed)
  unfold openNamed
  rw [List.span_eq_takeWhile_dropWhile, List.takeWhile_append_of_pos each,
    List.dropWhile_append_of_pos each]
  simp

/-- A name is accepted if it is well formed and new. -/
theorem accepts_singleton_iff {name : Text} :
    reader.Accepts [name] ↔
      (GroupName.isWellFormed name && !reader.captures.contains (some name)) = true := by
  have taken : name ∈ reader.names ↔ reader.captures.contains (some name) = true := by
    rw [names, List.mem_filterMap, List.contains_iff_mem]
    exact ⟨fun ⟨_, listed, same⟩ => same ▸ listed, fun listed => ⟨_, listed, rfl⟩⟩
  rw [Bool.and_eq_true_iff, Bool.not_eq_true', ← Bool.not_eq_true, ← taken]
  constructor
  · intro accepts
    exact ⟨accepts.wellFormed name List.mem_cons_self, accepts.new name List.mem_cons_self⟩
  · rintro ⟨wellFormed, new⟩
    refine ⟨?_, List.nodup_singleton name, ?_⟩
    all_goals
      intro other listed
      rw [List.mem_singleton.mp listed]
      assumption

namespace Takes

variable {body : Text} {names : List Text} {form : Expression} {depth : Nat}

/-- What is read in a group, and its end, add one item to the level around it. -/
theorem reads_closed (takes : Takes body names form depth) {reader opened : Reader}
    {capturing : Option (Option Text)} (opens : Opens reader opened capturing)
    (accepts : opened.Accepts names) (rest : Text) :
    ∃ item nested captures, nested ≤ depth + 2 ∧ item.IsSolid ∧
      item.tries = (grouped capturing form).tries ∧
      captures.filterMap id = names.reverse ++ capturing.join.toList ++ reader.names ∧
      Reads opened (body ++ ')' :: rest) (({ reader with captures } : Reader).add item nested)
        rest := by
  have initial : opened.level.mode = .initial := by
    rw [opens.level]
    rfl
  rcases takes.accepted opened (')' :: rest) initial (head?_close_ne rest) accepts with
    ⟨next, reads, gains⟩
  rcases exists_step_close opens gains rest with ⟨item, nested, shallow, solid, tries, step⟩
  exact ⟨item, nested, next.captures, shallow, solid, tries, opens.names_next gains,
    reads.trans (.item gains.mode step (Nat.lt_succ_self _) (.done _ _))⟩

/-- A group that captures nothing and may be missing as a whole. -/
theorem group (takes : Takes body names form depth) :
    Takes ('(' :: '?' :: ':' :: (body ++ [')', '?'])) names (.repetition 0 (some 1) true form)
      (depth + 3) := by
  have split (rest : Text) : '(' :: '?' :: ':' :: (body ++ [')', '?']) ++ rest =
      '(' :: '?' :: ':' :: (body ++ ')' :: '?' :: rest) := by
    simp
  have step {reader : Reader} (initial : reader.level.mode = .initial) (more : Text) :
      reader.step ('(' :: '?' :: ':' :: more) = some (reader.openPlain .initial, more) := by
    rcases reader with ⟨⟨mode, alternatives, items⟩, outer, captures⟩
    cases initial
    rfl
  have opens (reader : Reader) : Opens reader (reader.openPlain .initial) none :=
    ⟨rfl, ⟨none, rfl, rfl⟩, rfl⟩
  refine ⟨nofun, ?_, ?_⟩
  · intro reader rest initial ends accepts
    rcases takes.reads_closed (opens reader) ⟨accepts.wellFormed, accepts.distinct, accepts.new⟩
      ('?' :: rest) with ⟨item, nested, captures, shallow, solid, tries, taken, reads⟩
    let around : Reader := { reader with captures }
    have again := around.reads_repeat repeatsBy_mark initial item nested ends
    rw [Expression.repeated_mark] at again
    have mayMiss : (Expression.repetition 0 (some 1) true item).tries =
        (Expression.repetition 0 (some 1) true form).tries := by
      funext next
      simp only [Expression.tries, tries, grouped, Option.elim]
    rw [Option.join_none, Option.toList_none, List.append_nil] at taken
    rw [split]
    exact ⟨_, .item initial (step initial _) (by simp only [List.length_cons]; omega)
      (reads.trans again), gains_add initial taken (Nat.succ_le_succ shallow)
        ⟨solid, fun unbounded => absurd unbounded (Option.some_ne_none 1)⟩ mayMiss⟩
  · intro reader rest initial ends refused
    have refusedInside : ¬(reader.openPlain .initial).Accepts names := fun accepts =>
      refused ⟨accepts.wellFormed, accepts.distinct, accepts.new⟩
    rw [split]
    have opened := Reads.item initial (step initial (body ++ ')' :: '?' :: rest))
      (by simp only [List.length_cons]; omega) (.done _ _)
    exact opened.stops (takes.refused _ (')' :: '?' :: rest) rfl (head?_close_ne _) refusedInside)

end Takes
end Reader
end FileRoutes
