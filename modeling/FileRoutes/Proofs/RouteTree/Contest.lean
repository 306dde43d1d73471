import FileRoutes.Proofs.RouteTree.Rivals
import Mathlib.Data.List.Find

/-!
# Who gets a place

When files are added one after the other, each place goes to one of the rivals for it.  The tree
sees two of them at a time, the one that has the place and the one that comes.  `winner?` says what
this amounts to for all of them: the one that comes first among those of the lowest priority, or
the one that comes last.  Where rivals are errors, the first file whose place is taken stops the
whole.
-/

namespace FileRoutes

/-! ## Winners -/

namespace PageFile

variable {file : PageFile} {files : List PageFile}

/-- The first of the files that have the lowest priority. -/
def lowest? (files : List PageFile) : Option PageFile :=
  files.find? fun file => files.all fun other => file.priority ≤ other.priority

theorem le_of_lowest? (found : lowest? files = some file) :
    ∀ other ∈ files, file.priority ≤ other.priority := by
  have least := List.find?_some found
  simpa using least

theorem exists_lowest (nonempty : files ≠ []) :
    ∃ file ∈ files, ∀ other ∈ files, file.priority ≤ other.priority := by
  induction files with
  | nil => exact absurd rfl nonempty
  | cons file later inductionHypothesis =>
      by_cases last : later = []
      · subst last
        exact ⟨file, List.mem_cons_self, by simp⟩
      · rcases inductionHypothesis last with ⟨low, listed, least⟩
        rcases Int.le_total file.priority low.priority with lower | higher
        · refine ⟨file, List.mem_cons_self, List.forall_mem_cons.mpr ⟨le_rfl, ?_⟩⟩
          exact fun other isLater => lower.trans (least other isLater)
        · exact ⟨low, List.mem_cons_of_mem _ listed, List.forall_mem_cons.mpr ⟨higher, least⟩⟩

theorem lowest?_concat_of_lt (lower : ∀ other ∈ files, file.priority < other.priority) :
    lowest? (files ++ [file]) = some file := by
  have noneBefore : files.find? (fun other =>
      (files ++ [file]).all fun third => other.priority ≤ third.priority) = none := by
    apply List.find?_eq_none.mpr
    intro other listed isLeast
    have higher := List.all_eq_true.mp isLeast file (List.mem_append_right _ List.mem_cons_self)
    exact (lower other listed).not_ge (of_decide_eq_true higher)
  rw [lowest?, List.find?_append, noneBefore]
  simpa using fun other listed => (lower other listed).le

theorem lowest?_concat_of_le {low : PageFile} (found : lowest? files = some low)
    (lower : low.priority ≤ file.priority) : lowest? (files ++ [file]) = some low := by
  have sameBefore : files.find? (fun other =>
      (files ++ [file]).all fun third => other.priority ≤ third.priority) = some low := by
    rw [← found]
    apply List.find?_congr
    intro other _
    rw [List.all_append, Bool.and_eq_left_iff_imp]
    intro isLeast
    have otherLow := List.all_eq_true.mp isLeast low (List.mem_of_find?_eq_some found)
    simpa using (of_decide_eq_true otherLow).trans lower
  rw [lowest?, List.find?_append, sameBefore, Option.some_or]

/-- One more file is the first of the lowest only if it is lower than all before it. -/
theorem lowest?_concat (files : List PageFile) (file : PageFile) :
    lowest? (files ++ [file]) =
      if (lowest? files).all (file.priority < ·.priority) then some file else lowest? files := by
  cases found : lowest? files with
  | none =>
      have empty : files = [] := by
        by_contra nonempty
        rcases exists_lowest nonempty with ⟨low, listed, least⟩
        exact List.find?_eq_none.mp found low listed (by simpa using least)
      subst empty
      exact lowest?_concat_of_lt nofun
  | some low =>
      rw [Option.all_some]
      by_cases lower : file.priority < low.priority
      · rw [if_pos (decide_eq_true lower)]
        exact lowest?_concat_of_lt fun other listed =>
          lower.trans_le (le_of_lowest? found other listed)
      · rw [if_neg (by simpa using lower)]
        exact lowest?_concat_of_le found (not_lt.mp lower)

end PageFile

namespace DuplicateStrategy

/-- The one of several rivals, in the order in which they come, that gets the place.  As an error
the second one is refused, so the first one has it. -/
def winner? : DuplicateStrategy → List PageFile → Option PageFile
  | firstWins, rivals => PageFile.lowest? rivals
  | lastWins, rivals => rivals.getLast?
  | error, rivals => rivals.head?

variable {strategy : DuplicateStrategy} {rivals : List PageFile}

/-- One more rival gets the place if there is nobody whom it does not oust. -/
theorem winner?_concat (strategy : DuplicateStrategy) (rivals : List PageFile) (file : PageFile) :
    strategy.winner? (rivals ++ [file]) =
      if (strategy.winner? rivals).all (strategy.ousts file) then some file
      else strategy.winner? rivals := by
  cases strategy with
  | firstWins => exact PageFile.lowest?_concat rivals file
  | lastWins =>
      rw [winner?, List.getLast?_concat, winner?]
      cases rivals.getLast? <;> rfl
  | error => cases rivals <;> rfl

theorem mem_of_winner? {winner : PageFile} (won : strategy.winner? rivals = some winner) :
    winner ∈ rivals := by
  cases strategy with
  | firstWins => exact List.mem_of_find?_eq_some won
  | lastWins => exact List.mem_of_getLast? won
  | error => exact List.mem_of_head? won

end DuplicateStrategy

namespace PageFile

/-- The rivals of a file among some files, itself included, in their order. -/
def rivalsAmong (file : PageFile) (files : List PageFile) : List PageFile :=
  files.filter (file.Rivals ·)

variable {file other : PageFile} {files : List PageFile}

theorem mem_rivalsAmong_iff :
    other ∈ file.rivalsAmong files ↔ other ∈ files ∧ file.Rivals other := by
  simp [rivalsAmong]

theorem rivalsAmong_congr (rivals : file.Rivals other) (files : List PageFile) :
    file.rivalsAmong files = other.rivalsAmong files :=
  List.filter_congr fun _ _ => decide_eq_decide.mpr rivals.congr

theorem rivalsAmong_concat (file : PageFile) (files : List PageFile) (last : PageFile) :
    file.rivalsAmong (files ++ [last]) =
      if file.Rivals last then file.rivalsAmong files ++ [last] else file.rivalsAmong files := by
  unfold rivalsAmong
  rw [List.filter_append]
  split
  · next rivals => simp [rivals]
  · next apart => simp [apart]

theorem mem_of_winner?_rivalsAmong {strategy : DuplicateStrategy} {winner : PageFile}
    (won : strategy.winner? (file.rivalsAmong files) = some winner) :
    winner ∈ files ∧ file.Rivals winner :=
  mem_rivalsAmong_iff.mp (DuplicateStrategy.mem_of_winner? won)

/-- No two of the files are rivals. -/
abbrev Unrivalled (files : List PageFile) : Prop :=
  files.Pairwise fun first second => ¬first.Rivals second

/-- The first file in a list that finds a rival before it, and that rival. -/
def FirstClash (files : List PageFile) (existing incoming : PageFile) : Prop :=
  ∃ front back, files = front ++ incoming :: back ∧ Unrivalled front ∧
    existing ∈ front ∧ existing.Rivals incoming

theorem FirstClash.not_unrivalled (clash : FirstClash files file other) : ¬Unrivalled files := by
  rcases clash with ⟨front, back, rfl, -, listed, rivals⟩
  intro apart
  exact (List.pairwise_append.mp apart).2.2 _ listed _ List.mem_cons_self rivals

end PageFile

namespace RouteTree

/-! ## What an insertion keeps -/

/-- After some files have been added in order, the tree holds the winner of each place. -/
structure Awards (tree : RouteTree) (strategy : DuplicateStrategy) (files : List PageFile) :
    Prop where
  coherent : tree.Coherent
  housed : tree.Housed
  isAttached_iff : ∀ {file}, file ∈ tree.attached ↔
    strategy.winner? (file.rivalsAmong files) = some file

theorem awards_empty (strategy : DuplicateStrategy) : RouteTree.empty.Awards strategy [] where
  coherent := coherent_empty
  housed := housed_empty
  isAttached_iff {file} := by
    have nobody : strategy.winner? (file.rivalsAmong []) = none := by cases strategy <;> rfl
    rw [nobody]
    exact ⟨fun listed => absurd listed List.not_mem_nil, nofun⟩

namespace Awards

variable {tree : RouteTree} {strategy : DuplicateStrategy} {files : List PageFile}
  {file : PageFile}

theorem mem_of_mem_attached (awards : tree.Awards strategy files)
    (isAttached : file ∈ tree.attached) : file ∈ files :=
  (PageFile.mem_of_winner?_rivalsAmong (awards.isAttached_iff.mp isAttached)).1

theorem contains_eq_false (awards : tree.Awards strategy files)
    (new : file.path ∉ files.map PageFile.path) : tree.contains file.path = false := by
  rw [Bool.eq_false_iff]
  intro contains
  rcases awards.coherent.indexed.contains_iff.mp contains with ⟨slot, other, listed, samePath⟩
  have isAttached := mem_attached_iff.mpr ⟨slot, listed⟩
  exact new (samePath ▸ List.mem_map_of_mem (awards.mem_of_mem_attached isAttached))

/-- Whoever sits where a file is to be seated has won the place so far. -/
theorem rival?_eq (awards : tree.Awards strategy files)
    (legible : ∀ other ∈ files ++ [file], other.Legible)
    (fresh : tree.contains file.path = false) :
    tree.rival? file = strategy.winner? (file.rivalsAmong files) := by
  have isLegible : file.Legible := legible file (List.mem_append_right _ List.mem_cons_self)
  have legibleToo {other : PageFile} (listed : other ∈ files) : other.Legible :=
    legible other (List.mem_append_left _ listed)
  have sits {held : PageFile} :
      held ∈ (tree.reachedFor file).1.filesAt (tree.reachedFor file).2 ↔
        held ∈ tree.attached ∧ homeOf held = homeOf file :=
    awards.housed.mem_filesAt_reachedFor_iff awards.coherent fresh
  have won {held : PageFile} (isRival : tree.rival? file = some held) :
      strategy.winner? (file.rivalsAmong files) = some held := by
    rcases mem_of_rival? isRival with ⟨there, sameSeat⟩
    rcases sits.mp there with ⟨isAttached, sameHome⟩
    have rivals : file.Rivals held :=
      (isLegible.rivals_iff (legibleToo (awards.mem_of_mem_attached isAttached))).mpr
        ⟨sameHome.symm, sameSeat.symm⟩
    rw [PageFile.rivalsAmong_congr rivals]
    exact awards.isAttached_iff.mp isAttached
  cases isRival : tree.rival? file with
  | some held => exact (won isRival).symm
  | none =>
      symm
      apply Option.eq_none_iff_forall_ne_some.mpr
      intro held hasWon
      rcases PageFile.mem_of_winner?_rivalsAmong hasWon with ⟨listed, rivals⟩
      rw [PageFile.rivalsAmong_congr rivals] at hasWon
      rcases (isLegible.rivals_iff (legibleToo listed)).mp rivals with ⟨sameHome, sameSeat⟩
      have there := sits.mpr ⟨awards.isAttached_iff.mpr hasWon, sameHome.symm⟩
      have empty := List.find?_eq_none.mp isRival held there
      exact empty (decide_eq_true sameSeat.symm)

theorem insert (awards : tree.Awards strategy files)
    (legible : ∀ other ∈ files ++ [file], other.Legible)
    (fresh : tree.contains file.path = false) :
    (tree.insert file strategy).1.Awards strategy (files ++ [file]) where
  coherent := awards.coherent.insert file strategy
  housed := awards.housed.insert awards.coherent file strategy
  isAttached_iff {held} := by
    rw [awards.coherent.mem_attached_insert_iff fresh, awards.rival?_eq legible fresh,
      PageFile.rivalsAmong_concat]
    by_cases rivals : held.Rivals file
    · have before : held ∈ tree.attached ↔ _ := awards.isAttached_iff
      rw [PageFile.rivalsAmong_congr rivals] at before ⊢
      rw [if_pos rivals, DuplicateStrategy.winner?_concat, before]
      split
      · rw [Option.some.injEq]
        constructor
        · rintro (isFile | ⟨won, lost⟩)
          · exact isFile.symm
          · exact absurd won lost
        · exact fun isFile => .inl isFile.symm
      · exact Iff.rfl
    · have other : held ≠ file := by
        rintro rfl
        exact rivals (.refl held)
      have stays : strategy.winner? (file.rivalsAmong files) ≠ some held := by
        intro won
        exact rivals (PageFile.mem_of_winner?_rivalsAmong won).2.symm
      rw [if_neg rivals, ← awards.isAttached_iff]
      split
      · simp [other, stays]
      · exact Iff.rfl

/-- An insertion fails where rivals are errors and there is one already. -/
theorem insert_snd (awards : tree.Awards strategy files)
    (legible : ∀ other ∈ files ++ [file], other.Legible)
    (fresh : tree.contains file.path = false) :
    (tree.insert file strategy).2 = .ok () ∧
        (strategy = .error → ∀ other ∈ files, ¬other.Rivals file) ∨
      strategy = .error ∧ ∃ existing ∈ files, existing.Rivals file ∧
        (tree.insert file strategy).2 =
          .error (.duplicate file.relativePath existing.path file.path) := by
  have isRival := awards.rival?_eq legible fresh
  cases admitted : (tree.rival? file).all (strategy.ousts file) with
  | true =>
      refine .inl ⟨congrArg Prod.snd (awards.coherent.insert_of_admitted admitted), ?_⟩
      rintro rfl other listed rivals
      have among := PageFile.mem_rivalsAmong_iff.mpr ⟨listed, rivals.symm⟩
      rcases List.exists_cons_of_ne_nil (List.ne_nil_of_mem among) with ⟨first, others, isFirst⟩
      rw [isRival, isFirst] at admitted
      cases admitted
  | false =>
      rcases (Option.all_eq_false _ _).mp admitted with ⟨existing, found, stays⟩
      rw [awards.coherent.insert_of_rival found stays]
      rcases PageFile.mem_of_winner?_rivalsAmong (isRival.symm.trans found) with ⟨listed, rivals⟩
      cases strategy with
      | error => exact .inr ⟨rfl, existing, listed, rivals.symm, rfl⟩
      | lastWins => exact .inl ⟨rfl, nofun⟩
      | firstWins => exact .inl ⟨rfl, nofun⟩

/-! ## What a run of insertions keeps -/

/-- The tree that is built up to some point holds the winners so far.  Where rivals are errors the
files that have been added are no rivals, so the next one to fail is the first that clashes. -/
theorem addAll {options : BuildOptions} {done : List PageFile}
    (awards : tree.Awards options.duplicates done) {inputs : List PageInput}
    (read : List.Forall₂ (fun input file => input.resolve options.parse = .ok file) inputs files)
    (legible : ∀ file ∈ done ++ files, file.Legible)
    (distinct : ((done ++ files).map PageFile.path).Nodup)
    (apart : options.duplicates = .error → PageFile.Unrivalled done) :
    (∃ result, RouteTree.addAll options inputs tree = .ok result ∧
        result.Awards options.duplicates (done ++ files) ∧
        (options.duplicates = .error → PageFile.Unrivalled (done ++ files))) ∨
      options.duplicates = .error ∧ ∃ existing incoming,
        PageFile.FirstClash (done ++ files) existing incoming ∧
        RouteTree.addAll options inputs tree =
          .error (.duplicate incoming.relativePath existing.path incoming.path) := by
  induction read generalizing tree done with
  | nil =>
      rw [List.append_nil]
      exact .inl ⟨tree, rfl, awards, apart⟩
  | @cons input file inputs files isFile _ inductionHypothesis =>
      have added : tree.add input options = tree.insert file options.duplicates := by
        rw [RouteTree.add, Option.getD_none, isFile]
      have new : file.path ∉ done.map PageFile.path := by
        rw [List.map_append] at distinct
        intro listed
        exact (List.nodup_append.mp distinct).2.2 _ listed _ List.mem_cons_self rfl
      have fresh := awards.contains_eq_false new
      rw [List.append_cons] at legible distinct ⊢
      have legibleSoFar : ∀ other ∈ done ++ [file], other.Legible := fun other listed =>
        legible other (List.mem_append_left _ listed)
      have next := awards.insert legibleSoFar fresh
      rw [RouteTree.addAll, added]
      rcases awards.insert_snd legibleSoFar fresh with
        ⟨accepted, noRival⟩ | ⟨isError, existing, listed, rivals, refused⟩
      · have apartToo : options.duplicates = .error →
            PageFile.Unrivalled (done ++ [file]) := by
          intro isError
          apply List.pairwise_append.mpr
          refine ⟨apart isError, List.pairwise_singleton _ _, fun other listed last isLast => ?_⟩
          rcases List.mem_singleton.mp isLast with rfl
          exact noRival isError other listed
        have onward := inductionHypothesis next legible distinct apartToo
        rw [← Prod.mk.eta (p := tree.insert file options.duplicates), accepted]
        exact onward
      · right
        refine ⟨isError, existing, file, ?_, ?_⟩
        · exact ⟨done, files, by rw [List.append_assoc]; rfl, apart isError, listed, rivals⟩
        · rw [← Prod.mk.eta (p := tree.insert file options.duplicates), refused]

/-- There is one file for each place that somebody contends for. -/
theorem rivalsAmong_attached (awards : tree.Awards strategy files) (file : PageFile) :
    file.rivalsAmong tree.attached = (strategy.winner? (file.rivalsAmong files)).toList := by
  have unique : (file.rivalsAmong tree.attached).Nodup :=
    awards.coherent.indexed.nodup_attached.of_map.filter _
  have winners (held : PageFile) : held ∈ file.rivalsAmong tree.attached ↔
      strategy.winner? (file.rivalsAmong files) = some held := by
    rw [PageFile.mem_rivalsAmong_iff, awards.isAttached_iff]
    constructor
    · rintro ⟨won, rivals⟩
      rwa [PageFile.rivalsAmong_congr rivals]
    · intro won
      have rivals := (PageFile.mem_of_winner?_rivalsAmong won).2
      exact ⟨PageFile.rivalsAmong_congr rivals files ▸ won, rivals⟩
  cases won : strategy.winner? (file.rivalsAmong files) with
  | none =>
      apply List.eq_nil_iff_forall_not_mem.mpr
      intro held listed
      rw [(winners held).mp listed] at won
      cases won
  | some winner =>
      apply List.perm_singleton.mp
      apply (List.perm_ext_iff_of_nodup unique (List.nodup_singleton winner)).mpr
      intro held
      rw [winners, won, Option.some.injEq, List.mem_singleton, eq_comm]

end Awards

/-! ## Building a tree -/

/-- Of the files that contend for a place a tree holds one: the first of the lowest priority, or the
last, as the strategy has it.  If rivals are errors, the tree is built when there are none, and the
first that clashes with an earlier one is reported otherwise. -/
theorem build_of_rivals {inputs : List (Text × Int)} {files : List PageFile}
    {options : BuildOptions}
    (read : List.Forall₂
      (fun input file => (PageInput.file input.1 input.2).resolve options.parse = .ok file)
      inputs files)
    (distinct : (inputs.map Prod.fst).Nodup)
    (commaFree : ∀ mode ∈ options.parse.modes, ',' ∉ mode) :
    let built := build (inputs.map fun input => .file input.1 input.2) options
    match options.duplicates with
    | .firstWins => ∃ tree, built = .ok tree ∧ ∀ file : PageFile,
        file.rivalsAmong tree.attached =
          (PageFile.lowest? (file.rivalsAmong files)).toList
    | .lastWins => ∃ tree, built = .ok tree ∧ ∀ file : PageFile,
        file.rivalsAmong tree.attached = (file.rivalsAmong files).getLast?.toList
    | .error =>
        ((∃ tree, built = .ok tree) ↔ PageFile.Unrivalled files) ∧
        ∀ error, built = .error error → ∃ existing incoming,
          PageFile.FirstClash files existing incoming ∧
          error = .duplicate incoming.relativePath existing.path incoming.path := by
  intro built
  have paths : inputs.map Prod.fst = files.map PageFile.path := by
    rw [← List.forall₂_eq_eq_eq, List.forall₂_map_left_iff, List.forall₂_map_right_iff]
    exact read.imp fun input file isFile => (PageInput.path_of_resolve isFile).symm
  have legible : ∀ file ∈ files, file.Legible := by
    have each := read.flip.imp fun file input isFile =>
      And.intro (PageFile.legible_of_resolve isFile commaFree) isFile
    exact ((List.forall₂_and_left files inputs).mp each).1
  have run := (awards_empty options.duplicates).addAll (List.forall₂_map_left_iff.mpr read)
    legible (paths ▸ distinct) fun _ => .nil
  rw [List.nil_append] at run
  have isBuilt : built = RouteTree.addAll options
    (inputs.map fun input => .file input.1 input.2) .empty := rfl
  rw [← isBuilt] at run
  cases strategy : options.duplicates with
  | firstWins =>
      rw [strategy] at run
      rcases run with ⟨tree, done, awards, -⟩ | ⟨⟨⟩, -⟩
      exact ⟨tree, done, awards.rivalsAmong_attached⟩
  | lastWins =>
      rw [strategy] at run
      rcases run with ⟨tree, done, awards, -⟩ | ⟨⟨⟩, -⟩
      exact ⟨tree, done, awards.rivalsAmong_attached⟩
  | error =>
      rcases run with ⟨tree, done, -, apart⟩ | ⟨-, existing, incoming, clash, failed⟩
      · refine ⟨iff_of_true ⟨tree, done⟩ (apart strategy), fun error failed => ?_⟩
        rw [done] at failed
        cases failed
      · refine ⟨iff_of_false ?_ clash.not_unrivalled, fun error failedToo => ?_⟩
        · rintro ⟨tree, done⟩
          rw [failed] at done
          cases done
        · exact ⟨existing, incoming, clash,
            (Except.error.inj (failed.symm.trans failedToo)).symm⟩

/-- Of a page and its copy in another layer, the one of lower priority wins, or the later one, or
the copy is reported. -/
theorem build_of_layers :
    let page : PageFile :=
      ⟨"a.vue".toList, "a.vue".toList, defaultView, none, [], [[.literal ['a']]], 0⟩
    let copy : PageFile := { page with path := "p/a.vue".toList, priority := 1 }
    let inputs : List (Text × Int) := [("a.vue".toList, 0), ("p/a.vue".toList, 1)]
    let built (strategy : DuplicateStrategy) :=
      build (inputs.map fun input => .file input.1 input.2) ⟨{ roots := [['p']] }, strategy⟩
    (∃ tree, built .firstWins = .ok tree ∧ page.rivalsAmong tree.attached = [page]) ∧
      (∃ tree, built .lastWins = .ok tree ∧ page.rivalsAmong tree.attached = [copy]) ∧
      (¬∃ tree, built .error = .ok tree) ∧ ∀ error, built .error = .error error →
        ∃ existing incoming, PageFile.FirstClash [page, copy] existing incoming ∧
          error = .duplicate incoming.relativePath existing.path incoming.path := by
  intro page copy inputs built
  have read : List.Forall₂ (fun input file =>
      (PageInput.file input.1 input.2).resolve { roots := [['p']] } = .ok file)
      inputs [page, copy] :=
    .cons (by decide +kernel) (.cons (by decide +kernel) .nil)
  have distinct : (inputs.map Prod.fst).Nodup := by decide +kernel
  have rivals : page.rivalsAmong [page, copy] = [page, copy] := by decide +kernel
  have firstWins := @build_of_rivals _ _ ⟨{ roots := [['p']] }, .firstWins⟩ read distinct nofun
  have lastWins := @build_of_rivals _ _ ⟨{ roots := [['p']] }, .lastWins⟩ read distinct nofun
  have asErrors := @build_of_rivals _ _ ⟨{ roots := [['p']] }, .error⟩ read distinct nofun
  refine ⟨?_, ?_, ?_, asErrors.2⟩
  · rcases firstWins with ⟨tree, done, winners⟩
    refine ⟨tree, done, (winners page).trans ?_⟩
    rw [rivals]
    rfl
  · rcases lastWins with ⟨tree, done, winners⟩
    refine ⟨tree, done, (winners page).trans ?_⟩
    rw [rivals]
    rfl
  · rw [asErrors.1]
    decide +kernel

end RouteTree
end FileRoutes
