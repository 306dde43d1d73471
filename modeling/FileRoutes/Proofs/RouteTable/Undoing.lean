import FileRoutes.FlatPattern
import FileRoutes.PathPattern.Validity
import FileRoutes.Proofs.RouteTable.Refusal
import FileRoutes.Proofs.RouteTree.Within

/-!
# Removing a file undoes its addition

A file that comes and goes may make nodes, use slots that were free, and take the seat of another
file.  When it goes again it leaves no trace of itself: the tree has the content that it had
before, less the file that gave way.  It would be hard to follow the slots through both calls.
But what is there before and what is left afterwards are both within the tree in between, and of
such trees the files decide which nodes they have.
-/

namespace FileRoutes
namespace RouteTree

variable {tree : RouteTree}

/-! ## What the content decides -/

/-- Two trees give the same routes in every form. -/
structure SameRoutes (first second : RouteTree) : Prop where
  flatRoutes : second.flatRoutes = first.flatRoutes
  nestedAnswer : ∀ options, second.nestedAnswer options = first.nestedAnswer options
  flatPatterns : second.flatPatterns = first.flatPatterns
  pathPatterns : second.pathPatterns = first.pathPatterns

/-- All routes come from the walk. -/
theorem SameContent.sameRoutes {first second : RouteTree} (same : first.SameContent second) :
    first.SameRoutes second := by
  have routes : second.flatRoutes = first.flatRoutes := by
    rw [RouteTree.flatRoutes, same.walk, RouteTree.flatRoutes]
  refine ⟨routes, fun options => ?_, ?_, ?_⟩
  · have nested : second.nestedRoutes options = first.nestedRoutes options := by
      rw [nestedRoutes, routes, nestedRoutes]
    rw [RouteTree.nestedAnswer, nested, RouteTree.nestedAnswer]
  · rw [RouteTree.flatPatterns, routes, RouteTree.flatPatterns]
  · rw [RouteTree.pathPatterns, routes, RouteTree.pathPatterns]

/-- Two trees in order within a third one have the same content if they have the same files. -/
theorem Coherent.sameContent_of_within {first second whole : RouteTree}
    (coherent : first.Coherent) (coherentToo : second.Coherent) (linked : whole.Linked)
    (within : Within first whole) (withinToo : Within second whole)
    (files : ∀ slot, second.filesAt slot = first.filesAt slot) : first.SameContent second :=
  coherent.sameContent_of_node?_eq coherentToo
    (coherent.node?_eq_of_within coherentToo linked within withinToo files)

/-! ## What an insertion leaves -/

/-- A tree has grown by a file: all nodes are still there, and so are all files but the one that
was lost, if any. -/
structure Grows (tree grown : RouteTree) (name : Text) (lost : Option Text) : Prop where
  within : Within tree grown
  filesAt : ∀ slot, (grown.filesAt slot).filter (·.path ≠ name) =
    (tree.filesAt slot).filter (lost ≠ some ·.path)

theorem Coherent.exists_grows (coherent : tree.Coherent) {file : PageFile}
    (fresh : tree.contains file.path = false) (strategy : DuplicateStrategy) :
    ∃ lost, tree.Grows (tree.insert file strategy).1 file.path lost := by
  have cleared := cleared_eq_self fresh
  have within := coherent.within_insert file strategy
  rw [cleared] at within
  have others {slot : Nat} {other : PageFile} (listed : other ∈ tree.filesAt slot) :
      other.path ≠ file.path := by
    intro samePath
    have contained := coherent.indexed.contains_iff.mpr ⟨slot, other, listed, samePath⟩
    rw [fresh] at contained
    cases contained
  have files := coherent.filesAt_reachedFor file
  rcases coherent.insert_eq file strategy with keptOut | ⟨node, found, seated⟩
  · refine ⟨none, within, fun slot => ?_⟩
    rw [keptOut, cleared]
    apply List.filter_congr
    intro other listed
    simp [others listed]
  · refine ⟨(node.files.find? (·.seat = file.seat)).map PageFile.path, within, fun slot => ?_⟩
    rw [cleared] at files
    have nodeFiles := files (tree.reachedFor file).2
    rw [filesAt_of_node? found] at nodeFiles
    have put := Indexed.filesAt_seatFile found file (node.files.find? (·.seat = file.seat)) slot
    rw [seated]
    refine (congrArg (List.filter _) put).trans ?_
    split
    · next isSlot =>
      rw [isSlot, ← nodeFiles]
      apply PageFile.filter_takeSeat
      · rw [nodeFiles]
        exact coherent.indexed.paths_nodup _
      · intro other listed
        exact others (nodeFiles ▸ listed)
    · next isOther =>
      rw [files]
      apply List.filter_congr
      intro other listed
      -- The file that gives way sits at the end of the way, and only there.
      have stays : (node.files.find? (·.seat = file.seat)).map PageFile.path ≠ some other.path := by
        intro named
        rcases Option.map_eq_some_iff.mp named with ⟨existing, isExisting, samePath⟩
        have there := List.mem_of_find?_eq_some isExisting
        rw [nodeFiles] at there
        have home := coherent.indexed.find?_eq_some_iff.mpr ⟨existing, there, samePath⟩
        exact isOther (coherent.indexed.slot_eq home listed rfl)
      simp [others listed, stays]

namespace Grows

variable {grown : RouteTree} {name path : Text} {lost : Option Text}

/-- The lost file is the only one that is no longer there. -/
theorem contains_iff (grows : tree.Grows grown name lost) (coherent : tree.Coherent)
    (grownCoherent : grown.Coherent) (fresh : tree.contains name = false)
    (contained : tree.contains path = true) : grown.contains path = true ↔ lost ≠ some path := by
  have other : path ≠ name := by
    rintro rfl
    rw [fresh] at contained
    cases contained
  have members (slot : Nat) (file : PageFile) : file ∈ grown.filesAt slot ∧ file.path ≠ name ↔
      file ∈ tree.filesAt slot ∧ lost ≠ some file.path := by
    have same := congrArg (file ∈ ·) (grows.filesAt slot)
    simpa only [List.mem_filter, decide_eq_true_eq, eq_iff_iff] using same
  rcases coherent.indexed.contains_iff.mp contained with ⟨home, held, isHeld, named⟩
  rw [grownCoherent.indexed.contains_iff]
  constructor
  · rintro ⟨slot, file, listed, rfl⟩
    exact ((members slot file).mp ⟨listed, other⟩).2
  · intro notLost
    rw [← named] at notLost
    exact ⟨home, held, ((members home held).mpr ⟨isHeld, notLost⟩).1, named⟩

theorem filesAt_remove (grows : tree.Grows grown name lost) (grownCoherent : grown.Coherent)
    (slot : Nat) :
    (grown.remove name).1.filesAt slot = (tree.filesAt slot).filter (lost ≠ some ·.path) := by
  rw [← grows.filesAt]
  exact grownCoherent.touch.indexed.filesAt_detach name slot

/-- Without the new file the tree is what it was, if nothing was lost. -/
theorem sameContent (grows : tree.Grows grown name lost) (coherent : tree.Coherent)
    (grownCoherent : grown.Coherent)
    (kept : ∀ path, tree.contains path = true → lost ≠ some path) :
    tree.SameContent (grown.remove name).1 := by
  apply coherent.sameContent_of_within (grownCoherent.remove name) grownCoherent.linked
    grows.within (within_remove grown name)
  intro slot
  rw [grows.filesAt_remove grownCoherent]
  apply List.filter_eq_self.mpr
  intro other listed
  have contained := coherent.indexed.contains_iff.mpr ⟨slot, other, listed, rfl⟩
  exact decide_eq_true (kept other.path contained)

/-- Otherwise it is what it would have been without the file that was lost. -/
theorem sameContent_of_lost (grows : tree.Grows grown name (some path)) (coherent : tree.Coherent)
    (grownCoherent : grown.Coherent) : (tree.remove path).1.SameContent (grown.remove name).1 := by
  apply (coherent.remove path).sameContent_of_within (grownCoherent.remove name)
    grownCoherent.linked ((within_remove tree path).trans grows.within) (within_remove grown name)
  intro slot
  have removed := coherent.touch.indexed.filesAt_detach path slot
  refine (grows.filesAt_remove grownCoherent slot).trans (Eq.trans ?_ removed.symm)
  apply List.filter_congr
  intro other _
  simp [eq_comm]

end Grows

theorem exists_insert_of_add {input : PageInput} {options : BuildOptions}
    {reader : Option ParseOptions} (added : (tree.add input options reader).2 = .ok ()) :
    ∃ file : PageFile, file.path = input.name ∧
      tree.add input options reader = tree.insert file options.duplicates := by
  unfold add at added ⊢
  cases resolved : input.resolve (reader.getD options.parse) with
  | error error =>
      rw [resolved] at added
      cases added
  | ok file => exact ⟨file, PageInput.path_of_resolve resolved, rfl⟩

end RouteTree

namespace RouteTable

variable {table : RouteTable} {input : PageInput} {options : BuildOptions}
  {reader : Option ParseOptions}

/-- When a new file is added and then removed, the tree has the content that it had before, and
gives the same routes, if no file had to give way.  Otherwise the content is what the removal of
the file that gave way would have left. -/
theorem sameContent_of_undone (reachable : table.Reachable)
    (fresh : table.tree.contains input.name = false)
    (added : (table.add input options reader).2 = .ok ()) :
    let grown := (table.add input options reader).1
    let undone := (grown.remove input.name).1
    ((∀ path, table.tree.contains path = true → grown.tree.contains path = true) →
        table.tree.SameContent undone.tree ∧ table.tree.SameRoutes undone.tree) ∧
      ∀ path, table.tree.contains path = true → grown.tree.contains path = false →
        (table.remove path).1.tree.SameContent undone.tree ∧
          (table.remove path).1.tree.SameRoutes undone.tree := by
  intro grown undone
  have coherent := reachable.coherent
  have grownCoherent : grown.tree.Coherent := coherent.add input options reader
  rcases RouteTree.exists_insert_of_add added with ⟨file, named, inserted⟩
  have grownTree : grown.tree = (table.tree.insert file options.duplicates).1 :=
    congrArg Prod.fst inserted
  rcases coherent.exists_grows (named ▸ fresh) options.duplicates with ⟨lost, grows⟩
  rw [← grownTree, named] at grows
  have contains_iff {path : Text} (contained : table.tree.contains path = true) :=
    grows.contains_iff coherent grownCoherent fresh contained
  constructor
  · intro kept
    have same : table.tree.SameContent undone.tree :=
      grows.sameContent coherent grownCoherent fun path contained =>
        (contains_iff contained).mp (kept path contained)
    exact ⟨same, same.sameRoutes⟩
  · intro path contained gone
    have isLost : lost = some path := by
      by_contra notLost
      rw [(contains_iff contained).mpr notLost] at gone
      cases gone
    subst isLost
    have same : (table.remove path).1.tree.SameContent undone.tree :=
      grows.sameContent_of_lost coherent grownCoherent
    exact ⟨same, same.sameRoutes⟩

/-- A guest whose way branches off leaves a tree as it was, and one that takes the seat of the only
file leaves it empty. -/
theorem sameContent_after_guests :
    let table := (RouteTable.empty.add (.file "a/b.vue".toList 0) {}).1
    let guest : PageInput := .file "a/c/d.vue".toList 0
    let rival : PageInput := .file "p/a/b.vue".toList 0
    let options : BuildOptions := { parse := { roots := [['p']] }, duplicates := .lastWins }
    let visited := ((table.add guest {}).1.remove guest.name).1
    let ousted := ((table.add rival options).1.remove rival.name).1
    table.tree.SameContent visited.tree ∧
      (table.remove "a/b.vue".toList).1.tree.SameContent ousted.tree ∧ ousted.tree.isEmpty := by
  intro table guest rival options visited ousted
  have reachable : table.Reachable := .add _ _ none .empty
  have newcomer : table.tree.contains guest.name = false := by decide +kernel
  have added : (table.add guest {}).2 = .ok () := by decide +kernel
  have names : ∀ path ∈ table.tree.index.names,
      (table.add guest {}).1.tree.contains path = true := by decide +kernel
  have stranger : table.tree.contains rival.name = false := by decide +kernel
  have seated : (table.add rival options).2 = .ok () := by decide +kernel
  have present : table.tree.contains "a/b.vue".toList = true := by decide +kernel
  have gone : (table.add rival options).1.tree.contains "a/b.vue".toList = false := by
    decide +kernel
  refine ⟨?_, ?_, by decide +kernel⟩
  · refine ((sameContent_of_undone reachable newcomer added).1 ?_).1
    intro path contained
    have found := Option.isSome_iff_exists.mp contained
    exact names path (FileIndex.mem_names_iff.mpr found)
  · exact ((sameContent_of_undone reachable stranger seated).2 _ present gone).1

end RouteTable
end FileRoutes
