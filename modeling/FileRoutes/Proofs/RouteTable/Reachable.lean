import FileRoutes.Proofs.RouteTree.Insertion
import FileRoutes.Proofs.RouteTree.WellFormed
import FileRoutes.RouteTable

/-!
# What holds of every route table

`Reachable` is every table that the library makes: one that starts empty or from built files, and
has then seen files come and go and routes asked for, in any order.  Calls that fail are among
them, and so are files whose names were read elsewhere, whatever their segments are.  Asking for
routes does not touch the tree, and every other call keeps it in order.
-/

namespace FileRoutes

/-- The file was taken from a page path, wherever that was read. -/
def PageFile.OfPath (file : PageFile) : Prop :=
  ∃ path priority, file = ofPagePath path priority

theorem PageInput.ofPath_of_resolve {options : ParseOptions} {input : PageInput} {file : PageFile}
    (resolved : input.resolve options = .ok file) : file.OfPath := by
  cases input with
  | parsed path priority => exact ⟨path, priority, (Except.ok.inj resolved).symm⟩
  | file name priority =>
      rcases exists_parse_of_resolve resolved with ⟨path, -, isFile⟩
      exact ⟨path, priority, isFile⟩

namespace RouteTable

/-- The tables that the library makes. -/
inductive Reachable : RouteTable → Prop
  | empty : Reachable .empty
  | build {inputs options tree} :
      RouteTree.build inputs options = .ok tree → Reachable (.ofTree tree)
  | add {table} (input : PageInput) (options : BuildOptions) (reader : Option ParseOptions) :
      Reachable table → Reachable (table.add input options reader).1
  | remove {table} (path : Text) : Reachable table → Reachable (table.remove path).1
  | nested {table} (options : NestedOptions) : Reachable table → Reachable (table.nested options).1

variable {table : RouteTable}

theorem tree_nested (table : RouteTable) (options : NestedOptions) :
    (table.nested options).1.tree = table.tree := by
  unfold nested
  dsimp only
  split <;> rfl

theorem Reachable.coherent (reachable : table.Reachable) : table.tree.Coherent := by
  induction reachable with
  | empty => exact RouteTree.coherent_empty
  | build built => exact RouteTree.coherent_of_build built
  | add input options reader _ inductionHypothesis =>
      exact inductionHypothesis.add input options reader
  | remove path _ inductionHypothesis => exact inductionHypothesis.remove path
  | @nested table options _ inductionHypothesis =>
      rw [tree_nested]
      exact inductionHypothesis

/-- What holds of the empty tree and is kept by inserting files that were taken from page paths, and
by removing files, holds of every tree that the library makes. -/
theorem Reachable.of_kept {holds : RouteTree → Prop} (empty : holds .empty)
    (insert : ∀ (tree : RouteTree) (file : PageFile) (strategy : DuplicateStrategy),
      tree.Coherent → file.OfPath → holds tree → holds (tree.insert file strategy).1)
    (remove : ∀ (tree : RouteTree) (path : Text),
      tree.Coherent → holds tree → holds (tree.remove path).1)
    (reachable : table.Reachable) : holds table.tree := by
  induction reachable with
  | empty => exact empty
  | build built =>
      exact RouteTree.coherent_empty.addAll_of_kept insert empty
        (fun _ _ _ => PageInput.ofPath_of_resolve) built
  | add input options reader reachable inductionHypothesis =>
      exact reachable.coherent.add_of_kept insert inductionHypothesis
        fun _ => PageInput.ofPath_of_resolve
  | remove path reachable inductionHypothesis =>
      exact remove _ path reachable.coherent inductionHypothesis
  | @nested table options _ inductionHypothesis =>
      rw [tree_nested]
      exact inductionHypothesis

/-- The index, the nodes, the number of files and a search agree on every name: it is in the
index when it sits at one node, once, and then the index and the search name that node. -/
theorem index_of_reachable (reachable : table.Reachable) (path : Text) :
    (table.tree.contains path = true ↔ ∃! slot, table.tree.occurrences path slot = 1) ∧
      (∀ slot, table.tree.index.find? path = some slot ↔
        ∃ node, table.tree.node? slot = some node ∧ table.tree.occurrences path slot = 1) ∧
      (∀ slot, table.tree.index.find? path ≠ some slot → table.tree.occurrences path slot = 0) ∧
      table.tree.fileCount = table.tree.attached.length ∧
      table.tree.search? path = table.tree.index.find? path := by
  have coherent := reachable.coherent
  have once (slot : Nat) : table.tree.occurrences path slot = 1 ↔
      table.tree.index.find? path = some slot := coherent.indexed.occurrences_eq_one_iff
  refine ⟨?_, ?_, fun slot => coherent.indexed.occurrences_eq_zero,
    coherent.indexed.fileCount_eq, coherent.search?_eq path⟩
  · rw [RouteTree.contains, FileIndex.contains, Option.isSome_iff_exists]
    simp only [once]
    apply exists_congr
    intro slot
    apply (and_iff_left_of_imp _).symm
    intro found other otherFound
    exact Option.some.inj (otherFound.symm.trans found)
  · intro slot
    rw [once]
    constructor
    · intro found
      rcases coherent.indexed.find?_eq_some_iff.mp found with ⟨file, listed, -⟩
      rcases RouteTree.mem_filesAt_iff.mp listed with ⟨node, nodeFound, -⟩
      exact ⟨node, nodeFound, found⟩
    · rintro ⟨-, -, found⟩
      exact found

/-- A file that was added twice, under different roots, has one place. -/
theorem index_of_moved_file :
    let first := (RouteTable.empty.add (.file ['p', '/', 'a'] 0) {}).1
    let table := (first.add (.file ['p', '/', 'a'] 0) { parse := { roots := [['p']] } }).1
    (∃! slot, table.tree.occurrences ['p', '/', 'a'] slot = 1) ∧
      table.tree.search? ['p', '/', 'a'] = table.tree.index.find? ['p', '/', 'a'] ∧
      table.tree.attached.length = 1 := by
  intro first table
  have reachable : table.Reachable := .add _ _ none (.add _ _ none .empty)
  have contained : table.tree.contains ['p', '/', 'a'] = true := by decide +kernel
  have single : table.tree.fileCount = 1 := by decide +kernel
  rcases index_of_reachable reachable ['p', '/', 'a'] with ⟨sole, -, -, count, searched⟩
  exact ⟨sole.mp contained, searched, count.symm.trans single⟩

/-- The slots of every tree that the library makes hold a tree without dead nodes, and it is empty
when no file is in it. -/
theorem wellFormed_of_reachable (reachable : table.Reachable) :
    table.tree.WellFormed ∧ (table.tree.isEmpty = true ↔ table.tree.fileCount = 0) :=
  ⟨reachable.coherent.wellFormed, reachable.coherent.isEmpty_iff⟩

/-- Removing a file frees the slots of its chain and leaves the rest in order. -/
theorem wellFormed_after_removal :
    let first := (RouteTable.empty.add (.file ['a', '/', 'b'] 0) {}).1
    let table := ((first.add (.file ['c'] 0) {}).1.remove ['a', '/', 'b']).1
    table.tree.free = [1, 2] ∧ table.tree.WellFormed ∧ table.tree.isEmpty = false := by
  intro first table
  have reachable : table.Reachable := .remove _ (.add _ _ none (.add _ _ none .empty))
  have some : table.tree.fileCount ≠ 0 := by decide +kernel
  rcases wellFormed_of_reachable reachable with ⟨wellFormed, isEmpty_iff⟩
  refine ⟨by decide +kernel, wellFormed, ?_⟩
  exact Bool.eq_false_iff.mpr (mt isEmpty_iff.mp some)

end RouteTable
end FileRoutes
