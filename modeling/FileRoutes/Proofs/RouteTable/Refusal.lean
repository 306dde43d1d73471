import FileRoutes.Proofs.RouteTable.Reachable
import FileRoutes.Proofs.RouteTree.FlatRoutes
import FileRoutes.Proofs.RouteTree.Insertion

/-!
# What a refused file leaves behind

A file is refused when its name cannot be read, or when its seat is taken and duplicates are
errors.  In the first case nothing happens.  In the second the nodes on the way to its position
were there before, so none has to go; but the file was taken out of its old place before its seat
turned out to be taken, and it is not put back.  So a refusal changes the content of a tree if,
and only if, the refused file was in it.
-/

namespace FileRoutes
namespace RouteTree

variable {tree : RouteTree} {input : PageInput} {options : BuildOptions}
  {reader : Option ParseOptions} {error : TreeError}

/-- The tree after a refusal: nothing was done, or the file was taken out of its old place. -/
theorem Coherent.add_of_refused (coherent : tree.Coherent)
    (refused : (tree.add input options reader).2 = .error error) :
    (tree.add input options reader).1 =
      match input.resolve (reader.getD options.parse) with
      | .error _ => tree
      | .ok _ => (tree.cleared input.name).touch := by
  unfold RouteTree.add at refused ⊢
  cases resolved : input.resolve (reader.getD options.parse) with
  | error => rfl
  | ok file =>
      rw [resolved] at refused
      rw [← PageInput.path_of_resolve resolved]
      rcases coherent.insert_eq file options.duplicates with keptOut | ⟨node, -, seated⟩
      · exact keptOut
      · dsimp only at refused
        rw [seated] at refused
        cases refused

/-- Two trees hold the same files at the same nodes, know them alike, and are gone through in the
same order. -/
structure SameContent (first second : RouteTree) : Prop where
  filesAt : ∀ slot, second.filesAt slot = first.filesAt slot
  find? : ∀ path, second.index.find? path = first.index.find? path
  walk : second.walk = first.walk

/-- Two trees in order have the same content if they have the same nodes. -/
theorem Coherent.sameContent_of_node?_eq {first second : RouteTree} (coherent : first.Coherent)
    (coherentToo : second.Coherent) (nodes : ∀ slot, second.node? slot = first.node? slot) :
    first.SameContent second := by
  have files (slot : Nat) : second.filesAt slot = first.filesAt slot := by
    rw [RouteTree.filesAt, nodes, RouteTree.filesAt]
  refine ⟨files, fun path => ?_, coherent.linked.walk_eq_of_node?_eq coherentToo.linked nodes⟩
  apply Option.ext
  intro slot
  rw [coherentToo.indexed.find?_eq_some_iff, coherent.indexed.find?_eq_some_iff, files]

theorem sameContent_touch (tree : RouteTree) : tree.SameContent tree.touch where
  filesAt _ := rfl
  find? _ := rfl
  walk := by
    have sameNodes : ∀ slot, tree.touch.node? slot = tree.node? slot := fun _ => rfl
    exact walkFrom_congr sameNodes _ _

/-- Clearing the place of a file changes the content if there is a file to take out. -/
theorem sameContent_cleared_iff {path : Text} :
    tree.SameContent (tree.cleared path).touch ↔ tree.contains path = false := by
  constructor
  · intro same
    have lost := (same.find? path).symm.trans (Coherent.find?_cleared tree path)
    rw [contains, FileIndex.contains, lost]
    rfl
  · intro absent
    rw [cleared_eq_self absent]
    exact sameContent_touch tree

end RouteTree

namespace RouteTable

variable {table : RouteTable} {input : PageInput} {options : BuildOptions}
  {reader : Option ParseOptions} {error : TreeError}

/-- A refused file leaves the content of the tree as it was if its name could not be read or was
not in the tree; a file that was in the tree is lost. -/
theorem sameContent_of_refused_iff (reachable : table.Reachable)
    (refused : (table.add input options reader).2 = .error error) :
    table.tree.SameContent (table.add input options reader).1.tree ↔
      (∃ unread, input.resolve (reader.getD options.parse) = .error unread) ∨
        table.tree.contains input.name = false := by
  have after : (table.add input options reader).1.tree = _ :=
    reachable.coherent.add_of_refused refused
  rw [after]
  cases input.resolve (reader.getD options.parse) with
  | error unread => exact iff_of_true ⟨fun _ => rfl, fun _ => rfl, rfl⟩ (.inl ⟨unread, rfl⟩)
  | ok file =>
      apply RouteTree.sameContent_cleared_iff.trans
      apply (or_iff_right _).symm
      rintro ⟨unread, ⟨⟩⟩

/-- A newcomer that is refused the seat of another file leaves no trace. -/
theorem sameContent_of_refused_newcomer :
    let table := (RouteTable.empty.add (.file ['a'] 0) {}).1
    let options : BuildOptions := { parse := { roots := [['p']] }, duplicates := .error }
    table.tree.SameContent (table.add (.file ['p', '/', 'a'] 0) options).1.tree := by
  intro table options
  have refused : (table.add (.file ['p', '/', 'a'] 0) options).2 =
      .error (.duplicate ['a'] ['a'] ['p', '/', 'a']) := by decide +kernel
  have newcomer : table.tree.contains ['p', '/', 'a'] = false := by decide +kernel
  exact (sameContent_of_refused_iff (.add _ _ none .empty) refused).mpr (.inr newcomer)

/-- A file that is refused its new seat is no longer at its old one. -/
theorem not_sameContent_of_refused_move :
    ¬∀ (table : RouteTable) (input : PageInput) (options : BuildOptions)
      (reader : Option ParseOptions) (error : TreeError), table.Reachable →
      (table.add input options reader).2 = .error error →
      table.tree.SameContent (table.add input options reader).1.tree := by
  intro preserved
  let first := (RouteTable.empty.add (.file ['a'] 0) {}).1
  let table := (first.add (.file ['p', '/', 'a'] 0) {}).1
  let options : BuildOptions := { parse := { roots := [['p']] }, duplicates := .error }
  have refused : (table.add (.file ['p', '/', 'a'] 0) options).2 =
      .error (.duplicate ['a'] ['a'] ['p', '/', 'a']) := by decide +kernel
  have same := preserved table _ options none _ (.add _ _ none (.add _ _ none .empty)) refused
  have kept := same.find? ['p', '/', 'a']
  have lost : (table.add (.file ['p', '/', 'a'] 0) options).1.tree.index.find? ['p', '/', 'a'] =
      none := by decide +kernel
  rw [lost] at kept
  revert kept
  decide +kernel

end RouteTable
end FileRoutes
