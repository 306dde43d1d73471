import FileRoutes.Proofs.PagePath.Segments
import FileRoutes.Proofs.RouteTree.Insertion

/-!
# Trees of files that were added by name

`ByName` is every tree that comes about by adding files by their names and removing them, under
any options.  No call makes up a file, so each file of such a tree was read from its name.
-/

namespace FileRoutes
namespace RouteTree

/-- The trees that are made of file names. -/
inductive ByName : RouteTree → Prop
  | build {names : List (Text × Int)} {options : BuildOptions} {tree : RouteTree} :
      build (names.map fun named => .file named.1 named.2) options = .ok tree → ByName tree
  | add {tree : RouteTree} (name : Text) (priority : Int) (options : BuildOptions)
      (reader : Option ParseOptions) : ByName tree →
      ByName (tree.add (.file name priority) options reader).1
  | remove {tree : RouteTree} (path : Text) : ByName tree → ByName (tree.remove path).1

variable {tree : RouteTree}

/-- A file that is added by name is read from it. -/
theorem ofName_of_resolve {name : Text} {priority : Int} {options : ParseOptions}
    {file : PageFile} (resolved : (PageInput.file name priority).resolve options = .ok file) :
    file.OfName := by
  have sameName : file.path = name := PageInput.path_of_resolve resolved
  rcases PageInput.exists_parse_of_resolve resolved with ⟨path, read, isFile⟩
  exact ⟨options, path, priority, sameName ▸ read, isFile⟩

namespace ByName

theorem coherent (byName : tree.ByName) : tree.Coherent := by
  induction byName with
  | build built => exact coherent_of_build built
  | add name priority options reader _ inductionHypothesis =>
      exact inductionHypothesis.add _ options reader
  | remove path _ inductionHypothesis => exact inductionHypothesis.remove path

/-- What holds of the empty tree and is kept by inserting files that were read from their names, and
by removing files, holds of all trees that are made of file names. -/
theorem of_kept {holds : RouteTree → Prop} (empty : holds .empty)
    (insert : ∀ (tree : RouteTree) (file : PageFile) (strategy : DuplicateStrategy),
      tree.Coherent → file.OfName → holds tree → holds (tree.insert file strategy).1)
    (remove : ∀ (tree : RouteTree) (path : Text),
      tree.Coherent → holds tree → holds (tree.remove path).1)
    (byName : tree.ByName) : holds tree := by
  induction byName with
  | @build names options tree built =>
      refine coherent_empty.addAll_of_kept insert empty ?_ built
      intro input listed file resolved
      rcases List.mem_map.mp listed with ⟨named, -, rfl⟩
      exact ofName_of_resolve resolved
  | add name priority options reader byName inductionHypothesis =>
      exact byName.coherent.add_of_kept insert inductionHypothesis fun _ => ofName_of_resolve
  | remove path byName inductionHypothesis =>
      exact remove _ path byName.coherent inductionHypothesis

end ByName

/-! ## Every file was read from its name -/

/-- All files of the tree were added by name. -/
def Named (tree : RouteTree) : Prop :=
  ∀ slot, ∀ file ∈ tree.filesAt slot, file.OfName

theorem named_empty : RouteTree.empty.Named := by
  intro slot file listed
  rw [filesAt_empty] at listed
  cases listed

theorem ByName.named (byName : tree.ByName) : tree.Named := by
  refine byName.of_kept named_empty ?_ ?_
  · intro tree file strategy coherent ofName named slot held listed
    rcases coherent.mem_filesAt_insert listed with old | ⟨rfl, -⟩
    · exact named slot held old
    · exact ofName
  · intro tree path coherent named slot held listed
    exact named slot held (coherent.mem_filesAt_remove listed)

end RouteTree
end FileRoutes
