import FileRoutes.RouteTree.Traversal

/-!
# Removing files from a route tree

A file leaves the node that holds it.  When that leaves the node without files and without nodes
below it, the node goes, and so does each node above that its going leaves bare.
-/

namespace FileRoutes

namespace Node

def dropFile (path : Text) (node : Node) : Node :=
  { node with files := node.files.filter (·.path ≠ path) }

def dropChild (slot : Nat) (node : Node) : Node :=
  { node with children := node.children.filter (· ≠ slot) }

/-- Whether nothing keeps the node in its tree: neither a file nor a node below it. -/
def isBare (node : Node) : Bool :=
  !node.isPage && node.children.isEmpty

end Node

namespace RouteTree

/-! ## Pruning -/

private theorem countP_isSome_modify (slots : List (Option Node)) (slot : Nat)
    (change : Node → Node) :
    (slots.modify slot (Option.map change)).countP Option.isSome =
      slots.countP Option.isSome := by
  induction slots generalizing slot with
  | nil => simp
  | cons held others inductionHypothesis =>
      cases slot with
      | zero => simp [List.countP_cons]
      | succ slot => simp [List.countP_cons, inductionHypothesis]

theorem population_modify (tree : RouteTree) (slot : Nat) (change : Node → Node) :
    (tree.modify slot change).population = tree.population :=
  countP_isSome_modify tree.slots slot change

theorem population_vacate_lt {tree : RouteTree} {slot : Nat} {node : Node}
    (found : tree.node? slot = some node) : (tree.vacate slot).population < tree.population := by
  have inside := lt_length_of_node? found
  have held : tree.slots[slot]? = some (some node) := Option.join_eq_some_iff.mp found
  rw [List.getElem?_eq_getElem inside] at held
  have counted : 0 < tree.slots.countP Option.isSome :=
    List.countP_pos_iff.mpr ⟨some node, Option.some.inj held ▸ List.getElem_mem inside, rfl⟩
  unfold population vacate
  rw [List.countP_set inside, Option.some.inj held]
  simp only [Option.isSome_some, Option.isSome_none, if_true, Bool.false_eq_true, if_false]
  omega

/-- Take the node in a slot out from below another one. -/
def takeOut (tree : RouteTree) (slot above : Nat) : RouteTree :=
  (tree.vacate slot).modify above (Node.dropChild slot)

/-- Take bare nodes out, from a slot upwards to the first node that is not bare. -/
def prune (tree : RouteTree) (slot : Nat) : RouteTree :=
  if slot = 0 then tree
  else
    match _ : tree.node? slot with
    | none => tree
    | some node =>
        if node.isBare then
          match node.parent with
          | none => tree.vacate slot
          | some above => (tree.takeOut slot above).prune above
        else tree
termination_by tree.population
decreasing_by
  rw [takeOut, population_modify]
  exact population_vacate_lt ‹_›

/-! ## Removing -/

/-- The slot of the node that holds a file: the one that the index names, if it holds the file,
and the first that is found otherwise. -/
def slotOf? (tree : RouteTree) (path : Text) : Option Nat :=
  let named := (tree.index.find? path).filter fun slot =>
    (tree.node? slot).any (Node.holds path)
  named <|> tree.search? path

/-- Take a file out of the tree, if it is there. -/
def detach (tree : RouteTree) (path : Text) : RouteTree × Bool :=
  let unindexed := { tree with index := tree.index.erase path }
  match tree.slotOf? path with
  | none => (unindexed, false)
  | some slot => ((unindexed.modify slot (Node.dropFile path)).prune slot, true)

/-- Remove a file and say whether it was in the tree.  Both ways count as a change. -/
def remove (tree : RouteTree) (path : Text) : RouteTree × Bool :=
  tree.touch.detach path

end RouteTree
end FileRoutes
