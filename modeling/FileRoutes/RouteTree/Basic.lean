import FileRoutes.RouteTree.PageFile
import FileRoutes.RouteTree.FileIndex

/-!
# Route trees

A route tree stores page files by position: each node stands for one segment, and a file sits at
the node that its segments lead to.  Nodes live in numbered slots and name each other by slot,
a node its children and its parent.  Slot zero belongs to the root, which stands for no segment
and never holds a file.  A slot that becomes empty is used again before a new one is made.

What a slot holds is read through `node?` only, and each way of writing to the slots has one
lemma that says what `node?` reads afterwards.  Every change of a tree moves its generation, so
what was computed from a tree can be told to be out of date.
-/

namespace FileRoutes

/-- A position in a route tree. -/
structure Node where
  slot : Nat
  /-- The text that tells the node from its siblings. -/
  key : Text
  /-- The last segment of the position. -/
  segment : Segment
  files : List PageFile
  /-- The slots of the nodes right below, in the order in which they were made. -/
  children : List Nat
  /-- The slot of the node right above; only the root has none. -/
  parent : Option Nat
deriving DecidableEq, Repr

namespace Node

/-- The root of a tree without files. -/
def root : Node :=
  ⟨0, [], [], [], [], none⟩

def bare (slot : Nat) (segment : Segment) (parent : Nat) : Node :=
  ⟨slot, segment.spelling, segment, [], [], some parent⟩

def isPage (node : Node) : Bool :=
  !node.files.isEmpty

def holds (path : Text) (node : Node) : Bool :=
  node.files.any (·.path = path)

end Node

/-- Page files stored by position. -/
structure RouteTree where
  slots : List (Option Node)
  /-- The empty slots, next to be used first. -/
  free : List Nat
  index : FileIndex
  /-- How many changes the tree has seen. -/
  generation : Nat
deriving DecidableEq, Repr

namespace RouteTree

def empty : RouteTree :=
  ⟨[some .root], [], [], 0⟩

def fileCount (tree : RouteTree) : Nat :=
  tree.index.length

def contains (tree : RouteTree) (path : Text) : Bool :=
  tree.index.contains path

def touch (tree : RouteTree) : RouteTree :=
  { tree with generation := tree.generation + 1 }

/-! ## Reading the slots -/

def node? (tree : RouteTree) (slot : Nat) : Option Node :=
  tree.slots[slot]?.join

def root (tree : RouteTree) : Node :=
  (tree.node? 0).getD .root

def isEmpty (tree : RouteTree) : Bool :=
  tree.root.children.isEmpty

def filesAt (tree : RouteTree) (slot : Nat) : List PageFile :=
  ((tree.node? slot).map Node.files).getD []

/-- The nodes right below a node, in order. -/
def childrenOf (tree : RouteTree) (node : Node) : List Node :=
  node.children.filterMap tree.node?

def child? (tree : RouteTree) (slot : Nat) (key : Text) : Option Node :=
  (tree.node? slot).bind fun node => (tree.childrenOf node).find? (·.key = key)

/-- The number of nodes, the root included. -/
def population (tree : RouteTree) : Nat :=
  tree.slots.countP Option.isSome

theorem lt_length_of_node? {tree : RouteTree} {slot : Nat} {node : Node}
    (found : tree.node? slot = some node) : slot < tree.slots.length := by
  rcases Option.join_eq_some_iff.mp found with present
  exact (List.getElem?_eq_some_iff.mp present).1

theorem node?_inj {tree : RouteTree} {slot : Nat} {node other : Node}
    (found : tree.node? slot = some node) (foundToo : tree.node? slot = some other) :
    node = other :=
  Option.some.inj (found.symm.trans foundToo)

theorem filesAt_of_node? {tree : RouteTree} {slot : Nat} {node : Node}
    (found : tree.node? slot = some node) : tree.filesAt slot = node.files := by
  simp [filesAt, found]

theorem mem_filesAt_iff {tree : RouteTree} {slot : Nat} {file : PageFile} :
    file ∈ tree.filesAt slot ↔ ∃ node, tree.node? slot = some node ∧ file ∈ node.files := by
  unfold filesAt
  cases tree.node? slot <;> simp

theorem filesAt_empty (slot : Nat) : empty.filesAt slot = [] := by
  cases slot <;> rfl

/-! ## Writing to the slots -/

def modify (tree : RouteTree) (slot : Nat) (change : Node → Node) : RouteTree :=
  { tree with slots := tree.slots.modify slot (Option.map change) }

def occupy (tree : RouteTree) (slot : Nat) (node : Node) : RouteTree :=
  { tree with slots := tree.slots.set slot (some node) }

/-- Empty a slot, which becomes the next to be used. -/
def vacate (tree : RouteTree) (slot : Nat) : RouteTree :=
  { tree with slots := tree.slots.set slot none, free := slot :: tree.free }

/-- Take an empty slot for use: the one that became empty last, or else a new one. -/
def takeSlot (tree : RouteTree) : Nat × RouteTree :=
  match tree.free with
  | slot :: others => (slot, { tree with free := others })
  | [] => (tree.slots.length, { tree with slots := tree.slots ++ [none] })

theorem node?_modify (tree : RouteTree) (slot other : Nat) (change : Node → Node) :
    (tree.modify slot change).node? other =
      if other = slot then (tree.node? other).map change else tree.node? other := by
  unfold node? modify
  rw [List.getElem?_modify]
  by_cases same : slot = other
  · subst same
    cases tree.slots[slot]? <;> simp
  · have different : ¬other = slot := fun equal => same equal.symm
    cases tree.slots[other]? <;> simp [same, different]

theorem node?_occupy {tree : RouteTree} {slot : Nat} (inside : slot < tree.slots.length)
    (node : Node) (other : Nat) :
    (tree.occupy slot node).node? other =
      if other = slot then some node else tree.node? other := by
  unfold node? occupy
  by_cases same : other = slot
  · subst same
    simp [inside]
  · rw [if_neg same, List.getElem?_set_ne (fun equal => same equal.symm)]

theorem node?_vacate (tree : RouteTree) (slot other : Nat) :
    (tree.vacate slot).node? other = if other = slot then none else tree.node? other := by
  unfold node? vacate
  by_cases same : other = slot
  · subst same
    rw [if_pos rfl, List.getElem?_set_self']
    cases tree.slots[other]? <;> rfl
  · rw [if_neg same, List.getElem?_set_ne (fun equal => same equal.symm)]

theorem node?_takeSlot (tree : RouteTree) (other : Nat) :
    tree.takeSlot.2.node? other = tree.node? other := by
  unfold takeSlot node?
  split
  · rfl
  · by_cases inside : other < tree.slots.length
    · simp [List.getElem?_append_left inside]
    · rw [List.getElem?_append_right (Nat.not_lt.mp inside),
        List.getElem?_eq_none (Nat.not_lt.mp inside)]
      cases other - tree.slots.length <;> rfl

end RouteTree
end FileRoutes
