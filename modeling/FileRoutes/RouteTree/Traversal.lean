import FileRoutes.RouteTree.Basic

/-!
# Going through a route tree

A traversal keeps the nodes that it has still to visit on a stack, the next one first, and puts
the children of a node in front of what waits already.  So each node comes before the nodes
below it, and siblings come in their order.  In a tree no node is met twice, so the number of
slots is a bound on the visits that is never felt.
-/

namespace FileRoutes
namespace RouteTree

/-! ## Visiting every node -/

/-- A node as a traversal meets it. -/
structure Visit where
  node : Node
  /-- The number of nodes above, the root left out. -/
  depth : Nat
  /-- The node right above; absent below the root. -/
  parent : Option Node
deriving DecidableEq, Repr

def Visit.next (tree : RouteTree) (visit : Visit) : List Visit :=
  (tree.childrenOf visit.node).map fun child => ⟨child, visit.depth + 1, some visit.node⟩

/-- Pay the visits on the stack and those that they lead to, up to a number. -/
def walkFrom (tree : RouteTree) : Nat → List Visit → List Visit
  | _, [] => []
  | 0, _ :: _ => []
  | bound + 1, visit :: waiting => visit :: walkFrom tree bound (visit.next tree ++ waiting)

/-- Visit every node below the root, each before the nodes below it. -/
def walk (tree : RouteTree) : List Visit :=
  tree.walkFrom tree.slots.length
    ((tree.childrenOf tree.root).map fun child => ⟨child, 0, none⟩)

/-! ## Searching for a file -/

/-- Look for a file in the slots on the stack and in those below them, up to a number. -/
def searchFrom (tree : RouteTree) (path : Text) : Nat → List Nat → Option Nat
  | _, [] => none
  | 0, _ :: _ => none
  | bound + 1, slot :: waiting =>
      match tree.node? slot with
      | none => searchFrom tree path bound waiting
      | some node =>
          if node.holds path then some slot
          else searchFrom tree path bound (node.children ++ waiting)

/-- The slot of the first node that holds a file. -/
def search? (tree : RouteTree) (path : Text) : Option Nat :=
  tree.searchFrom path tree.slots.length [0]

/-! ## Looking up nodes -/

/-- A node with its neighbours. -/
structure Neighbourhood where
  node : Node
  children : List Node
  /-- The node right above, which may be the root; only the root has none. -/
  parent : Option Node
deriving DecidableEq, Repr

def neighbourhood? (tree : RouteTree) (slot : Nat) : Option Neighbourhood :=
  (tree.node? slot).map fun node =>
    ⟨node, tree.childrenOf node, node.parent.bind tree.node?⟩

/-- The slot that a path of keys leads to from a slot. -/
def slotFrom? (tree : RouteTree) : Nat → List Text → Option Nat
  | slot, [] => some slot
  | slot, key :: keys => (tree.child? slot key).bind fun child => tree.slotFrom? child.slot keys

/-- The slot that a path of keys leads to from the root. -/
def slotAt? (tree : RouteTree) (keys : List Text) : Option Nat :=
  tree.slotFrom? tree.root.slot keys

/-- The node that holds a file, as the index knows it, with its neighbours. -/
def neighbourhoodOf? (tree : RouteTree) (path : Text) : Option Neighbourhood :=
  (tree.index.find? path).bind tree.neighbourhood?

end RouteTree
end FileRoutes
