/-!
# Ordered forests

A forest is a row of labelled trees: it is empty, or a first label with the forest below it and
the row that follows.  Positions of a route tree, routes under construction and the finished
nested routes all have this shape, so the traversals and the sort are stated once.  With one
constructor for children and siblings together, a proof about a forest is a plain induction.
-/

namespace FileRoutes

/-- A row of labelled trees. -/
inductive Forest (α : Type) where
  | nil
  | cons (label : α) (children siblings : Forest α)
deriving DecidableEq, Repr

namespace Forest

variable {α : Type}

/-- The labels of the trees' roots, in order. -/
def roots : Forest α → List α
  | nil => []
  | cons label _ siblings => label :: roots siblings

/-- All labels, each before the labels below it. -/
def preorder : Forest α → List α
  | nil => []
  | cons label children siblings => label :: (preorder children ++ preorder siblings)

/-- All labels, each after the labels below it. -/
def postorder : Forest α → List α
  | nil => []
  | cons label children siblings => postorder children ++ label :: postorder siblings

/-- The trees of the first forest, then those of the second. -/
def append : Forest α → Forest α → Forest α
  | nil, later => later
  | cons label children siblings, later => cons label children (append siblings later)

def tree (label : α) (children : Forest α) : Forest α :=
  cons label children nil

/-- The first tree whose root is accepted, as its label and what is below it. -/
def find? (accept : α → Bool) : Forest α → Option (α × Forest α)
  | nil => none
  | cons label children siblings =>
      if accept label then some (label, children) else find? accept siblings

/-- Change the first tree whose root is accepted. -/
def modifyFirst (accept : α → Bool) (change : α → Forest α → α × Forest α) :
    Forest α → Forest α
  | nil => nil
  | cons label children siblings =>
      if accept label then
        let changed := change label children
        cons changed.1 changed.2 siblings
      else cons label children (modifyFirst accept change siblings)

/-- Put a tree into a sorted row, before the first root that does not precede its own. -/
def insertSorted (precedes : α → α → Bool) (label : α) (children : Forest α) :
    Forest α → Forest α
  | nil => tree label children
  | cons next below siblings =>
      if precedes label next then cons label children (cons next below siblings)
      else cons next below (insertSorted precedes label children siblings)

/-- Sort the row of trees, and the row below every root, keeping the order of equals. -/
def sort (precedes : α → α → Bool) : Forest α → Forest α
  | nil => nil
  | cons label children siblings =>
      insertSorted precedes label (sort precedes children) (sort precedes siblings)


@[simp]
theorem roots_append (first second : Forest α) :
    (first.append second).roots = first.roots ++ second.roots := by
  induction first with
  | nil => rfl
  | cons label children siblings _ beside => simp [append, roots, beside]

@[simp]
theorem preorder_append (first second : Forest α) :
    (first.append second).preorder = first.preorder ++ second.preorder := by
  induction first with
  | nil => rfl
  | cons label children siblings _ beside => simp [append, preorder, beside]

@[simp]
theorem postorder_append (first second : Forest α) :
    (first.append second).postorder = first.postorder ++ second.postorder := by
  induction first with
  | nil => rfl
  | cons label children siblings _ beside => simp [append, postorder, beside]

end Forest
end FileRoutes
