import FileRoutes.NestedRoute.Basic
import FileRoutes.RouteTree.Insert
import FileRoutes.Text.Quoted

/-!
# Route tables

A route table is a route tree that remembers the nested routes it gave last.  They are given again
as long as the tree has not changed and the options look the same.  Options are told apart by
their fingerprint, in which only the presence of a naming function counts: a table serves one
naming function.
-/

namespace FileRoutes

/-- What of the options decides whether remembered routes may be given again. -/
structure OptionsKey where
  named : Bool
  reports : Bool
  attributes : List (Text × List Text)
deriving DecidableEq, Repr

def NestedOptions.key (options : NestedOptions) : OptionsKey :=
  ⟨options.nameOf.isSome, options.reports, options.attributes⟩

namespace OptionsKey

def flag (set : Bool) : Char :=
  if set then '1' else '0'

/-- An attribute with its candidates. -/
def entry (field : Text × List Text) : Text :=
  Text.quoted field.1 ++ ':' :: Text.bracketed '[' ']' (field.2.map Text.quoted)

/-- A key as one text: the two flags, and then the attributes. -/
def fingerprint (key : OptionsKey) : Text :=
  flag key.named :: flag key.reports ::
    Text.bracketed '\x7b' '\x7d' (key.attributes.map entry)

end OptionsKey

/-- Nested routes with the state that they were computed for. -/
structure Memo where
  generation : Nat
  fingerprint : Text
  routes : Forest NestedRoute
deriving DecidableEq, Repr

/-- The remembered routes, if they were computed for this state. -/
def Memo.remembered? (memo : Memo) (generation : Nat) (fingerprint : Text) :
    Option (Forest NestedRoute) :=
  if memo.generation = generation ∧ memo.fingerprint = fingerprint then some memo.routes else none

/-- Nested routes together with the duplicate names reported. -/
structure NestedAnswer where
  routes : Forest NestedRoute
  duplicates : List DuplicateName
deriving DecidableEq, Repr

/-- Compute the nested routes of a tree, and report duplicate names if the options ask for it. -/
def RouteTree.nestedAnswer (tree : RouteTree) (options : NestedOptions) : NestedAnswer :=
  let routes := tree.nestedRoutes options
  ⟨routes, if options.reports then duplicateNames routes else []⟩

/-- A route tree with the nested routes it gave last. -/
structure RouteTable where
  tree : RouteTree
  memo : Option Memo
deriving DecidableEq, Repr

namespace RouteTable

/-- The table of a tree that has not given any routes yet. -/
def ofTree (tree : RouteTree) : RouteTable :=
  ⟨tree, none⟩

def empty : RouteTable :=
  ofTree .empty

def add (table : RouteTable) (input : PageInput) (options : BuildOptions)
    (reader : Option ParseOptions := none) : RouteTable × Except TreeError Unit :=
  let added := table.tree.add input options reader
  ({ table with tree := added.1 }, added.2)

def remove (table : RouteTable) (path : Text) : RouteTable × Bool :=
  let removed := table.tree.remove path
  ({ table with tree := removed.1 }, removed.2)

/-- The remembered routes, if they are up to date. -/
def remembered? (table : RouteTable) (options : NestedOptions) : Option (Forest NestedRoute) :=
  table.memo.bind (·.remembered? table.tree.generation options.key.fingerprint)

/-- Give the nested routes, the remembered ones if they are up to date.  Only routes that are
computed have their duplicate names reported. -/
def nested (table : RouteTable) (options : NestedOptions) : RouteTable × NestedAnswer :=
  match table.remembered? options with
  | some routes => (table, ⟨routes, []⟩)
  | none =>
      let answer := table.tree.nestedAnswer options
      let memo := ⟨table.tree.generation, options.key.fingerprint, answer.routes⟩
      ({ table with memo := some memo }, answer)

end RouteTable
end FileRoutes
