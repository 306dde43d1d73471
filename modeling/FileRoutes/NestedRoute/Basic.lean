import FileRoutes.NestedRoute.Draft

/-!
# Nested routes

A nested route is a finished draft: it has a path below its parent, a name unless a child with an
empty path has it, the files of its views, and its modes.  A mode may be hoisted into an attribute
of the route, when it is the only one of the attribute's candidates.  Two routes with one name are
reported once per name.
-/

namespace FileRoutes

/-- What the nested routes of a tree look like besides their places. -/
structure NestedOptions where
  /-- The name of a route, from the names of its segments with slashes between them. -/
  nameOf : Option (Text → Text) := none
  /-- Whether names that two routes bear are to be reported. -/
  reports : Bool := false
  /-- The attributes in ascending order, each with the modes that it may be hoisted from. -/
  attributes : List (Text × List Text) := []

/-- A route of a nested router. -/
structure NestedRoute where
  /-- Absent when a child with an empty path bears the name. -/
  name : Option Text
  /-- The path, below the parent for a nested route. -/
  path : Text
  file : Text
  groups : List Text
  /-- The files of the views by name, when a view other than the default one is filled. -/
  components : Option (List (Text × Text))
  /-- The modes that were not hoisted. -/
  modes : List Text
  /-- The attributes that modes were hoisted into. -/
  attributes : List (Text × Text)
deriving DecidableEq, Repr

/-- The modes that a route shows.  Without any it does not show an empty list. -/
def NestedRoute.shownModes (route : NestedRoute) : Option (List Text) :=
  if route.modes = [] then none else some route.modes

/-- Two routes with one name. -/
structure DuplicateName where
  name : Text
  /-- The file of the second route. -/
  file : Text
  /-- The file of the first route. -/
  existing : Text
deriving DecidableEq, Repr

/-! ## Names -/

/-- The name of a route unless the options give another: without `index` at the end, and with
dashes for slashes. -/
def defaultRouteName (name : Text) : Text :=
  let shortened :=
    if name = "index".toList then [] else (Text.before? "/index".toList name).getD name
  match shortened.map fun c => if c = '/' then '-' else c with
  | [] => "index".toList
  | dashed => dashed

namespace NestedOptions

def routeName (options : NestedOptions) : Text → Text :=
  options.nameOf.getD defaultRouteName

end NestedOptions

/-- Report names borne by routes with different files, each at its second route. -/
def duplicatesAmong (taken : List (Text × Text)) (reported : List Text) :
    List (Text × Text) → List DuplicateName
  | [] => []
  | (name, file) :: later =>
      match taken.find? (·.1 = name) with
      | none => duplicatesAmong ((name, file) :: taken) reported later
      | some (_, existing) =>
          if existing ≠ file ∧ name ∉ reported then
            ⟨name, file, existing⟩ :: duplicatesAmong taken (name :: reported) later
          else duplicatesAmong taken reported later

/-- The names that routes bear and the files of the routes, each route after its children. -/
def takenNames (routes : Forest NestedRoute) : List (Text × Text) :=
  routes.postorder.filterMap fun route => route.name.map (·, route.file)

def duplicateNames (routes : Forest NestedRoute) : List DuplicateName :=
  duplicatesAmong [] [] (takenNames routes)

/-! ## Views and modes -/

def firstOfViews : List PageFile → List (Text × Text)
  | [] => []
  | file :: later => (file.view, file.path) :: (firstOfViews later).filter (·.1 ≠ file.view)

/-- The files of a route's views, if it has a named one. -/
def FlatRoute.components (route : FlatRoute) : Option (List (Text × Text)) :=
  if route.hasNamedViews then some (firstOfViews route.siblings) else none

/-- The modes of a route's files, each once, in the order in which they first appear. -/
def FlatRoute.modes (route : FlatRoute) : List Text :=
  (route.siblings.flatMap fun file => file.modes.getD []).eraseDups

/-- Hoist modes into attributes: an attribute takes a mode if that is the only one of its
candidates among those left. -/
def hoist : List (Text × List Text) → List Text → List Text × List (Text × Text)
  | [], modes => (modes, [])
  | (field, candidates) :: later, modes =>
      match candidates.filter (modes.contains ·) with
      | [only] =>
          let others := hoist later (modes.filter (· ≠ only))
          (others.1, (field, only) :: others.2)
      | _ => hoist later modes

/-! ## Finishing drafts -/

/-- Finish a draft whose children are finished. -/
def Draft.finish (draft : Draft) (options : NestedOptions) (nested : Bool)
    (children : Forest NestedRoute) : NestedRoute where
  name :=
    if children.roots.any (·.path = []) then none else some (options.routeName draft.name)
  path := if nested then RoutePath.relative draft.path else draft.path
  file := draft.route.file.path
  groups := draft.route.file.groups
  components := draft.route.components
  modes := (hoist options.attributes draft.route.modes).1
  attributes := (hoist options.attributes draft.route.modes).2

def finishDrafts (options : NestedOptions) (nested : Bool) : Forest Draft → Forest NestedRoute
  | .nil => .nil
  | .cons draft children siblings =>
      let below := finishDrafts options true children
      .cons (draft.finish options nested below) below (finishDrafts options nested siblings)

def RouteTree.nestedRoutes (tree : RouteTree) (options : NestedOptions) : Forest NestedRoute :=
  finishDrafts options false ((draftsOf tree.flatRoutes).sort Draft.precedes)

end FileRoutes
