import FileRoutes.RouteTree.Traversal

/-!
# Flat routes

The files at one node that sit under the same groups make one route.  A file of the default view
leads it if there is one, and its segments give the route its path; the others are its named
views and its variants in other modes.
-/

namespace FileRoutes

/-- A route: the file that leads it, and the other files at its position. -/
structure FlatRoute where
  file : PageFile
  others : List PageFile
deriving DecidableEq, Repr

namespace FlatRoute

/-- All files of the route, the leading one first. -/
def siblings (route : FlatRoute) : List PageFile :=
  route.file :: route.others

def segments (route : FlatRoute) : List Segment :=
  route.file.position

/-- Whether a file of the route fills a view other than the default one. -/
def hasNamedViews (route : FlatRoute) : Bool :=
  route.siblings.any (!·.isDefaultView)

/-- The files of the default view, then the others, each in their order. -/
def defaultsFirst (files : List PageFile) : List PageFile :=
  files.filter PageFile.isDefaultView ++ files.filter (!·.isDefaultView)

/-- The route of some files at one position, if there are any. -/
def ofFiles? (files : List PageFile) : Option FlatRoute :=
  match defaultsFirst files with
  | [] => none
  | file :: others => some ⟨file, others⟩

/-- The routes of the files at a node, in the order in which their groups first appear. -/
def ofNode (node : Node) : List FlatRoute :=
  (node.files.map PageFile.groupPath).eraseDups.filterMap fun groupPath =>
    ofFiles? (node.files.filter (·.groupPath = groupPath))

end FlatRoute

/-- The routes of a tree, in the order of the walk. -/
def RouteTree.flatRoutes (tree : RouteTree) : List FlatRoute :=
  tree.walk.flatMap fun visit => FlatRoute.ofNode visit.node

end FileRoutes
