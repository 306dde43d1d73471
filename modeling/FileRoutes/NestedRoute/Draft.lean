import FileRoutes.FlatRoute
import FileRoutes.Forest
import FileRoutes.NestedRoute.PathSyntax
import FileRoutes.Text.NaturalOrder

/-!
# Nesting routes

Routes are nested by placing them one after the other into a forest of drafts.  A route goes down
into a draft whose name and path are those of its own leading segments, and its path starts afresh
there.  Each draft keeps the scores of the segments in its path, by which siblings are sorted.
-/

namespace FileRoutes

/-- A route with its place in the nest. -/
structure Draft where
  /-- The segments' names with slashes between them. -/
  name : Text
  /-- The path below the parent, with a slash in front unless empty. -/
  path : Text
  /-- The scores of the segments in the path. -/
  scores : List Nat
  route : FlatRoute
deriving DecidableEq, Repr

/-! ## Scores -/

/-- How specific a token is: literal text most, a catch-all least. -/
def Token.score (followed : Bool) : Token → Nat
  | .literal _ | .group _ => 6
  | .parameter .dynamic _ => 5
  | .parameter .repeatable _ => 4
  | .parameter .optional _ => 3
  | .parameter .optionalRepeatable _ => 2
  | .parameter .catchall _ => if followed then 1 else 0

/-- How specific a segment is: as its least specific token. -/
def Segment.score (followed : Bool) (segment : Segment) : Nat :=
  (segment.map (Token.score followed)).foldl min 6

/-- The first difference decides, the higher score first; scores that go on come later. -/
def compareScores : List Nat → List Nat → Ordering
  | first :: firsts, second :: seconds =>
      if first = second then compareScores firsts seconds else compare second first
  | [], [] => .eq
  | [], _ :: _ => .lt
  | _ :: _, [] => .gt

namespace Draft

/-- The order of siblings: by scores, then by path. -/
def compare (first second : Draft) : Ordering :=
  (compareScores first.scores second.scores).then (Text.naturalCompare first.path second.path)

def precedes (first second : Draft) : Bool :=
  (compare first second).isLE

end Draft

/-! ## Placing a route -/

def Segment.routeName (segment : Segment) : Text :=
  if segment.isIndex then "index".toList else segment.visible.flatMap Token.value

/-- A route's name with one more segment. -/
def extendName (name : Text) (segment : Segment) : Text :=
  if name = [] then segment.routeName else name ++ '/' :: segment.routeName

/-- How far a route has been placed: its name so far, and its path and scores below the draft it
has come to. -/
structure Cursor where
  name : Text := []
  path : Text := []
  scores : List Nat := []
deriving DecidableEq, Repr

namespace Cursor

/-- Whether a draft is the parent of all that goes on from here with a segment. -/
def leadsTo (cursor : Cursor) (segment : Segment) (followed : Bool) (draft : Draft) : Bool :=
  let path := RoutePath.join cursor.path ('/' :: segment.routeSyntax followed)
  draft.name = extendName cursor.name segment &&
    draft.path = RoutePath.unifyCatchalls (RoutePath.rooted path)

/-- Go down into the draft that a segment leads to. -/
def descend (cursor : Cursor) (segment : Segment) : Cursor :=
  { name := extendName cursor.name segment }

/-- Go past a segment on the same level. -/
def pass (cursor : Cursor) (segment : Segment) (followed : Bool) : Cursor :=
  let name := extendName cursor.name segment
  if segment.isIndex then
    { cursor with name := name, path := if cursor.path = [] then ['/'] else cursor.path }
  else
    { name := name
      path := cursor.path ++ '/' :: segment.routeSyntax followed
      scores := cursor.scores ++ [segment.score followed] }

@[simp]
theorem name_pass (cursor : Cursor) (segment : Segment) (followed : Bool) :
    (cursor.pass segment followed).name = extendName cursor.name segment := by
  unfold pass
  dsimp only
  split <;> rfl

theorem path_pass_index (cursor : Cursor) (followed : Bool) :
    (cursor.pass .index followed).path = if cursor.path = [] then ['/'] else cursor.path := rfl

theorem path_pass (cursor : Cursor) {segment : Segment} (other : segment ≠ .index)
    (followed : Bool) :
    (cursor.pass segment followed).path = cursor.path ++ '/' :: segment.routeSyntax followed := by
  have notIndex : ¬segment.isIndex = true := by simp [Segment.isIndex, other]
  rw [pass, if_neg notIndex]

end Cursor

/-- Place a route that has segments left. -/
def placeFrom (route : FlatRoute) : Cursor → List Segment → Forest Draft → Forest Draft
  | cursor, [], level =>
      level.append (.tree ⟨cursor.name, cursor.path, cursor.scores, route⟩ .nil)
  | cursor, segment :: later, level =>
      let isParent := cursor.leadsTo segment (RoutePath.goesOn later)
      if (level.find? isParent).isSome then
        level.modifyFirst isParent fun draft children =>
          (draft, placeFrom route (cursor.descend segment) later children)
      else placeFrom route (cursor.pass segment (RoutePath.goesOn later)) later level

/-- Place a route among those placed before. -/
def place (drafts : Forest Draft) (route : FlatRoute) : Forest Draft :=
  placeFrom route {} route.segments drafts

/-- Whether a route is placed before another: by length, then in natural order. -/
def FlatRoute.precedes (first second : FlatRoute) : Bool :=
  let left := first.file.relativePath
  let right := second.file.relativePath
  ((Ord.compare left.byteLength right.byteLength).then (Text.naturalCompare left right)).isLE

/-- Place routes in the order of their relative paths, so that parents come before children. -/
def draftsOf (routes : List FlatRoute) : Forest Draft :=
  (routes.mergeSort FlatRoute.precedes).foldl place .nil

end FileRoutes
