import FileRoutes.Segment.Warning
import FileRoutes.PagePath.Options
import FileRoutes.PagePath.Extension

/-!
# Page paths

A page path is a page file's name as the library uses it: the name itself, its segments, and the
view and modes that the name carries.
-/

namespace FileRoutes

/-- What a file's name says besides its segments. -/
structure PageMeta where
  /-- The modes in the order of the name. -/
  modes : Option (List Text)
  /-- The view that the file fills. -/
  view : Option Text
deriving DecidableEq, Repr

/-- A page file's name cut into segments. -/
structure PagePath where
  file : Text
  segments : List Segment
  /-- The view and the modes; absent when the name has neither. -/
  pageMeta : Option PageMeta
deriving DecidableEq, Repr

namespace PagePath

def view (path : PagePath) : Option Text :=
  path.pageMeta.bind PageMeta.view

def modes (path : PagePath) : Option (List Text) :=
  path.pageMeta.bind PageMeta.modes

/-- A segment as it stands in a relative path, where the index page is spelled out. -/
def segmentLabel (segment : Segment) : Text :=
  if segment.isIndex then ['i', 'n', 'd', 'e', 'x'] else segment.spelling

/-- The path below the root in canonical spelling, with the extension of the file.  Routes are
sorted by it. -/
def relativePath (path : PagePath) : Text :=
  Text.slashed (path.segments.map segmentLabel) ++
    match FileName.extension? path.file with
    | none => []
    | some extension => '.' :: extension

end PagePath

/-- The texts of a route path's segments; a path without any is the index page. -/
def segmentTexts (stem : Text) : List Text :=
  match stem.pieces with
  | [] => [[]]
  | texts => texts

/-- The warnings of the texts up to the first that cannot be read. -/
def warningsThrough (file : Text) : List Text → List Warning
  | [] => []
  | text :: later =>
      Segment.warningsIn file text ++
        match Segment.readIn file text with
        | .ok _ => warningsThrough file later
        | .error _ => []

namespace ParseOptions

/-- What a file's name says besides its segments, if it says anything. -/
def pageMeta? (parts : NameParts) : Option PageMeta :=
  let modes := if parts.modes = [] then none else some parts.modes
  if modes.isSome || parts.view.isSome then some ⟨modes, parts.view⟩ else none

/-- Read the name of a page file.  The first segment that cannot be read is the error. -/
def parse (options : ParseOptions) (file : Text) : Except SegmentError PagePath := do
  let parts := options.parts file
  let segments ← (segmentTexts parts.stem).mapM (Segment.readIn file)
  return ⟨file, segments, pageMeta? parts⟩

theorem file_of_parse {options : ParseOptions} {file : Text} {path : PagePath}
    (read : options.parse file = .ok path) : path.file = file := by
  unfold parse at read
  dsimp only at read
  cases segments : (segmentTexts (options.parts file).stem).mapM (Segment.readIn file) with
  | error error =>
      rw [segments] at read
      cases read
  | ok texts =>
      rw [segments] at read
      cases read
      rfl

/-- The warnings that reading the name of a page file gives, in order. -/
def warnings (options : ParseOptions) (file : Text) : List Warning :=
  warningsThrough file (segmentTexts (options.parts file).stem)

/-- Read the names of page files, up to the first that cannot be read. -/
def parseAll (options : ParseOptions) (files : List Text) : Except SegmentError (List PagePath) :=
  files.mapM options.parse

/-- The warnings of the names up to the first that cannot be read. -/
def warningsAll (options : ParseOptions) : List Text → List Warning
  | [] => []
  | file :: later =>
      options.warnings file ++
        match options.parse file with
        | .ok _ => options.warningsAll later
        | .error _ => []

end ParseOptions
end FileRoutes
