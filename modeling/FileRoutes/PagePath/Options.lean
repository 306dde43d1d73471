import FileRoutes.Text.Basic
import FileRoutes.Text.WordChar

/-!
# Taking a page file's name apart

A page file's name is a root directory, a route path, an optional view name after an at sign,
optional mode suffixes, an optional fixed suffix, and an extension.  The parts are removed from
the outside inwards; `ParseOptions.parts` is what remains of the route path, together with the
view and the modes that were found on the way.
-/

namespace FileRoutes

/-- How the names of page files are read. -/
structure ParseOptions where
  /-- The extensions to remove, with or without their dot; every last extension when absent. -/
  extensions : Option (List Text) := none
  /-- A text removed from the end once the extension is gone. -/
  suffix : Option Text := none
  /-- The modes that a name may end in, each after a dot. -/
  modes : List Text := []
  /-- The directories that page files live in. -/
  roots : List Text := []
deriving DecidableEq, Repr

/-- A page file's name without root, extension and suffix. -/
structure NameParts where
  /-- The route path as written, slashes included. -/
  stem : Text
  /-- The view that the file fills, if it names one. -/
  view : Option Text
  /-- The modes in the order of the name. -/
  modes : List Text
deriving DecidableEq, Repr

/-! ## Root directories -/

/-- A directory name with exactly one slash at its end. -/
def FileName.directory (root : Text) : Text :=
  (root.reverse.dropWhile (· = '/')).reverse ++ ['/']

namespace ParseOptions

/-- The root directories, longest first. -/
def directories (options : ParseOptions) : List Text :=
  ((options.roots.filter (· ≠ [])).map FileName.directory).mergeSort
    fun first second => decide (second.byteLength ≤ first.byteLength)

/-- The file name below the first root directory that holds it. -/
def dropRoot (options : ParseOptions) (file : Text) : Text :=
  (options.directories.findSome? (Text.after? · file)).getD file

end ParseOptions

/-! ## Extensions -/

/-- The text before its last dot, if a word and nothing else follows the dot. -/
def FileName.beforeExtension? (path : Text) : Option Text :=
  match path.reverse.takeWhile Text.isWordChar, path.reverse.dropWhile Text.isWordChar with
  | _ :: _, '.' :: stem => some stem.reverse
  | _, _ => none

/-- An extension as it ends a file name, behind one dot. -/
def FileName.dotted (extension : Text) : Text :=
  '.' :: extension.dropWhile (· = '.')

namespace ParseOptions

/-- The path without its extension: the last one, or the first listed one that ends it. -/
def dropExtension (options : ParseOptions) (path : Text) : Text :=
  match options.extensions with
  | none => (FileName.beforeExtension? path).getD path
  | some extensions =>
      let stem? := extensions.findSome? fun extension =>
        Text.before? (FileName.dotted extension) path
      stem?.getD path

def dropSuffix (options : ParseOptions) (path : Text) : Text :=
  (options.suffix.bind (Text.before? · path)).getD path

end ParseOptions

/-! ## Views -/

namespace FileName

def isViewChar (c : Char) : Bool :=
  Text.isWordChar c || c == '-'

/-- The view name that starts here, with what follows it: a maximal non-empty run that ends at a
dot or at the end of the text. -/
def viewAt? (text : Text) : Option (Text × Text) :=
  match text.takeWhile isViewChar, text.dropWhile isViewChar with
  | [], _ => none
  | name, [] => some (name, [])
  | name, '.' :: rest => some (name, '.' :: rest)
  | _, _ => none

/-- Cut the last view name out of a path, together with its at sign. -/
def cutView? : Text → Option (Text × Text)
  | [] => none
  | c :: rest =>
      match cutView? rest with
      | some (name, stem) => some (name, c :: stem)
      | none => if c = '@' then viewAt? rest else none

end FileName

/-! ## Modes -/

namespace ParseOptions

/-- The first listed mode that ends the path, with what precedes its dot. -/
def lastMode? (options : ParseOptions) (path : Text) : Option (Text × Text) :=
  (options.modes.filter (· ≠ [])).findSome? fun mode =>
    (Text.before? ('.' :: mode) path).map (mode, ·)

theorem eq_append_of_lastMode? {options : ParseOptions} {path mode stem : Text}
    (found : options.lastMode? path = some (mode, stem)) :
    path = stem ++ '.' :: mode := by
  obtain ⟨candidate, _, taken⟩ := List.exists_of_findSome?_eq_some found
  obtain ⟨rest, cut, same⟩ := Option.map_eq_some_iff.mp taken
  cases same
  exact Text.before?_eq_some_iff.mp cut

theorem mem_modes_of_lastMode? {options : ParseOptions} {path mode stem : Text}
    (found : options.lastMode? path = some (mode, stem)) : mode ∈ options.modes ∧ mode ≠ [] := by
  obtain ⟨candidate, isMode, taken⟩ := List.exists_of_findSome?_eq_some found
  obtain ⟨_, _, same⟩ := Option.map_eq_some_iff.mp taken
  cases same
  simpa using isMode

/-- Remove the modes that end a path, and list them in the order of the path. -/
def cutModes (options : ParseOptions) (path : Text) : Text × List Text :=
  match found : options.lastMode? path with
  | none => (path, [])
  | some (mode, stem) =>
      have shorter : stem.length < path.length := by
        rw [eq_append_of_lastMode? found]
        simp
      let inner := options.cutModes stem
      (inner.1, inner.2 ++ [mode])
termination_by path.length

theorem cutModes_of_none {options : ParseOptions} {path : Text}
    (missing : options.lastMode? path = none) : options.cutModes path = (path, []) := by
  rw [cutModes]
  split
  · rfl
  · next found =>
    rw [missing] at found
    cases found

theorem cutModes_of_some {options : ParseOptions} {path mode stem : Text}
    (found : options.lastMode? path = some (mode, stem)) :
    options.cutModes path = ((options.cutModes stem).1, (options.cutModes stem).2 ++ [mode]) := by
  rw [cutModes]
  split
  · next missing =>
    rw [found] at missing
    cases missing
  · next foundToo =>
    rw [found] at foundToo
    rcases Prod.mk.inj (Option.some.inj foundToo) with ⟨rfl, rfl⟩
    rfl

def parts (options : ParseOptions) (file : Text) : NameParts :=
  let path := options.dropSuffix (options.dropExtension (options.dropRoot file))
  let cut := FileName.cutView? path
  let inner := options.cutModes ((cut.map Prod.snd).getD path)
  ⟨inner.1, cut.map Prod.fst, inner.2⟩

end ParseOptions
end FileRoutes
