import FileRoutes.Text.Basic

/-!
# The extension of a file

The extension belongs to the last name on the path.  Slashes at the end and single dots between
slashes name nothing, two dots name the directory above, and a dot that opens a name marks a
hidden file and starts no extension.  The extension may be empty: a name can end in a dot.
-/

namespace FileRoutes
namespace FileName

/-- The last name on a path, unless the path leads upwards. -/
def last? (path : Text) : Option Text :=
  match (path.pieces.filter (· ≠ ['.'])).getLast? with
  | some ['.', '.'] => none
  | last => last

/-- What follows the last dot of a file's name, unless that dot opens the name. -/
def extension? (path : Text) : Option Text :=
  match last? path with
  | none => none
  | some name =>
      match name.reverse.dropWhile (· ≠ '.') with
      | _ :: _ :: _ => some (name.reverse.takeWhile (· ≠ '.')).reverse
      | _ => none

end FileName
end FileRoutes
