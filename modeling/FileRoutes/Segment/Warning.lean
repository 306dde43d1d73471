import FileRoutes.Segment.Read

/-!
# Faults and notices with the file they come from

Reading a segment knows neither its own text nor the file's name.  Here both are put beside the
fault or the notice, and the messages for the author of the file are worded.
-/

namespace FileRoutes

/-- A segment that cannot be read, with the file it belongs to. -/
structure SegmentError where
  fault : Segment.Fault
  segment : Text
  file : Text
deriving DecidableEq, Repr

namespace SegmentError

def location (error : SegmentError) : String :=
  "segment '" ++ String.ofList error.segment ++ "' of '" ++ String.ofList error.file ++ "'"

def message (error : SegmentError) : String :=
  match error.fault with
  | .emptyParameter => "Empty param in " ++ error.location
  | .emptyGroup => "Empty group in " ++ error.location
  | .unfinishedParameter name =>
      "Unfinished param \"" ++ String.ofList name ++ "\" in " ++ error.location
  | .unfinishedGroup name =>
      "Unfinished group \"" ++ String.ofList name ++ "\" in " ++ error.location

end SegmentError

/-- A notice with the file it belongs to. -/
structure Warning where
  notice : Segment.Notice
  file : Text
deriving DecidableEq, Repr

namespace Warning

def message (warning : Warning) : String :=
  let subject :=
    match warning.notice with
    | .droppedChar c =>
        "'" ++ String.singleton c ++ "' is not allowed in a dynamic route parameter"
    | .redundantRepeat => "'+' has no effect on a catch-all parameter"
  subject ++ " and has been ignored. Consider renaming '" ++ String.ofList warning.file ++ "'."

end Warning

namespace Segment

def readIn (file text : Text) : Except SegmentError Segment :=
  (read text).mapError (⟨·, text, file⟩)

theorem readIn_eq_ok_iff {file text : Text} {segment : Segment} :
    readIn file text = .ok segment ↔ read text = .ok segment := by
  unfold readIn
  cases read text with
  | error fault => exact iff_of_false nofun nofun
  | ok taken =>
      constructor <;> exact fun same => congrArg Except.ok (Except.ok.inj same)

/-- The warnings that reading a segment of a file gives, in order. -/
def warningsIn (file text : Text) : List Warning :=
  (notices text).map (⟨·, file⟩)

end Segment
end FileRoutes
