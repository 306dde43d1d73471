import FileRoutes.RouteTree.Remove

/-!
# Adding files to a route tree

A file that is in the tree already is taken out first, so adding it again moves it.  The file
then takes its seat at its position.  When another file sits there, the strategy for duplicates
decides which of the two stays, or refuses the new one.
-/

namespace FileRoutes

/-- What to do about two files with one seat. -/
inductive DuplicateStrategy where
  /-- The new file stays only if its priority is lower. -/
  | firstWins
  /-- The new file stays. -/
  | lastWins
  /-- The new file is refused. -/
  | error
deriving DecidableEq, Repr

/-- How files are added to a tree. -/
structure BuildOptions where
  parse : ParseOptions := {}
  duplicates : DuplicateStrategy := .firstWins
deriving DecidableEq, Repr

/-- Why a file cannot be added. -/
inductive TreeError where
  | segment (error : SegmentError)
  /-- The new file's seat is taken. -/
  | duplicate (position existing incoming : Text)
deriving DecidableEq, Repr

def TreeError.message : TreeError → String
  | .segment error => error.message
  | .duplicate position existing incoming =>
      "Duplicate route '" ++ String.ofList position ++ "': '" ++ String.ofList incoming ++
        "' conflicts with '" ++ String.ofList existing ++ "'"

/-- A file to be added: by name, or with its name read already. -/
inductive PageInput where
  | file (name : Text) (priority : Int)
  | parsed (path : PagePath) (priority : Int)
deriving DecidableEq, Repr

namespace PageInput

/-- The page file that is to be added. -/
def resolve (options : ParseOptions) : PageInput → Except SegmentError PageFile
  | file name priority => (options.parse name).map (.ofPagePath · priority)
  | parsed path priority => .ok (.ofPagePath path priority)

def name : PageInput → Text
  | file name _ => name
  | parsed path _ => path.file

/-- A file that is added by name has its name read. -/
theorem exists_parse_of_resolve {options : ParseOptions} {name : Text} {priority : Int}
    {page : PageFile} (resolved : (file name priority).resolve options = .ok page) :
    ∃ path, options.parse name = .ok path ∧ page = .ofPagePath path priority := by
  rw [resolve] at resolved
  cases read : options.parse name with
  | error error =>
      rw [read] at resolved
      cases resolved
  | ok path =>
      rw [read] at resolved
      exact ⟨path, rfl, (Except.ok.inj resolved).symm⟩

theorem path_of_resolve {options : ParseOptions} {input : PageInput} {page : PageFile}
    (resolved : input.resolve options = .ok page) : page.path = input.name := by
  cases input with
  | parsed path priority =>
      cases resolved
      rfl
  | file name priority =>
      rcases exists_parse_of_resolve resolved with ⟨path, read, rfl⟩
      exact ParseOptions.file_of_parse read

def warnings (options : ParseOptions) : PageInput → List Warning
  | file name _ => options.warnings name
  | parsed .. => []

end PageInput

namespace Node

/-- The node with one more child, the last. -/
def addChild (slot : Nat) (node : Node) : Node :=
  { node with children := node.children ++ [slot] }

/-- The node with a file, in place of the one in its seat, or last. -/
def putFile (file : PageFile) (node : Node) : Node :=
  { node with files := PageFile.takeSeat file node.files }

end Node

namespace RouteTree

/-! ## Going to a position -/

/-- Make a child of a node for a segment, which comes after its siblings. -/
def newChild (tree : RouteTree) (above : Nat) (segment : Segment) : RouteTree × Nat :=
  let taken := tree.takeSlot
  let placed := taken.2.occupy taken.1 (.bare taken.1 segment above)
  (placed.modify above (Node.addChild taken.1), taken.1)

/-- The child of a node for a segment, made if it is missing, as its slot. -/
def childOrNew (tree : RouteTree) (above : Nat) (segment : Segment) : RouteTree × Nat :=
  match tree.child? above segment.spelling with
  | some child => (tree, child.slot)
  | none => tree.newChild above segment

/-- Go down along segments, making the nodes that are missing. -/
def reach (tree : RouteTree) (slot : Nat) : List Segment → RouteTree × Nat
  | [] => (tree, slot)
  | segment :: later =>
      let next := tree.childOrNew slot segment
      next.1.reach next.2 later

/-! ## Adding files -/

/-- Put a file at the node in a slot, in place of another one if there is one given. -/
def seatFile (tree : RouteTree) (slot : Nat) (file : PageFile) (replaced : Option PageFile) :
    RouteTree :=
  let seated := tree.modify slot (Node.putFile file)
  let cleared :=
    match replaced with
    | some existing => seated.index.erase existing.path
    | none => seated.index
  { seated with index := cleared.insert file.path slot }

/-- Let a file take its seat at the node in a slot, if the strategy allows it. -/
def attach (tree : RouteTree) (slot : Nat) (file : PageFile) (strategy : DuplicateStrategy) :
    RouteTree × Except TreeError Unit :=
  match tree.node? slot with
  | none => (tree, .ok ())
  | some node =>
      match node.files.find? (·.seat = file.seat), strategy with
      | none, _ => (tree.seatFile slot file none, .ok ())
      | some existing, .error =>
          (tree, .error (.duplicate file.relativePath existing.path file.path))
      | some existing, .lastWins => (tree.seatFile slot file (some existing), .ok ())
      | some existing, .firstWins =>
          if file.priority < existing.priority then
            (tree.seatFile slot file (some existing), .ok ())
          else (tree, .ok ())

/-- The tree without a file that is to be added again. -/
def cleared (tree : RouteTree) (path : Text) : RouteTree :=
  if tree.contains path then (tree.detach path).1 else tree

/-- Add a page file, taking it out of its old place first.  After a refusal the nodes that were
made for it go again. -/
def insert (tree : RouteTree) (file : PageFile) (strategy : DuplicateStrategy) :
    RouteTree × Except TreeError Unit :=
  let reached := (tree.cleared file.path).reach 0 file.position
  let attached := reached.1.attach reached.2 file strategy
  match attached.2 with
  | .ok () => (attached.1.touch, .ok ())
  | .error error => ((attached.1.prune reached.2).touch, .error error)

/-- Add a file.  A reader made in advance takes the place of the parse options.  A name that
cannot be read changes nothing. -/
def add (tree : RouteTree) (input : PageInput) (options : BuildOptions)
    (reader : Option ParseOptions := none) : RouteTree × Except TreeError Unit :=
  match input.resolve (reader.getD options.parse) with
  | .error error => (tree, .error (.segment error))
  | .ok file => tree.insert file options.duplicates

/-- Add files in turn, up to the first that is refused. -/
def addAll (options : BuildOptions) : List PageInput → RouteTree → Except TreeError RouteTree
  | [], tree => .ok tree
  | input :: later, tree =>
      match tree.add input options with
      | (next, .ok ()) => addAll options later next
      | (_, .error error) => .error error

def warningsAll (options : BuildOptions) : List PageInput → RouteTree → List Warning
  | [], _ => []
  | input :: later, tree =>
      input.warnings options.parse ++
        match tree.add input options with
        | (next, .ok ()) => warningsAll options later next
        | (_, .error _) => []

/-- The tree of the files, added in turn to the empty tree. -/
def build (inputs : List PageInput) (options : BuildOptions) : Except TreeError RouteTree :=
  addAll options inputs empty

end RouteTree
end FileRoutes
