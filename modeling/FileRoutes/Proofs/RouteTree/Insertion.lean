import FileRoutes.Proofs.RouteTree.Census

/-!
# What an insertion does

An insertion seats the file at the end of the way to its position, unless a rival that sits in its
seat keeps it out.  In the second case nothing was made on the way, so what remains of the
insertion is that the file was taken out of its old place.  Either way the tree is left in order.
-/

namespace FileRoutes

namespace DuplicateStrategy

def ousts : DuplicateStrategy → PageFile → PageFile → Bool
  | firstWins, file, existing => file.priority < existing.priority
  | lastWins, _, _ => true
  | error, _, _ => false

/-- The outcome for a file that is kept out by another one. -/
def verdict : DuplicateStrategy → PageFile → PageFile → Except TreeError Unit
  | error, file, existing => .error (.duplicate file.relativePath existing.path file.path)
  | _, _, _ => .ok ()

end DuplicateStrategy

namespace RouteTree

variable {tree : RouteTree}

/-- The tree without a file that is to be added again, and the slot at the end of the way to the
file's position, made if it is missing. -/
def reachedFor (tree : RouteTree) (file : PageFile) : RouteTree × Nat :=
  (tree.cleared file.path).reach 0 file.position

theorem cleared_eq_self {path : Text} (fresh : tree.contains path = false) :
    tree.cleared path = tree := by
  rw [cleared, fresh]
  rfl

def rival? (tree : RouteTree) (file : PageFile) : Option PageFile :=
  ((tree.reachedFor file).1.filesAt (tree.reachedFor file).2).find? (·.seat = file.seat)

theorem mem_of_rival? {file existing : PageFile} (isRival : tree.rival? file = some existing) :
    existing ∈ (tree.reachedFor file).1.filesAt (tree.reachedFor file).2 ∧
      existing.seat = file.seat := by
  unfold rival? at isRival
  have sameSeat := List.find?_some isRival
  exact ⟨List.mem_of_find?_eq_some isRival, of_decide_eq_true sameSeat⟩

section Attach

variable {slot : Nat} {node : Node} {file existing : PageFile} {strategy : DuplicateStrategy}

theorem attach_of_admitted (found : tree.node? slot = some node)
    (admitted : (node.files.find? (·.seat = file.seat)).all (strategy.ousts file) = true) :
    tree.attach slot file strategy =
      (tree.seatFile slot file (node.files.find? (·.seat = file.seat)), .ok ()) := by
  unfold attach
  rw [found]
  dsimp only
  cases seated : node.files.find? (·.seat = file.seat) with
  | none => rfl
  | some existing =>
      rw [seated, Option.all_some] at admitted
      cases strategy with
      | error => cases admitted
      | lastWins => rfl
      | firstWins => exact if_pos (of_decide_eq_true admitted)

theorem attach_of_rival (found : tree.node? slot = some node)
    (rival : node.files.find? (·.seat = file.seat) = some existing)
    (stays : strategy.ousts file existing = false) :
    tree.attach slot file strategy = (tree, strategy.verdict file existing) := by
  unfold attach
  rw [found]
  dsimp only
  rw [rival]
  cases strategy with
  | error => rfl
  | lastWins => cases stays
  | firstWins => exact if_neg (of_decide_eq_false stays)

end Attach

namespace Coherent

theorem mem_of_mem_filesAt_cleared (coherent : tree.Coherent) {path : Text} {slot : Nat}
    {held : PageFile} (listed : held ∈ (tree.cleared path).filesAt slot) :
    held ∈ tree.filesAt slot := by
  rw [coherent.filesAt_cleared] at listed
  exact (List.mem_filter.mp listed).1

theorem filesAt_reachedFor (coherent : tree.Coherent) (file : PageFile) (slot : Nat) :
    (tree.reachedFor file).1.filesAt slot = (tree.cleared file.path).filesAt slot :=
  (coherent.cleared file.path).isOpen.filesAt_reach file.position slot

theorem indexed_reachedFor (coherent : tree.Coherent) (file : PageFile) :
    (tree.reachedFor file).1.Indexed :=
  (coherent.cleared file.path).indexed.of_same (coherent.filesAt_reachedFor file)
    (index_reach _ _ _)

theorem exists_node_reachedFor (coherent : tree.Coherent) (file : PageFile) :
    ∃ node, (tree.reachedFor file).1.node? (tree.reachedFor file).2 = some node ∧
      node.files.find? (·.seat = file.seat) = tree.rival? file := by
  rcases ((coherent.cleared file.path).isOpen.reach file.position).found with ⟨node, isNode⟩
  have found : (tree.reachedFor file).1.node? (tree.reachedFor file).2 = some node := isNode
  exact ⟨node, found, by rw [rival?, filesAt_of_node? found]⟩

/-- A file that has no rival, or ousts the one it has, takes its seat. -/
theorem insert_of_admitted (coherent : tree.Coherent) {file : PageFile}
    {strategy : DuplicateStrategy}
    (admitted : (tree.rival? file).all (strategy.ousts file) = true) :
    tree.insert file strategy =
      (((tree.reachedFor file).1.seatFile (tree.reachedFor file).2 file
        (tree.rival? file)).touch, .ok ()) := by
  rcases coherent.exists_node_reachedFor file with ⟨node, found, rival⟩
  rw [← rival] at admitted ⊢
  have isReached : (tree.cleared file.path).reach 0 file.position = tree.reachedFor file := rfl
  unfold RouteTree.insert
  rw [isReached]
  dsimp only
  rw [attach_of_admitted found admitted]

/-- A file that does not oust its rival is kept out. -/
theorem insert_of_rival (coherent : tree.Coherent) {file existing : PageFile}
    {strategy : DuplicateStrategy} (isRival : tree.rival? file = some existing)
    (stays : strategy.ousts file existing = false) :
    tree.insert file strategy =
      ((tree.cleared file.path).touch, strategy.verdict file existing) := by
  rcases coherent.exists_node_reachedFor file with ⟨node, found, rival⟩
  rw [← rival] at isRival
  have busy : node.files ≠ [] := List.ne_nil_of_mem (List.mem_of_find?_eq_some isRival)
  have same : (tree.reachedFor file).1 = tree.cleared file.path := by
    apply (coherent.cleared file.path).isOpen.reach_eq_self
    rw [← coherent.filesAt_reachedFor]
    exact (filesAt_of_node? found).symm ▸ busy
  have pruned := prune_eq_self found (Node.isBare_eq_false_iff.mpr (.inl busy))
  have isReached : (tree.cleared file.path).reach 0 file.position = tree.reachedFor file := rfl
  unfold RouteTree.insert
  rw [isReached]
  dsimp only
  rw [attach_of_rival found isRival stays]
  cases strategy with
  | error =>
      dsimp only [DuplicateStrategy.verdict]
      rw [pruned, same]
  | lastWins => cases stays
  | firstWins =>
      dsimp only [DuplicateStrategy.verdict]
      rw [same]

/-- The file is kept out, or takes its seat. -/
theorem insert_eq (coherent : tree.Coherent) (file : PageFile) (strategy : DuplicateStrategy) :
    (tree.insert file strategy).1 = (tree.cleared file.path).touch ∨
      ∃ node, (tree.reachedFor file).1.node? (tree.reachedFor file).2 = some node ∧
        tree.insert file strategy =
          (((tree.reachedFor file).1.seatFile (tree.reachedFor file).2 file
            (node.files.find? (·.seat = file.seat))).touch, .ok ()) := by
  cases admitted : (tree.rival? file).all (strategy.ousts file) with
  | true =>
      rcases coherent.exists_node_reachedFor file with ⟨node, found, rival⟩
      exact .inr ⟨node, found, rival ▸ coherent.insert_of_admitted admitted⟩
  | false =>
      left
      rcases (Option.all_eq_false _ _).mp admitted with ⟨existing, isRival, stays⟩
      rw [coherent.insert_of_rival isRival stays]

theorem insert (coherent : tree.Coherent) (file : PageFile) (strategy : DuplicateStrategy) :
    (tree.insert file strategy).1.Coherent := by
  have cleared := coherent.cleared file.path
  rcases coherent.insert_eq file strategy with keptOut | ⟨node, found, seated⟩
  · exact keptOut ▸ cleared.touch
  · have reached := cleared.isOpen.reach file.position
    have inner := cleared.isOpen.reach_ne_root (.inr (positionOf_ne_nil file.segments))
    have index := index_reach (tree.cleared file.path) 0 file.position
    have fresh := index ▸ find?_cleared tree file.path
    rw [seated]
    exact (reached.seatFile (coherent.indexed_reachedFor file) inner found fresh rfl).touch

theorem add (coherent : tree.Coherent) (input : PageInput) (options : BuildOptions)
    (reader : Option ParseOptions) : (tree.add input options reader).1.Coherent := by
  unfold RouteTree.add
  split
  · exact coherent
  · exact coherent.insert _ _

/-- What the insertion of some files keeps is kept when they are added, if each input gives one of
them or none at all. -/
theorem add_of_kept (coherent : tree.Coherent) {holds : RouteTree → Prop} {among : PageFile → Prop}
    (insert : ∀ (tree : RouteTree) (file : PageFile) (strategy : DuplicateStrategy),
      tree.Coherent → among file → holds tree → holds (tree.insert file strategy).1)
    (here : holds tree) {input : PageInput} {options : BuildOptions}
    {reader : Option ParseOptions}
    (gives : ∀ file, input.resolve (reader.getD options.parse) = .ok file → among file) :
    holds (tree.add input options reader).1 := by
  unfold RouteTree.add
  split
  · exact here
  · next file resolved => exact insert tree file _ coherent (gives file resolved) here

theorem addAll_of_kept (coherent : tree.Coherent) {holds : RouteTree → Prop}
    {among : PageFile → Prop}
    (insert : ∀ (tree : RouteTree) (file : PageFile) (strategy : DuplicateStrategy),
      tree.Coherent → among file → holds tree → holds (tree.insert file strategy).1)
    (here : holds tree) {inputs : List PageInput} {options : BuildOptions}
    (gives : ∀ input ∈ inputs, ∀ file, input.resolve options.parse = .ok file → among file)
    {result : RouteTree} (added : RouteTree.addAll options inputs tree = .ok result) :
    holds result := by
  induction inputs generalizing tree with
  | nil => exact Except.ok.inj added ▸ here
  | cons input later inductionHypothesis =>
      rcases List.forall_mem_cons.mp gives with ⟨first, others⟩
      have next : holds (tree.add input options none).1 := coherent.add_of_kept insert here first
      have inOrder := coherent.add input options none
      unfold RouteTree.addAll at added
      split at added
      · next grown outcome =>
        rw [outcome] at next inOrder
        exact inductionHypothesis inOrder next others added
      · cases added

theorem addAll (coherent : tree.Coherent) {inputs : List PageInput} {options : BuildOptions}
    {result : RouteTree} (added : RouteTree.addAll options inputs tree = .ok result) :
    result.Coherent := by
  have anyFile : ∀ input ∈ inputs, ∀ file, input.resolve options.parse = .ok file → True :=
    fun _ _ _ _ => trivial
  exact coherent.addAll_of_kept (fun _ file strategy inOrder _ _ => inOrder.insert file strategy)
    coherent anyFile added

/-! ## The files after an insertion -/

/-- After an insertion the only new file is the one inserted, at the end of the way to its
position. -/
theorem mem_filesAt_insert (coherent : tree.Coherent) {file : PageFile}
    {strategy : DuplicateStrategy} {slot : Nat} {held : PageFile}
    (listed : held ∈ (tree.insert file strategy).1.filesAt slot) :
    held ∈ tree.filesAt slot ∨ held = file ∧ slot = (tree.reachedFor file).2 := by
  rcases coherent.insert_eq file strategy with kept | ⟨node, found, seated⟩
  · rw [kept] at listed
    exact .inl (coherent.mem_of_mem_filesAt_cleared listed)
  · rw [seated] at listed
    have indexed := coherent.indexed_reachedFor file
    rcases (indexed.mem_filesAt_seatFile_iff found rfl).mp listed with ⟨isSlot, isFile⟩ | ⟨old, -⟩
    · exact .inr ⟨isFile, isSlot⟩
    · rw [coherent.filesAt_reachedFor] at old
      exact .inl (coherent.mem_of_mem_filesAt_cleared old)

/-- The files after the insertion of a new one.  Unless it is kept out it comes in, and its rival
goes. -/
theorem mem_attached_insert_iff (coherent : tree.Coherent) {file held : PageFile}
    (fresh : tree.contains file.path = false) (strategy : DuplicateStrategy) :
    held ∈ (tree.insert file strategy).1.attached ↔
      if (tree.rival? file).all (strategy.ousts file) then
        held = file ∨ held ∈ tree.attached ∧ tree.rival? file ≠ some held
      else held ∈ tree.attached := by
  have cleared := cleared_eq_self fresh
  split
  · next admitted =>
    rcases coherent.exists_node_reachedFor file with ⟨node, found, rival⟩
    have indexed := coherent.indexed_reachedFor file
    have files := coherent.filesAt_reachedFor file
    rw [cleared] at files
    have place (slot : Nat) : held ∈ ((tree.reachedFor file).1.seatFile (tree.reachedFor file).2
        file (tree.rival? file)).filesAt slot ↔ slot = (tree.reachedFor file).2 ∧ held = file ∨
          held ∈ tree.filesAt slot ∧ tree.rival? file ≠ some held := by
      rw [indexed.mem_filesAt_seatFile_iff found rival, files]
      apply or_congr_right
      apply and_congr_right
      intro listed
      exact (not_congr (indexed.replaced_eq_iff found rival ((files slot).symm ▸ listed))).symm
    rw [coherent.insert_of_admitted admitted, mem_attached_iff, mem_attached_iff]
    constructor
    · rintro ⟨slot, listed⟩
      rcases (place slot).mp listed with ⟨-, isFile⟩ | ⟨old, stays⟩
      · exact .inl isFile
      · exact .inr ⟨⟨slot, old⟩, stays⟩
    · rintro (isFile | ⟨⟨slot, old⟩, stays⟩)
      · exact ⟨_, (place _).mpr (.inl ⟨rfl, isFile⟩)⟩
      · exact ⟨slot, (place slot).mpr (.inr ⟨old, stays⟩)⟩
  · next keptOut =>
    rcases (Option.all_eq_false _ _).mp (Bool.eq_false_iff.mpr keptOut) with
      ⟨existing, isRival, stays⟩
    rw [coherent.insert_of_rival isRival stays, cleared]
    exact Iff.rfl

theorem mem_filesAt_remove (coherent : tree.Coherent) {path : Text} {slot : Nat}
    {held : PageFile} (listed : held ∈ (tree.remove path).1.filesAt slot) :
    held ∈ tree.filesAt slot := by
  have filtered := coherent.touch.indexed.filesAt_detach path slot
  unfold RouteTree.remove at listed
  rw [filtered] at listed
  exact (List.mem_filter.mp listed).1

end Coherent

theorem coherent_of_build {inputs : List PageInput} {options : BuildOptions} {tree : RouteTree}
    (built : build inputs options = .ok tree) : tree.Coherent :=
  coherent_empty.addAll built

end RouteTree
end FileRoutes
