import FileRoutes.Proofs.RouteTable.Refusal
import FileRoutes.Proofs.RouteTable.Seating
import FileRoutes.Proofs.RouteTree.Regrowth

/-!
# Adding a file again

A file that is in a tree, and is added with the segments, the view and the modes that it has, goes
back to where it was.  It is taken out first, and the nodes that this leaves bare go, but the way to
its position makes the same nodes again.  Its seat is free, since it was its own, so no strategy has
a say.

The file is the last one at its node then, and its nodes may stand elsewhere among their siblings.
Adding it once more changes neither.
-/

namespace FileRoutes

/-- Two files with one name, one view, the same modes and the same segments differ in their priority
alone, since everything else is read off these. -/
theorem PageFile.OfPath.eq_of_same {file held : PageFile} (ofPath : file.OfPath)
    (ofPathToo : held.OfPath) (path : file.path = held.path)
    (segments : file.segments = held.segments) (view : file.view = held.view)
    (modes : file.modes = held.modes) : file = { held with priority := file.priority } := by
  rcases ofPath with ⟨page, priority, rfl⟩
  rcases ofPathToo with ⟨other, rank, rfl⟩
  have sameFile : page.file = other.file := path
  have sameSegments : page.segments = other.segments := segments
  have relativePath : page.relativePath = other.relativePath := by
    rw [PagePath.relativePath, PagePath.relativePath, sameFile, sameSegments]
  have groups : groupsOf page.segments = groupsOf other.segments := congrArg groupsOf sameSegments
  simp only [ofPagePath, PageFile.mk.injEq, and_true]
  exact ⟨path, relativePath, view, modes, groups, segments⟩

namespace RouteTree

variable {tree : RouteTree} {home : Nat} {file held : PageFile}

/-! ## The file comes back -/

/-- The position of a file leads to this node in this tree once its old place is cleared, and its
seat there is free. -/
structure Returns (tree : RouteTree) (file : PageFile) (home : Nat) (ready : RouteTree) : Prop where
  reached : tree.reachedFor file = (ready, home)
  free : ∀ existing ∈ ready.filesAt home, existing.seat ≠ file.seat

namespace Returns

variable {ready : RouteTree}

theorem insert_eq (returns : tree.Returns file home ready) (coherent : tree.Coherent)
    (strategy : DuplicateStrategy) :
    tree.insert file strategy = ((ready.seatFile home file none).touch, .ok ()) := by
  have alone : tree.rival? file = none := by
    rw [rival?, returns.reached]
    exact List.find?_eq_none.mpr fun existing listed sameSeat =>
      returns.free existing listed (of_decide_eq_true sameSeat)
  have admitted : (tree.rival? file).all (strategy.ousts file) = true := alone ▸ rfl
  rw [coherent.insert_of_admitted admitted, returns.reached, alone]

theorem exists_node (returns : tree.Returns file home ready) (coherent : tree.Coherent) :
    ∃ node, ready.node? home = some node ∧ node.files = ready.filesAt home := by
  rcases coherent.exists_node_reachedFor file with ⟨node, found, -⟩
  rw [returns.reached] at found
  exact ⟨node, found, (filesAt_of_node? found).symm⟩

theorem filesAt_eq (returns : tree.Returns file home ready) (coherent : tree.Coherent)
    (slot : Nat) : ready.filesAt slot = (tree.filesAt slot).filter (·.path ≠ file.path) := by
  rw [← coherent.filesAt_cleared, ← coherent.filesAt_reachedFor, returns.reached]

/-- It comes last at its node, and the others stay in their order. -/
theorem filesAt_insert (returns : tree.Returns file home ready) (coherent : tree.Coherent)
    (strategy : DuplicateStrategy) (slot : Nat) :
    (tree.insert file strategy).1.filesAt slot =
      if slot = home then (tree.filesAt home).filter (·.path ≠ file.path) ++ [file]
      else (tree.filesAt slot).filter (·.path ≠ file.path) := by
  rcases returns.exists_node coherent with ⟨node, found, files⟩
  have stay := returns.filesAt_eq coherent
  rw [returns.insert_eq coherent]
  refine (Indexed.filesAt_seatFile found file none slot).trans ?_
  rw [files, PageFile.takeSeat_of_free returns.free, stay, stay]

/-- Taking it out once more undoes its coming back. -/
theorem dropAt_seatFile (returns : tree.Returns file home ready) (coherent : tree.Coherent) :
    let once := (ready.seatFile home file none).touch
    ∃ index generation, once.dropAt file.path home = ready.withBooks index generation := by
  intro once
  rcases returns.exists_node coherent with ⟨node, found, files⟩
  let dropped := once.dropAt file.path home
  refine ⟨dropped.index, dropped.generation, eq_of_node?_eq (fun slot => ?_) ?_ rfl rfl rfl⟩
  · have twoSteps : dropped.node? slot = ((ready.modify home (Node.putFile file)).modify home
        (Node.dropFile file.path)).node? slot := rfl
    have sameNodes : (ready.withBooks dropped.index dropped.generation).node? slot =
        ready.node? slot := rfl
    rw [twoSteps, sameNodes, node?_modify, node?_modify]
    by_cases isHome : slot = home
    · rw [if_pos isHome, if_pos isHome, isHome, found]
      have filtered : (file.takeSeat node.files).filter (·.path ≠ file.path) = node.files := by
        rw [files, PageFile.takeSeat_of_free returns.free, returns.filesAt_eq coherent]
        simp
      exact congrArg (fun files => some { node with files := files }) filtered
    · rw [if_neg isHome, if_neg isHome]
  · exact (List.length_modify ..).trans (List.length_modify ..)

/-- After it has come back it returns once more, through the same nodes. -/
theorem again (returns : tree.Returns file home ready) (coherent : tree.Coherent)
    (pruned : ready.prune home = tree.cleared file.path) (strategy : DuplicateStrategy) :
    ∃ index generation, (tree.insert file strategy).1.Returns file home
      (ready.withBooks index generation) := by
  let once := (ready.seatFile home file none).touch
  have inserted : (tree.insert file strategy).1 = once := by rw [returns.insert_eq coherent]
  have onceCoherent : once.Coherent := inserted ▸ coherent.insert file strategy
  have known : once.index.find? file.path = some home := by
    have recorded := Indexed.find?_seatFile ready home file none file.path
    rwa [if_pos rfl] at recorded
  rcases returns.dropAt_seatFile coherent with ⟨index, generation, dropped⟩
  refine ⟨index, generation, ?_, returns.free⟩
  -- Pruning leads back to the tree from which the file came back the first time.
  have reached : (tree.cleared file.path).reach 0 file.position = (ready, home) := returns.reached
  rw [inserted, reachedFor, onceCoherent.cleared_eq_prune known, dropped, prune_withBooks, pruned,
    reach_withBooks, reached]

/-- The second time nothing changes. -/
theorem sameContent_again (returns : tree.Returns file home ready) (coherent : tree.Coherent)
    (pruned : ready.prune home = tree.cleared file.path) (strategy : DuplicateStrategy) :
    let once := (tree.insert file strategy).1
    (once.insert file strategy).2 = .ok () ∧ once.SameContent (once.insert file strategy).1 := by
  intro once
  have onceCoherent : once.Coherent := coherent.insert file strategy
  rcases returns.again coherent pruned strategy with ⟨index, generation, back⟩
  have isOnce : once = (ready.seatFile home file none).touch :=
    congrArg Prod.fst (returns.insert_eq coherent strategy)
  have twice := back.insert_eq onceCoherent strategy
  refine ⟨congrArg Prod.snd twice, ?_⟩
  apply onceCoherent.sameContent_of_node?_eq (onceCoherent.insert file strategy)
  intro slot
  rw [twice, isOnce]
  rfl

/-- Every node is where it was. -/
theorem leads_insert_iff (returns : tree.Returns file home ready) (coherent : tree.Coherent)
    (inner : home ≠ 0) (regrown : Regrown (tree.dropAt file.path home) ready)
    (strategy : DuplicateStrategy) {keys : List Text} {slot : Nat} :
    (tree.insert file strategy).1.Leads keys slot ↔ tree.Leads keys slot := by
  have dropped := sameLinks_dropAt tree file.path home
  have seated := sameLinks_seatFile ready home file none
  have linked := coherent.linked_dropAt inner file.path
  have readyLinked : ready.Linked := by
    have reached := (coherent.cleared file.path).isOpen.reach file.position
    have isReady : (tree.cleared file.path).reach 0 file.position = (ready, home) :=
      returns.reached
    exact (isReady ▸ reached).linked
  rw [returns.insert_eq coherent]
  constructor
  · intro leads
    have before := leads.keep seated.symm.within.keeps
    exact (before.keep (regrown.keeps_back linked readyLinked)).keep dropped.symm.within.keeps
  · intro leads
    have without := leads.keep dropped.within.keeps
    exact (without.keep regrown.keeps).keep seated.within.keeps

end Returns

/-- A file that is at home in a tree returns when it is added again. -/
theorem Coherent.exists_returns (coherent : tree.Coherent) (apart : tree.SeatedApart)
    (listed : held ∈ tree.filesAt home) (leads : tree.Leads (homeOf held) home) (priority : Int) :
    ∃ ready, tree.Returns { held with priority := priority } home ready ∧
      Regrown (tree.dropAt held.path home) ready ∧ ready.prune home = tree.cleared held.path := by
  have inner := coherent.ne_root_of_mem listed
  have known : tree.index.find? held.path = some home :=
    coherent.indexed.find?_eq_some_iff.mpr ⟨held, listed, rfl⟩
  have linked := coherent.linked_dropAt inner held.path
  have leadsToo := leads.keep (sameLinks_dropAt tree held.path home).within.keeps
  have cleared := coherent.cleared_eq_prune known
  rcases linked.regrown_reach (coherent.settledBut_dropAt held.path home) leadsToo with
    ⟨atHome, regrown, pruned⟩
  rw [← cleared] at atHome regrown pruned
  refine ⟨_, ⟨Prod.ext rfl atHome, ?_⟩, regrown, pruned⟩
  intro existing present sameSeat
  have stays := coherent.filesAt_reachedFor held home
  rw [coherent.filesAt_cleared] at stays
  have kept : existing ∈ (tree.filesAt home).filter (·.path ≠ held.path) := stays ▸ present
  rcases List.mem_filter.mp kept with ⟨there, other⟩
  have equal := List.inj_on_of_nodup_map (apart home) there listed sameSeat
  exact of_decide_eq_true other (congrArg PageFile.path equal)

/-! ## Where files come from -/

/-- Every file was taken from a page path. -/
def FromPaths (tree : RouteTree) : Prop :=
  ∀ slot, ∀ file ∈ tree.filesAt slot, file.OfPath

theorem fromPaths_empty : RouteTree.empty.FromPaths := by
  intro slot file listed
  rw [filesAt_empty] at listed
  cases listed

theorem FromPaths.insert (fromPaths : tree.FromPaths) (coherent : tree.Coherent)
    (ofPath : file.OfPath) (strategy : DuplicateStrategy) :
    (tree.insert file strategy).1.FromPaths := by
  intro slot held listed
  rcases coherent.mem_filesAt_insert listed with old | ⟨rfl, -⟩
  · exact fromPaths slot held old
  · exact ofPath

end RouteTree

namespace RouteTable

variable {table : RouteTable}

theorem Reachable.fromPaths (reachable : table.Reachable) : table.tree.FromPaths :=
  reachable.of_kept RouteTree.fromPaths_empty
    (fun _ _ strategy coherent ofPath fromPaths => fromPaths.insert coherent ofPath strategy)
    (fun _ _ coherent fromPaths slot file listed =>
      fromPaths slot file (coherent.mem_filesAt_remove listed))

theorem Reachable.housed (reachable : table.Reachable) : table.tree.Housed :=
  reachable.of_kept RouteTree.housed_empty
    (fun _ file strategy coherent _ housed => housed.insert coherent file strategy)
    (fun _ path coherent housed => housed.remove coherent path)

/-- When a file is added to a tree that holds it, with the segments, the view and the modes that it
has, it is never refused and keeps its node, whatever the strategy and its priority are.  No other
file leaves its node or its place among the files there, and every node is where it was.  When the
same is done once more, nothing changes: the walk meets the same nodes with the same tokens and the
same files in the same order. -/
theorem readded_of_reachable (reachable : table.Reachable) {home : Nat} {held file : PageFile}
    (listed : held ∈ table.tree.filesAt home) {input : PageInput} {options : BuildOptions}
    {reader : Option ParseOptions} (resolved : input.resolve (reader.getD options.parse) = .ok file)
    (named : input.name = held.path) (segments : file.segments = held.segments)
    (view : file.view = held.view) (modes : file.modes = held.modes) :
    let once := table.add input options reader
    let twice := once.1.add input options reader
    once.2 = .ok () ∧
      (∀ slot, once.1.tree.filesAt slot =
        if slot = home then
          (table.tree.filesAt home).filter (·.path ≠ held.path) ++
            [{ held with priority := file.priority }]
        else table.tree.filesAt slot) ∧
      (∀ keys slot, once.1.tree.Leads keys slot ↔ table.tree.Leads keys slot) ∧
      twice.2 = .ok () ∧ once.1.tree.SameContent twice.1.tree := by
  intro once twice
  have coherent := reachable.coherent
  have path : file.path = held.path := (PageInput.path_of_resolve resolved).trans named
  have same := (PageInput.ofPath_of_resolve resolved).eq_of_same
    (reachable.fromPaths home held listed) path segments view modes
  rcases coherent.exists_returns reachable.seatedApart listed (reachable.housed home held listed)
    file.priority with ⟨ready, returns, regrown, pruned⟩
  rw [← same] at returns
  rw [← path] at regrown pruned
  have added (tree : RouteTree) :
      tree.add input options reader = tree.insert file options.duplicates := by
    rw [RouteTree.add, resolved]
  simp only [once, twice, add, added]
  rcases returns.sameContent_again coherent pruned options.duplicates with ⟨accepted, unchanged⟩
  refine ⟨?_, fun slot => ?_, fun keys slot => ?_, accepted, unchanged⟩
  · rw [returns.insert_eq coherent]
  · rw [returns.filesAt_insert coherent, ← same, path]
    split
    · rfl
    · next elsewhere =>
      apply RouteTree.filter_filesAt_of_absent
      intro other otherListed sameName
      have known := coherent.indexed.find?_eq_some_iff.mpr ⟨held, listed, rfl⟩
      exact elsewhere (coherent.indexed.slot_eq known otherListed sameName)
  · exact returns.leads_insert_iff coherent (coherent.ne_root_of_mem listed) regrown _

/-- The only file below a node is added again, with another priority and though duplicates are
errors. -/
theorem readded_alone_below :
    let first := (RouteTable.empty.add (.file "a/b.vue".toList 0) {}).1
    let table := (first.add (.file "c.vue".toList 0) {}).1
    let page (priority : Int) : PageFile :=
      ⟨"a/b.vue".toList, "a/b.vue".toList, defaultView, none, [], [[.literal ['a']],
        [.literal ['b']]], priority⟩
    let options : BuildOptions := { duplicates := .error }
    let once := table.add (.file "a/b.vue".toList 3) options
    let twice := once.1.add (.file "a/b.vue".toList 3) options
    table.tree.root.children = [1, 3] ∧ once.1.tree.root.children = [3, 1] ∧ once.2 = .ok () ∧
      table.tree.filesAt 2 = [page 0] ∧ once.1.tree.filesAt 2 = [page 3] ∧
      once.1.tree.filesAt 3 = table.tree.filesAt 3 ∧ once.1.tree.SameContent twice.1.tree := by
  intro first table page options once twice
  have reachable : table.Reachable := .add _ _ none (.add _ _ none .empty)
  have alone : table.tree.filesAt 2 = [page 0] := by decide +kernel
  have listed : page 0 ∈ table.tree.filesAt 2 := alone ▸ List.mem_singleton_self (page 0)
  have resolved : (PageInput.file "a/b.vue".toList 3).resolve (Option.getD none options.parse) =
      .ok (page 3) := by decide +kernel
  rcases readded_of_reachable reachable listed resolved rfl rfl rfl rfl with
    ⟨accepted, files, -, -, unchanged⟩
  refine ⟨by decide +kernel, by decide +kernel, accepted, alone, ?_, files 3, unchanged⟩
  rw [files 2, alone]
  rfl

end RouteTable
end FileRoutes
