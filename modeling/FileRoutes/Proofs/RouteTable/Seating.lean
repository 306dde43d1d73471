import FileRoutes.Proofs.RouteTable.Reachable
import FileRoutes.Proofs.RouteTree.Partition

/-!
# No seat is taken twice

A file that is seated takes the place of the one in its seat, or comes last where there is none.  So
the seats at its node stay what they were, with the file's own among them.  Whether it is seated at
all is up to the strategy, which may be another one for every call; but nothing else brings a file
to a node.

The siblings of a flat route come from one node and share their groups.  What tells their seats
apart is their view or their modes.
-/

namespace FileRoutes

namespace PageFile

/-- Taking a seat fills one that was free, or none. -/
theorem map_seat_takeSeat (file : PageFile) (files : List PageFile) :
    (takeSeat file files).map seat =
      if file.seat ∈ files.map seat then files.map seat else files.map seat ++ [file.seat] := by
  induction files with
  | nil => rfl
  | cons existing later inductionHypothesis =>
      rw [takeSeat]
      by_cases taken : existing.seat = file.seat
      · simp [taken]
      · have free : ¬file.seat = existing.seat := fun equal => taken equal.symm
        rw [if_neg taken, List.map_cons, inductionHypothesis, List.map_cons]
        simp only [List.mem_cons, free, false_or]
        split <;> rfl

theorem takeSeat_of_free {file : PageFile} {files : List PageFile}
    (free : ∀ existing ∈ files, existing.seat ≠ file.seat) :
    takeSeat file files = files ++ [file] := by
  induction files with
  | nil => rfl
  | cons existing later inductionHypothesis =>
      rcases List.forall_mem_cons.mp free with ⟨first, others⟩
      rw [takeSeat, if_neg first, inductionHypothesis others]
      rfl

theorem nodup_seats_takeSeat {files : List PageFile} (apart : (files.map seat).Nodup)
    (file : PageFile) : ((takeSeat file files).map seat).Nodup := by
  rw [map_seat_takeSeat]
  split
  · exact apart
  · next free => exact List.concat_eq_append ▸ apart.concat free

end PageFile

/-- Files at one node that are in one flat route differ in view or modes if they differ in their
seats. -/
theorem FlatRoute.nodup_roles {node : Node} (apart : (node.files.map PageFile.seat).Nodup)
    {route : FlatRoute} (listed : route ∈ ofNode node) :
    (route.siblings.map fun file => (file.view, file.seat.modes)).Nodup := by
  have made := (ofFiles?_of_mem_ofNode listed).2
  have ofGroup := defaultsFirst_perm (node.files.filter (·.groupPath = route.file.groupPath))
  rw [siblings_of_ofFiles? made, (ofGroup.map _).nodup_iff]
  apply List.Nodup.map_on ?_ (apart.of_map.filter _)
  intro first isFirst second isSecond sameRole
  rcases List.mem_filter.mp isFirst with ⟨firstHeld, firstGroup⟩
  rcases List.mem_filter.mp isSecond with ⟨secondHeld, secondGroup⟩
  have sameGroup := (of_decide_eq_true firstGroup).trans (of_decide_eq_true secondGroup).symm
  rcases Prod.mk.inj sameRole with ⟨sameView, sameModes⟩
  have sameSeat : first.seat = second.seat :=
    PageFile.Seat.mk.injEq .. ▸ ⟨sameView, sameGroup, sameModes⟩
  exact List.inj_on_of_nodup_map apart firstHeld secondHeld sameSeat

namespace RouteTree

variable {tree : RouteTree}

/-- No two files at one node have the same seat. -/
def SeatedApart (tree : RouteTree) : Prop :=
  ∀ slot, ((tree.filesAt slot).map PageFile.seat).Nodup

theorem seatedApart_empty : RouteTree.empty.SeatedApart := by
  intro slot
  rw [filesAt_empty]
  exact List.nodup_nil

namespace SeatedApart

theorem cleared (apart : tree.SeatedApart) (coherent : tree.Coherent) (path : Text) :
    (tree.cleared path).SeatedApart := by
  intro slot
  rw [coherent.filesAt_cleared]
  exact (apart slot).sublist (List.filter_sublist.map _)

theorem remove (apart : tree.SeatedApart) (coherent : tree.Coherent) (path : Text) :
    (tree.remove path).1.SeatedApart := by
  intro slot
  have kept := coherent.touch.indexed.filesAt_detach path slot
  exact kept ▸ (apart slot).sublist (List.filter_sublist.map _)

/-- What an insertion keeps, however it ends: a file that is seated finds its seat free, or takes
it from another one. -/
theorem insert (apart : tree.SeatedApart) (coherent : tree.Coherent) (file : PageFile)
    (strategy : DuplicateStrategy) : (tree.insert file strategy).1.SeatedApart := by
  have cleared := apart.cleared coherent file.path
  rcases coherent.insert_eq file strategy with kept | ⟨node, found, seated⟩
  · rw [kept]
    exact cleared
  · rw [seated]
    intro slot
    have files := Indexed.filesAt_seatFile found file (node.files.find? (·.seat = file.seat)) slot
    refine files ▸ ?_
    split
    · apply PageFile.nodup_seats_takeSeat
      rw [← filesAt_of_node? found, coherent.filesAt_reachedFor]
      exact cleared _
    · rw [coherent.filesAt_reachedFor]
      exact cleared slot

end SeatedApart
end RouteTree

namespace RouteTable

variable {table : RouteTable}

theorem Reachable.seatedApart (reachable : table.Reachable) : table.tree.SeatedApart :=
  reachable.of_kept RouteTree.seatedApart_empty
    (fun _ file strategy coherent _ apart => apart.insert coherent file strategy)
    (fun _ path coherent apart => apart.remove coherent path)

/-- In every tree that the library makes, whatever strategies its files were added under, no two
files at a node have the same view, groups and modes, these put in order and joined.  So no two
siblings of a flat route have the same view and modes. -/
theorem seats_distinct_of_reachable (reachable : table.Reachable) :
    (∀ slot, ((table.tree.filesAt slot).map PageFile.seat).Nodup) ∧
      ∀ route ∈ table.tree.flatRoutes,
        (route.siblings.map fun file => (file.view, file.seat.modes)).Nodup := by
  have apart := reachable.seatedApart
  refine ⟨apart, fun route listed => ?_⟩
  rcases reachable.coherent.linked.exists_node_of_mem_flatRoutes listed with
    ⟨slot, node, found, ofNode⟩
  have seats := apart slot
  rw [RouteTree.filesAt_of_node? found] at seats
  exact FlatRoute.nodup_roles seats ofNode

/-- Of four files for two seats, one ousts another and one is refused. -/
theorem seats_distinct_after_contest :
    let options (root : Char) (strategy : DuplicateStrategy) : BuildOptions :=
      ⟨{ modes := ["client".toList, "server".toList], roots := [[root]] }, strategy⟩
    let add (table : RouteTable) (name : String) (options : BuildOptions) : RouteTable :=
      (table.add (.file name.toList 0) options).1
    let first := add .empty "a.client.vue" (options 'p' .error)
    let second := add first "a.server.vue" (options 'p' .error)
    let third := add second "p/a.client.vue" (options 'p' .lastWins)
    let table := add third "q/a.server.vue" (options 'q' .error)
    (table.tree.filesAt 1).map PageFile.path = ["p/a.client.vue".toList, "a.server.vue".toList] ∧
      ((table.tree.filesAt 1).map PageFile.seat).Nodup ∧
      ∃ route ∈ table.tree.flatRoutes, route.siblings = table.tree.filesAt 1 ∧
        (route.siblings.map fun file => (file.view, file.seat.modes)).Nodup := by
  intro options add first second third table
  have reachable : table.Reachable :=
    .add _ _ none (.add _ _ none (.add _ _ none (.add _ _ none .empty)))
  rcases seats_distinct_of_reachable reachable with ⟨atNodes, inRoutes⟩
  have shared : ∃ route ∈ table.tree.flatRoutes, route.siblings = table.tree.filesAt 1 := by
    decide +kernel
  rcases shared with ⟨route, listed, siblings⟩
  exact ⟨by decide +kernel, atNodes 1, route, listed, siblings, inRoutes route listed⟩

end RouteTable
end FileRoutes
