import FileRoutes.Proofs.NestedRoute.Finishing
import FileRoutes.Proofs.RouteTree.Partition

/-!
# Modes stay with a route or go to its attributes

Attributes are served in the order of their names.  Each takes a mode if that is the only one of its
candidates among the modes left, and so out of reach of the attributes after it.  Serving some
attributes and then others is serving them all, so what an attribute finds is the route's modes
less those that earlier attributes took.  However the candidates overlap, no mode is lost and none
is given twice.
-/

namespace FileRoutes

/-! ## Serving attributes -/

section Hoist

variable {attributes : List (Text × List Text)} {modes : List Text}

theorem hoist_append (earlier later : List (Text × List Text)) (modes : List Text) :
    hoist (earlier ++ later) modes =
      ((hoist later (hoist earlier modes).1).1,
        (hoist earlier modes).2 ++ (hoist later (hoist earlier modes).1).2) := by
  fun_induction hoist earlier modes with
  | case1 modes => rfl
  | case2 field candidates others modes only sole served inductionHypothesis =>
      rw [List.cons_append, hoist, sole]
      dsimp only
      rw [inductionHypothesis]
      rfl
  | case3 field candidates others modes notSole inductionHypothesis =>
      rw [List.cons_append, hoist]
      split
      · next only sole => exact absurd sole (notSole only)
      · exact inductionHypothesis

/-- What is left are the modes that no attribute took, in their order. -/
theorem fst_hoist (attributes : List (Text × List Text)) (modes : List Text) :
    (hoist attributes modes).1 =
      modes.filter fun mode => mode ∉ (hoist attributes modes).2.map Prod.snd := by
  fun_induction hoist attributes modes with
  | case1 modes => simp
  | case2 field candidates later modes only sole served inductionHypothesis =>
      rw [inductionHypothesis, List.filter_filter]
      apply List.filter_congr
      intro mode _
      by_cases taken : mode = only <;> simp [taken, served]
  | case3 field candidates later modes notSole inductionHypothesis => exact inductionHypothesis

theorem mem_fst_hoist_iff {mode : Text} :
    mode ∈ (hoist attributes modes).1 ↔
      mode ∈ modes ∧ ∀ taken ∈ (hoist attributes modes).2, taken.2 ≠ mode := by
  rw [fst_hoist, List.mem_filter, decide_eq_true_eq]
  apply and_congr_right
  intro _
  constructor
  · exact fun free taken isTaken same => free (List.mem_map.mpr ⟨taken, isTaken, same⟩)
  · intro free isTaken
    rcases List.mem_map.mp isTaken with ⟨taken, isTaken, same⟩
    exact free taken isTaken same

/-- Every mode is left or goes to one attribute. -/
theorem hoist_perm (attributes : List (Text × List Text)) (unique : modes.Nodup) :
    ((hoist attributes modes).1 ++ (hoist attributes modes).2.map Prod.snd).Perm modes := by
  fun_induction hoist attributes modes with
  | case1 modes => simp
  | case2 field candidates later modes only sole served inductionHypothesis =>
      have candidate : only ∈ candidates.filter (modes.contains ·) :=
        sole ▸ List.mem_singleton_self only
      have present : only ∈ modes := by simpa using (List.mem_filter.mp candidate).2
      have others : modes.filter (· ≠ only) = modes.erase only := by
        simp [unique.erase_eq_filter, bne, Bool.beq_eq_decide_eq]
      have shared := inductionHypothesis (unique.filter _)
      rw [List.map_cons]
      refine List.perm_middle.trans ((shared.cons only).trans ?_)
      exact others ▸ (List.perm_cons_erase present).symm
  | case3 field candidates later modes notSole inductionHypothesis =>
      exact inductionHypothesis unique

theorem sublist_map_fst_hoist (attributes : List (Text × List Text)) (modes : List Text) :
    ((hoist attributes modes).2.map Prod.fst).Sublist (attributes.map Prod.fst) := by
  fun_induction hoist attributes modes with
  | case1 modes => exact List.Sublist.refl _
  | case2 field candidates later modes only sole served inductionHypothesis =>
      exact inductionHypothesis.cons_cons field
  | case3 field candidates later modes notSole inductionHypothesis =>
      exact inductionHypothesis.cons field

/-- What the first attribute takes is its only candidate among the modes. -/
theorem mem_hoist_cons_iff {field : Text} {candidates : List Text}
    {later : List (Text × List Text)} (absent : field ∉ later.map Prod.fst)
    (once : candidates.Nodup) {value : Text} :
    (field, value) ∈ (hoist ((field, candidates) :: later) modes).2 ↔
      ∀ candidate, candidate ∈ candidates ∧ candidate ∈ modes ↔ candidate = value := by
  have notLater (modes : List Text) : (field, value) ∉ (hoist later modes).2 := fun listed =>
    absent ((sublist_map_fst_hoist later modes).subset (List.mem_map_of_mem listed))
  have sole_iff : candidates.filter (modes.contains ·) = [value] ↔
      ∀ candidate, candidate ∈ candidates ∧ candidate ∈ modes ↔ candidate = value := by
    rw [← List.perm_singleton, List.perm_ext_iff_of_nodup (once.filter _) (List.nodup_singleton _)]
    simp
  rw [hoist, ← sole_iff]
  split
  · next only sole =>
    rw [sole]
    simp [notLater, eq_comm]
  · next notSole => exact iff_of_false (notLater modes) (notSole value)

/-- An attribute takes its only candidate among the modes that no attribute with an earlier name
took, and nothing if there is none or a choice. -/
theorem mem_hoist_iff (inOrder : (attributes.map Prod.fst).Pairwise (· < ·)) {field : Text}
    {candidates : List Text} (listed : (field, candidates) ∈ attributes)
    (once : candidates.Nodup) {value : Text} :
    (field, value) ∈ (hoist attributes modes).2 ↔
      ∀ candidate, candidate ∈ candidates ∧ candidate ∈ modes ∧
        (∀ taken ∈ (hoist attributes modes).2, taken.1 < field → taken.2 ≠ candidate) ↔
          candidate = value := by
  rcases List.append_of_mem listed with ⟨earlier, later, rfl⟩
  rw [List.map_append, List.pairwise_append, List.map_cons, List.pairwise_cons] at inOrder
  rcases inOrder with ⟨-, ⟨afterwards, -⟩, across⟩
  have before : ∀ taken ∈ (hoist earlier modes).2, taken.1 < field := fun taken isTaken =>
    across taken.1 ((sublist_map_fst_hoist _ _).subset (List.mem_map_of_mem isTaken)) field
      List.mem_cons_self
  have absent : field ∉ later.map Prod.fst := fun again =>
    List.lt_irrefl field (afterwards field again)
  have notBefore (modes : List Text) :
      ∀ taken ∈ (hoist ((field, candidates) :: later) modes).2, ¬taken.1 < field := by
    intro taken isTaken below
    have named := (sublist_map_fst_hoist _ _).subset (List.mem_map_of_mem isTaken)
    rcases List.mem_cons.mp named with same | isLater
    · rw [same] at below
      exact List.lt_irrefl field below
    · exact List.lt_asymm below (afterwards taken.1 isLater)
  rw [hoist_append]
  have left_iff (mode : Text) : mode ∈ (hoist earlier modes).1 ↔ mode ∈ modes ∧
      ∀ taken ∈ (hoist earlier modes).2 ++
        (hoist ((field, candidates) :: later) (hoist earlier modes).1).2,
        taken.1 < field → taken.2 ≠ mode := by
    rw [mem_fst_hoist_iff]
    apply and_congr_right
    intro _
    constructor
    · intro free taken isTaken below
      rcases List.mem_append.mp isTaken with isEarlier | isLater
      · exact free taken isEarlier
      · exact absurd below (notBefore _ taken isLater)
    · exact fun free taken isEarlier =>
        free taken (List.mem_append_left _ isEarlier) (before taken isEarlier)
  have notEarlier : (field, value) ∉ (hoist earlier modes).2 := fun isTaken =>
    List.lt_irrefl field (before _ isTaken)
  rw [List.mem_append, or_iff_right notEarlier, mem_hoist_cons_iff absent once]
  simp only [left_iff]

end Hoist

/-! ## The modes of a route -/

/-- The modes in a route's files, in the order of the files, as often as they occur. -/
def FlatRoute.listedModes (route : FlatRoute) : List Text :=
  route.siblings.flatMap fun file => file.modes.getD []

/-- These are the modes of a route's files, each once, in the order in which they first occur. -/
structure FlatRoute.HasModes (route : FlatRoute) (modes : List Text) : Prop where
  mem_iff : ∀ mode, mode ∈ modes ↔
    ∃ file ∈ route.siblings, ∃ own, file.modes = some own ∧ mode ∈ own
  inOrder : modes.Pairwise fun first second =>
    route.listedModes.idxOf first < route.listedModes.idxOf second

theorem FlatRoute.hasModes (route : FlatRoute) : route.HasModes route.modes where
  mem_iff mode := by
    rw [modes, List.mem_eraseDups, List.mem_flatMap]
    apply exists_congr
    intro file
    cases file.modes <;> simp
  inOrder := pairwise_idxOf_eraseDups route.listedModes

theorem NestedRoute.getD_shownModes (route : NestedRoute) :
    route.shownModes.getD [] = route.modes := by
  unfold shownModes
  split
  · next empty => exact empty.symm
  · rfl

theorem NestedRoute.shownModes_ne_some_nil (route : NestedRoute) : route.shownModes ≠ some [] := by
  unfold shownModes
  split
  · exact nofun
  · next nonempty => exact fun empty => nonempty (Option.some.inj empty)

/-- A nested route shares modes out.  It shows the ones that stay with it in the order that they
had, and nothing if none do; each other one goes to one attribute, and nothing else is there.  An
attribute takes its only candidate among the modes that attributes with earlier names have left, and
nothing if it finds none or several. -/
structure NestedRoute.SharesOut (route : NestedRoute) (attributes : List (Text × List Text))
    (modes : List Text) : Prop where
  count_eq : ∀ mode, (route.shownModes.getD [] ++ route.attributes.map Prod.snd).count mode =
    if mode ∈ modes then 1 else 0
  inOrder : (route.shownModes.getD []).Sublist modes
  shown : route.shownModes ≠ some []
  named : (route.attributes.map Prod.fst).Sublist (attributes.map Prod.fst)
  takes_iff : ∀ field candidates, (field, candidates) ∈ attributes → ∀ value,
    (field, value) ∈ route.attributes ↔
      ∀ candidate, candidate ∈ candidates ∧ candidate ∈ modes ∧
        (∀ taken ∈ route.attributes, taken.1 < field → taken.2 ≠ candidate) ↔ candidate = value

theorem Draft.sharesOut_finish {options : NestedOptions}
    (inOrder : (options.attributes.map Prod.fst).Pairwise (· < ·))
    (once : ∀ entry ∈ options.attributes, entry.2.Nodup) (draft : Draft) (nested : Bool)
    (children : Forest NestedRoute) :
    (draft.finish options nested children).SharesOut options.attributes draft.route.modes where
  count_eq mode := by
    have unique := nodup_eraseDups draft.route.listedModes
    rw [NestedRoute.getD_shownModes]
    exact ((hoist_perm options.attributes unique).count_eq mode).trans unique.count
  inOrder := by
    rw [NestedRoute.getD_shownModes, finish, fst_hoist]
    exact List.filter_sublist
  shown := NestedRoute.shownModes_ne_some_nil _
  named := sublist_map_fst_hoist _ _
  takes_iff _ _ listed _ := mem_hoist_iff inOrder listed (once _ listed)

/-- The modes of a flat route are those of its files.  Whatever draft it has, the route that this
becomes shares them out between itself and the attributes.  So each flat route of a tree has a
nested route that does, and there are no other nested routes. -/
theorem modes_sharedOut {options : NestedOptions}
    (inOrder : (options.attributes.map Prod.fst).Pairwise (· < ·))
    (once : ∀ entry ∈ options.attributes, entry.2.Nodup) :
    (∀ flat : FlatRoute, flat.HasModes flat.modes) ∧
      (∀ (draft : Draft) (nested : Bool) (children : Forest NestedRoute),
        (draft.finish options nested children).SharesOut options.attributes draft.route.modes) ∧
      ∀ tree : RouteTree,
        (∀ flat ∈ tree.flatRoutes, ∃ route ∈ (tree.nestedRoutes options).preorder,
          route.file = flat.file.path ∧ route.SharesOut options.attributes flat.modes) ∧
        ∀ route ∈ (tree.nestedRoutes options).preorder, ∃ flat ∈ tree.flatRoutes,
          flat.file.path = route.file ∧ route.SharesOut options.attributes flat.modes := by
  have finished := Draft.sharesOut_finish inOrder once
  refine ⟨FlatRoute.hasModes, finished, fun tree => ⟨?_, ?_⟩⟩
  · intro flat listed
    rcases RouteTree.exists_finish_of_mem_flatRoutes listed with
      ⟨node, isNode, draft, nested, rfl, made⟩
    have listed := List.mem_map_of_mem (f := Prod.fst) isNode
    rw [Forest.map_fst_nodes, made] at listed
    exact ⟨_, listed, rfl, finished draft nested node.2⟩
  · intro route listed
    rcases exists_finish_of_mem_finishDrafts listed with ⟨draft, isDraft, nested, children, rfl⟩
    have inNest := RouteTree.mem_sortedDrafts_iff.mp isDraft
    have placed := List.mem_map_of_mem (f := Draft.route) inNest
    exact ⟨draft.route, (preorder_draftsOf tree.flatRoutes).mem_iff.mp placed, rfl,
      finished draft nested children⟩

/-- One attribute takes a mode that another would have had to choose from, and a third one still has
a choice. -/
theorem modes_sharedOut_among_rivals :
    let modes := ["s".toList, "c".toList, "v".toList, "w".toList]
    let options : NestedOptions := { attributes :=
      [("a".toList, ["c".toList]), ("b".toList, ["c".toList, "s".toList]),
        ("z".toList, ["s".toList, "w".toList, "v".toList])] }
    let names := ["x@side.c.vue", "x.s.vue", "x.c.vue", "x.v.vue", "x.w.vue"]
    let tree := (RouteTree.build (names.map fun name => .file name.toList 0)
      { parse := { modes } }).toOption.getD .empty
    ∃ flat ∈ tree.flatRoutes, flat.HasModes modes ∧
      ∃ route ∈ (tree.nestedRoutes options).preorder, route.file = "x.s.vue".toList ∧
        route.SharesOut options.attributes modes ∧
        route.shownModes = some ["v".toList, "w".toList] ∧
        route.attributes = [("a".toList, "c".toList), ("b".toList, "s".toList)] := by
  intro modes options names tree
  rcases @modes_sharedOut options (by decide) (by decide) with ⟨has, -, shared⟩
  have found : ∃ flat ∈ tree.flatRoutes, flat.file.path = "x.s.vue".toList ∧
      flat.modes = modes := by decide +kernel
  have inOrder : tree.flatRoutes.mergeSort FlatRoute.precedes = tree.flatRoutes :=
    List.mergeSort_of_pairwise (by decide +kernel)
  have computed : ∀ route ∈ (tree.nestedRoutes options).preorder,
      route.shownModes = some ["v".toList, "w".toList] ∧
        route.attributes = [("a".toList, "c".toList), ("b".toList, "s".toList)] := by
    rw [RouteTree.nestedRoutes, draftsOf, inOrder]
    decide +kernel
  rcases found with ⟨flat, listed, isFile, isModes⟩
  rcases (shared tree).1 flat listed with ⟨route, isRoute, sameFile, sharesOut⟩
  rw [isModes] at sharesOut
  exact ⟨flat, listed, isModes ▸ has flat, route, isRoute, sameFile.trans isFile, sharesOut,
    computed route isRoute⟩

end FileRoutes
