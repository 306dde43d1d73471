import FileRoutes.Proofs.RouteTree.Housing
import FileRoutes.Proofs.RouteTree.Partition

/-!
# Files that have their nodes to themselves

Files whose positions are spelled differently never meet.  Adding them one after the other is
refused nowhere and takes nothing away, whatever is done about duplicates, and in the end each file
is alone at its node and leads a flat route of its own.
-/

namespace FileRoutes

/-- The files have different names and different homes. -/
structure Secluded (files : List PageFile) : Prop where
  paths : (files.map PageFile.path).Nodup
  homes : (files.map RouteTree.homeOf).Nodup

namespace Secluded

variable {files later : List PageFile} {file other : PageFile}

theorem front (secluded : Secluded (files ++ later)) : Secluded files where
  paths := (List.nodup_append.mp (List.map_append ▸ secluded.paths)).1
  homes := (List.nodup_append.mp (List.map_append ▸ secluded.homes)).1

theorem apart (secluded : Secluded (files ++ [file])) (listed : other ∈ files) :
    other.path ≠ file.path ∧ RouteTree.homeOf other ≠ RouteTree.homeOf file := by
  rcases secluded with ⟨paths, homes⟩
  rw [List.map_append] at paths homes
  have last {β : Type} (f : PageFile → β) : f file ∈ [file].map f :=
    List.mem_map_of_mem List.mem_cons_self
  exact ⟨(List.nodup_append.mp paths).2.2 _ (List.mem_map_of_mem listed) _ (last _),
    (List.nodup_append.mp homes).2.2 _ (List.mem_map_of_mem listed) _ (last _)⟩

end Secluded

theorem FlatRoute.ofNode_of_files_eq {node : Node} {file : PageFile} (alone : node.files = [file]) :
    ofNode node = [⟨file, []⟩] := by
  have once : [file.groupPath].eraseDups = [file.groupPath] := by simp [List.eraseDups_cons]
  have made : ofFiles? [file] = some ⟨file, []⟩ := by
    unfold ofFiles? defaultsFirst
    cases isDefault : file.isDefaultView <;> simp [isDefault]
  unfold ofNode
  rw [alone, List.map_singleton, once]
  simp [made]

namespace RouteTree

/-- The tree holds these files and no others, each where its position leads. -/
structure Holds (tree : RouteTree) (files : List PageFile) : Prop where
  coherent : tree.Coherent
  housed : tree.Housed
  mem_attached : ∀ file, file ∈ tree.attached ↔ file ∈ files

variable {tree : RouteTree} {files : List PageFile}

theorem holds_empty : RouteTree.empty.Holds [] where
  coherent := coherent_empty
  housed := housed_empty
  mem_attached _ := Iff.rfl

namespace Holds

theorem mem_of_mem_filesAt (holds : tree.Holds files) {slot : Nat} {file : PageFile}
    (listed : file ∈ tree.filesAt slot) : file ∈ files :=
  (holds.mem_attached file).mp (mem_attached_iff.mpr ⟨slot, listed⟩)

/-! ## Adding files -/

theorem contains_eq_false (holds : tree.Holds files) {file : PageFile}
    (secluded : Secluded (files ++ [file])) : tree.contains file.path = false := by
  rw [Bool.eq_false_iff]
  intro contains
  rcases holds.coherent.indexed.contains_iff.mp contains with ⟨slot, other, listed, samePath⟩
  exact (secluded.apart (holds.mem_of_mem_filesAt listed)).1 samePath

/-- No other file is at home where a file with a position of its own goes. -/
theorem rival?_eq_none (holds : tree.Holds files) {file : PageFile}
    (secluded : Secluded (files ++ [file])) : tree.rival? file = none := by
  apply List.find?_eq_none.mpr
  intro held listed
  have fresh := holds.contains_eq_false secluded
  rcases (holds.housed.mem_filesAt_reachedFor_iff holds.coherent fresh).mp listed with
    ⟨isAttached, sameHome⟩
  exact absurd sameHome (secluded.apart ((holds.mem_attached held).mp isAttached)).2

/-- What an insertion keeps. -/
theorem insert (holds : tree.Holds files) {file : PageFile}
    (secluded : Secluded (files ++ [file])) (strategy : DuplicateStrategy) :
    ∃ next, tree.insert file strategy = (next, .ok ()) ∧ next.Holds (files ++ [file]) := by
  have coherent := holds.coherent
  have noRival := holds.rival?_eq_none secluded
  -- Where nobody sits, nothing is left to the strategy.
  have admitted : (tree.rival? file).all (strategy.ousts file) = true := by rw [noRival]; rfl
  have seated := congrArg Prod.snd (coherent.insert_of_admitted admitted)
  refine ⟨(tree.insert file strategy).1, Prod.ext rfl seated, coherent.insert file strategy,
    holds.housed.insert coherent file strategy, fun held => ?_⟩
  rw [coherent.mem_attached_insert_iff (holds.contains_eq_false secluded), if_pos admitted,
    noRival, holds.mem_attached, List.mem_append, List.mem_singleton, or_comm]
  simp

/-- What a run of insertions keeps, of files whose names can be read. -/
theorem addAll (holds : tree.Holds files) {pages : List (PagePath × Int)} {options : BuildOptions}
    (read : ∀ page ∈ pages, options.parse.parse page.1.file = .ok page.1)
    (secluded : Secluded (files ++ pages.map fun page => .ofPagePath page.1 page.2)) :
    ∃ result, RouteTree.addAll options (pages.map fun page => .file page.1.file page.2) tree =
        .ok result ∧
      result.Holds (files ++ pages.map fun page => .ofPagePath page.1 page.2) := by
  induction pages generalizing tree files with
  | nil => exact ⟨tree, rfl, (List.append_nil files).symm ▸ holds⟩
  | cons page later inductionHypothesis =>
      rcases List.forall_mem_cons.mp read with ⟨pageRead, others⟩
      rw [List.map_cons, List.append_cons] at secluded
      rcases holds.insert secluded.front options.duplicates with ⟨next, inserted, nextHolds⟩
      have added : tree.add (.file page.1.file page.2) options = (next, .ok ()) := by
        have resolved : (PageInput.file page.1.file page.2).resolve options.parse =
            .ok (.ofPagePath page.1 page.2) := by
          rw [PageInput.resolve, pageRead]
          rfl
        rw [RouteTree.add, Option.getD_none, resolved]
        exact inserted
      rcases inductionHypothesis nextHolds others secluded with ⟨result, isResult, resultHolds⟩
      refine ⟨result, ?_, ?_⟩
      · rw [List.map_cons, RouteTree.addAll, added]
        exact isResult
      · rw [List.map_cons, List.append_cons]
        exact resultHolds

/-! ## Flat routes -/

/-- No node holds two files, since both would be at home there. -/
theorem files_eq (holds : tree.Holds files) (secluded : Secluded files) {slot : Nat} {node : Node}
    (found : tree.node? slot = some node) {file : PageFile} (listed : file ∈ node.files) :
    node.files = [file] := by
  have same : ∀ other ∈ node.files, other = file := by
    intro other otherListed
    rw [← filesAt_of_node? found] at listed otherListed
    have sameHome := holds.coherent.linked.keys_eq_of_leads
      (holds.housed slot other otherListed) (holds.housed slot file listed)
    exact List.inj_on_of_nodup_map secluded.homes (holds.mem_of_mem_filesAt otherListed)
      (holds.mem_of_mem_filesAt listed) sameHome
  have unique : node.files.Nodup := by
    rw [← filesAt_of_node? found]
    exact (holds.coherent.indexed.paths_nodup slot).of_map _
  cases whole : node.files with
  | nil =>
      rw [whole] at listed
      cases listed
  | cons first later =>
      rw [whole] at same unique
      rcases List.forall_mem_cons.mp same with ⟨rfl, others⟩
      have absent := (List.nodup_cons.mp unique).1
      have alone : later = [] := by
        rw [List.eq_nil_iff_forall_not_mem]
        intro other otherListed
        exact absent (others other otherListed ▸ otherListed)
      rw [alone]

/-- A file that is alone at its node leads a flat route of its own. -/
theorem map_file_ofNode (holds : tree.Holds files) (secluded : Secluded files) {slot : Nat}
    {node : Node} (found : tree.node? slot = some node) :
    (FlatRoute.ofNode node).map FlatRoute.file = node.files := by
  cases whole : node.files with
  | nil => simp [FlatRoute.ofNode, whole]
  | cons file later =>
      have alone : node.files = [file] :=
        holds.files_eq secluded found (whole ▸ List.mem_cons_self)
      rw [← whole, alone]
      rw [FlatRoute.ofNode_of_files_eq alone, List.map_singleton]

theorem flatRoutes_perm (holds : tree.Holds files) (secluded : Secluded files) :
    (tree.flatRoutes.map FlatRoute.file).Perm files := by
  have coherent := holds.coherent
  have led : tree.flatRoutes.map FlatRoute.file =
      (tree.walk.map Visit.node).flatMap Node.files := by
    rw [flatRoutes_eq, List.map_flatMap]
    apply List.flatMap_congr
    intro node visited
    rcases coherent.linked.exists_slot_of_mem_walk visited with ⟨slot, found⟩
    exact holds.map_file_ofNode secluded found
  have same : tree.attached.Perm files :=
    (List.perm_ext_iff_of_nodup coherent.indexed.nodup_attached.of_map
      (secluded.paths.of_map _)).mpr holds.mem_attached
  rw [led]
  exact coherent.flatMap_files_walk.trans same

end Holds
end RouteTree
end FileRoutes
