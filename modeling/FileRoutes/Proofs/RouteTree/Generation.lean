import FileRoutes.RouteTree.Insert

/-!
# Every change moves the generation

The generation is counted up where a call ends, not where it changes the slots.  So each step on
the way leaves it alone, and each call that gets as far as the tree counts once: an addition that
is refused, and a removal of a file that is not there, as much as any other.  Only a name that
cannot be read leaves the generation where it was, and with it the whole tree.
-/

namespace FileRoutes
namespace RouteTree

theorem generation_prune (tree : RouteTree) (slot : Nat) :
    (tree.prune slot).generation = tree.generation := by
  fun_induction prune tree slot with
  | case1 | case2 | case3 | case5 => rfl
  | case4 tree slot _ leaf found bare above _ inductionHypothesis => exact inductionHypothesis

theorem generation_detach (tree : RouteTree) (path : Text) :
    (tree.detach path).1.generation = tree.generation := by
  unfold detach
  split
  · rfl
  · exact generation_prune _ _

theorem generation_remove (tree : RouteTree) (path : Text) :
    (tree.remove path).1.generation = tree.generation + 1 :=
  generation_detach tree.touch path

theorem generation_cleared (tree : RouteTree) (path : Text) :
    (tree.cleared path).generation = tree.generation := by
  unfold cleared
  split
  · exact generation_detach tree path
  · rfl

theorem generation_takeSlot (tree : RouteTree) : tree.takeSlot.2.generation = tree.generation := by
  unfold takeSlot
  split <;> rfl

theorem generation_reach (tree : RouteTree) (slot : Nat) (segments : List Segment) :
    (tree.reach slot segments).1.generation = tree.generation := by
  induction segments generalizing tree slot with
  | nil => rfl
  | cons segment later inductionHypothesis =>
      refine (inductionHypothesis _ _).trans ?_
      unfold childOrNew
      split
      · rfl
      · exact generation_takeSlot tree

theorem generation_attach (tree : RouteTree) (slot : Nat) (file : PageFile)
    (strategy : DuplicateStrategy) :
    (tree.attach slot file strategy).1.generation = tree.generation := by
  unfold attach
  split
  · rfl
  · split
    · rfl
    · rfl
    · rfl
    · split <;> rfl

theorem generation_insert (tree : RouteTree) (file : PageFile) (strategy : DuplicateStrategy) :
    (tree.insert file strategy).1.generation = tree.generation + 1 := by
  let reached := (tree.cleared file.path).reach 0 file.position
  have kept : (reached.1.attach reached.2 file strategy).1.generation = tree.generation :=
    (generation_attach _ _ _ _).trans
      ((generation_reach _ _ _).trans (generation_cleared tree file.path))
  unfold insert
  dsimp only
  split
  · exact congrArg (· + 1) kept
  · exact congrArg (· + 1) ((generation_prune _ _).trans kept)

/-- An addition changes nothing at all, or counts as a change. -/
theorem add_eq_self_or_generation_add (tree : RouteTree) (input : PageInput)
    (options : BuildOptions) (reader : Option ParseOptions) :
    (tree.add input options reader).1 = tree ∨
      (tree.add input options reader).1.generation = tree.generation + 1 := by
  unfold add
  split
  · exact .inl rfl
  · exact .inr (generation_insert tree _ _)

end RouteTree
end FileRoutes
