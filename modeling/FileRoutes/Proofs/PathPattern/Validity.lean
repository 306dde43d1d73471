import FileRoutes.Proofs.PathPattern.Reading
import FileRoutes.Proofs.PathPattern.Rendering
import FileRoutes.Proofs.Text.Words

/-!
# Which trees have path patterns

The names that parameters get in a pattern are well formed, since a file can give no other
characters than letters, digits, low lines and dots of ASCII, and what would be wrong in front is
mended.  So a route has a pattern exactly if these names are distinct.  Different parameters may
come to have one name, as dots are left out.
-/

namespace FileRoutes

namespace GroupName

theorem isLater_of_ascii {c : Char} (ascii : c.isAlphanum = true ∨ c = '_') : isLater c = true :=
  Text.of_ascii isLater ascii (by decide +kernel)

theorem isFirst_of_ascii {c : Char} (ascii : c.isAlphanum = true ∨ c = '_')
    (notDigit : c.isDigit = false) : isFirst c = true := by
  have either : (c.isDigit || isFirst c) = true :=
    Text.of_ascii (fun c => c.isDigit || isFirst c) ascii (by decide +kernel)
  simpa [notDigit] using either

end GroupName

/-- The name of a parameter is well formed as that of a group, unless nothing is left of it. -/
theorem CaptureName.isWellFormed_ofParameter {name : Text}
    (chars : ∀ c ∈ name, Segment.isNameChar c = true) (nonempty : ofParameter name ≠ []) :
    GroupName.isWellFormed (ofParameter name) = true := by
  have ascii : ∀ c ∈ name.filter (· ≠ '.'), c.isAlphanum = true ∨ c = '_' := by
    intro c listed
    rcases List.mem_filter.mp listed with ⟨inName, notDot⟩
    simpa [Segment.isNameChar, of_decide_eq_true notDot] using chars c inName
  unfold ofParameter at nonempty ⊢
  split at nonempty
  · exact absurd rfl nonempty
  · next c rest kept =>
    rw [kept] at ascii
    rcases List.forall_mem_cons.mp ascii with ⟨first, others⟩
    have later : rest.all GroupName.isLater = true :=
      List.all_eq_true.mpr fun c listed => GroupName.isLater_of_ascii (others c listed)
    split
    · have laterToo : (c :: rest).all GroupName.isLater = true :=
        List.all_eq_true.mpr fun c listed => GroupName.isLater_of_ascii (ascii c listed)
      exact laterToo
    · next notDigit =>
      have begins := GroupName.isFirst_of_ascii first (eq_false_of_ne_true notDigit)
      exact Bool.and_eq_true_iff.mpr ⟨begins, later⟩

/-- The names under which the parameters of a route are captured, as far as anything is left of
them.  They are those in the segments of the leading file that are not groups. -/
def FlatRoute.captureKeys (route : FlatRoute) : List Text :=
  (captureNames (route.file.segments.filter (!·.isGroup))).filter (· ≠ [])

theorem captureNames_segments (route : FlatRoute) :
    captureNames route.segments = captureNames (route.file.segments.filter (!·.isGroup)) := by
  unfold FlatRoute.segments PageFile.position positionOf
  split
  · next grouped =>
    rw [grouped]
    rfl
  · rfl

namespace PathPattern

section Route

variable {route : FlatRoute}
  (each : ∀ segment ∈ route.segments, segment.OfName ∧ segment.isGroup = false)
include each

theorem keys_eq_captureKeys : (ofRoute route).keys = route.captureKeys := by
  rw [keys_ofRoute each, captureNames_segments]
  rfl

theorem isWellFormed_of_mem_keys {name : Text} (isKey : name ∈ (ofRoute route).keys) :
    GroupName.isWellFormed name = true := by
  rw [keys_ofRoute each] at isKey
  rcases List.mem_filter.mp isKey with ⟨isName, nonempty⟩
  rcases exists_parameter_of_mem_captureNames (fun segment listed => (each segment listed).1) isName
    with ⟨parameter, chars, rfl⟩
  exact CaptureName.isWellFormed_ofParameter chars (of_decide_eq_true nonempty)

/-- The text of a route's pattern is an expression exactly if the names in it are distinct. -/
theorem isExpression_ofRoute_iff : (ofRoute route).IsExpression ↔ route.captureKeys.Nodup := by
  rw [isExpression_iff (isPlain_ofRoute each), keys_eq_captureKeys each]
  exact and_iff_right fun name isKey =>
    isWellFormed_of_mem_keys each (keys_eq_captureKeys each ▸ isKey)

theorem isValid_ofRoute_iff : (ofRoute route).isValid = true ↔ route.captureKeys.Nodup :=
  (isValid_iff_isExpression (isPlain_ofRoute each)).trans (isExpression_ofRoute_iff each)

theorem exists_ofRoute?_eq_ok_iff :
    (∃ pattern, ofRoute? route = .ok pattern) ↔ route.captureKeys.Nodup := by
  rw [← isValid_ofRoute_iff each]
  simp only [ofRoute?_eq_ok_iff]
  exact ⟨fun ⟨_, valid, _⟩ => valid, fun valid => ⟨_, valid, rfl⟩⟩

theorem ofRoute?_eq_error_iff {file : Text} :
    ofRoute? route = .error file ↔ ¬route.captureKeys.Nodup ∧ file = route.file.path := by
  rw [← isValid_ofRoute_iff each]
  unfold ofRoute?
  split
  · next valid => exact iff_of_false nofun fun refused => refused.1 valid
  · next invalid =>
    rw [and_iff_right invalid, Except.error.injEq, eq_comm]

end Route

end PathPattern

/-- The segments of the routes of a tree that is made of file names. -/
theorem RouteTree.ByName.of_mem_segments {tree : RouteTree} (byName : tree.ByName)
    {route : FlatRoute} (isFlat : route ∈ tree.flatRoutes) :
    ∀ segment ∈ route.segments, segment.OfName ∧ segment.isGroup = false := by
  rcases byName.coherent.linked.file_mem_filesAt isFlat with ⟨slot, held⟩
  exact fun _ isSegment => (byName.named slot route.file held).of_mem_position isSegment

/-- A tree has path patterns if and only if in each of its routes the names of the captures are
distinct; otherwise the fault is the leading file of the first route in which they are not.  The
patterns have those names, in order.  Names are all that can be wrong: the text that a pattern
writes is an expression exactly if they are distinct. -/
theorem pathPatterns_of_byName {tree : RouteTree} (byName : tree.ByName) :
    ((∃ patterns, tree.pathPatterns = .ok patterns) ↔
      ∀ route ∈ tree.flatRoutes, route.captureKeys.Nodup) ∧
    (∀ file, tree.pathPatterns = .error file ↔
      ∃ before route after, tree.flatRoutes = before ++ route :: after ∧
        (∀ earlier ∈ before, earlier.captureKeys.Nodup) ∧ ¬route.captureKeys.Nodup ∧
        file = route.file.path) ∧
    (∀ patterns, tree.pathPatterns = .ok patterns →
      List.Forall₂ (fun route pattern => pattern.keys = route.captureKeys ∧
        pattern.file = route.file.path) tree.flatRoutes patterns) ∧
    ∀ route ∈ tree.flatRoutes,
      (PathPattern.ofRoute route).IsExpression ↔ route.captureKeys.Nodup := by
  have each {route : FlatRoute} (isFlat : route ∈ tree.flatRoutes) := byName.of_mem_segments isFlat
  refine ⟨?_, ?_, ?_, fun route isFlat => PathPattern.isExpression_ofRoute_iff (each isFlat)⟩
  · constructor
    · rintro ⟨patterns, made⟩ route isFlat
      rcases exists_of_forall₂ (mapM_eq_ok_iff.mp made).flip isFlat with ⟨pattern, -, isOk⟩
      exact (PathPattern.exists_ofRoute?_eq_ok_iff (each isFlat)).mp ⟨pattern, isOk⟩
    · intro distinct
      cases made : tree.pathPatterns with
      | ok patterns => exact ⟨patterns, rfl⟩
      | error file =>
          rcases mapM_eq_error_iff.mp made with ⟨before, route, after, split, -, stops⟩
          have isFlat : route ∈ tree.flatRoutes :=
            split ▸ List.mem_append_right _ List.mem_cons_self
          exact absurd (distinct route isFlat)
            ((PathPattern.ofRoute?_eq_error_iff (each isFlat)).mp stops).1
  · intro file
    rw [RouteTree.pathPatterns, mapM_eq_error_iff]
    refine exists₃_congr fun before route after => and_congr_right fun split => and_congr ?_ ?_
    · exact forall₂_congr fun earlier isEarlier => PathPattern.exists_ofRoute?_eq_ok_iff
        (each (split ▸ List.mem_append_left _ isEarlier))
    · exact PathPattern.ofRoute?_eq_error_iff
        (each (split ▸ List.mem_append_right _ List.mem_cons_self))
  · intro patterns made
    have all : ∀ route ∈ tree.flatRoutes, route ∈ tree.flatRoutes := fun _ isFlat => isFlat
    refine ((List.forall₂_and_left _ _).mpr ⟨all, mapM_eq_ok_iff.mp made⟩).imp ?_
    rintro route pattern ⟨isFlat, isOk⟩
    rcases PathPattern.ofRoute?_eq_ok_iff.mp isOk with ⟨-, rfl⟩
    exact ⟨PathPattern.keys_eq_captureKeys (each isFlat), rfl⟩

/-- Two parameters whose names differ in dots alone have one name between them. -/
theorem pathPatterns_of_merged_names :
    let tree := (RouteTree.build ([("a.vue".toList, 0), ("x/[a.b]/[ab].vue".toList, 0)].map
      fun named => .file named.1 named.2) {}).toOption.getD .empty
    (¬∃ patterns, tree.pathPatterns = .ok patterns) ∧
      ∃ before route after, tree.flatRoutes = before ++ route :: after ∧
        (∀ earlier ∈ before, earlier.captureKeys.Nodup) ∧ ¬route.captureKeys.Nodup ∧
        "x/[a.b]/[ab].vue".toList = route.file.path := by
  intro tree
  have built : RouteTree.build ([("a.vue".toList, 0), ("x/[a.b]/[ab].vue".toList, 0)].map
      fun named => .file named.1 named.2) {} = .ok tree := by decide +kernel
  have failed : tree.pathPatterns = .error "x/[a.b]/[ab].vue".toList := by decide +kernel
  rcases pathPatterns_of_byName (.build built) with ⟨succeeds, fails, -⟩
  refine ⟨?_, (fails _).mp failed⟩
  rw [succeeds]
  decide +kernel

end FileRoutes
