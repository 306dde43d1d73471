import Mathlib.Data.List.Forall2

/-!
# Mapping a list

A list is mapped item by item, so its items and the results are related one by one.  When an item
may be at fault, either all results are there or the first fault is.
-/

namespace FileRoutes

theorem exists_of_forall₂ {α β : Type} {related : α → β → Prop} {items : List α} {results : List β}
    (each : List.Forall₂ related items results) {result : β} (listed : result ∈ results) :
    ∃ item ∈ items, related item result := by
  induction each with
  | nil => cases listed
  | @cons item first items results here _ inductionHypothesis =>
      rcases List.mem_cons.mp listed with rfl | later
      · exact ⟨item, List.mem_cons_self, here⟩
      · rcases inductionHypothesis later with ⟨other, isItem, there⟩
        exact ⟨other, List.mem_cons_of_mem _ isItem, there⟩

/-- Items that each give something, something related to them, are related to what they give. -/
theorem forall₂_filterMap {α β : Type} {related : α → β → Prop} {give : α → Option β}
    {items : List α} (each : ∀ item ∈ items, ∃ given, give item = some given ∧ related item given) :
    List.Forall₂ related items (items.filterMap give) := by
  induction items with
  | nil => exact .nil
  | cons item later inductionHypothesis =>
      rcases List.forall_mem_cons.mp each with ⟨⟨given, isGiven, isRelated⟩, others⟩
      rw [List.filterMap_cons_some isGiven]
      exact .cons isRelated (inductionHypothesis others)

/-- Two lists are mapped to the same results by two functions alike, if their items are. -/
theorem map_eq_map_iff {α β γ : Type} {f : α → β} {g : α → γ} {items others : List α}
    (same : ∀ item ∈ items, ∀ other ∈ others, f item = f other ↔ g item = g other) :
    items.map f = others.map f ↔ items.map g = others.map g := by
  induction items generalizing others with
  | nil => cases others <;> exact iff_of_eq (by simp)
  | cons item later inductionHypothesis =>
      cases others with
      | nil => exact iff_of_false nofun nofun
      | cons other rest =>
          have onward := inductionHypothesis fun item listed other isOther =>
            same item (List.mem_cons_of_mem _ listed) other (List.mem_cons_of_mem _ isOther)
          have here := same item List.mem_cons_self other List.mem_cons_self
          rw [List.map_cons, List.map_cons, List.map_cons, List.map_cons, List.cons.injEq,
            List.cons.injEq, here, onward]

/-- A list is mapped without a fault if every item is. -/
theorem mapM_eq_ok_iff {α β ε : Type} {f : α → Except ε β} {items : List α} {results : List β} :
    items.mapM f = .ok results ↔
      List.Forall₂ (fun item result => f item = .ok result) items results := by
  induction items generalizing results with
  | nil =>
      rw [List.mapM_nil, List.forall₂_nil_left_iff]
      constructor
      · intro same
        exact (Except.ok.inj same).symm
      · rintro rfl
        rfl
  | cons item later inductionHypothesis =>
      rw [List.mapM_cons, List.forall₂_cons_left_iff]
      constructor
      · intro same
        cases first : f item with
        | error fault =>
            rw [first] at same
            cases same
        | ok result =>
            cases others : later.mapM f with
            | error fault =>
                rw [first, others] at same
                cases same
            | ok rest =>
                rw [first, others] at same
                exact ⟨result, rest, rfl, inductionHypothesis.mp others, (Except.ok.inj same).symm⟩
      · rintro ⟨result, rest, first, others, rfl⟩
        rw [first, inductionHypothesis.mpr others]
        rfl

theorem mapM_eq_error_of_append {α β ε : Type} {f : α → Except ε β} {before after : List α}
    {item : α} {fault : ε} (passed : ∀ earlier ∈ before, ∃ result, f earlier = .ok result)
    (stops : f item = .error fault) : (before ++ item :: after).mapM f = .error fault := by
  induction before with
  | nil =>
      rw [List.nil_append, List.mapM_cons, stops]
      rfl
  | cons first before inductionHypothesis =>
      rcases List.forall_mem_cons.mp passed with ⟨⟨result, here⟩, others⟩
      rw [List.cons_append, List.mapM_cons, here, inductionHypothesis others]
      rfl

/-- Mapping a list has the fault of the first item that has one. -/
theorem mapM_eq_error_iff {α β ε : Type} {f : α → Except ε β} {items : List α} {fault : ε} :
    items.mapM f = .error fault ↔ ∃ before item after, items = before ++ item :: after ∧
      (∀ earlier ∈ before, ∃ result, f earlier = .ok result) ∧ f item = .error fault := by
  constructor
  · intro failed
    induction items with
    | nil => cases failed
    | cons first later inductionHypothesis =>
        rw [List.mapM_cons] at failed
        cases here : f first with
        | error other =>
            rw [here] at failed
            cases failed
            exact ⟨[], first, later, rfl, nofun, here⟩
        | ok result =>
            cases onward : later.mapM f with
            | ok results =>
                rw [here, onward] at failed
                cases failed
            | error other =>
                rw [here, onward] at failed
                cases failed
                rcases inductionHypothesis onward with ⟨before, item, after, rfl, passed, stops⟩
                exact ⟨first :: before, item, after, rfl,
                  List.forall_mem_cons.mpr ⟨⟨result, here⟩, passed⟩, stops⟩
  · rintro ⟨before, item, after, rfl, passed, stops⟩
    exact mapM_eq_error_of_append passed stops

/-- Faults may be renamed before or after a list is mapped. -/
theorem mapM_mapError {α β ε δ : Type} (f : α → Except ε β) (rename : ε → δ) (items : List α) :
    items.mapM (fun item => (f item).mapError rename) = (items.mapM f).mapError rename := by
  induction items with
  | nil => rfl
  | cons item later inductionHypothesis =>
      rw [List.mapM_cons, List.mapM_cons, inductionHypothesis]
      cases f item with
      | error fault => rfl
      | ok result => cases later.mapM f <;> rfl

/-! ## Faults in order -/

/-- A result, unless there are faults, and then the first of them. -/
def unlessFaulty {ε α : Type} (faults : List ε) (result : α) : Except ε α :=
  match faults.head? with
  | some fault => .error fault
  | none => .ok result

theorem unlessFaulty_eq_error_iff {ε α : Type} {faults : List ε} {result : α} {fault : ε} :
    unlessFaulty faults result = .error fault ↔ faults.head? = some fault := by
  unfold unlessFaulty
  cases faults <;> simp

theorem unlessFaulty_eq_ok_iff {ε α : Type} {faults : List ε} {result given : α} :
    unlessFaulty faults result = .ok given ↔ faults = [] ∧ given = result := by
  unfold unlessFaulty
  cases faults <;> simp [eq_comm]

/-- If what each item gives depends on its faults, then what they all give depends on the faults of
all of them in a row. -/
theorem mapM_eq_unlessFaulty {α β ε : Type} {f : α → Except ε β} {faults : α → List ε} {g : α → β}
    (each : ∀ item, f item = unlessFaulty (faults item) (g item)) (items : List α) :
    items.mapM f = unlessFaulty (items.flatMap faults) (items.map g) := by
  induction items with
  | nil => rfl
  | cons item later inductionHypothesis =>
      rw [List.mapM_cons, each, inductionHypothesis, List.flatMap_cons, List.map_cons]
      cases faults item with
      | cons fault others => rfl
      | nil =>
          rw [List.nil_append]
          cases later.flatMap faults <;> rfl

end FileRoutes
