import Mathlib.Data.List.Forall2

/-!
# Traversals that may fail

A list is traversed from its front, and the first failing step ends the traversal. It succeeds
when every step does, and it fails exactly when some step fails after steps that succeed.
-/

namespace AbiTypings

variable {ε α β : Type}

/-- Two steps succeed exactly when the second one does with the value of the first. -/
theorem bind_eq_ok_iff {first : Except ε α} {next : α → Except ε β} {last : β} :
    first >>= next = .ok last ↔ ∃ value, first = .ok value ∧ next value = .ok last := by
  cases first <;> simp [bind, Except.bind]

/-- Two steps fail exactly when the first one does, or else the second one. -/
theorem bind_eq_error_iff {first : Except ε α} {next : α → Except ε β} {fault : ε} :
    first >>= next = .error fault ↔
      first = .error fault ∨ ∃ value, first = .ok value ∧ next value = .error fault := by
  cases first <;> simp [bind, Except.bind]

/-- Reading succeeds exactly when each item yields the value at its place. -/
theorem mapM_eq_ok_iff {read : α → Except ε β} {items : List α} {values : List β} :
    items.mapM read = .ok values ↔
      List.Forall₂ (fun item value => read item = .ok value) items values := by
  induction items generalizing values with
  | nil =>
    rw [List.mapM_nil, List.forall₂_nil_left_iff]
    constructor
    · intro same
      exact (Except.ok.inj same).symm
    · rintro rfl
      rfl
  | cons item rest ih =>
    rw [List.mapM_cons, List.forall₂_cons_left_iff, bind_eq_ok_iff]
    constructor
    · rintro ⟨value, found, later⟩
      obtain ⟨others, othersFound, same⟩ := bind_eq_ok_iff.mp later
      exact ⟨value, others, found, ih.mp othersFound, (Except.ok.inj same).symm⟩
    · rintro ⟨value, others, found, othersFound, rfl⟩
      exact ⟨value, found, bind_eq_ok_iff.mpr ⟨others, ih.mpr othersFound, rfl⟩⟩

/-- Items that are read alike one by one are read alike together. -/
theorem mapM_eq_of_forall₂ {read : α → Except ε β} {items others : List α}
    (alike : List.Forall₂ (fun item other => read item = read other) items others) :
    items.mapM read = others.mapM read := by
  induction alike with
  | nil => rfl
  | cons head _ ih => rw [List.mapM_cons, List.mapM_cons, head, ih]

/-- Two outcomes are both values or both faults, and these are related. -/
inductive Related {ε δ α β : Type} (faults : ε → δ → Prop) (values : α → β → Prop) :
    Except ε α → Except δ β → Prop where
  | ok {value : α} {other : β} (related : values value other) :
    Related faults values (.ok value) (.ok other)
  | error {fault : ε} {other : δ} (related : faults fault other) :
    Related faults values (.error fault) (.error other)

/-- An outcome is related to itself if values and faults are. -/
theorem Related.refl {faults : ε → ε → Prop} (faultsRefl : ∀ fault, faults fault fault)
    (outcome : Except ε α) : Related faults Eq outcome outcome := by
  cases outcome with
  | ok value => exact .ok rfl
  | error fault => exact .error (faultsRefl fault)

/-- Changes that keep values related keep outcomes related. -/
theorem Related.map {δ γ ζ : Type} {faults : ε → δ → Prop} {values : α → γ → Prop}
    {changed : β → ζ → Prop} {outcome : Except ε α} {other : Except δ γ} {change : α → β}
    {otherChange : γ → ζ} (related : Related faults values outcome other)
    (kept : ∀ value otherValue, values value otherValue →
      changed (change value) (otherChange otherValue)) :
    Related faults changed (outcome.map change) (other.map otherChange) := by
  cases related with
  | ok same => exact .ok (kept _ _ same)
  | error fault => exact .error fault

/-- Related steps after related values have related outcomes, and related faults stay as they
are. -/
theorem Related.bind {δ γ ζ : Type} {faults : ε → δ → Prop} {values : α → γ → Prop}
    {later : β → ζ → Prop} {first : Except ε α} {other : Except δ γ} {next : α → Except ε β}
    {otherNext : γ → Except δ ζ} (related : Related faults values first other)
    (continued : ∀ value otherValue, values value otherValue →
      Related faults later (next value) (otherNext otherValue)) :
    Related faults later (first >>= next) (other >>= otherNext) := by
  cases related with
  | ok same => exact continued _ _ same
  | error fault => exact .error fault

/-- A machine that takes related items in the same way ends in the same state, or with related
faults. -/
theorem Related.foldlM {faults : ε → ε → Prop} {pairs : α → α → Prop} {step : β → α → Except ε β}
    {items others : List α}
    (stepped : ∀ state item other, pairs item other →
      Related faults Eq (step state item) (step state other))
    (paired : List.Forall₂ pairs items others) (start : β) :
    Related faults Eq (items.foldlM step start) (others.foldlM step start) := by
  induction paired generalizing start with
  | nil => exact .ok rfl
  | cons head _ ih =>
    rw [List.foldlM_cons, List.foldlM_cons]
    refine (stepped start _ _ head).bind fun state other same => ?_
    rw [same]
    exact ih other

/-- Each value of a paired list has an item that it is paired with. -/
theorem exists_of_mem_right {pairs : α → β → Prop} {items : List α} {values : List β}
    (paired : List.Forall₂ pairs items values) {value : β} (member : value ∈ values) :
    ∃ item ∈ items, pairs item value := by
  induction paired with
  | nil => exact absurd member List.not_mem_nil
  | cons head tail ih =>
    rcases List.mem_cons.mp member with rfl | member
    · exact ⟨_, List.mem_cons_self, head⟩
    · obtain ⟨item, itemMember, pair⟩ := ih member
      exact ⟨item, List.mem_cons_of_mem _ itemMember, pair⟩

/-- Each item of a paired list has a value that it is paired with. -/
theorem exists_of_mem_left {pairs : α → β → Prop} {items : List α} {values : List β}
    (paired : List.Forall₂ pairs items values) {item : α} (member : item ∈ items) :
    ∃ value ∈ values, pairs item value :=
  exists_of_mem_right paired.flip member

/-- A check of all items succeeds exactly when the check of each one does. -/
theorem forM_eq_ok_iff {check : α → Except ε Unit} {items : List α} :
    items.forM check = .ok () ↔ ∀ item ∈ items, check item = .ok () := by
  induction items with
  | nil => exact ⟨fun _ _ member => absurd member List.not_mem_nil, fun _ => rfl⟩
  | cons item rest ih =>
    rw [List.forall_mem_cons, ← ih]
    change (check item >>= fun _ => rest.forM check) = .ok () ↔ _
    rw [bind_eq_ok_iff]
    exact ⟨fun ⟨_, head, tail⟩ => ⟨head, tail⟩, fun ⟨head, tail⟩ => ⟨(), head, tail⟩⟩

/-- A check of all items fails exactly when the check of one fails after those that succeed. -/
theorem forM_eq_error_iff {check : α → Except ε Unit} {items : List α} {fault : ε} :
    items.forM check = .error fault ↔
      ∃ before item after, items = before ++ item :: after ∧
        (∀ other ∈ before, check other = .ok ()) ∧ check item = .error fault := by
  induction items with
  | nil => simp [List.forM, pure, Except.pure]
  | cons first rest ih =>
    change (check first >>= fun _ => rest.forM check) = .error fault ↔ _
    rw [bind_eq_error_iff, ih]
    constructor
    · rintro (failed | ⟨_, passed, before, item, after, rfl, others, failed⟩)
      · exact ⟨[], first, rest, rfl, fun _ member => absurd member List.not_mem_nil, failed⟩
      · exact ⟨first :: before, item, after, rfl, List.forall_mem_cons.mpr ⟨passed, others⟩, failed⟩
    · rintro ⟨before, item, after, split, others, failed⟩
      cases before with
      | nil =>
        obtain ⟨rfl, rfl⟩ := List.cons.inj split
        exact .inl failed
      | cons head before =>
        obtain ⟨rfl, rfl⟩ := List.cons.inj split
        obtain ⟨passed, others⟩ := List.forall_mem_cons.mp others
        exact .inr ⟨(), passed, before, item, after, rfl, others, failed⟩

/-- A machine fails exactly when a step fails in the state that the steps before it reach. -/
theorem foldlM_eq_error_iff {step : β → α → Except ε β} {start : β} {items : List α} {fault : ε} :
    items.foldlM step start = .error fault ↔
      ∃ before item after state, items = before ++ item :: after ∧
        before.foldlM step start = .ok state ∧ step state item = .error fault := by
  induction items generalizing start with
  | nil => simp [pure, Except.pure]
  | cons first rest ih =>
    rw [List.foldlM_cons, bind_eq_error_iff]
    constructor
    · rintro (failed | ⟨next, passed, later⟩)
      · exact ⟨[], first, rest, start, rfl, rfl, failed⟩
      · obtain ⟨before, item, after, state, rfl, reached, failed⟩ := ih.mp later
        refine ⟨first :: before, item, after, state, rfl, ?_, failed⟩
        rw [List.foldlM_cons, bind_eq_ok_iff]
        exact ⟨next, passed, reached⟩
    · rintro ⟨before, item, after, state, split, reached, failed⟩
      cases before with
      | nil =>
        obtain ⟨rfl, rfl⟩ := List.cons.inj split
        obtain rfl : start = state := Except.ok.inj reached
        exact .inl failed
      | cons head before =>
        obtain ⟨rfl, rfl⟩ := List.cons.inj split
        rw [List.foldlM_cons, bind_eq_ok_iff] at reached
        obtain ⟨next, passed, reached⟩ := reached
        exact .inr ⟨next, passed, ih.mpr ⟨before, item, after, state, rfl, reached, failed⟩⟩

end AbiTypings
