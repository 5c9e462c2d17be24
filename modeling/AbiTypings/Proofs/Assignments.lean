import AbiTypings.Json.Basic
import Mathlib.Data.List.Induction
import Mathlib.Data.List.Perm.Subperm

/-!
# Values given to names

Giving values to names one after the other leaves one member for each name, in the order in which
the names first occur, and under each name the value that was given last. So there is a member for
each value that was given only if all names are different, and then nothing has changed.
-/

namespace AbiTypings.Json

variable {κ α : Type} [DecidableEq κ]

/-- The value given last is assigned to what the others result in. -/
theorem assignAll_append_singleton (members : List (κ × α)) (name : κ) (value : α) :
    assignAll (members ++ [(name, value)]) = assign name value (assignAll members) := by
  simp [assignAll]

/-- The names of the members are the given names in the order of their first occurrences. -/
theorem map_fst_assignAll (members : List (κ × α)) :
    (assignAll members).map Prod.fst = (members.map Prod.fst).eraseDups := by
  induction members using List.reverseRecOn with
  | nil => rfl
  | append_singleton members member ih =>
    obtain ⟨name, value⟩ := member
    rw [assignAll_append_singleton, map_fst_assign, ih, List.map_append, List.map_singleton,
      List.eraseDups_append]
    by_cases given : name ∈ members.map Prod.fst <;>
      simp [List.removeAll, List.eraseDups_cons, given]

/-- Under a name stands the value that was given to it last. -/
theorem lookup_assignAll (members : List (κ × α)) (asked : κ) :
    (assignAll members).lookup asked =
      ((members.filter (·.1 = asked)).getLast?).map Prod.snd := by
  -- from the end, since the value given last is the one that counts
  induction members using List.reverseRecOn with
  | nil => rfl
  | append_singleton members member ih =>
    obtain ⟨name, value⟩ := member
    rw [assignAll_append_singleton, lookup_assign, ih, List.filter_append]
    by_cases same : name = asked
    · subst same
      simp
    · simp [same, Ne.symm same]

/-- No two members have one name. -/
theorem nodup_map_fst_assignAll (members : List (κ × α)) :
    ((assignAll members).map Prod.fst).Nodup := by
  induction members using List.reverseRecOn with
  | nil => exact List.nodup_nil
  | append_singleton members member ih =>
    obtain ⟨name, value⟩ := member
    rw [assignAll_append_singleton, map_fst_assign]
    split
    · exact ih
    · rename_i fresh
      exact (List.perm_append_singleton name _).nodup_iff.mpr (List.nodup_cons.mpr ⟨fresh, ih⟩)

/-- What is assigned was given, or stood there before. -/
theorem mem_assign {name : κ} {value : α} {members : List (κ × α)} {member : κ × α}
    (inside : member ∈ assign name value members) : member = (name, value) ∨ member ∈ members := by
  induction members with
  | nil => exact .inl (List.mem_singleton.mp inside)
  | cons first rest ih =>
    obtain ⟨other, held⟩ := first
    unfold assign at inside
    split at inside
    · rcases List.mem_cons.mp inside with given | later
      · exact .inl given
      · exact .inr (List.mem_cons_of_mem _ later)
    · rcases List.mem_cons.mp inside with rfl | later
      · exact .inr List.mem_cons_self
      · exact (ih later).imp_right (List.mem_cons_of_mem _)

/-- Every member was given. -/
theorem mem_of_mem_assignAll {members : List (κ × α)} {member : κ × α}
    (inside : member ∈ assignAll members) : member ∈ members := by
  induction members using List.reverseRecOn with
  | nil => exact inside
  | append_singleton members last ih =>
    obtain ⟨name, value⟩ := last
    rw [assignAll_append_singleton] at inside
    rcases mem_assign inside with rfl | before
    · exact List.mem_append_right _ (List.mem_singleton_self _)
    · exact List.mem_append_left _ (ih before)

/-- A value given to a new name stands at the end. -/
theorem assign_of_notMem {name : κ} {members : List (κ × α)}
    (fresh : name ∉ members.map Prod.fst) (value : α) :
    assign name value members = members ++ [(name, value)] := by
  induction members with
  | nil => rfl
  | cons member rest ih =>
    obtain ⟨other, held⟩ := member
    rw [List.map_cons, List.mem_cons, not_or] at fresh
    rw [assign, if_neg (Ne.symm fresh.1), ih fresh.2, List.cons_append]

/-- Values given to different names are all kept. -/
theorem assignAll_of_nodup {members : List (κ × α)} (distinct : (members.map Prod.fst).Nodup) :
    assignAll members = members := by
  induction members using List.reverseRecOn with
  | nil => rfl
  | append_singleton members member ih =>
    obtain ⟨name, value⟩ := member
    rw [List.map_append, List.map_singleton, (List.perm_append_singleton name _).nodup_iff,
      List.nodup_cons] at distinct
    obtain ⟨fresh, before⟩ := distinct
    rw [assignAll_append_singleton, ih before, assign_of_notMem fresh]

/-- There is a member for each value that was given exactly if all names are different. -/
theorem length_assignAll_eq_iff {members : List (κ × α)} :
    (assignAll members).length = members.length ↔ (members.map Prod.fst).Nodup := by
  constructor
  · intro whole
    have distinct := nodup_map_fst_assignAll members
    have within : (assignAll members).map Prod.fst ⊆ members.map Prod.fst := by
      intro name member
      rw [map_fst_assignAll] at member
      exact List.mem_eraseDups.mp member
    have enough : (members.map Prod.fst).length ≤ ((assignAll members).map Prod.fst).length := by
      rw [List.length_map, List.length_map]
      omega
    have same := (List.subperm_of_subset distinct within).perm_of_length_le enough
    exact same.nodup_iff.mp distinct
  · intro distinct
    rw [assignAll_of_nodup distinct]

/-- Of values given to names, the last one of each name is kept. -/
structure KeepsLast (kept given : List (κ × α)) : Prop where
  /-- Each name is kept once, in the place of its first occurrence. -/
  names : kept.map Prod.fst = (given.map Prod.fst).eraseDups
  /-- The value under a name is the last one that was given to it. -/
  last : ∀ name, kept.lookup name = ((given.filter (·.1 = name)).getLast?).map Prod.snd
  /-- As many values are kept as were given exactly if no name was given two of them. -/
  length : kept.length = given.length ↔ (given.map Prod.fst).Nodup

/-- Giving values to names one after the other keeps the last one of each name. -/
theorem keepsLast_assignAll (members : List (κ × α)) : KeepsLast (assignAll members) members where
  names := map_fst_assignAll members
  last := lookup_assignAll members
  length := length_assignAll_eq_iff

/-- Names and values may be replaced before or after the values are given to the names, if different
names are replaced by different ones. -/
theorem assignAll_map {ι β : Type} [DecidableEq ι] {rename : κ → ι}
    (injective : Function.Injective rename) (change : α → β) (members : List (κ × α)) :
    assignAll (members.map (Prod.map rename change)) =
      (assignAll members).map (Prod.map rename change) := by
  have once (name : κ) (value : α) (held : List (κ × α)) :
      assign (rename name) (change value) (held.map (Prod.map rename change)) =
        (assign name value held).map (Prod.map rename change) := by
    induction held with
    | nil => rfl
    | cons member rest ih =>
      obtain ⟨other, value⟩ := member
      by_cases same : other = name
      · simp [assign, same]
      · simp [assign, same, injective.ne same, ih]
  induction members using List.reverseRecOn with
  | nil => rfl
  | append_singleton members member ih =>
    obtain ⟨name, value⟩ := member
    rw [List.map_append, List.map_singleton, Prod.map_apply, assignAll_append_singleton, ih, once,
      assignAll_append_singleton]

end AbiTypings.Json
