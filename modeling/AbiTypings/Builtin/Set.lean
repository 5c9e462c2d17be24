import AbiTypings.Builtin

/-!
# Sets of built-in types

A set of built-ins is a word with one bit for each position of the registry, so two sets with the
same members are equal and the order in which members were added leaves no trace. The members are
listed in the order of the registry.
-/

namespace AbiTypings

/-- A set of built-in types. -/
structure BuiltinSet where
  /-- The bit at a position tells whether the built-in there is a member. -/
  mask : BitVec 27
deriving DecidableEq, Repr

namespace BuiltinSet

/-- Whether a built-in is a member. -/
def contains (set : BuiltinSet) (builtin : Builtin) : Bool := set.mask.getLsbD builtin.index

/-- The set without members. -/
def empty : BuiltinSet := ⟨0#27⟩

instance : EmptyCollection BuiltinSet := ⟨empty⟩

/-- The set with one member. -/
def singleton (builtin : Builtin) : BuiltinSet := ⟨BitVec.twoPow 27 builtin.index⟩

/-- The members of two sets. -/
def union (left right : BuiltinSet) : BuiltinSet := ⟨left.mask ||| right.mask⟩

instance : Union BuiltinSet := ⟨union⟩

/-- The set with one more member. -/
def insert (set : BuiltinSet) (builtin : Builtin) : BuiltinSet := set ∪ singleton builtin

/-- The members in the order of the registry. -/
def toList (set : BuiltinSet) : List Builtin := Builtin.registry.filter set.contains

/-- The number of members. -/
def size (set : BuiltinSet) : Nat := set.toList.length

/-- The set of the built-ins in a list. -/
def ofList (builtins : List Builtin) : BuiltinSet := builtins.foldl insert ∅

/-- The empty set has no member. -/
@[simp] theorem contains_empty (builtin : Builtin) : contains ∅ builtin = false :=
  BitVec.getLsbD_zero

/-- The member of a singleton. -/
@[simp] theorem contains_singleton (member builtin : Builtin) :
    (singleton member).contains builtin = decide (member = builtin) := by
  have inside := member.index_lt
  by_cases same : member = builtin
  · subst same
    simp [contains, singleton, inside]
  · have apart : member.index ≠ builtin.index := fun equal => same (Builtin.index_injective equal)
    simp [contains, singleton, BitVec.getLsbD_twoPow, same, apart]

/-- A member of a union is a member of one of the sets. -/
@[simp] theorem contains_union (left right : BuiltinSet) (builtin : Builtin) :
    (left ∪ right).contains builtin = (left.contains builtin || right.contains builtin) :=
  BitVec.getLsbD_or

/-- Sets with the same members are equal. -/
theorem ext {left right : BuiltinSet}
    (same : ∀ builtin, left.contains builtin = right.contains builtin) : left = right := by
  obtain ⟨left⟩ := left
  obtain ⟨right⟩ := right
  congr 1
  apply BitVec.eq_of_getLsbD_eq
  intro position inside
  have all : ∀ position < 27, ∃ builtin ∈ Builtin.registry, builtin.index = position := by
    decide
  obtain ⟨builtin, _, rfl⟩ := all position inside
  exact same builtin

/-- The empty set adds nothing on the left. -/
@[simp] theorem empty_union (set : BuiltinSet) : ∅ ∪ set = set := ext fun _ => by simp

/-- The empty set adds nothing on the right. -/
@[simp] theorem union_empty (set : BuiltinSet) : set ∪ ∅ = set := ext fun _ => by simp

/-- The order of unions does not matter. -/
theorem union_assoc (first second third : BuiltinSet) :
    first ∪ second ∪ third = first ∪ (second ∪ third) :=
  ext fun _ => by simp [Bool.or_assoc]

/-- The list holds the members. -/
@[simp] theorem mem_toList {set : BuiltinSet} {builtin : Builtin} :
    builtin ∈ set.toList ↔ set.contains builtin = true := by
  simp [toList, Builtin.mem_registry]

/-- The list holds no member twice. -/
theorem toList_nodup (set : BuiltinSet) : set.toList.Nodup :=
  Builtin.registry_nodup.sublist List.filter_sublist

end BuiltinSet
end AbiTypings
