import AbiTypings.Decimal.Binary64

/-!
# JSON values

Numbers without fraction and exponent are integers of any size and the others are doubles. The
members of an object keep their order, and giving a name a second value replaces the first value
where it stands.
-/

namespace AbiTypings

/-- A JSON value. -/
inductive Json where
  /-- The null value. -/
  | null
  /-- A truth value. -/
  | bool (value : Bool)
  /-- A number without fraction and exponent. -/
  | integer (value : Int)
  /-- A number with a fraction or an exponent, or one that is not finite. -/
  | float (value : Binary64)
  /-- A text. -/
  | text (value : String)
  /-- A list of values. -/
  | array (items : List Json)
  /-- Values under names, in order. -/
  | object (members : List (String × Json))
deriving BEq, Repr, Inhabited

namespace Json

/-- The kind of a JSON value. -/
inductive Kind where
  /-- Null. -/
  | null
  /-- A truth value. -/
  | bool
  /-- An integer. -/
  | integer
  /-- A double. -/
  | float
  /-- A text. -/
  | text
  /-- A list. -/
  | array
  /-- An object. -/
  | object
deriving DecidableEq, Repr

/-- The word for a kind in messages. -/
def Kind.word : Kind → String
  | .null => "NoneType"
  | .bool => "bool"
  | .integer => "int"
  | .float => "float"
  | .text => "str"
  | .array => "list"
  | .object => "dict"

/-- The kind of a value. -/
def kind : Json → Kind
  | .null => .null
  | .bool _ => .bool
  | .integer _ => .integer
  | .float _ => .float
  | .text _ => .text
  | .array _ => .array
  | .object _ => .object

section Assign

variable {κ α : Type} [DecidableEq κ]

/-- The members with a value given to a name: in place of the value it had, else at the end. -/
def assign (name : κ) (value : α) : List (κ × α) → List (κ × α)
  | [] => [(name, value)]
  | (other, held) :: rest =>
    if other = name then (name, value) :: rest else (other, held) :: assign name value rest

/-- The members that result from giving values to names one after the other. -/
def assignAll (members : List (κ × α)) : List (κ × α) :=
  members.foldl (fun held (name, value) => assign name value held) []

/-- The first pair decides when it has the name. -/
theorem lookup_cons_if (asked name : κ) (value : α) (rest : List (κ × α)) :
    ((name, value) :: rest).lookup asked =
      if asked = name then some value else rest.lookup asked := by
  by_cases same : asked = name
  · simp [same]
  · simp [List.lookup_cons, beq_eq_false_iff_ne.mpr same, same]

/-- The value just given to a name is found under it, and other names keep theirs. -/
theorem lookup_assign (name : κ) (value : α) (members : List (κ × α)) (asked : κ) :
    (assign name value members).lookup asked =
      if asked = name then some value else members.lookup asked := by
  induction members with
  | nil => simp [assign, lookup_cons_if]
  | cons member rest ih =>
    obtain ⟨other, held⟩ := member
    unfold assign
    by_cases here : other = name
    · subst here
      by_cases same : asked = other <;> simp [lookup_cons_if, same]
    · by_cases there : asked = other
      · subst there
        simp [here]
      · simp [here, lookup_cons_if, there, ih]

/-- The names stay in the order of their first appearance. -/
theorem map_fst_assign (name : κ) (value : α) (members : List (κ × α)) :
    (assign name value members).map Prod.fst =
      if name ∈ members.map Prod.fst then members.map Prod.fst
      else members.map Prod.fst ++ [name] := by
  induction members with
  | nil => simp [assign]
  | cons member rest ih =>
    obtain ⟨other, held⟩ := member
    unfold assign
    by_cases here : other = name
    · simp [here]
    · by_cases later : name ∈ rest.map Prod.fst <;> simp_all [eq_comm]

end Assign

end Json
end AbiTypings
