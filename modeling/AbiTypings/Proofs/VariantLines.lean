import AbiTypings.Proofs.Delimiters
import AbiTypings.Proofs.Filled
import AbiTypings.Typings

/-!
# Lines of variants

The line of a variant has its members in order, each as its raw name between apostrophes and the
expression of its values. An expression has an apostrophe only where its token has one, so in the
line of a variant whose members have none, the apostrophes after the identifier enclose the tags and
nothing else. The members can thus be read back from the line, and variants of one name with the
same line have the same members.
-/

namespace AbiTypings

/-- The texts between apostrophes. Inside such a text `held` has its characters so far, the newest
first. -/
def tagsFrom (held : Option (List Char)) : List Char → List String
  | [] => []
  | c :: rest =>
    match held with
    | none => tagsFrom (if c = Text.apostrophe then some [] else none) rest
    | some chars =>
      if c = Text.apostrophe then String.ofList chars.reverse :: tagsFrom none rest
      else tagsFrom (some (c :: chars)) rest

namespace Options

/-- What the line of a variant starts with: all that stands before its members. -/
def variantOpening (options : Options) (name : Option String) : String :=
  (if options.layout.exported then "export " else "") ++ "type " ++ options.style.identifier name
    ++ " = "

/-- The tags in the line of a variant of the given name. -/
def readTags (options : Options) (name : Option String) (line : String) : List String :=
  tagsFrom none (line.toList.drop (options.variantOpening name).toList.length)

/-- A line is written for a variant, in some scope of the style, strict or not. -/
def WritesVariant (options : Options) (entry : Variant) (line : String) : Prop :=
  ∃ scope declaration, scope.style = options.style ∧
    (Variant.emit scope (some entry)).outcome = .ok declaration ∧
    options.layout.lines [declaration] = [line]

end Options

/-- No member of a variant has an apostrophe. -/
def Variant.HasPlainTags (entry : Variant) : Prop :=
  ∀ token, some token ∈ entry.memberList → Text.apostrophe ∉ token.toList

/-! ## Reading tags -/

/-- Outside of tags, characters without an apostrophe are skipped. -/
theorem tagsFrom_none_append {chars : List Char} (plain : Text.apostrophe ∉ chars)
    (rest : List Char) : tagsFrom none (chars ++ rest) = tagsFrom none rest := by
  induction chars with
  | nil => rfl
  | cons c later ih =>
    have different : c ≠ Text.apostrophe := fun same => plain (same ▸ List.mem_cons_self)
    have laterPlain : Text.apostrophe ∉ later := fun member => plain (List.mem_cons_of_mem _ member)
    rw [List.cons_append, tagsFrom, if_neg different]
    exact ih laterPlain

/-- Inside a tag, characters without an apostrophe belong to the tag, up to the next apostrophe. -/
theorem tagsFrom_some_append {chars : List Char} (plain : Text.apostrophe ∉ chars)
    (held rest : List Char) :
    tagsFrom (some held) (chars ++ Text.apostrophe :: rest) =
      String.ofList (held.reverse ++ chars) :: tagsFrom none rest := by
  induction chars generalizing held with
  | nil => simp [tagsFrom]
  | cons c later ih =>
    have different : c ≠ Text.apostrophe := fun same => plain (same ▸ List.mem_cons_self)
    have laterPlain : Text.apostrophe ∉ later := fun member => plain (List.mem_cons_of_mem _ member)
    rw [List.cons_append, tagsFrom, if_neg different, ih laterPlain]
    simp

/-- From the text of a member its tag is read. -/
theorem tagsFrom_memberText {member : TaggedMember} (tag : Text.apostrophe ∉ member.tag.toList)
    (expression : Text.apostrophe ∉ member.expression.toList) (rest : List Char) :
    tagsFrom none ((Declaration.memberText member).toList ++ rest) =
      member.tag :: tagsFrom none rest := by
  have split : (Declaration.memberText member).toList ++ rest =
      ['['] ++ (Text.apostrophe :: (member.tag.toList ++ Text.apostrophe ::
        ([',', ' '] ++ member.expression.toList ++ [']'] ++ rest))) := by
    simp [Declaration.memberText, Text.apostrophe]
  have after : Text.apostrophe ∉ [',', ' '] ++ member.expression.toList ++ [']'] := by
    simp [Text.apostrophe] at expression ⊢
    exact expression
  rw [split, tagsFrom_none_append (by decide), tagsFrom, if_pos rfl, tagsFrom_some_append tag,
    tagsFrom_none_append after]
  simp

/-- From the texts of members with bars between them the tags are read. -/
theorem tagsFrom_intercalate {members : List TaggedMember}
    (plain : ∀ member ∈ members, Text.apostrophe ∉ member.tag.toList ∧
      Text.apostrophe ∉ member.expression.toList) :
    tagsFrom none (" | ".toList.intercalate
      (members.map (String.toList ∘ Declaration.memberText))) =
        members.map TaggedMember.tag := by
  have between : Text.apostrophe ∉ " | ".toList := by decide
  induction members with
  | nil => rfl
  | cons member rest ih =>
    obtain ⟨tag, expression⟩ := plain member List.mem_cons_self
    have later := ih fun other inside => plain other (List.mem_cons_of_mem _ inside)
    cases rest with
    | nil =>
      have alone := tagsFrom_memberText tag expression []
      rw [List.append_nil] at alone
      rw [List.map_singleton, List.intercalate_singleton]
      exact alone
    | cons next others =>
      rw [List.map_cons, List.map_cons, List.intercalate_cons_cons, List.append_assoc]
      rw [Function.comp_apply, tagsFrom_memberText tag expression, tagsFrom_none_append between]
      exact congrArg (member.tag :: ·) later

/-- From the text of a union its tags are read. -/
theorem tagsFrom_unionText {members : List TaggedMember}
    (plain : ∀ member ∈ members, Text.apostrophe ∉ member.tag.toList ∧
      Text.apostrophe ∉ member.expression.toList) :
    tagsFrom none (Declaration.unionText members).toList = members.map TaggedMember.tag := by
  cases members with
  | nil => decide +kernel
  | cons member rest =>
    have written : (Declaration.unionText (member :: rest)).toList = " | ".toList.intercalate
        ((member :: rest).map (String.toList ∘ Declaration.memberText)) := by
      rw [Declaration.unionText, String.toList_intercalate, List.map_map]
      intro empty
      contradiction
    rw [written]
    exact tagsFrom_intercalate plain

/-! ## Emitted variants -/

/-- What is yielded was fixed before, and all that was demanded for it is references. -/
theorem Scope.yield_eq_ok {scope : Scope} {α : Type} {demands : List Demand} {value found : α}
    (emitted : (scope.yield demands value).outcome = .ok found) :
    found = value ∧ demands.all Demand.isReference = true := by
  rw [outcome_yield] at emitted
  cases refused : demands.findSome? scope.refusal? with
  | some fault =>
    rw [refused] at emitted
    contradiction
  | none =>
    rw [refused] at emitted
    refine ⟨(Except.ok.inj emitted).symm, List.all_eq_true.mpr fun demand member => ?_⟩
    have met := List.findSome?_eq_none_iff.mp refused demand member
    cases demand with
    | absent need => contradiction
    | refer element token => rfl

/-- The line of a variant is its opening and its union, and no member is null. -/
theorem Options.WritesVariant.eq_line {options : Options} {entry : Variant} {line : String}
    (written : options.WritesVariant entry line) :
    entry.memberList.reduceOption.map some = entry.memberList ∧
      line = options.variantOpening entry.name ++ Declaration.unionText
        (entry.memberList.reduceOption.map (taggedMember options.style)) := by
  obtain ⟨scope, declaration, styled, emitted, laidOut⟩ := written
  rw [Variant.emit_eq] at emitted
  obtain ⟨rfl, references⟩ := Scope.yield_eq_ok emitted
  rw [Variant.all_demands, Variant.isEmittable, Bool.and_eq_true] at references
  have whole : entry.memberList.all (Option.any fun _ => true) = true := by
    simpa using references.1
  refine ⟨map_some_reduceOption whole, ?_⟩
  rw [styled] at laidOut
  have same : options.layout.line ⟨.opening, _⟩ = line := List.singleton_inj.mp laidOut
  rw [← same]
  simp [Layout.line, Options.variantOpening, String.append_assoc]

/-- The tagged members of a variant have no apostrophe if its tokens have none. -/
theorem Variant.HasPlainTags.taggedMember {entry : Variant} (plain : entry.HasPlainTags)
    (style : NameStyle) :
    ∀ member ∈ entry.memberList.reduceOption.map (AbiTypings.taggedMember style),
      Text.apostrophe ∉ member.tag.toList ∧ Text.apostrophe ∉ member.expression.toList := by
  intro member inside
  obtain ⟨token, tokenMember, rfl⟩ := List.mem_map.mp inside
  have free := plain token (List.reduceOption_mem_iff.mp tokenMember)
  refine ⟨free, fun found => free ?_⟩
  exact mem_of_mem_tokenExpression (by decide) (by decide) found

/-- The members of a variant are the tags that are read from its line. -/
theorem Options.WritesVariant.readTags_eq {options : Options} {entry : Variant} {line : String}
    (plain : entry.HasPlainTags) (written : options.WritesVariant entry line) :
    entry.memberList = (options.readTags entry.name line).map some := by
  obtain ⟨whole, rfl⟩ := written.eq_line
  have tags : (entry.memberList.reduceOption.map (taggedMember options.style)).map
      TaggedMember.tag = entry.memberList.reduceOption := by
    rw [List.map_map]
    exact List.map_id _
  rw [readTags, String.toList_append, List.drop_left, tagsFrom_unionText (plain.taggedMember _),
    tags, whole]

/-- A union with members is not `never`. -/
theorem Declaration.unionText_eq_never_iff {members : List TaggedMember} :
    unionText members = "never" ↔ members = [] := by
  cases members with
  | nil => exact iff_of_true rfl rfl
  | cons member rest =>
    -- the text of the first member starts with a bracket
    have bracket : (unionText (member :: rest)).toList.head? = some '[' := by
      cases rest with
      | nil => simp [unionText, memberText]
      | cons next others => simp [unionText, memberText, String.toList_intercalate]
    refine iff_of_false (fun same => ?_) (List.cons_ne_nil _ _)
    rw [same] at bracket
    exact absurd bracket (by decide)

/-- The line of a variant determines its members: they are the tags that are read from the line, so
two variants of one name whose lines are the same, strict or not, have the same members. Without
members, and only then, the line has `never` in the place of tags. -/
theorem variant_line_determines_members (options : Options) {entry other : Variant} {line : String}
    (name : entry.name = other.name) (plain : entry.HasPlainTags)
    (otherPlain : other.HasPlainTags) (written : options.WritesVariant entry line)
    (otherWritten : options.WritesVariant other line) :
    entry.memberList = other.memberList ∧
      entry.memberList = (options.readTags entry.name line).map some ∧
      (line = options.variantOpening entry.name ++ "never" ↔ entry.memberList = []) := by
  have read := written.readTags_eq plain
  have otherRead := otherWritten.readTags_eq otherPlain
  refine ⟨?_, read, ?_⟩
  · rw [read, otherRead, name]
  · obtain ⟨whole, rfl⟩ := written.eq_line
    rw [String.append_right_inj, Declaration.unionText_eq_never_iff, List.map_eq_nil_iff, ← whole,
      List.map_eq_nil_iff, whole]

/-- A variant whose members have the marks that stand between and around members. -/
def markedMembers : Variant where
  name := some "any_of"
  members := some [some "a, b", some "x] | [y?", some "never"]

/-- The line of `markedMembers`. -/
def markedLine : String :=
  "type AnyOf = ['a, b', A, b] | ['x] | [y?', X] | [y | undefined] | ['never', Never]"

/-- The members of `markedMembers` are read back from its line. -/
theorem variant_line_determines_members_marked :
    markedMembers.HasPlainTags ∧ Options.WritesVariant {} markedMembers markedLine ∧
      markedMembers.memberList = (Options.readTags {} markedMembers.name markedLine).map some ∧
      markedLine ≠ Options.variantOpening {} markedMembers.name ++ "never" := by
  have plain : markedMembers.HasPlainTags := by
    have tokens : ∀ token ∈ markedMembers.memberList.reduceOption,
        Text.apostrophe ∉ token.toList := by decide +kernel
    exact fun token member => tokens token (List.reduceOption_mem_iff.mpr member)
  have written : Options.WritesVariant {} markedMembers markedLine :=
    ⟨⟨.pascal, none⟩, _, rfl, rfl, by decide +kernel⟩
  obtain ⟨-, read, never⟩ := variant_line_determines_members {} rfl plain plain written written
  exact ⟨plain, written, read, fun same => absurd (never.mp same) (by decide)⟩

end AbiTypings
