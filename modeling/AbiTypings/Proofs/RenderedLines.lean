import AbiTypings.Proofs.Closure
import AbiTypings.Proofs.Delimiters
import AbiTypings.Proofs.ValidOutcome

/-!
# Lines of a rendered text

A text without a line feed is unbroken. No line of typings has a line feed that is not in a text of
the ABI or in a text of the layout: the styles make none, and what is written around names, between
members and in the banner has none. Where all these texts are unbroken, the line feeds of a rendered
text are the ends of its lines, so the lines are read back by splitting it.
-/

namespace AbiTypings

/-- No line feed is in a text. -/
def IsUnbroken (text : String) : Prop := '\n' ∉ text.toList

instance : DecidablePred IsUnbroken := fun text =>
  inferInstanceAs (Decidable ('\n' ∉ text.toList))

/-! ## Texts of an ABI and of a layout -/

/-- The texts of an alias: its name and its target. -/
def TypeAlias.texts (entry : TypeAlias) : List String := entry.name.toList ++ entry.target.toList

/-- The texts of a variant: its name and its members. -/
def Variant.texts (entry : Variant) : List String :=
  entry.name.toList ++ entry.memberList.reduceOption

/-- The texts of a field: its name and its type. -/
def Field.texts (entry : Field) : List String := entry.name.toList ++ entry.type.toList

/-- The texts of a struct: its name, its base and those of its fields. -/
def Struct.texts (entry : Struct) : List String :=
  entry.name.toList ++ entry.base.toList ++ entry.fieldList.reduceOption.flatMap Field.texts

/-- The texts of an ABI: its version and those of its entries. -/
def Abi.texts (abi : Abi) : List String :=
  abi.version.toList ++ abi.aliasList.reduceOption.flatMap TypeAlias.texts
    ++ abi.variantList.reduceOption.flatMap Variant.texts
    ++ abi.structList.reduceOption.flatMap Struct.texts

/-- The texts of a layout: what lines are indented with and the namespace. -/
def Layout.texts (layout : Layout) : List String := layout.indent :: layout.enclosing.toList

/-! ## Parts of lines -/

/-- Two texts are unbroken together. -/
@[simp] theorem isUnbroken_append {left right : String} :
    IsUnbroken (left ++ right) ↔ IsUnbroken left ∧ IsUnbroken right := by
  simp [IsUnbroken]

/-- A text that may be null is shown without a line feed if it has none. -/
theorem isUnbroken_shown {text : Option String} (each : ∀ found ∈ text.toList, IsUnbroken found) :
    IsUnbroken (shown text) := by
  cases text with
  | none => decide
  | some found => exact each found (List.mem_singleton_self found)

/-- Unbroken texts with unbroken texts between them are unbroken. -/
theorem isUnbroken_intercalate {separator : String} (between : IsUnbroken separator)
    {texts : List String} (each : ∀ text ∈ texts, IsUnbroken text) :
    IsUnbroken (separator.intercalate texts) := by
  induction texts with
  | nil => exact List.not_mem_nil
  | cons text rest ih =>
    have first := each text List.mem_cons_self
    have later := ih fun other member => each other (List.mem_cons_of_mem _ member)
    cases rest with
    | nil => simpa using first
    | cons next others =>
      rw [String.intercalate_cons_cons, isUnbroken_append, isUnbroken_append]
      exact ⟨⟨first, between⟩, later⟩

section Styles

variable {style : NameStyle}

/-- The identifier for an unbroken name is unbroken. -/
theorem isUnbroken_format {name : String} (unbroken : IsUnbroken name) :
    IsUnbroken (style.format name) :=
  fun found => unbroken (mem_of_mem_format (by decide) found)

/-- The expression for an unbroken token is unbroken. -/
theorem isUnbroken_tokenExpression {token : String} (unbroken : IsUnbroken token) :
    IsUnbroken (tokenExpression style token) :=
  fun found => unbroken (mem_of_mem_tokenExpression (by decide) (by decide) found)

/-- The expression for an unbroken token is unbroken without its optional mark too. -/
theorem isUnbroken_nameExpression {token : String} (unbroken : IsUnbroken token) :
    IsUnbroken (nameExpression style (splitOptional token).1) :=
  fun found => unbroken (mem_of_mem_splitOptional (mem_of_mem_nameExpression (by decide) found))

/-- The identifier for a name that may be null is unbroken. -/
theorem isUnbroken_identifier {name : Option String}
    (each : ∀ found ∈ name.toList, IsUnbroken found) : IsUnbroken (style.identifier name) := by
  refine isUnbroken_shown fun identifier member => ?_
  obtain ⟨found, rfl, rfl⟩ := Option.map_eq_some_iff.mp (Option.mem_toList.mp member)
  exact isUnbroken_format (each found (List.mem_singleton_self found))

end Styles

/-! ## Declarations -/

/-- No line of a declaration has a line feed. -/
def Declaration.IsUnbroken (declaration : Declaration) : Prop :=
  ∀ line ∈ declaration.lines, AbiTypings.IsUnbroken line.text

section Declarations

variable {style : NameStyle}

/-- An alias of unbroken texts is written without line feeds. -/
theorem TypeAlias.isUnbroken_declaration {entry : TypeAlias}
    (each : ∀ text ∈ entry.texts, IsUnbroken text) : (entry.declaration style).IsUnbroken := by
  rw [texts, List.forall_mem_append] at each
  obtain ⟨name, target⟩ := each
  have expression : IsUnbroken (shown (entry.target.map (tokenExpression style))) := by
    refine isUnbroken_shown fun expression member => ?_
    obtain ⟨token, found, rfl⟩ := Option.map_eq_some_iff.mp (Option.mem_toList.mp member)
    exact isUnbroken_tokenExpression (target token (Option.mem_toList.mpr found))
  intro line member
  obtain rfl := List.mem_singleton.mp member
  simp only [isUnbroken_append]
  exact ⟨⟨⟨by decide, isUnbroken_identifier name⟩, by decide⟩, expression⟩

/-- A variant of unbroken texts is written without line feeds. -/
theorem Variant.isUnbroken_declaration {entry : Variant}
    (each : ∀ text ∈ entry.texts, IsUnbroken text) : (entry.declaration style).IsUnbroken := by
  rw [texts, List.forall_mem_append] at each
  obtain ⟨name, tokens⟩ := each
  have members : ∀ text ∈ (entry.memberList.reduceOption.map (taggedMember style)).map
      Declaration.memberText, IsUnbroken text := by
    intro text member
    obtain ⟨tagged, taggedMember, rfl⟩ := List.mem_map.mp member
    obtain ⟨token, tokenMember, rfl⟩ := List.mem_map.mp taggedMember
    have unbroken := tokens token tokenMember
    simp only [Declaration.memberText, isUnbroken_append]
    exact ⟨⟨⟨⟨by decide, unbroken⟩, by decide⟩, isUnbroken_tokenExpression unbroken⟩, by decide⟩
  have union : IsUnbroken (Declaration.unionText
      (entry.memberList.reduceOption.map (taggedMember style))) := by
    unfold Declaration.unionText
    split
    · decide
    · exact isUnbroken_intercalate (by decide) members
  intro line member
  obtain rfl := List.mem_singleton.mp member
  simp only [isUnbroken_append]
  exact ⟨⟨⟨by decide, isUnbroken_identifier name⟩, by decide⟩, union⟩

/-- A field of unbroken texts is written without line feeds. -/
theorem Field.isUnbroken_declaration {entry : Field}
    (each : ∀ text ∈ entry.texts, IsUnbroken text) :
    IsUnbroken (Declaration.fieldText (entry.declaration style)) := by
  rw [texts, List.forall_mem_append] at each
  obtain ⟨name, type⟩ := each
  have mark : IsUnbroken (if (entry.declaration style).optional then "?" else "") := by
    split <;> decide
  have expression : IsUnbroken (entry.declaration style).expression := by
    refine isUnbroken_shown fun expression member => ?_
    obtain ⟨token, found, rfl⟩ := Option.map_eq_some_iff.mp (Option.mem_toList.mp member)
    exact isUnbroken_nameExpression (type token (Option.mem_toList.mpr found))
  simp only [Declaration.fieldText, isUnbroken_append]
  exact ⟨⟨⟨isUnbroken_shown name, mark⟩, by decide⟩, expression⟩

/-- A struct of unbroken texts is written without line feeds. -/
theorem Struct.isUnbroken_declaration {entry : Struct}
    (each : ∀ text ∈ entry.texts, IsUnbroken text) : (entry.declaration style).IsUnbroken := by
  rw [texts, List.forall_mem_append, List.forall_mem_append] at each
  obtain ⟨⟨name, base⟩, fields⟩ := each
  have extension : IsUnbroken (Declaration.extendsText (entry.base?.map style.format)) := by
    cases found : entry.base? with
    | none => exact List.not_mem_nil
    | some text =>
      have held : entry.base = some text := Option.eq_some_of_filter_eq_some found
      have unbroken := base text (Option.mem_toList.mpr held)
      simp only [Option.map_some, Declaration.extendsText, isUnbroken_append]
      exact ⟨by decide, isUnbroken_format unbroken⟩
  intro line member
  -- the lines are the one that opens the struct, one for each field, and the one that closes it
  rcases List.mem_cons.mp member with rfl | member
  · simp only [isUnbroken_append]
    exact ⟨⟨⟨by decide, isUnbroken_identifier name⟩, extension⟩, by decide⟩
  rcases List.mem_append.mp member with inFields | closing
  · rw [List.mem_map] at inFields
    obtain ⟨_, declared, rfl⟩ := inFields
    obtain ⟨field, fieldMember, rfl⟩ := List.mem_map.mp declared
    exact Field.isUnbroken_declaration fun text inField =>
      fields text (List.mem_flatMap.mpr ⟨field, fieldMember, inField⟩)
  · obtain rfl := List.mem_singleton.mp closing
    decide

/-- The alias of a built-in is written without line feeds. -/
theorem Builtin.isUnbroken_declaration (builtin : Builtin) :
    (Builtin.declaration style builtin).IsUnbroken := by
  have spelling : ∀ known ∈ registry, AbiTypings.IsUnbroken known.spelling ∧
      AbiTypings.IsUnbroken known.target := by decide +kernel
  obtain ⟨name, target⟩ := spelling builtin builtin.mem_registry
  intro line member
  obtain rfl := List.mem_singleton.mp member
  simp only [isUnbroken_append]
  exact ⟨⟨⟨by decide, isUnbroken_format name⟩, by decide⟩, target⟩

/-- All declarations of an ABI with unbroken texts are written without line feeds. -/
theorem Abi.isUnbroken_declared {abi : Abi} (each : ∀ text ∈ abi.texts, IsUnbroken text) :
    ∀ declaration ∈ (abi.resolvedTypings style).declared, declaration.IsUnbroken := by
  rw [texts, List.forall_mem_append, List.forall_mem_append, List.forall_mem_append] at each
  obtain ⟨⟨⟨-, aliases⟩, variants⟩, structs⟩ := each
  intro declaration member
  rcases List.mem_append.mp member with aliased | declared
  · obtain ⟨builtin, -, rfl⟩ := List.mem_map.mp aliased
    exact builtin.isUnbroken_declaration
  rcases List.mem_append.mp declared with declared | inStructs
  · rcases List.mem_append.mp declared with inAliases | inVariants
    · obtain ⟨entry, entryMember, rfl⟩ := List.mem_map.mp inAliases
      exact TypeAlias.isUnbroken_declaration fun text inEntry =>
        aliases text (List.mem_flatMap.mpr ⟨entry, entryMember, inEntry⟩)
    · obtain ⟨entry, entryMember, rfl⟩ := List.mem_map.mp inVariants
      exact Variant.isUnbroken_declaration fun text inEntry =>
        variants text (List.mem_flatMap.mpr ⟨entry, entryMember, inEntry⟩)
  · obtain ⟨entry, entryMember, rfl⟩ := List.mem_map.mp inStructs
    exact Struct.isUnbroken_declaration fun text inEntry =>
      structs text (List.mem_flatMap.mpr ⟨entry, entryMember, inEntry⟩)

end Declarations

/-! ## Lines -/

namespace Layout

variable {layout : Layout}

/-- A layout with unbroken texts lays unbroken declarations out in unbroken lines. -/
theorem isUnbroken_lines (each : ∀ text ∈ layout.texts, IsUnbroken text)
    {declarations : List Declaration}
    (written : ∀ declaration ∈ declarations, declaration.IsUnbroken) :
    ∀ line ∈ layout.lines declarations, IsUnbroken line := by
  have indent : IsUnbroken layout.indent := each _ List.mem_cons_self
  have word : IsUnbroken (if layout.exported then "export " else "") := by split <;> decide
  intro text member
  obtain ⟨line, lineMember, rfl⟩ := List.mem_map.mp member
  obtain ⟨declaration, declarationMember, inDeclaration⟩ := List.mem_flatMap.mp lineMember
  have unbroken := written declaration declarationMember line inDeclaration
  unfold Layout.line
  cases line.role with
  | opening => exact isUnbroken_append.mpr ⟨word, unbroken⟩
  | field => exact isUnbroken_append.mpr ⟨indent, unbroken⟩
  | closing => exact unbroken

/-- A layout with unbroken texts encloses unbroken lines in unbroken lines. -/
theorem isUnbroken_enclose (each : ∀ text ∈ layout.texts, IsUnbroken text) {lines : List String}
    (unbroken : ∀ line ∈ lines, IsUnbroken line) :
    ∀ line ∈ layout.enclose lines, IsUnbroken line := by
  unfold enclose
  cases found : layout.enclosing? with
  | none => exact unbroken
  | some name =>
    have held : layout.enclosing = some name := Option.eq_some_of_filter_eq_some found
    have named := each name (List.mem_cons_of_mem _ (Option.mem_toList.mpr held))
    intro line member
    rcases List.mem_append.mp member with inside | closing
    · rcases List.mem_cons.mp inside with rfl | indented
      · simp only [isUnbroken_append]
        exact ⟨⟨by decide, named⟩, by decide⟩
      · obtain ⟨inner, innerMember, rfl⟩ := List.mem_map.mp indented
        exact isUnbroken_append.mpr ⟨each _ List.mem_cons_self, unbroken inner innerMember⟩
    · obtain rfl := List.mem_singleton.mp closing
      decide

end Layout

/-- The lines of an ABI with unbroken texts are unbroken in a layout with unbroken texts. -/
theorem Abi.isUnbroken_lines {abi : Abi} {layout : Layout}
    (each : ∀ text ∈ abi.texts, IsUnbroken text)
    (layoutEach : ∀ text ∈ layout.texts, IsUnbroken text) (style : NameStyle) :
    ∀ line ∈ (abi.resolvedTypings style).lines layout, IsUnbroken line := by
  have version : IsUnbroken (shown abi.version) := by
    refine isUnbroken_shown fun found member => each found ?_
    exact List.mem_append_left _ (List.mem_append_left _ (List.mem_append_left _ member))
  have first : IsUnbroken (banner abi.version) := by
    have generated : IsUnbroken ("// Generated by abi2ts " ++ toolVersion ++ " - ") := by
      decide +kernel
    exact isUnbroken_append.mpr ⟨generated, version⟩
  have declared : ∀ declaration ∈ (abi.resolvedTypings style).declared, declaration.IsUnbroken :=
    isUnbroken_declared each
  have enclosed := Layout.isUnbroken_enclose layoutEach
    (Layout.isUnbroken_lines layoutEach declared)
  rw [Typings.lines_eq, List.forall_mem_cons, List.forall_mem_cons]
  exact ⟨first, by decide, enclosed⟩

/-! ## Splitting -/

/-- The texts between the line feeds of a text. -/
def linesOfText (text : String) : List String := (text.toList.splitOn '\n').map String.ofList

/-- Splitting the text of unbroken lines gives the lines, and nothing after the last line feed. -/
theorem linesOfText_textOfLines {lines : List String} (unbroken : ∀ line ∈ lines, IsUnbroken line) :
    linesOfText (textOfLines lines) = lines ++ [""] := by
  induction lines with
  | nil => rfl
  | cons line rest ih =>
    have later := ih fun other member => unbroken other (List.mem_cons_of_mem _ member)
    have free : ∀ c ∈ line.toList, (c == '\n') = false := by
      intro c member
      refine beq_eq_false_iff_ne.mpr fun same => ?_
      exact unbroken line List.mem_cons_self (same ▸ member)
    have chars : (textOfLines (line :: rest)).toList =
        line.toList ++ '\n' :: (textOfLines rest).toList := by
      simp [textOfLines]
    rw [linesOfText, chars, List.splitOn, List.splitOnP_append_cons _ _ (by rfl),
      List.splitOnP_eq_singleton free, List.map_append, List.map_singleton, String.ofList_toList]
    exact congrArg (line :: ·) later

/-- Rendering keeps the lines of an ABI in which no text has a line feed, in a layout in which none
has one: where there are lines, splitting the rendered text at its line feeds gives them, and one
empty text after them; a fault of the lines is the fault of the text. -/
theorem render_keeps_lines {abi : Abi} {options : Options}
    (each : ∀ text ∈ abi.texts, IsUnbroken text)
    (layoutEach : ∀ text ∈ options.layout.texts, IsUnbroken text) (strict : Bool) :
    (∀ lines, abi.transform options strict = .ok lines →
      ∃ text, abi.render options strict = .ok text ∧ linesOfText text = lines ++ [""]) ∧
    ∀ fault, abi.transform options strict = .error fault →
      abi.render options strict = .error fault := by
  constructor
  · intro lines returned
    refine ⟨textOfLines lines, ?_, linesOfText_textOfLines ?_⟩
    · rw [Abi.render, returned]
      rfl
    · obtain ⟨typings, found, rfl⟩ := Abi.transform_eq_ok_iff.mp returned
      obtain ⟨-, -, -, rfl⟩ := Abi.typings_eq_ok_iff.mp found
      exact Abi.isUnbroken_lines each layoutEach options.style
  · intro fault failed
    rw [Abi.render, failed]
    rfl

/-- An ABI with texts that end lines elsewhere, but have no line feed. -/
def separatorTexts : Abi where
  version := some "1.0\r"
  variants := some [some ⟨some "any_\u2028of", some [some "uint8[]?", some "\u000bx"]⟩]
  structs := some [some ⟨some "row", some "base", some [some ⟨some "all", some "name?"⟩]⟩]

/-- Exported camel case in a namespace. -/
def enclosedCamel : Options where
  style := .camel
  layout := { exported := true, enclosing := some "Contract" }

/-- The lines of `separatorTexts` are read back from its text. -/
theorem render_keeps_lines_separatorTexts :
    (∀ text ∈ separatorTexts.texts, IsUnbroken text) ∧
      (∀ text ∈ enclosedCamel.layout.texts, IsUnbroken text) ∧
      ∃ lines text, separatorTexts.transform enclosedCamel false = .ok lines ∧
        lines.length = 10 ∧ separatorTexts.render enclosedCamel false = .ok text ∧
        linesOfText text = lines ++ [""] := by
  have each : ∀ text ∈ separatorTexts.texts, IsUnbroken text := by decide +kernel
  have layoutEach : ∀ text ∈ enclosedCamel.layout.texts, IsUnbroken text := by decide +kernel
  have emittable : separatorTexts.isEmittable .camel = true := by decide +kernel
  have valid : separatorTexts.validate = .ok () := rfl
  have returned : separatorTexts.transform enclosedCamel false = .ok _ :=
    Abi.transform_eq_ok_iff.mpr ⟨_, Abi.typings_lenient_of_emittable emittable valid, rfl⟩
  obtain ⟨text, rendered, split⟩ := (render_keeps_lines each layoutEach false).1 _ returned
  exact ⟨each, layoutEach, _, text, returned, by decide +kernel, rendered, split⟩

end AbiTypings
