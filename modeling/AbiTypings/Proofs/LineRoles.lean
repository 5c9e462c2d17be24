import AbiTypings.Proofs.Closure
import AbiTypings.Proofs.ValidOutcome

/-!
# Layouts and the roles of lines

A layout adds to the lines that it is given and changes nothing else. Each line of typings has a
role, and the ABI and the number of built-ins used fix the roles of all lines. In any layout the
lines are the plain ones, each after the mark that the layout has for its role; a namespace has one
line before them and one after, and indents those between. Whether there are lines, the fault if
there are none and the built-ins used are decided without the layout.
-/

namespace AbiTypings

/-- The roles of the lines of a struct: its header, its fields and its end. -/
def Struct.roles (entry : Struct) : List LineRole :=
  .opening :: ((entry.fieldList.reduceOption.map fun _ => .field) ++ [.closing])

/-- The roles of the lines of an ABI: one line opens each alias and each variant, then come the
structs. -/
def Abi.roles (abi : Abi) : List LineRole :=
  (abi.aliasList.reduceOption.map fun _ => .opening)
    ++ (abi.variantList.reduceOption.map fun _ => .opening)
    ++ abi.structList.reduceOption.flatMap Struct.roles

namespace Layout

/-- The layout that adds nothing to any line. -/
def plain : Layout where
  indent := ""
  exported := false
  enclosing := none

/-- What a layout puts in front of a line, by the role of the line. -/
def mark (layout : Layout) : LineRole → String
  | .opening => if layout.exported then "export " else ""
  | .field => layout.indent
  | .closing => ""

/-- Texts of lines after the marks of their roles. -/
def marked (layout : Layout) (roles : List LineRole) (texts : List String) : List String :=
  List.zipWith (fun role text => layout.mark role ++ text) roles texts

/-- Lines are the given texts in a layout, after the marks of their roles and inside the namespace,
if there is one. -/
structure LaysOut (layout : Layout) (roles : List LineRole) (texts lines : List String) : Prop where
  /-- Without a namespace, or with an empty one, nothing else is added. -/
  bare : layout.enclosing.getD "" = "" → lines = layout.marked roles texts
  /-- A namespace stands around the marked texts, which are indented. -/
  enclosed : ∀ name, layout.enclosing = some name → name ≠ "" →
    lines = ("declare namespace " ++ name ++ " \x7b") ::
      ((layout.marked roles texts).map (layout.indent ++ ·) ++ ["\x7d"])

/-! ## Marks -/

/-- A line is its text after the mark of its role. -/
theorem line_eq_mark (layout : Layout) (line : Line) :
    layout.line line = layout.mark line.role ++ line.text := by
  obtain ⟨role, text⟩ := line
  cases role with
  | opening => rfl
  | field => rfl
  | closing => exact (String.empty_append).symm

/-- The plain layout marks no line. -/
theorem mark_plain (role : LineRole) : plain.mark role = "" := by
  cases role <;> rfl

/-- In any layout the lines of declarations are their texts after the marks of their roles. -/
theorem lines_eq_marked (layout : Layout) (declarations : List Declaration) :
    layout.lines declarations =
      layout.marked ((declarations.flatMap Declaration.lines).map Line.role)
        ((declarations.flatMap Declaration.lines).map Line.text) := by
  rw [marked, List.zipWith_map, List.zipWith_self, lines]
  exact List.map_congr_left fun line _ => layout.line_eq_mark line

/-- In the plain layout the lines of declarations are their texts. -/
theorem lines_plain (declarations : List Declaration) :
    plain.lines declarations = (declarations.flatMap Declaration.lines).map Line.text := by
  rw [lines]
  refine List.map_congr_left fun line _ => ?_
  rw [line_eq_mark, mark_plain, String.empty_append]

/-- There is no namespace exactly when it is null or empty. -/
theorem enclosing?_eq_none_iff (layout : Layout) :
    layout.enclosing? = none ↔ layout.enclosing.getD "" = "" := by
  cases given : layout.enclosing <;> simp [enclosing?, given]

/-- The lines of a layout are laid out. -/
theorem laysOut_enclose (layout : Layout) (roles : List LineRole) (texts : List String) :
    layout.LaysOut roles texts (layout.enclose (layout.marked roles texts)) where
  bare := fun absent => enclose_of_none (layout.enclosing?_eq_none_iff.mpr absent) _
  enclosed := by
    intro name given present
    have found : layout.enclosing? = some name := by simp [enclosing?, given, present]
    rw [enclose, found]
    rfl

end Layout

/-! ## Roles -/

/-- The lines of aliases of built-ins all open a declaration. -/
theorem roles_builtins (style : NameStyle) (builtins : BuiltinSet) :
    ((builtins.toList.reverse.map (Builtin.declaration style)).flatMap Declaration.lines).map
      Line.role = List.replicate builtins.size .opening := by
  have each (builtin : Builtin) :
      (Builtin.declaration style builtin).lines.map Line.role = [.opening] := rfl
  rw [List.flatMap_map, List.map_flatMap]
  simp only [each]
  rw [← List.map_eq_flatMap, List.map_const', List.length_reverse, BuiltinSet.size]

/-- The lines of the declarations of an ABI have the roles that the ABI fixes. -/
theorem Abi.roles_declarations (abi : Abi) (style : NameStyle) :
    ((abi.declarations style).flatMap Declaration.lines).map Line.role = abi.roles := by
  have aliases (entry : TypeAlias) :
      (entry.declaration style).lines.map Line.role = [.opening] := rfl
  have variants (entry : Variant) :
      (entry.declaration style).lines.map Line.role = [.opening] := rfl
  have structs (entry : Struct) : (entry.declaration style).lines.map Line.role = entry.roles := by
    simp only [Struct.declaration, Declaration.lines, Struct.roles, List.map_cons, List.map_append,
      List.map_map, List.map_nil]
    rfl
  simp only [declarations, roles, List.flatMap_append, List.flatMap_map, List.map_append,
    List.map_flatMap, aliases, variants, structs, ← List.map_eq_flatMap]

/-! ## Layouts of typings -/

/-- The lines that typings declare are, in any layout, their plain texts after the marks of the
roles. -/
theorem Abi.lines_declared (abi : Abi) (style : NameStyle) (layout : Layout) :
    layout.lines (abi.resolvedTypings style).declared =
      layout.marked
        (List.replicate (abi.resolvedTypings style).builtins.size .opening ++ abi.roles)
        (Layout.plain.lines (abi.resolvedTypings style).declared) := by
  rw [Layout.lines_eq_marked, Layout.lines_plain, Typings.declared, List.flatMap_append,
    List.map_append, roles_builtins]
  exact congrArg (fun roles => layout.marked (_ ++ roles) _) (abi.roles_declarations style)

/-- The plain texts of what typings declare are the aliases of the built-ins and the texts of the
declarations that are emitted. -/
theorem Typings.lines_plain_declared (typings : Typings) :
    Layout.plain.lines typings.declared =
      typings.builtins.toList.reverse.map (Options.builtinLine ⟨typings.style, .plain⟩) ++
        (typings.declarations.flatMap Declaration.lines).map Line.text := by
  rw [declared, Layout.lines_append, Layout.lines_plain typings.declarations,
    ← Layout.builtinLines_eq]
  rfl

/-- The layout of the typings of an ABI. Either there is one fault in every layout, or the scope,
the built-ins used and the declarations are the same in every layout. The plain lines after the
banner are then one for each built-in and those of the declarations, with the roles that the ABI
fixes. In any layout the lines after the banner are these texts, each after the mark of its role,
and inside the namespace, if there is one. -/
theorem transform_layout (abi : Abi) (style : NameStyle) (strict : Bool) :
    (∃ fault, ∀ layout, abi.transform ⟨style, layout⟩ strict = .error fault) ∨
      ∃ (scope : Scope) (used : BuiltinSet) (declarations : List Declaration)
          (texts : List String),
        abi.scope style strict = .ok scope ∧
        abi.emit scope = ⟨.ok declarations, used⟩ ∧
        (declarations.flatMap Declaration.lines).map Line.role = abi.roles ∧
        texts = used.toList.reverse.map (Options.builtinLine ⟨style, .plain⟩) ++
          (declarations.flatMap Declaration.lines).map Line.text ∧
        abi.transform ⟨style, .plain⟩ strict = .ok (banner abi.version :: "" :: texts) ∧
        ∀ layout, ∃ lines,
          abi.transform ⟨style, layout⟩ strict = .ok (banner abi.version :: "" :: lines) ∧
          layout.LaysOut (List.replicate used.size .opening ++ abi.roles) texts lines := by
  cases found : abi.typings style strict with
  | error fault => exact .inl ⟨fault, fun _ => Abi.transform_eq_error_iff.mpr found⟩
  | ok typings =>
    obtain ⟨scope, resolver, emitted⟩ := Abi.exists_emit_of_typings found
    obtain ⟨-, -, -, rfl⟩ := Abi.typings_eq_ok_iff.mp found
    have written (layout : Layout) : abi.transform ⟨style, layout⟩ strict =
        .ok (banner abi.version :: "" ::
          layout.enclose (layout.lines (abi.resolvedTypings style).declared)) :=
      Abi.transform_eq_ok_iff.mpr ⟨_, found, Typings.lines_eq _ _⟩
    refine .inr ⟨scope, (abi.resolvedTypings style).builtins, abi.declarations style,
      Layout.plain.lines (abi.resolvedTypings style).declared, resolver, emitted,
      abi.roles_declarations style, Typings.lines_plain_declared _, ?_, fun layout => ?_⟩
    · rw [written, Layout.enclose_of_none rfl]
    · refine ⟨_, written layout, ?_⟩
      rw [abi.lines_declared style layout]
      exact layout.laysOut_enclose _ _

example :
    Abi.transform
      { aliases := some [some ⟨some "owner", some "name"⟩]
        structs := some [some ⟨some "row", some "", some [some ⟨some "by", some "owner?"⟩]⟩] }
      ⟨.pascal, { indent := "  ", exported := true, enclosing := some "Token" }⟩ true =
    .ok [banner (some ""), "", "declare namespace Token \x7b", "  export type Name = string",
      "  export type Owner = Name", "  export interface Row \x7b", "    by?: Owner", "  \x7d",
      "\x7d"] := by rfl

end AbiTypings
