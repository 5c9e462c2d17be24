import AbiTypings.Command.Run
import AbiTypings.Proofs.Summaries
import AbiTypings.Proofs.WholeTexts

/-!
# Whole summaries

An ABI that was loaded has whole texts, so the version and the names in its summary are whole, and
with them the details. The identifiers need not be whole: a style can take out what stands between
two halves of a surrogate pair.
-/

namespace AbiTypings

open Json (Lists)

/-- A text is whole, unless it is null. -/
def HoldsWhole (text : Option String) : Prop := ∀ value ∈ text, Text.IsWhole value

/-- The name and the detail of an item are whole. -/
structure SummaryItem.HasWholeTexts (item : SummaryItem) : Prop where
  name : HoldsWhole item.name
  detail : HoldsWhole item.detail

/-- The version, the names and the details of a summary are whole. -/
structure Summary.HasWholeTexts (summary : Summary) : Prop where
  version : HoldsWhole summary.version
  items : ∀ item ∈ summary.items, item.HasWholeTexts

/-! ## What is read from whole members -/

section Members

variable {members : Members} (whole : (Json.object members).HasWholeTexts)

include whole

/-- The text under a key of whole members is whole. -/
theorem Members.Gives.holdsWhole {key : String} {text : Option String}
    (gives : members.Gives key text) : HoldsWhole text := by
  obtain ⟨value, stored, rfl⟩ := gives
  exact fun _ taken => (whole.lookup stored).fieldText taken

/-- The text under a key of whole members is whole, also if a whole value stands in for it. -/
theorem Json.HasWholeTexts.fieldText_getD {absent : Json} (stands : absent.HasWholeTexts)
    (key : String) : HoldsWhole ((members.lookup key).getD absent).fieldText := by
  intro _ taken
  cases stored : members.lookup key with
  | none =>
    rw [stored] at taken
    exact stands.fieldText taken
  | some value =>
    rw [stored] at taken
    exact (whole.lookup stored).fieldText taken

/-- What holds of each entry that is read from whole members holds of all entries of a collection
under a key of whole members. -/
theorem Json.Lists.forall_mem {α : Type} {readFrom : Members → α → Prop} {key : String}
    {entries : Option (List (Option α))} (lists : Lists readFrom (members.lookup key) entries)
    {holds : α → Prop}
    (each : ∀ held entry, (Json.object held).HasWholeTexts → readFrom held entry → holds entry) :
    ∀ entry ∈ (entries.getD []).reduceOption, holds entry := by
  intro entry listed
  obtain ⟨item, ⟨value, items, stored, contains, inside⟩, read⟩ :=
    lists.exists_reads (List.reduceOption_mem_iff.mp listed)
  cases read with
  | object found => exact each _ entry ((whole.lookup stored).contained contains inside) found

end Members

/-! ## Items -/

section Items

variable {members : Members} (whole : (Json.object members).HasWholeTexts) (style : NameStyle)

include whole

/-- The item for an alias from whole members is whole. -/
theorem TypeAlias.ReadFrom.hasWholeTexts_item {entry : TypeAlias} (read : entry.ReadFrom members) :
    (entry.item style).HasWholeTexts where
  name := read.name.holdsWhole whole
  detail := read.target.holdsWhole whole

/-- The item for a variant from whole members is whole. -/
theorem Variant.ReadFrom.hasWholeTexts_item {entry : Variant} (read : entry.ReadFrom members) :
    (entry.item style).HasWholeTexts where
  name := read.name.holdsWhole whole
  detail := by
    have word : Text.mark ∉ " members".toList := by decide
    have number := mark_notMem_toString entry.memberList.length
    rintro _ ⟨⟩
    apply Text.isWhole_of_free
    rw [String.toList_append, List.mem_append, not_or]
    exact ⟨number, word⟩

/-- The item for a struct from whole members is whole. -/
theorem Struct.ReadFrom.hasWholeTexts_item {entry : Struct} (read : entry.ReadFrom members) :
    (entry.item style).HasWholeTexts where
  name := read.name.holdsWhole whole
  detail := by
    have base : HoldsWhole entry.base := by
      have empty : Text.IsWhole "" := rfl
      rw [← read.base]
      exact whole.fieldText_getD (.text empty) "base"
    rintro _ ⟨⟩
    cases extended : entry.base? with
    | none => exact rfl
    | some parent =>
      have word : Text.mark ∉ "extends ".toList := by decide
      exact (base parent (Option.filter_eq_some_iff.mp extended).1).append_left word

end Items

/-! ## Summaries -/

/-- The summary of an ABI that was loaded from a whole value is whole. -/
theorem Abi.hasWholeTexts_resolvedSummary {value : Json} {abi : Abi}
    (whole : value.HasWholeTexts) (loaded : Abi.ofJson value = .ok abi) (style : NameStyle) :
    (abi.resolvedSummary style).HasWholeTexts := by
  obtain ⟨members, rfl, read, -⟩ := ofJson_eq_ok_iff.mp loaded
  refine ⟨?version, ?items⟩
  case version =>
    change HoldsWhole abi.version
    have given := whole.fieldText_getD .null "version"
    rw [← read.version]
    rintro _ ⟨⟩
    cases text : ((members.lookup "version").getD .null).fieldText with
    | none => exact rfl
    | some version => exact given version text
  case items =>
    have aliases := read.aliases.forall_mem whole fun _ _ held found =>
      found.hasWholeTexts_item held style
    have variants := read.variants.forall_mem whole fun _ _ held found =>
      found.hasWholeTexts_item held style
    have structs := read.structs.forall_mem whole fun _ _ held found =>
      found.hasWholeTexts_item held style
    intro item listed
    change item ∈ abi.items style at listed
    simp only [items, List.mem_append, List.mem_map] at listed
    rcases listed with (⟨entry, member, rfl⟩ | ⟨entry, member, rfl⟩) | ⟨entry, member, rfl⟩
    · exact aliases entry member
    · exact variants entry member
    · exact structs entry member

/-- The summary of an ABI in the bytes at an endpoint is whole. -/
theorem Host.hasWholeTexts_of_summarize {host : Host} {source : Endpoint} {bytes : List UInt8}
    {abi : Abi} (loaded : host.load source bytes = .ok abi) {style : NameStyle} {summary : Summary}
    (summarized : abi.summarize style = .ok summary) : summary.HasWholeTexts := by
  obtain ⟨-, rfl⟩ := Abi.summarize_eq_ok_iff.mp summarized
  obtain ⟨text, -, parsed⟩ := bind_eq_ok_iff.mp loaded
  obtain ⟨value, found, ofJson⟩ := bind_eq_ok_iff.mp parsed
  cases read : Json.read (host.unify source text) with
  | error refusal => simp [Abi.jsonOfText, read, Except.mapError] at found
  | ok held =>
    obtain rfl : held = value := by simpa [Abi.jsonOfText, read, Except.mapError] using found
    exact Abi.hasWholeTexts_resolvedSummary (Json.hasWholeTexts_of_read read) ofJson style

end AbiTypings
