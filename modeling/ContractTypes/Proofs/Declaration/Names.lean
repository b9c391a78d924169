import ContractTypes.Proofs.Declaration.Grammar
import ContractTypes.Proofs.Naming.SnakeName
import ContractTypes.Proofs.Warning

/-!
Distinct names.

The names in the declarations of a document are the declared names in the casing of a convention,
behind one text.  The warnings compare names as they are declared.  So in a document without
warnings two declarations, or two members of one interface, have the same name exactly where the
convention gives two declared names the same form.  It never does that to names in snake case.
-/

namespace ContractTypes

namespace Document

variable {document : Document} {layout : Layout}

def outlineOf (document : Document) (layout : Layout) (members : Struct → List MemberOutline)
    (alternatives : Variant → List AlternativeOutline) : List DeclarationOutline :=
  document.structs.map (fun declared =>
      ⟨layout.exported, layout.format declared.name, .interface (members declared)⟩) ++
    document.variants.map (fun declared =>
      ⟨layout.exported, layout.format declared.name, .union (alternatives declared)⟩)

theorem map_name_outlineOf (members : Struct → List MemberOutline)
    (alternatives : Variant → List AlternativeOutline) :
    (document.outlineOf layout members alternatives).map DeclarationOutline.name =
      (document.structNames ++ document.variantNames).map layout.format := by
  unfold outlineOf structNames variantNames
  simp only [List.map_append, List.map_map, Function.comp_def]

theorem map_name_memberOutlines {owner : Struct} {fields : List Field}
    {members : List MemberOutline} (given :
    fields.mapM (document.memberOutline layout owner) = .ok members) :
    members.map MemberOutline.name = (fields.map Field.name).map layout.format := by
  rw [List.map_map]
  refine map_eq_map_of_mapM (fun field member outlined => ?_) given
  obtain ⟨ref, shape, _, _, rfl⟩ := memberOutline_eq_ok outlined
  rfl

theorem exists_outlineOf {outlines : List DeclarationOutline}
    (given : document.outline layout = .ok outlines) :
    ∃ members alternatives, outlines = document.outlineOf layout members alternatives ∧
      ∀ declared ∈ document.structs, ∃ fields, document.effectiveFields declared = .ok fields ∧
        (members declared).map MemberOutline.name = (fields.map Field.name).map layout.format := by
  obtain ⟨interfaces, unions, fromStructs, fromVariants, rfl⟩ := outline_eq_ok given
  obtain ⟨members, rfl, named⟩ := exists_choice_of_mapM
    (fun (declared : Struct) members =>
      DeclarationOutline.mk layout.exported (layout.format declared.name) (.interface members))
    (fun declared members => ∃ fields, document.effectiveFields declared = .ok fields ∧
      members.map MemberOutline.name = (fields.map Field.name).map layout.format)
    (fun declared result outlined => by
      obtain ⟨fields, members, found, planned, rfl⟩ := structOutline_eq_ok outlined
      exact ⟨members, rfl, fields, found, map_name_memberOutlines planned⟩) fromStructs
  obtain ⟨alternatives, rfl, _⟩ := exists_choice_of_mapM
    (fun (declared : Variant) alternatives =>
      DeclarationOutline.mk layout.exported (layout.format declared.name) (.union alternatives))
    (fun _ _ => True)
    (fun declared result outlined => by
      obtain ⟨alternatives, _, rfl⟩ := variantOutline_eq_ok outlined
      exact ⟨alternatives, rfl, trivial⟩) fromVariants
  exact ⟨members, alternatives, rfl, named⟩

theorem map_name_outline {outlines : List DeclarationOutline}
    (given : document.outline layout = .ok outlines) : outlines.map DeclarationOutline.name =
      (document.structNames ++ document.variantNames).map layout.format := by
  obtain ⟨members, alternatives, rfl, _⟩ := exists_outlineOf given
  exact map_name_outlineOf members alternatives

/-- In the declarations of a document without warnings, the names of the declarations are distinct
exactly where the convention keeps the declared names apart, and the names of the members of an
interface exactly where it keeps those of the fields apart.  The text in front of names makes no
difference.  So names in snake case always give distinct names. -/
theorem nodup_names_iff {settings : Settings} {lines : List Text}
    (unwarned : document.warningMessages = .ok []) (laidOut : settings.layout = .ok layout)
    (written : document.lines layout = .ok lines) :
    ∃ members alternatives, document.outline layout =
      .ok (document.outlineOf layout members alternatives) ∧
      lines = List.intercalate [[]]
        ((document.outlineOf layout members alternatives).map
          (DeclarationOutline.block layout.indent)) ∧
      (document.structNames ++ document.variantNames).Nodup ∧
      (((document.outlineOf layout members alternatives).map DeclarationOutline.name).Nodup ↔
        settings.convention.KeepsApart (document.structNames ++ document.variantNames)) ∧
      ((∀ name ∈ document.structNames ++ document.variantNames, name.isSnakeName = true) →
        ((document.outlineOf layout members alternatives).map DeclarationOutline.name).Nodup) ∧
      ∀ declared ∈ document.structs, ∃ fields, document.effectiveFields declared = .ok fields ∧
        (fields.map Field.name).Nodup ∧
        (((members declared).map MemberOutline.name).Nodup ↔
          settings.convention.KeepsApart (fields.map Field.name)) ∧
        ((∀ field ∈ fields, field.name.isSnakeName = true) →
          ((members declared).map MemberOutline.name).Nodup) := by
  have warnings := warnings_eq_nil_of_messages unwarned
  have formatted := Settings.format_layout laidOut
  rw [lines_eq_map_outline] at written
  obtain ⟨outlines, outlined, rfl⟩ := exists_of_map_eq_ok written
  obtain ⟨members, alternatives, rfl, named⟩ := exists_outlineOf outlined
  have declaredNames := nodup_declaredNames warnings
  have declarations :
    ((document.outlineOf layout members alternatives).map DeclarationOutline.name).Nodup ↔
      settings.convention.KeepsApart (document.structNames ++ document.variantNames) := by
    rw [map_name_outlineOf, formatted]
    exact settings.convention.nodup_map_format_iff settings.namePrefix declaredNames
  refine ⟨members, alternatives, outlined, rfl, declaredNames, declarations, ?_, ?_⟩
  · intro shaped
    exact declarations.2 (settings.convention.keepsApart_of_isSnakeName shaped)
  · intro declared member
    obtain ⟨fields, found, same⟩ := named declared member
    have fieldNames := nodup_fieldNames warnings member found
    have interface : ((members declared).map MemberOutline.name).Nodup ↔
        settings.convention.KeepsApart (fields.map Field.name) := by
      rw [same, formatted]
      exact settings.convention.nodup_map_format_iff settings.namePrefix fieldNames
    refine ⟨fields, found, fieldNames, interface, ?_⟩
    intro shaped
    exact interface.2 (settings.convention.keepsApart_of_isSnakeName (List.forall_mem_map.2 shaped))

/-- A document in which one declared name continues another one. -/
def inventory : Document where
  version := "1.0"
  aliases := []
  structs := [⟨"stock_row", [], [⟨"item", "name"⟩, ⟨"item_id", "uint64"⟩]⟩]
  actions := []
  tables := []
  clauses := []
  errorMessages := []
  extensions := []
  variants := [⟨"stock", ["stock_row"]⟩]

def inventorySettings : Settings := ⟨.camel, some "s", 2, false, false⟩

def inventoryLines : List Text := [
  "interface sstockRow \x7b", "  sitem: string", "  sitemId: string", "\x7d", "",
  "type sstock =", "  | [\"stock_row\", sstockRow]"]

theorem nodup_names_inventory : inventory.warningMessages = .ok [] ∧
    ∃ layout, inventorySettings.layout = .ok layout ∧ inventory.lines layout = .ok inventoryLines ∧
      ∃ members alternatives,
        inventory.outline layout = .ok (inventory.outlineOf layout members alternatives) ∧
        ((inventory.outlineOf layout members alternatives).map DeclarationOutline.name).Nodup ∧
        ∀ declared ∈ inventory.structs, ((members declared).map MemberOutline.name).Nodup := by
  have unwarned : inventory.warningMessages = .ok [] := by decide +kernel
  have laidOut : inventorySettings.layout = .ok ⟨[inventorySettings.indentPoint], 2,
    Convention.format .camel (some "s"), false⟩ := rfl
  have written : inventory.lines ⟨[inventorySettings.indentPoint], 2,
    Convention.format .camel (some "s"), false⟩ = .ok inventoryLines := by decide +kernel
  obtain ⟨members, alternatives, outlined, _, _, _, declarations, interfaces⟩ :=
    nodup_names_iff unwarned laidOut written
  refine ⟨unwarned, _, laidOut, written, members, alternatives, outlined, declarations (by decide),
    ?_⟩
  intro declared member
  obtain ⟨fields, found, _, _, distinct⟩ := interfaces declared member
  have shaped : ∀ owner ∈ inventory.structs, ∀ field ∈ owner.fields,
      field.name.isSnakeName = true := by
    decide
  apply distinct
  intro field inside
  obtain ⟨owner, owning, owned⟩ := exists_owner_of_mem_effectiveFields found member inside
  exact shaped owner owning field owned

/-- Two structs, and two fields of one of them, whose names differ in underscores and capitals
only. -/
def lookalikes : Document where
  version := "1.0"
  aliases := []
  structs := [⟨"ab_cd", [], [⟨"x_y", "bool"⟩, ⟨"xY", "bool"⟩]⟩, ⟨"abCd", [], []⟩]
  actions := []
  tables := []
  clauses := []
  errorMessages := []
  extensions := []
  variants := []

/-- No warning speaks of names that only the casing brings together. -/
theorem not_nodup_names_lookalikes : lookalikes.warningMessages = .ok [] ∧
    ∃ layout, Settings.standard.layout = .ok layout ∧
      lookalikes.lines layout =
        .ok ["interface AbCd \x7b", "    XY: boolean", "    XY: boolean", "\x7d", "",
        "interface AbCd \x7b", "\x7d"] ∧
      lookalikes.outline layout = .ok [
        ⟨false, "AbCd",
          .interface [⟨"XY", false, .leaf "boolean"⟩, ⟨"XY", false, .leaf "boolean"⟩]⟩,
        ⟨false, "AbCd", .interface []⟩] ∧
      ¬∀ (document : Document) (settings : Settings) layout outlines,
        document.warningMessages = .ok [] → settings.layout = .ok layout →
        document.outline layout = .ok outlines →
          (outlines.map DeclarationOutline.name).Nodup ∧ ∀ declared ∈ outlines, ∀ members,
            declared.body = .interface members → (members.map MemberOutline.name).Nodup := by
  have unwarned : lookalikes.warningMessages = .ok [] := by decide +kernel
  have laidOut : Settings.standard.layout = .ok ⟨[Settings.standard.indentPoint], 4,
    Convention.format .pascal none, false⟩ := rfl
  have outlined : lookalikes.outline ⟨[Settings.standard.indentPoint], 4,
      Convention.format .pascal none, false⟩ = .ok [
        ⟨false, "AbCd",
          .interface [⟨"XY", false, .leaf "boolean"⟩, ⟨"XY", false, .leaf "boolean"⟩]⟩,
        ⟨false, "AbCd", .interface []⟩] := by decide +kernel
  refine ⟨unwarned, _, laidOut, by decide +kernel, outlined, ?_⟩
  intro all
  have names := (all lookalikes Settings.standard _ _ unwarned laidOut outlined).1
  exact absurd names (by decide)

end Document

end ContractTypes
