import ContractTypes.Proofs.Declaration.Rearrangement
import ContractTypes.Proofs.Declaration.Relayout

/-!
How the lines of declarations are arranged.

The lines of a block are never empty, whatever is in the names and whatever the formatter makes of
them.  So the empty lines are those between blocks, and cutting the lines there gives the blocks
back: first one for each struct, with a line for each effective field, and then one for each
variant, with a line for each alternative.
-/

namespace ContractTypes

def Layout.unionLines (layout : Layout) (name : Text) (alternatives : List Text) : List Text :=
  let head := layout.exportText ++ "type " ++ layout.format name ++ " ="
  if alternatives.isEmpty then [head ++ " never"] else head :: alternatives

theorem Layout.length_interfaceBlock (layout : Layout) (name : Text) (members : List Text) :
    (layout.interfaceBlock name members).length = 2 + members.length := by
  simp [interfaceBlock]
  omega

theorem Layout.length_unionLines (layout : Layout) (name : Text) (alternatives : List Text) :
    (layout.unionLines name alternatives).length = 1 + alternatives.length := by
  cases alternatives with
  | nil => rfl
  | cons first rest =>
      simp [unionLines]
      omega

namespace Document

/-- The line of an alternative for a type expression. -/
def IsAlternativeLine (document : Document) (layout : Layout) (expression line : Text) : Prop :=
  ∃ ref text, document.resolve expression = .ok ref ∧ ref.text layout.format = .ok text ∧
    line = layout.indent ++ "| [" ++ Json.literal expression ++ ", " ++ text ++ "]"

/-- The block of a struct: an interface with one line for each effective field. -/
def IsStructBlock (document : Document) (layout : Layout) (declared : Struct)
    (block : List Text) : Prop :=
  ∃ fields members, document.effectiveFields declared = .ok fields ∧
    block.length = 2 + fields.length ∧
    block = layout.interfaceBlock declared.name members ∧
    List.Forall₂ (document.IsMemberLine layout) fields members

/-- The block of a variant: a union with one line for each type. -/
def IsVariantBlock (document : Document) (layout : Layout) (declared : Variant)
    (block : List Text) : Prop :=
  ∃ alternatives, block.length = 1 + declared.types.length ∧
    block = layout.unionLines declared.name alternatives ∧
    List.Forall₂ (document.IsAlternativeLine layout) declared.types alternatives

variable {document : Document} {layout : Layout}

theorem isAlternativeLine_of_alternativeLine {owner : Variant} {expression line : Text}
    (made : document.alternativeLine layout owner expression = .ok line) :
    document.IsAlternativeLine layout expression line := by
  unfold alternativeLine at made
  obtain ⟨ref, resolved, made⟩ := exists_of_bind_eq_ok made
  obtain ⟨text, written, made⟩ := exists_of_bind_eq_ok made
  exact ⟨ref, text, eq_ok_of_mapError_eq_ok resolved, eq_ok_of_mapError_eq_ok written,
    (Except.ok.inj made).symm⟩

theorem isStructBlock_of_structBlock {declared : Struct} {block : List Text}
    (made : document.structBlock layout declared = .ok block) :
    document.IsStructBlock layout declared block := by
  obtain ⟨fields, members, found, listed, rfl⟩ := structBlock_eq_ok made
  refine ⟨fields, members, found, ?_, rfl, listed⟩
  rw [Layout.length_interfaceBlock, listed.length_eq]

theorem isVariantBlock_of_variantBlock {declared : Variant} {block : List Text}
    (made : document.variantBlock layout declared = .ok block) :
    document.IsVariantBlock layout declared block := by
  obtain ⟨name, types⟩ := declared
  cases types with
  | nil =>
      cases made
      exact ⟨[], rfl, rfl, .nil⟩
  | cons first rest =>
      obtain ⟨alternatives, lines, made⟩ := exists_of_bind_eq_ok made
      have listed := (forall₂_of_mapM lines).imp
        (fun _ _ made => isAlternativeLine_of_alternativeLine made)
      have whole : block = layout.unionLines name alternatives := by
        cases listed
        exact (Except.ok.inj made).symm
      refine ⟨alternatives, ?_, whole, listed⟩
      rw [whole, Layout.length_unionLines, listed.length_eq]

theorem filled_structBlock {declared : Struct} {block : List Text}
    (made : document.structBlock layout declared = .ok block) : block ≠ [] ∧
    ∀ line ∈ block, line ≠ [] := by
  obtain ⟨_, _, _, _, rfl⟩ := structBlock_eq_block made
  exact ⟨block_ne_nil _ _, fun line inside => ne_nil_of_mem_block inside⟩

theorem filled_variantBlock {declared : Variant} {block : List Text}
    (made : document.variantBlock layout declared = .ok block) : block ≠ [] ∧
    ∀ line ∈ block, line ≠ [] := by
  obtain ⟨_, _, rfl⟩ := variantBlock_eq_block made
  exact ⟨block_ne_nil _ _, fun line inside => ne_nil_of_mem_block inside⟩

theorem filled_blocks {structs variants : List (List Text)}
    (ofStructs : document.structs.mapM (document.structBlock layout) = .ok structs)
    (ofVariants : document.variants.mapM (document.variantBlock layout) = .ok variants) :
    ∀ block ∈ structs ++ variants, block ≠ [] ∧ ∀ line ∈ block, line ≠ [] := by
  intro block member
  rcases List.mem_append.1 member with first | second
  · exact forall_mem_of_mapM (fun _ _ _ made => filled_structBlock made) ofStructs block first
  · exact forall_mem_of_mapM (fun _ _ _ made => filled_variantBlock made) ofVariants block second

/-- Of the lines apart from layouts, those without text are the separators. -/
theorem text_eq_nil_iff {plain : List PlainLine}
    (given : document.plainLines layout.format = .ok plain) :
    ∀ line ∈ plain, line.text layout = [] ↔ line = .separator := by
  unfold plainLines at given
  obtain ⟨interfaces, ofStructs, given⟩ := exists_of_bind_eq_ok given
  obtain ⟨unions, ofVariants, given⟩ := exists_of_bind_eq_ok given
  cases given
  have filled : ∀ block ∈ interfaces ++ unions, ∀ line ∈ block, line.text layout ≠ [] := by
    have structs := mapM_eq_map_mapM (document.structBlock_eq_map_plain layout) document.structs
    have variants := mapM_eq_map_mapM (document.variantBlock_eq_map_plain layout) document.variants
    rw [ofStructs] at structs
    rw [ofVariants] at variants
    intro block member line inside
    have laid : block.map (PlainLine.text layout) ∈
      interfaces.map (List.map (PlainLine.text layout)) ++
        unions.map (List.map (PlainLine.text layout)) :=
      List.map_append ▸ List.mem_map_of_mem member
    exact (filled_blocks structs variants _ laid).2 _ (List.mem_map_of_mem inside)
  intro line member
  constructor
  · intro empty
    rcases mem_block_of_mem_intercalate member with between | ⟨block, listed, inside⟩
    · exact List.mem_singleton.1 between
    · exact absurd empty (filled block listed line inside)
  · rintro rfl
    rfl

theorem lines_eq_of_sections {other : Document} (aliases : other.aliases = document.aliases)
    (structs : other.structs = document.structs) (variants : other.variants = document.variants) :
    other.lines layout = document.lines layout := by
  have alike : document.LooksUpAlike other := by
    constructor <;> intro name
    · rw [alias?, alias?, aliases]
    · rw [struct?, struct?, structs]
    · rw [isDeclared, isDeclared, structs, variants]
  exact alike.lines_eq structs variants

/-- A line is empty exactly if it is a separator.  Cut at their empty lines, the lines of a document
are one block for each struct and then one for each variant, in the order of the document: the block
of a struct has a line for each effective field between two others, and that of a variant has one
for each type below another one.  The sections other than aliases, structs and variants have no part
in it, and where there are no structs and no variants there are no lines. -/
theorem lines_arranged (document : Document) (layout : Layout) :
    (document.structs = [] → document.variants = [] → document.lines layout = .ok []) ∧
    (∀ other : Document, other.aliases = document.aliases → other.structs = document.structs →
      other.variants = document.variants → other.lines layout = document.lines layout) ∧
    ∀ lines, document.lines layout = .ok lines →
      (∃ plain, document.plainLines layout.format = .ok plain ∧
        lines = plain.map (PlainLine.text layout) ∧
        ∀ line ∈ plain, line.text layout = [] ↔ line = .separator) ∧
      ∃ interfaces unions, Text.paragraphs lines = interfaces ++ unions ∧
        lines = List.intercalate [[]] (interfaces ++ unions) ∧
        List.Forall₂ (document.IsStructBlock layout) document.structs interfaces ∧
        List.Forall₂ (document.IsVariantBlock layout) document.variants unions := by
  refine ⟨fun noStructs noVariants => ?_, fun _ => lines_eq_of_sections, fun lines made => ⟨?_, ?_⟩⟩
  · rw [lines, blocks, noStructs, noVariants]
    rfl
  · rw [lines_eq_map_plain] at made
    obtain ⟨plain, given, rfl⟩ := exists_of_map_eq_ok made
    exact ⟨plain, given, rfl, text_eq_nil_iff given⟩
  · obtain ⟨structs, variants, ofStructs, ofVariants, rfl⟩ := lines_eq_ok made
    have cut := Text.paragraphs_intercalate (filled_blocks ofStructs ofVariants)
    refine ⟨structs, variants, cut, rfl, ?_, ?_⟩
    · exact (forall₂_of_mapM ofStructs).imp (fun _ _ made => isStructBlock_of_structBlock made)
    · exact (forall₂_of_mapM ofVariants).imp (fun _ _ made => isVariantBlock_of_variantBlock made)

/-- A document with a repeated struct, a struct without fields, a repeated type, a variant without
types and an action. -/
def gallery : Document where
  version := "eosio::abi/1.2"
  aliases := []
  structs := [⟨"room", [], [⟨"a\n\nb", "name?"⟩]⟩, ⟨"hall", "room", []⟩, ⟨"room", [], []⟩]
  actions := [⟨"open", "hall", []⟩]
  tables := []
  clauses := []
  errorMessages := []
  extensions := []
  variants := [⟨"place", ["room", "room"]⟩, ⟨"nowhere", []⟩]

def namelessLayout : Layout := ⟨[], 0, fun _ => [], false⟩

def galleryBlocks : List (List Text) := [
  ["interface  \x7b", "?: string", "\x7d"], ["interface  \x7b", "?: string", "\x7d"],
    ["interface  \x7b", "\x7d"],
  ["type  =", "| [\"room\", ]", "| [\"room\", ]"], ["type  = never"]]

theorem gallery_lines_arranged : gallery.lines namelessLayout =
    .ok (List.intercalate [[]] galleryBlocks) ∧
    ∃ interfaces unions, Text.paragraphs (List.intercalate [[]] galleryBlocks) = interfaces ++
      unions ∧
      List.Forall₂ (gallery.IsStructBlock namelessLayout) gallery.structs interfaces ∧
      List.Forall₂ (gallery.IsVariantBlock namelessLayout) gallery.variants unions := by
  have written : gallery.lines namelessLayout = .ok (List.intercalate [[]] galleryBlocks) := by
    decide +kernel
  obtain ⟨_, interfaces, unions, cut, _, structs, variants⟩ :=
    (lines_arranged gallery namelessLayout).2.2 _ written
  exact ⟨written, interfaces, unions, cut, structs, variants⟩

end Document

end ContractTypes
