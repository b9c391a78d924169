import ContractTypes.Proofs.Declaration.FirstFault
import ContractTypes.Proofs.Declaration.Members
import ContractTypes.Proofs.Inheritance.Transfer
import ContractTypes.Proofs.Resolution.Transfer

/-!
Blocks of declarations.

The block of a struct or of a variant depends on the declaration and on what the document says of
the names that are looked up for it.  So one function of structs and one of variants give all blocks
of a document, and a declaration has the same block in another document where its fields and types
are found to be the same.
-/

namespace ContractTypes

namespace Document

/-- The blocks of a document are what a function makes of its structs and another one of its
variants. -/
structure WrittenBy (document : Document) (layout : Layout) (interface : Struct → List Text)
    (union : Variant → List Text) : Prop where
  structs : ∀ declared ∈ document.structs, document.structBlock layout declared =
    .ok (interface declared)
  variants : ∀ declared ∈ document.variants, document.variantBlock layout declared =
    .ok (union declared)

variable {document other : Document} {layout : Layout} {interface : Struct → List Text}
  {union : Variant → List Text}

theorem WrittenBy.lines_eq (written : document.WrittenBy layout interface union) :
    document.lines layout =
      .ok (List.intercalate [[]]
        (document.structs.map interface ++ document.variants.map union)) := by
  unfold lines blocks
  rw [mapM_eq_ok_map written.structs, mapM_eq_ok_map written.variants]
  rfl

theorem exists_writtenBy {lines : List Text} (made : document.lines layout = .ok lines) :
    ∃ interface union, document.WrittenBy layout interface union := by
  obtain ⟨structs, variants, ofStructs, ofVariants, _⟩ := lines_eq_ok made
  obtain ⟨interface, _, eachStruct⟩ := exists_map_of_mapM ofStructs
  obtain ⟨union, _, eachVariant⟩ := exists_map_of_mapM ofVariants
  exact ⟨interface, union, eachStruct, eachVariant⟩

/-- Where a document has lines, it has the types of all effective fields and of all alternatives. -/
theorem exists_types_of_lines {lines : List Text} (made : document.lines layout = .ok lines) :
    (∀ declared ∈ document.structs, ∃ fields, document.effectiveFields declared = .ok fields ∧
      ∀ field ∈ fields, ∃ ref, document.resolve field.type = .ok ref) ∧
    ∀ declared ∈ document.variants, ∀ expression ∈ declared.types,
      ∃ ref, document.resolve expression = .ok ref := by
  rw [← items_faultless_iff, ← List.findSome?_eq_none_iff, ← faultOf_lines document layout, made]
  rfl

theorem exists_type_of_field {lines : List Text} (made : document.lines layout = .ok lines)
    {declared : Struct} (member : declared ∈ document.structs) {fields : List Field}
    (found : document.effectiveFields declared = .ok fields) {field : Field}
    (effective : field ∈ fields) : ∃ ref, document.resolve field.type = .ok ref := by
  obtain ⟨others, again, typed⟩ := (exists_types_of_lines made).1 declared member
  cases found.symm.trans again
  exact typed field effective

theorem exists_type_of_alternative {lines : List Text} (made : document.lines layout = .ok lines)
    {declared : Variant} (member : declared ∈ document.variants) {expression : Text}
    (typed : expression ∈ declared.types) : ∃ ref, document.resolve expression = .ok ref :=
  (exists_types_of_lines made).2 declared member expression typed

theorem structBlock_eq_block {declared : Struct} {block : List Text}
    (made : document.structBlock layout declared = .ok block) :
    ∃ fields members, document.effectiveFields declared = .ok fields ∧
      fields.mapM (document.memberOutline layout declared) = .ok members ∧
        block = DeclarationOutline.block layout.indent
          ⟨layout.exported, layout.format declared.name, .interface members⟩ := by
  rw [structBlock_eq_map] at made
  obtain ⟨outline, given, rfl⟩ := exists_of_map_eq_ok made
  obtain ⟨fields, members, found, outlined, rfl⟩ := structOutline_eq_ok given
  exact ⟨fields, members, found, outlined, rfl⟩

theorem variantBlock_eq_block {declared : Variant} {block : List Text}
    (made : document.variantBlock layout declared = .ok block) :
    ∃ alternatives, declared.types.mapM (document.alternativeOutline layout declared) =
      .ok alternatives ∧
      block = DeclarationOutline.block layout.indent
        ⟨layout.exported, layout.format declared.name, .union alternatives⟩ := by
  rw [variantBlock_eq_map] at made
  obtain ⟨outline, given, rfl⟩ := exists_of_map_eq_ok made
  obtain ⟨alternatives, outlined, rfl⟩ := variantOutline_eq_ok given
  exact ⟨alternatives, outlined, rfl⟩

theorem memberLine_retyped (retype : Text → Text) (owner : Struct) {field : Field}
    (same : other.resolve (retype field.type) = document.resolve field.type) :
    other.memberLine layout (owner.retyped retype) (field.retyped retype) =
      document.memberLine layout owner field := by
  simp only [memberLine, resolveAt, Field.retyped, Struct.retyped, same]

theorem structBlock_retyped (retype : Text → Text) {declared : Struct}
    (inherited : other.effectiveFields (declared.retyped retype) =
      (document.effectiveFields declared).map (List.map (Field.retyped retype)))
    (types : ∀ fields, document.effectiveFields declared = .ok fields → ∀ field ∈ fields,
      other.resolve (retype field.type) = document.resolve field.type) :
    other.structBlock layout (declared.retyped retype) = document.structBlock layout declared := by
  unfold structBlock
  rw [inherited]
  cases found : document.effectiveFields declared with
  | error error => rfl
  | ok fields =>
      have members : (fields.map (Field.retyped retype)).mapM
          (other.memberLine layout (declared.retyped retype)) =
            fields.mapM (document.memberLine layout declared) := by
        rw [List.mapM_map]
        exact mapM_congr_of_mem (fun field member =>
          memberLine_retyped retype declared (types fields found field member))
      change ((fields.map (Field.retyped retype)).mapM
        (other.memberLine layout (declared.retyped retype)) >>= _) = _
      rw [members]
      rfl

theorem structBlock_eq_structBlock {declared : Struct}
    (inherited : other.effectiveFields declared = document.effectiveFields declared)
    (types : ∀ fields, document.effectiveFields declared = .ok fields → ∀ field ∈ fields,
      other.resolve field.type = document.resolve field.type) :
    other.structBlock layout declared = document.structBlock layout declared := by
  rw [← Field.map_retyped_id (document.effectiveFields declared)] at inherited
  have retyped : other.structBlock layout (declared.retyped id) =
      document.structBlock layout declared :=
    structBlock_retyped id (declared.retyped_id.symm ▸ inherited) types
  rwa [declared.retyped_id] at retyped

theorem variantBlock_eq_variantBlock {declared : Variant}
    (types : ∀ expression ∈ declared.types, other.resolve expression =
      document.resolve expression) :
    other.variantBlock layout declared = document.variantBlock layout declared := by
  have alternatives : declared.types.mapM (other.alternativeLine layout declared) =
      declared.types.mapM (document.alternativeLine layout declared) := by
    refine mapM_congr_of_mem (fun expression member => ?_)
    unfold alternativeLine resolveAt
    rw [types expression member]
  unfold variantBlock
  rw [alternatives]

end Document

end ContractTypes
