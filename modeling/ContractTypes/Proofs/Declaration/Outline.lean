import ContractTypes.Proofs.Inheritance
import ContractTypes.Proofs.Result
import ContractTypes.Proofs.TypeText
import ContractTypes.Proofs.TypeText.Shape

/-!
Outlines of declarations.

The outline of a document is what its declarations say, without how they say it: formatted names,
which members may be missing, tags, and the shapes of types.  The lines of a document are those of
its outline, and where its names are identifiers, so are the names in the outline, and its shapes
are well-formed.
-/

namespace ContractTypes

structure MemberOutline where
  name : Text
  mayBeMissing : Bool
  shape : TypeShape
deriving DecidableEq

structure AlternativeOutline where
  tag : Text
  shape : TypeShape
deriving DecidableEq

inductive DeclarationBody where
  | interface (members : List MemberOutline)
  | union (alternatives : List AlternativeOutline)
deriving DecidableEq

structure DeclarationOutline where
  exported : Bool
  name : Text
  body : DeclarationBody
deriving DecidableEq

def MemberOutline.line (indent : Text) (member : MemberOutline) : Text :=
  let mark : Text := if member.mayBeMissing then "?" else ""
  indent ++ member.name ++ mark ++ ": " ++ member.shape.text

def AlternativeOutline.line (indent : Text) (alternative : AlternativeOutline) : Text :=
  indent ++ "| [" ++ Json.literal alternative.tag ++ ", " ++ alternative.shape.text ++ "]"

def DeclarationOutline.block (indent : Text) (declared : DeclarationOutline) : List Text :=
  let exportText : Text := if declared.exported then "export " else []
  match declared.body with
  | .interface members =>
      (exportText ++ "interface " ++ declared.name ++ " \x7b") ::
        members.map (MemberOutline.line indent) ++ [Text.ofString "\x7d"]
  | .union [] => [exportText ++ "type " ++ declared.name ++ " =" ++ " never"]
  | .union alternatives =>
      (exportText ++ "type " ++ declared.name ++ " =") ::
        alternatives.map (AlternativeOutline.line indent)

theorem MemberOutline.line_ne_nil (indent : Text) (member : MemberOutline) :
    member.line indent ≠ [] :=
  List.append_ne_nil_of_left_ne_nil (List.append_ne_nil_of_right_ne_nil _ (List.cons_ne_nil _ _)) _

theorem AlternativeOutline.line_ne_nil (indent : Text) (alternative : AlternativeOutline) :
    alternative.line indent ≠ [] :=
  List.append_ne_nil_of_right_ne_nil _ (List.cons_ne_nil _ _)

theorem ne_nil_of_mem_block {indent : Text} {declared : DeclarationOutline} {line : Text}
    (member : line ∈ declared.block indent) : line ≠ [] := by
  obtain ⟨exported, name, body⟩ := declared
  cases body with
  | interface members =>
      rcases List.mem_append.1 member with inside | last
      · rcases List.mem_cons.1 inside with rfl | below
        · exact List.append_ne_nil_of_right_ne_nil _ (List.cons_ne_nil _ _)
        · obtain ⟨outline, _, rfl⟩ := List.mem_map.1 below
          exact outline.line_ne_nil indent
      · rw [List.mem_singleton.1 last]
        exact List.cons_ne_nil _ _
  | union alternatives =>
      cases alternatives with
      | nil =>
          rw [List.mem_singleton.1 member]
          exact List.append_ne_nil_of_right_ne_nil _ (List.cons_ne_nil _ _)
      | cons first rest =>
          rcases List.mem_cons.1 member with rfl | below
          · exact List.append_ne_nil_of_right_ne_nil _ (List.cons_ne_nil _ _)
          · obtain ⟨outline, _, rfl⟩ := List.mem_map.1 below
            exact outline.line_ne_nil indent

theorem block_ne_nil (indent : Text) (declared : DeclarationOutline) :
    declared.block indent ≠ [] := by
  obtain ⟨exported, name, body⟩ := declared
  cases body with
  | interface members => exact List.cons_ne_nil _ _
  | union alternatives => cases alternatives <;> exact List.cons_ne_nil _ _

namespace Document

def shapeOf (layout : Layout) (ref : TypeRef) : Except TransformError TypeShape :=
  ((ref.leafText layout.format).map (fun leafText => ref.shape leafText)).mapError .unwritable

def memberOutline (document : Document) (layout : Layout) (owner : Struct) (field : Field) :
    Except TransformError MemberOutline := do
  let ref ← document.resolveAt (.field field.name owner.name) field.type
  let shape ← shapeOf layout ref.present
  return ⟨layout.format field.name, ref.mayBeMissing, shape⟩

def structOutline (document : Document) (layout : Layout) (declared : Struct) :
    Except TransformError DeclarationOutline := do
  let fields ← (document.effectiveFields declared).mapError .inheritance
  let members ← fields.mapM (document.memberOutline layout declared)
  return ⟨layout.exported, layout.format declared.name, .interface members⟩

def alternativeOutline (document : Document) (layout : Layout) (owner : Variant)
    (expression : Text) : Except TransformError AlternativeOutline := do
  let ref ← document.resolveAt (.variant owner.name) expression
  let shape ← shapeOf layout ref
  return ⟨expression, shape⟩

def variantOutline (document : Document) (layout : Layout) (declared : Variant) :
    Except TransformError DeclarationOutline := do
  let alternatives ← declared.types.mapM (document.alternativeOutline layout declared)
  return ⟨layout.exported, layout.format declared.name, .union alternatives⟩

def outline (document : Document) (layout : Layout) :
    Except TransformError (List DeclarationOutline) := do
  let structs ← document.structs.mapM (document.structOutline layout)
  let variants ← document.variants.mapM (document.variantOutline layout)
  return structs ++ variants

/-! ### What an outline comes from -/

section Origin

variable {document : Document} {layout : Layout}

theorem exists_of_isDeclared {name : Text} (declared : document.isDeclared name = true) :
    (∃ struct ∈ document.structs, struct.name = name) ∨
    ∃ variant ∈ document.variants, variant.name = name := by
  rcases Bool.or_eq_true_iff.1 declared with struct | variant
  · obtain ⟨item, member, same⟩ := List.any_eq_true.1 struct
    exact .inl ⟨item, member, eq_of_beq same⟩
  · obtain ⟨item, member, same⟩ := List.any_eq_true.1 variant
    exact .inr ⟨item, member, eq_of_beq same⟩

theorem leafText_of_leaf? {name : Text} {leaf : TypeRef} (known : document.leaf? name = some leaf)
    {format : Text → Text} {text : Text} (written : leaf.leafText format = .ok text) :
    (document.isDeclared name = true ∧ text = format name) ∨ Scalar.typeText? name = some text := by
  rcases leaf?_eq_some known with ⟨rfl, declared⟩ | ⟨rfl, _, scalar⟩
  · exact .inl ⟨declared, (Except.ok.inj written).symm⟩
  · obtain ⟨type, found⟩ := Option.isSome_iff_exists.1 scalar
    rw [TypeRef.leafText, found] at written
    exact .inr (found.trans (congrArg some (Except.ok.inj written)))

theorem shapeOf_eq_ok {ref : TypeRef} {shape : TypeShape} (given : shapeOf layout ref = .ok shape) :
    ∃ text, ref.leafText layout.format = .ok text ∧ shape = ref.shape text := by
  obtain ⟨text, written, rfl⟩ := exists_of_map_eq_ok (eq_ok_of_mapError_eq_ok given)
  exact ⟨text, written, rfl⟩

theorem memberOutline_eq_ok {owner : Struct} {field : Field} {member : MemberOutline}
    (given : document.memberOutline layout owner field = .ok member) :
    ∃ ref shape, document.resolve field.type = .ok ref ∧ shapeOf layout ref.present = .ok shape ∧
      member = ⟨layout.format field.name, ref.mayBeMissing, shape⟩ := by
  unfold memberOutline at given
  obtain ⟨ref, resolved, given⟩ := exists_of_bind_eq_ok given
  obtain ⟨shape, shaped, given⟩ := exists_of_bind_eq_ok given
  cases given
  exact ⟨ref, shape, eq_ok_of_mapError_eq_ok resolved, shaped, rfl⟩

theorem alternativeOutline_eq_ok {owner : Variant} {expression : Text}
    {alternative : AlternativeOutline} (given :
    document.alternativeOutline layout owner expression = .ok alternative) :
    ∃ ref shape, document.resolve expression = .ok ref ∧ shapeOf layout ref = .ok shape ∧
      alternative = ⟨expression, shape⟩ := by
  unfold alternativeOutline at given
  obtain ⟨ref, resolved, given⟩ := exists_of_bind_eq_ok given
  obtain ⟨shape, shaped, given⟩ := exists_of_bind_eq_ok given
  cases given
  exact ⟨ref, shape, eq_ok_of_mapError_eq_ok resolved, shaped, rfl⟩

theorem structOutline_eq_ok {declared : Struct} {result : DeclarationOutline}
    (given : document.structOutline layout declared = .ok result) :
    ∃ fields members, document.effectiveFields declared = .ok fields ∧
      fields.mapM (document.memberOutline layout declared) = .ok members ∧
        result = ⟨layout.exported, layout.format declared.name, .interface members⟩ := by
  unfold structOutline at given
  obtain ⟨fields, found, given⟩ := exists_of_bind_eq_ok given
  obtain ⟨members, outlined, given⟩ := exists_of_bind_eq_ok given
  cases given
  exact ⟨fields, members, eq_ok_of_mapError_eq_ok found, outlined, rfl⟩

theorem variantOutline_eq_ok {declared : Variant} {result : DeclarationOutline}
    (given : document.variantOutline layout declared = .ok result) :
    ∃ alternatives, declared.types.mapM (document.alternativeOutline layout declared) =
      .ok alternatives ∧
      result = ⟨layout.exported, layout.format declared.name, .union alternatives⟩ := by
  unfold variantOutline at given
  obtain ⟨alternatives, outlined, given⟩ := exists_of_bind_eq_ok given
  cases given
  exact ⟨alternatives, outlined, rfl⟩

theorem outline_eq_ok {outlines : List DeclarationOutline}
    (given : document.outline layout = .ok outlines) :
    ∃ interfaces unions, document.structs.mapM (document.structOutline layout) = .ok interfaces ∧
      document.variants.mapM (document.variantOutline layout) = .ok unions ∧
        outlines = interfaces ++ unions := by
  unfold outline at given
  obtain ⟨interfaces, fromStructs, given⟩ := exists_of_bind_eq_ok given
  obtain ⟨unions, fromVariants, given⟩ := exists_of_bind_eq_ok given
  cases given
  exact ⟨interfaces, unions, fromStructs, fromVariants, rfl⟩

end Origin

end Document

namespace Document

variable (document : Document) (layout : Layout)

theorem writeType_eq_map_shapeOf (ref : TypeRef) :
    writeType layout ref = (shapeOf layout ref).map TypeShape.text := by
  unfold writeType shapeOf
  rw [TypeRef.text_eq_map_shape]
  cases ref.leafText layout.format <;> rfl

theorem memberLine_eq_map (owner : Struct) (field : Field) :
    document.memberLine layout owner field =
      (document.memberOutline layout owner field).map (MemberOutline.line layout.indent) := by
  unfold memberLine memberOutline
  cases document.resolveAt (.field field.name owner.name) field.type with
  | error error => rfl
  | ok ref =>
      change (writeType layout ref.present >>= _) = ((shapeOf layout ref.present >>= _).map _)
      rw [writeType_eq_map_shapeOf]
      cases shapeOf layout ref.present <;> rfl

theorem alternativeLine_eq_map (owner : Variant) (expression : Text) :
    document.alternativeLine layout owner expression =
      (document.alternativeOutline layout owner expression).map
      (AlternativeOutline.line layout.indent) := by
  unfold alternativeLine alternativeOutline
  cases document.resolveAt (.variant owner.name) expression with
  | error error => rfl
  | ok ref =>
      change (writeType layout ref >>= _) = ((shapeOf layout ref >>= _).map _)
      rw [writeType_eq_map_shapeOf]
      cases shapeOf layout ref <;> rfl

theorem structBlock_eq_map (declared : Struct) :
    document.structBlock layout declared =
      (document.structOutline layout declared).map (DeclarationOutline.block layout.indent) := by
  unfold structBlock structOutline
  cases document.effectiveFields declared with
  | error error => rfl
  | ok fields =>
      change (fields.mapM (document.memberLine layout declared) >>= _) =
        ((fields.mapM (document.memberOutline layout declared) >>= _).map _)
      rw [mapM_eq_map_mapM (document.memberLine_eq_map layout declared)]
      cases fields.mapM (document.memberOutline layout declared) <;> rfl

theorem variantBlock_eq_map (declared : Variant) :
    document.variantBlock layout declared =
      (document.variantOutline layout declared).map (DeclarationOutline.block layout.indent) := by
  unfold variantBlock variantOutline
  cases types : declared.types with
  | nil => rfl
  | cons first rest =>
      change ((first :: rest).mapM (document.alternativeLine layout declared) >>= _) = _
      rw [mapM_eq_map_mapM (document.alternativeLine_eq_map layout declared), List.mapM_cons]
      cases document.alternativeOutline layout declared first with
      | error error => rfl
      | ok alternative => cases rest.mapM (document.alternativeOutline layout declared) <;> rfl

/-- The lines of a document are the blocks of its outline, with an empty line between neighbours. -/
theorem lines_eq_map_outline :
    document.lines layout = (document.outline layout).map (fun outlines =>
      List.intercalate [[]] (outlines.map (DeclarationOutline.block layout.indent))) := by
  unfold lines blocks outline
  rw [mapM_eq_map_mapM (document.structBlock_eq_map layout),
    mapM_eq_map_mapM (document.variantBlock_eq_map layout)]
  cases document.structs.mapM (document.structOutline layout) with
  | error error => rfl
  | ok structs =>
      cases document.variants.mapM (document.variantOutline layout) with
      | error error => rfl
      | ok variants =>
          change Except.ok (List.intercalate [[]] (structs.map _ ++ variants.map _)) =
            Except.ok (List.intercalate [[]] ((structs ++ variants).map _))
          rw [List.map_append]

end Document

/-! ### Names and shapes in outlines -/

/-- What holds of each name and of each shape in a body. -/
def DeclarationBody.Holds (named : Text → Prop) (typed : TypeShape → Prop) : DeclarationBody → Prop
  | interface members => ∀ member ∈ members, named member.name ∧ typed member.shape
  | union alternatives => ∀ alternative ∈ alternatives, typed alternative.shape

def DeclarationOutline.Holds (named : Text → Prop) (typed : TypeShape → Prop)
    (declared : DeclarationOutline) : Prop :=
  named declared.name ∧ declared.body.Holds named typed

/-- What holds of each formatted name of a document, and of each shape over a leaf that it may have:
a formatted name that is declared, or the type of a scalar. -/
structure Document.Writes (document : Document) (layout : Layout) (named : Text → Prop)
    (typed : TypeShape → Prop) : Prop where
  structs : ∀ declared ∈ document.structs, named (layout.format declared.name)
  fields : ∀ declared ∈ document.structs, ∀ field ∈ declared.fields,
    named (layout.format field.name)
  variants : ∀ declared ∈ document.variants, named (layout.format declared.name)
  declaredLeaf : ∀ name, document.isDeclared name = true →
    ∀ ref : TypeRef, typed (ref.shape (layout.format name))
  scalarLeaf : ∀ name text, Scalar.typeText? name = some text →
    ∀ ref : TypeRef, typed (ref.shape text)

namespace Document

variable {document : Document} {layout : Layout} {named : Text → Prop} {typed : TypeShape → Prop}

theorem Writes.shapeOf (writes : document.Writes layout named typed) {expression : Text}
    {ref : TypeRef} (resolved : document.resolve expression = .ok ref) (part : TypeRef)
    (same : part.leafText layout.format = ref.leafText layout.format) {shape : TypeShape}
    (given : Document.shapeOf layout part = .ok shape) : typed shape := by
  obtain ⟨settled, leaf, _, known, rfl⟩ := resolve_eq_ok resolved
  obtain ⟨text, written, rfl⟩ := shapeOf_eq_ok given
  rw [same, TypeRef.leafText_wrapAll] at written
  rcases leafText_of_leaf? known written with ⟨declared, rfl⟩ | found
  · exact writes.declaredLeaf settled.name declared part
  · exact writes.scalarLeaf settled.name text found part

theorem Writes.structOutline (writes : document.Writes layout named typed) {declared : Struct}
    (member : declared ∈ document.structs) {result : DeclarationOutline}
    (given : document.structOutline layout declared = .ok result) : result.Holds named typed := by
  obtain ⟨fields, members, found, planned, rfl⟩ := structOutline_eq_ok given
  refine ⟨writes.structs declared member, ?_⟩
  refine forall_mem_of_mapM (fun field effective outline outlined => ?_) planned
  obtain ⟨ref, shape, resolved, shaped, rfl⟩ := memberOutline_eq_ok outlined
  obtain ⟨owner, owning, owned⟩ := exists_owner_of_mem_effectiveFields found member effective
  have same := ref.leafText_present layout.format
  exact ⟨writes.fields owner owning field owned, writes.shapeOf resolved ref.present same shaped⟩

theorem Writes.variantOutline (writes : document.Writes layout named typed) {declared : Variant}
    (member : declared ∈ document.variants) {result : DeclarationOutline}
    (given : document.variantOutline layout declared = .ok result) : result.Holds named typed := by
  obtain ⟨alternatives, planned, rfl⟩ := variantOutline_eq_ok given
  refine ⟨writes.variants declared member, ?_⟩
  refine forall_mem_of_mapM (fun expression _ outline outlined => ?_) planned
  obtain ⟨ref, shape, resolved, shaped, rfl⟩ := alternativeOutline_eq_ok outlined
  exact writes.shapeOf resolved ref rfl shaped

theorem Writes.outline (writes : document.Writes layout named typed)
    {outlines : List DeclarationOutline} (given : document.outline layout = .ok outlines) :
    ∀ declared ∈ outlines, declared.Holds named typed := by
  obtain ⟨structs, variants, fromStructs, fromVariants, rfl⟩ := outline_eq_ok given
  intro declared member
  rcases List.mem_append.1 member with first | second
  · exact forall_mem_of_mapM (fun _ inside _ => writes.structOutline inside) fromStructs declared
      first
  · exact forall_mem_of_mapM (fun _ inside _ => writes.variantOutline inside) fromVariants declared
      second

end Document

def MemberOutline.WellFormed (member : MemberOutline) : Prop :=
  member.name.isIdentifier = true ∧ member.shape.WellFormed

def DeclarationBody.WellFormed : DeclarationBody → Prop
  | interface members => ∀ member ∈ members, member.WellFormed
  | union alternatives => ∀ alternative ∈ alternatives, alternative.shape.WellFormed

/-- A declaration whose names are identifiers and whose types can be read back. -/
def DeclarationOutline.WellFormed (declared : DeclarationOutline) : Prop :=
  declared.name.isIdentifier = true ∧ declared.body.WellFormed

theorem DeclarationOutline.wellFormed_of_holds {declared : DeclarationOutline}
    (holds : declared.Holds (fun name => name.isIdentifier = true) TypeShape.WellFormed) :
    declared.WellFormed := by
  obtain ⟨exported, name, body⟩ := declared
  cases body with
  | interface members => exact holds
  | union alternatives => exact holds

def Layout.KeepsIdentifiers (layout : Layout) : Prop :=
  ∀ name : Text, name.isIdentifier = true → (layout.format name).isIdentifier = true

structure Document.PlainNames (document : Document) : Prop where
  structs : ∀ declared ∈ document.structs, declared.name.isIdentifier = true
  fields : ∀ declared ∈ document.structs, ∀ field ∈ declared.fields, field.name.isIdentifier = true
  variants : ∀ declared ∈ document.variants, declared.name.isIdentifier = true

namespace Document

variable {document : Document} {layout : Layout}

theorem PlainNames.of_isDeclared (plain : document.PlainNames) {name : Text}
    (declared : document.isDeclared name = true) : name.isIdentifier = true := by
  rcases exists_of_isDeclared declared with ⟨struct, member, rfl⟩ | ⟨variant, member, rfl⟩
  · exact plain.structs struct member
  · exact plain.variants variant member

theorem PlainNames.writes (plain : document.PlainNames) (keeps : layout.KeepsIdentifiers) :
    document.Writes layout (fun name => name.isIdentifier = true) TypeShape.WellFormed where
  structs := fun declared member => keeps _ (plain.structs declared member)
  fields := fun declared member field inside => keeps _ (plain.fields declared member field inside)
  variants := fun declared member => keeps _ (plain.variants declared member)
  declaredLeaf := fun name declared ref =>
    ref.wellFormed_shape (Bool.or_eq_true_iff.2 (.inl (keeps name (plain.of_isDeclared declared))))
  scalarLeaf := fun _ _ found ref => ref.wellFormed_shape (Scalar.isLeafText_typeText found)

theorem wellFormed_outline (plain : document.PlainNames) (keeps : layout.KeepsIdentifiers)
    {outlines : List DeclarationOutline} (given : document.outline layout = .ok outlines) :
    ∀ declared ∈ outlines, declared.WellFormed := by
  intro declared member
  exact declared.wellFormed_of_holds ((plain.writes keeps).outline given declared member)

end Document

end ContractTypes
