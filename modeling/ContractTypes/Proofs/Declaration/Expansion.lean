import ContractTypes.Proofs.Declaration.Blocks
import ContractTypes.Proofs.NameTable

/-!
Expansion of aliases.

An expression is expanded by the expression of the type that it resolves to, which leads through no
alias.  The expanded types of fields give the same lines, and expanded alternatives give lines that
differ in their tags only.  When all types are expanded, no alias is looked up with success any
more, and the lines stay as they are when all aliases are left out.
-/

namespace ContractTypes

def AlternativeOutline.retagged (retag : Text → Text) (alternative : AlternativeOutline) :
    AlternativeOutline :=
  { alternative with tag := retag alternative.tag }

def Variant.retyped (retype : Text → Text) (declared : Variant) : Variant :=
  { declared with types := declared.types.map retype }

def Layout.unionBlock (layout : Layout) (name : Text) (alternatives : List AlternativeOutline) :
    List Text :=
  DeclarationOutline.block layout.indent ⟨layout.exported, layout.format name, .union alternatives⟩

namespace Document

/-- The expression of the type that an expression resolves to.  An expression without a type is left
as it is. -/
def expandedType (document : Document) (expression : Text) : Text :=
  match document.resolve expression with
  | .ok ref => ref.expression
  | .error _ => expression

def retyped (document : Document) (ofField ofAlternative : Text → Text) : Document :=
  { document with
    structs := document.structs.map (Struct.retyped ofField)
    variants := document.variants.map (Variant.retyped ofAlternative) }

def withoutAliases (document : Document) : Document := { document with aliases := [] }

def linesOf (document : Document) (layout : Layout) (interface : Struct → List Text)
    (alternatives : Variant → List AlternativeOutline) : List Text :=
  List.intercalate [[]] (document.structs.map interface ++
    document.variants.map (fun declared => layout.unionBlock declared.name (alternatives declared)))

variable {document other : Document} {layout : Layout}

theorem isDeclared_retyped (ofField ofAlternative : Text → Text) (name : Text) :
    (document.retyped ofField ofAlternative).isDeclared name = document.isDeclared name := by
  have namedStruct (declared : Struct) : (declared.retyped ofField).name = declared.name := rfl
  have namedVariant (declared : Variant) : (declared.retyped ofAlternative).name = declared.name :=
    rfl
  exact congrArg₂ or (NameTable.has_map namedStruct name document.structs)
    (NameTable.has_map namedVariant name document.variants)

theorem resolve_retyped (ofField ofAlternative : Text → Text) (expression : Text) :
    (document.retyped ofField ofAlternative).resolve expression = document.resolve expression := by
  have aliases (name : Text) : (document.retyped ofField ofAlternative).alias? name =
    document.alias? name := rfl
  exact resolve_congr aliases (isDeclared_retyped ofField ofAlternative) expression

theorem alternativeOutline_retyped (retype : Text → Text) (owner : Variant) {expression : Text}
    (same : other.resolve (retype expression) = document.resolve expression) :
    other.alternativeOutline layout (owner.retyped retype) (retype expression) =
      (document.alternativeOutline layout owner expression).map
      (AlternativeOutline.retagged retype) := by
  unfold alternativeOutline resolveAt
  rw [same]
  cases document.resolve expression with
  | error error => rfl
  | ok ref =>
      change (shapeOf layout ref >>= _) = (shapeOf layout ref >>= _).map _
      cases shapeOf layout ref <;> rfl

theorem variantBlock_retyped (retype : Text → Text) {declared : Variant}
    {alternatives : List AlternativeOutline}
    (given : declared.types.mapM (document.alternativeOutline layout declared) = .ok alternatives)
    (types : ∀ expression ∈ declared.types,
      other.resolve (retype expression) = document.resolve expression) :
    other.variantBlock layout (declared.retyped retype) =
      .ok (layout.unionBlock declared.name
        (alternatives.map (AlternativeOutline.retagged retype))) := by
  have retagged : (declared.types.map retype).mapM
    (other.alternativeOutline layout (declared.retyped retype)) =
      .ok (alternatives.map (AlternativeOutline.retagged retype)) := by
    have each : ∀ expression ∈ declared.types,
        (other.alternativeOutline layout (declared.retyped retype) ∘ retype) expression =
          (document.alternativeOutline layout declared expression).map
            (AlternativeOutline.retagged retype) :=
      fun expression member => alternativeOutline_retyped retype declared (types expression member)
    rw [List.mapM_map, mapM_congr_of_mem each, mapM_eq_map_mapM (fun _ => rfl), given]
    rfl
  rw [variantBlock_eq_map]
  unfold variantOutline
  change (((declared.types.map retype).mapM
    (other.alternativeOutline layout (declared.retyped retype)) >>=
    _).map _) = _
  rw [retagged]
  rfl

/-- Another document has other types in the place of those of a document, and each of them resolves
there as the one in its place does here. -/
structure KeepsTypes (document other : Document) (ofField ofAlternative : Text → Text) : Prop where
  structs : other.structs = document.structs.map (Struct.retyped ofField)
  variants : other.variants = document.variants.map (Variant.retyped ofAlternative)
  fieldTypes : ∀ declared ∈ document.structs, ∀ fields, document.effectiveFields declared =
    .ok fields →
    ∀ field ∈ fields, other.resolve (ofField field.type) = document.resolve field.type
  variantTypes : ∀ declared ∈ document.variants, ∀ expression ∈ declared.types,
    other.resolve (ofAlternative expression) = document.resolve expression

theorem KeepsTypes.struct?_eq {ofField ofAlternative : Text → Text}
    (keeps : document.KeepsTypes other ofField ofAlternative) {name : Text} {base : Struct}
    (found : document.struct? name = some base) :
    other.struct? name = some (base.retyped ofField) := by
  have named (declared : Struct) : (declared.retyped ofField).name = declared.name := rfl
  unfold struct? at found ⊢
  rw [keeps.structs, NameTable.first?_map named, found]
  rfl

theorem KeepsTypes.structBlock_eq {ofField ofAlternative : Text → Text}
    (keeps : document.KeepsTypes other ofField ofAlternative) {declared : Struct}
    (member : declared ∈ document.structs) {block : List Text}
    (made : document.structBlock layout declared = .ok block) :
    other.structBlock layout (declared.retyped ofField) = .ok block := by
  obtain ⟨fields, _, found, _⟩ := structBlock_eq_block made
  have inherited := effectiveFields_retyped ofField (fun _ _ => keeps.struct?_eq)
    (fun name base failed => by cases found.symm.trans failed)
  exact (structBlock_retyped ofField inherited (keeps.fieldTypes declared member)).trans made

theorem KeepsTypes.lines_eq {ofField ofAlternative : Text → Text}
    (keeps : document.KeepsTypes other ofField ofAlternative) {interface : Struct → List Text}
    {alternatives : Variant → List AlternativeOutline}
    (ofStructs : ∀ declared ∈ document.structs, document.structBlock layout declared =
      .ok (interface declared))
    (ofVariants : ∀ declared ∈ document.variants,
      declared.types.mapM (document.alternativeOutline layout declared) =
        .ok (alternatives declared)) :
    other.lines layout = .ok (document.linesOf layout interface
      (fun declared => (alternatives declared).map
        (AlternativeOutline.retagged ofAlternative))) := by
  have eachStruct : ∀ declared ∈ document.structs,
      (other.structBlock layout ∘ Struct.retyped ofField) declared = .ok (interface declared) :=
    fun declared member => keeps.structBlock_eq member (ofStructs declared member)
  have eachVariant : ∀ declared ∈ document.variants,
      (other.variantBlock layout ∘ Variant.retyped ofAlternative) declared =
        .ok (layout.unionBlock declared.name
          ((alternatives declared).map (AlternativeOutline.retagged ofAlternative))) :=
    fun declared member =>
      variantBlock_retyped ofAlternative (ofVariants declared member)
        (keeps.variantTypes declared member)
  unfold lines blocks
  rw [keeps.structs, keeps.variants, List.mapM_map, List.mapM_map, mapM_eq_ok_map eachStruct,
    mapM_eq_ok_map eachVariant]
  rfl

theorem exists_alternatives_of_lines {lines : List Text}
    (made : document.lines layout = .ok lines) : ∃ interface alternatives,
      (∀ declared ∈ document.structs, document.structBlock layout declared =
        .ok (interface declared)) ∧
      (∀ declared ∈ document.variants,
        declared.types.mapM (document.alternativeOutline layout declared) =
          .ok (alternatives declared)) ∧
      lines = document.linesOf layout interface alternatives := by
  obtain ⟨structs, variants, ofStructs, ofVariants, rfl⟩ := lines_eq_ok made
  obtain ⟨interface, rfl, eachStruct⟩ := exists_map_of_mapM ofStructs
  obtain ⟨alternatives, rfl, eachVariant⟩ := exists_choice_of_mapM
    (fun declared alternatives => layout.unionBlock declared.name alternatives)
    (fun declared alternatives =>
      declared.types.mapM (document.alternativeOutline layout declared) = .ok alternatives)
    (fun declared block given => by
      obtain ⟨alternatives, outlined, same⟩ := variantBlock_eq_block given
      exact ⟨alternatives, same, outlined⟩) ofVariants
  exact ⟨interface, alternatives, eachStruct, eachVariant, rfl⟩

/-! ### Expansion -/

theorem expandedType_of_resolve {expression : Text} {ref : TypeRef}
    (resolved : document.resolve expression = .ok ref) :
    document.expandedType expression = ref.expression := by
  unfold expandedType
  rw [resolved]

/-- The expansion of an expression resolves as the expression does, in every document that declares
the same names and has no other aliases. -/
theorem resolve_expandedType {expression : Text}
    (typed : ∃ ref, document.resolve expression = .ok ref)
    (declared : ∀ name, other.isDeclared name = document.isDeclared name)
    (aliases : ∀ name, document.isAlias name = false → other.isAlias name = false) :
    other.resolve (document.expandedType expression) = document.resolve expression := by
  obtain ⟨ref, resolved⟩ := typed
  have admitted := admits_of_resolve resolved
  rw [expandedType_of_resolve resolved, resolved]
  exact (admitted.transfer (declared ref.leafName) (aliases _ admitted.noAlias)).resolve_expression

section Expansions

variable {lines : List Text} (made : document.lines layout = .ok lines)

include made

theorem keepsTypes_expandedFields :
    document.KeepsTypes (document.retyped document.expandedType id) document.expandedType id where
  structs := rfl
  variants := rfl
  fieldTypes := fun _ member _ found _ effective =>
    resolve_expandedType (exists_type_of_field made member found effective)
      (isDeclared_retyped _ _) (fun _ => id)
  variantTypes := fun _ _ expression _ => resolve_retyped _ _ expression

theorem keepsTypes_expandedAlternatives :
    document.KeepsTypes (document.retyped id document.expandedType) id document.expandedType where
  structs := rfl
  variants := rfl
  fieldTypes := fun _ _ _ _ field _ => resolve_retyped _ _ field.type
  variantTypes := fun _ member _ typed =>
    resolve_expandedType (exists_type_of_alternative made member typed) (isDeclared_retyped _ _)
      (fun _ => id)

/-- With all types expanded, it makes no difference what aliases of the document are left. -/
theorem keepsTypes_expanded
    (structs : other.structs = document.structs.map (Struct.retyped document.expandedType))
    (variants : other.variants = document.variants.map (Variant.retyped document.expandedType))
    (aliases : ∀ name, document.isAlias name = false → other.isAlias name = false) :
    document.KeepsTypes other document.expandedType document.expandedType := by
  have declared (name : Text) : other.isDeclared name = document.isDeclared name := by
    refine Eq.trans ?_ (isDeclared_retyped document.expandedType document.expandedType name)
    unfold isDeclared
    rw [structs, variants]
    rfl
  exact {
    structs := structs
    variants := variants
    fieldTypes := fun _ member _ found _ effective =>
      resolve_expandedType (exists_type_of_field made member found effective) declared aliases
    variantTypes := fun _ member _ typed =>
      resolve_expandedType (exists_type_of_alternative made member typed) declared aliases }

end Expansions

/-- Where a document has lines, all its types expand.  With the types of fields expanded it has the
same lines; with the alternatives expanded the lines differ in the tags only; and with both expanded
it has these lines also without any alias. -/
theorem lines_of_expanded {lines : List Text} (made : document.lines layout = .ok lines) :
    ((∀ declared ∈ document.structs, ∀ field ∈ declared.fields, ∃ ref,
        document.resolve field.type = .ok ref ∧ document.expandedType field.type = ref.expression) ∧
      ∀ declared ∈ document.variants, ∀ expression ∈ declared.types, ∃ ref,
        document.resolve expression = .ok ref ∧ document.expandedType expression = ref.expression) ∧
    (document.retyped document.expandedType id).lines layout = .ok lines ∧
    (∃ interface alternatives,
      (∀ declared ∈ document.variants,
        (alternatives declared).map AlternativeOutline.tag = declared.types) ∧
      lines = document.linesOf layout interface alternatives ∧
      let retagged := document.linesOf layout interface
        (fun declared => (alternatives declared).map
          (AlternativeOutline.retagged document.expandedType))
      (document.retyped id document.expandedType).lines layout = .ok retagged ∧
      (document.retyped document.expandedType document.expandedType).lines layout = .ok retagged) ∧
    (document.retyped document.expandedType document.expandedType).withoutAliases.lines layout =
      (document.retyped document.expandedType document.expandedType).lines layout := by
  obtain ⟨interface, alternatives, ofStructs, ofVariants, rfl⟩ := exists_alternatives_of_lines made
  have unchanged : (fun declared => (alternatives declared).map (AlternativeOutline.retagged id)) =
      alternatives := funext (fun declared => List.map_id (alternatives declared))
  have expanded : document.KeepsTypes (document.retyped document.expandedType document.expandedType)
    document.expandedType document.expandedType := keepsTypes_expanded made rfl rfl (fun _ => id)
  have both := expanded.lines_eq ofStructs ofVariants
  refine ⟨⟨?_, ?_⟩, ?_, ⟨interface, alternatives, ?_, rfl, ?_, both⟩, ?_⟩
  · intro declared member field own
    obtain ⟨fields, found, _⟩ := (exists_types_of_lines made).1 declared member
    obtain ⟨ref, resolved⟩ :=
      exists_type_of_field made member found (mem_effectiveFields_of_mem_fields found own)
    exact ⟨ref, resolved, expandedType_of_resolve resolved⟩
  · intro declared member expression typed
    obtain ⟨ref, resolved⟩ := exists_type_of_alternative made member typed
    exact ⟨ref, resolved, expandedType_of_resolve resolved⟩
  · have fields := (keepsTypes_expandedFields made).lines_eq ofStructs ofVariants
    rwa [unchanged] at fields
  · intro declared member
    exact map_eq_of_mapM (fun expression alternative outlined => by
      obtain ⟨_, _, _, _, rfl⟩ := alternativeOutline_eq_ok outlined
      rfl) (ofVariants declared member)
  · exact (keepsTypes_expandedAlternatives made).lines_eq ofStructs ofVariants
  · rw [both]
    exact (keepsTypes_expanded made rfl rfl (fun _ _ => rfl)).lines_eq ofStructs ofVariants

/-- A document in which an alias for another alias has the name of a scalar, and one has the name of
a struct. -/
def wallet : Document where
  version := "eosio::abi/1.2"
  aliases := [⟨"asset", "coin[]"⟩, ⟨"coin", "old?"⟩, ⟨"old", "purse"⟩]
  structs := [
    ⟨"purse", [], [⟨"keys", "public_key[]"⟩]⟩,
    ⟨"old", "purse", [⟨"held", "asset$"⟩, ⟨"spare", "coin"⟩]⟩]
  actions := []
  tables := []
  clauses := []
  errorMessages := []
  extensions := []
  variants := [⟨"kind", ["coin", "asset?", "uint8"]⟩]

def walletLayout : Layout := ⟨"\t", 1, Naming.pascal, false⟩

def walletLines (coins assets : Text) : List Text := [
  "interface Purse \x7b", "\tKeys: string[]", "\x7d", "",
  "interface Old \x7b", "\tKeys: string[]", "\tHeld?: (Purse | undefined)[]", "\tSpare?: Purse",
    "\x7d", "",
  "type Kind =", "\t| [\"" ++ coins ++ "\", Purse | undefined]",
  "\t| [\"" ++ assets ++ "\", (Purse | undefined)[] | undefined]", "\t| [\"uint8\", number]"]

theorem wallet_lines_of_expanded :
    wallet.lines walletLayout = .ok (walletLines "coin" "asset?") ∧
    (wallet.retyped wallet.expandedType id).lines walletLayout = .ok (walletLines "coin" "asset?") ∧
    (wallet.retyped wallet.expandedType wallet.expandedType).withoutAliases.lines walletLayout =
      .ok (walletLines "purse?" "purse?[]?") := by
  have written : wallet.lines walletLayout = .ok (walletLines "coin" "asset?") := by decide +kernel
  have tagged : (wallet.retyped wallet.expandedType wallet.expandedType).lines walletLayout =
    .ok (walletLines "purse?" "purse?[]?") := by decide +kernel
  obtain ⟨_, fields, _, unaliased⟩ := lines_of_expanded written
  exact ⟨written, fields, unaliased.trans tagged⟩

end Document

end ContractTypes
