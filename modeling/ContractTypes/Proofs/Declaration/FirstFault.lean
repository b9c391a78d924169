import ContractTypes.Declaration
import ContractTypes.Proofs.Naming.Casing
import ContractTypes.Proofs.Result
import ContractTypes.Proofs.TypeText

/-!
The first fault of a document.

The items of a document are the base chains of its structs, each followed by the fields along it,
and then the alternatives of its variants.  An item has a fault if its chain or its type cannot be
found.  The lines of a document are its declarations if no item has a fault, and otherwise they fail
with the fault of the first item that has one: nothing else that goes into a line can fail.
-/

namespace ContractTypes

/-- A part of a document that may have a fault. -/
inductive Item where
  | chain (declared : Struct)
  | member (owner : Struct) (field : Field)
  | alternative (owner : Variant) (expression : Text)

namespace Item

/-- The fault of an item: its chain or its type is not found, for the reason that the search
gives. -/
def fault? (document : Document) : Item → Option TransformError
  | chain declared =>
      match document.effectiveFields declared with
      | .ok _ => none
      | .error cause => some (.inheritance cause)
  | member owner field =>
      match document.resolve field.type with
      | .ok _ => none
      | .error cause => some (.unresolved cause (.field field.name owner.name))
  | alternative owner expression =>
      match document.resolve expression with
      | .ok _ => none
      | .error cause => some (.unresolved cause (.variant owner.name))

variable {document : Document}

theorem fault?_chain_eq_none_iff {declared : Struct} :
    (chain declared).fault? document = none ↔
      ∃ fields, document.effectiveFields declared = .ok fields := by
  simp only [fault?]
  cases document.effectiveFields declared <;> simp

theorem fault?_member_eq_none_iff {owner : Struct} {field : Field} :
    (member owner field).fault? document = none ↔ ∃ ref, document.resolve field.type = .ok ref := by
  simp only [fault?]
  cases document.resolve field.type <;> simp

theorem fault?_alternative_eq_none_iff {owner : Variant} {expression : Text} :
    (alternative owner expression).fault? document = none ↔
      ∃ ref, document.resolve expression = .ok ref := by
  simp only [fault?]
  cases document.resolve expression <;> simp

theorem fault?_ne_unwritable (item : Item) (cause : TypeTextError) :
    item.fault? document ≠ some (.unwritable cause) := by
  intro fault
  cases item with
  | chain declared =>
      simp only [fault?] at fault
      split at fault <;> cases fault
  | member owner field =>
      simp only [fault?] at fault
      split at fault <;> cases fault
  | alternative owner expression =>
      simp only [fault?] at fault
      split at fault <;> cases fault

end Item

namespace Document

def structItems (document : Document) (declared : Struct) : List Item :=
  .chain declared ::
    match document.effectiveFields declared with
    | .ok fields => fields.map (Item.member declared)
    | .error _ => []

def variantItems (declared : Variant) : List Item := declared.types.map (Item.alternative declared)

def items (document : Document) : List Item :=
  document.structs.flatMap document.structItems ++ document.variants.flatMap variantItems

variable (document : Document) (layout : Layout)

theorem faultOf_writeType {document : Document} {expression : Text} {ref : TypeRef}
    (resolved : document.resolve expression = .ok ref) (part : TypeRef)
    (same : part.leafText layout.format = ref.leafText layout.format) :
    faultOf (writeType layout part) = none := by
  obtain ⟨leaf, leafWritten⟩ := exists_leafText_of_resolve resolved layout.format
  rw [← same] at leafWritten
  obtain ⟨text, written⟩ := TypeRef.exists_text_of_leafText leafWritten
  unfold writeType
  rw [written]
  rfl

theorem faultOf_memberLine (owner : Struct) (field : Field) :
    faultOf (document.memberLine layout owner field) =
      (Item.member owner field).fault? document := by
  unfold memberLine resolveAt
  simp only [Item.fault?]
  cases resolved : document.resolve field.type with
  | error cause => rfl
  | ok ref =>
      change faultOf (writeType layout ref.present >>= fun text => _) = none
      rw [faultOf_bind_of_total (fun _ => rfl)]
      exact faultOf_writeType layout resolved ref.present (ref.leafText_present layout.format)

theorem faultOf_alternativeLine (owner : Variant) (expression : Text) :
    faultOf (document.alternativeLine layout owner expression) =
      (Item.alternative owner expression).fault? document := by
  unfold alternativeLine resolveAt
  simp only [Item.fault?]
  cases resolved : document.resolve expression with
  | error cause => rfl
  | ok ref =>
      change faultOf (writeType layout ref >>= fun text => _) = none
      rw [faultOf_bind_of_total (fun _ => rfl)]
      exact faultOf_writeType layout resolved ref rfl

theorem faultOf_structBlock (declared : Struct) :
    faultOf (document.structBlock layout declared) =
      (document.structItems declared).findSome? (Item.fault? document) := by
  unfold structBlock structItems
  simp only [List.findSome?_cons, Item.fault?]
  cases document.effectiveFields declared with
  | error cause => rfl
  | ok fields =>
      change faultOf (fields.mapM (document.memberLine layout declared) >>= fun members => _) = _
      rw [faultOf_bind_of_total (fun _ => rfl), faultOf_mapM]
      simp only [faultOf_memberLine, List.findSome?_map]
      rfl

theorem faultOf_variantBlock (declared : Variant) :
    faultOf (document.variantBlock layout declared) =
      (variantItems declared).findSome? (Item.fault? document) := by
  unfold variantBlock variantItems
  cases declared.types with
  | nil => rfl
  | cons first rest =>
      change faultOf
        ((first :: rest).mapM (document.alternativeLine layout declared) >>= fun lines => _) = _
      rw [faultOf_bind_of_total (fun _ => rfl), faultOf_mapM]
      simp only [faultOf_alternativeLine, List.findSome?_map]
      rfl

theorem faultOf_lines :
    faultOf (document.lines layout) = document.items.findSome? (Item.fault? document) := by
  have variants : faultOf (document.variants.mapM (document.variantBlock layout)) =
      (document.variants.flatMap variantItems).findSome? (Item.fault? document) := by
    simp only [faultOf_mapM, faultOf_variantBlock, findSome?_flatMap]
  have structs : faultOf (document.structs.mapM (document.structBlock layout)) =
      (document.structs.flatMap document.structItems).findSome? (Item.fault? document) := by
    simp only [faultOf_mapM, faultOf_structBlock, findSome?_flatMap]
  unfold lines blocks items
  rw [faultOf_map, List.findSome?_append, ← structs, ← variants]
  refine faultOf_bind (fun blocks => ?_) _
  exact faultOf_bind_of_total (fun _ => rfl) _

theorem structItems_faultless_iff (declared : Struct) :
    (∀ item ∈ document.structItems declared, item.fault? document = none) ↔
      ∃ fields, document.effectiveFields declared = .ok fields ∧
        ∀ field ∈ fields, ∃ ref, document.resolve field.type = .ok ref := by
  unfold structItems
  rw [List.forall_mem_cons, Item.fault?_chain_eq_none_iff]
  cases document.effectiveFields declared with
  | error cause => simp
  | ok fields =>
      simp only [List.forall_mem_map, Item.fault?_member_eq_none_iff, Except.ok.injEq, exists_eq',
        true_and, exists_eq_left']

theorem variantItems_faultless_iff (declared : Variant) :
    (∀ item ∈ variantItems declared, item.fault? document = none) ↔
      ∀ expression ∈ declared.types, ∃ ref, document.resolve expression = .ok ref := by
  unfold variantItems
  simp only [List.forall_mem_map, Item.fault?_alternative_eq_none_iff]

theorem items_faultless_iff :
    (∀ item ∈ document.items, item.fault? document = none) ↔
      (∀ declared ∈ document.structs, ∃ fields, document.effectiveFields declared = .ok fields ∧
        ∀ field ∈ fields, ∃ ref, document.resolve field.type = .ok ref) ∧
      ∀ declared ∈ document.variants, ∀ expression ∈ declared.types,
        ∃ ref, document.resolve expression = .ok ref := by
  simp only [← structItems_faultless_iff, ← variantItems_faultless_iff]
  unfold items
  rw [List.forall_mem_append]
  simp only [List.forall_mem_flatMap]

/-- The lines of a document are there exactly where every chain and every type is found.  Otherwise
the fault of the first item that has one is the error, with the reason that the search for that item
gives; no text of a type fails, and the camel form always finds the head that it makes small. -/
theorem lines_outcome :
    ((∃ lines, document.lines layout = .ok lines) ↔
      (∀ declared ∈ document.structs, ∃ fields, document.effectiveFields declared = .ok fields ∧
        ∀ field ∈ fields, ∃ ref, document.resolve field.type = .ok ref) ∧
      ∀ declared ∈ document.variants, ∀ expression ∈ declared.types,
        ∃ ref, document.resolve expression = .ok ref) ∧
    (∀ error, document.lines layout = .error error ↔
      ∃ before item after, document.items = before ++ item :: after ∧
        (∀ earlier ∈ before, earlier.fault? document = none) ∧ item.fault? document = some error) ∧
    (∀ cause, document.lines layout ≠ .error (.unwritable cause)) ∧
    ∀ name, ∃ head rest, Naming.pascal name = head :: rest ∧
      Naming.camel name = head.small ++ rest := by
  have first (error : TransformError) : document.lines layout = .error error ↔
      ∃ before item after, document.items = before ++ item :: after ∧
        (∀ earlier ∈ before, earlier.fault? document = none) ∧
          item.fault? document = some error := by
    rw [← faultOf_eq_some_iff, faultOf_lines, List.findSome?_eq_some_iff]
    simp only [and_comm (b := ∀ earlier ∈ _, _)]
  refine ⟨?_, first, ?_, ?_⟩
  · rw [← faultOf_eq_none_iff, faultOf_lines, List.findSome?_eq_none_iff]
    exact items_faultless_iff document
  · intro cause failed
    obtain ⟨_, item, _, _, _, fault⟩ := (first _).1 failed
    exact item.fault?_ne_unwritable cause fault
  · intro name
    obtain ⟨head, rest, pascal⟩ := Naming.exists_pascal_eq_cons name
    refine ⟨head, rest, pascal, ?_⟩
    unfold Naming.camel
    rw [pascal]
    rfl

end Document

end ContractTypes
