import ContractTypes.Naming.Convention
import ContractTypes.Proofs.Declaration.Blocks
import ContractTypes.Proofs.Text.Paragraphs

/-!
References between declarations.

A declared name at the leaf of a type is that of a struct or of a variant, and each of these has a
block.  The formatter writes the name at the leaf as it writes it in the first line of the block.
So the lines of a document are closed: what a type in them refers to is declared in them.
-/

namespace ContractTypes

/-- The lines that begin the declaration of a written name: an interface, a union with alternatives,
or a union without any. -/
def Layout.heads (layout : Layout) (written : Text) : List Text := [
  layout.exportText ++ "interface " ++ written ++ " \x7b",
  layout.exportText ++ "type " ++ written ++ " =",
  layout.exportText ++ "type " ++ written ++ " =" ++ " never"]

/-- Among the lines of some blocks is one that begins a block and declares a written name. -/
def Layout.Declares (layout : Layout) (blocks : List (List Text)) (written : Text) : Prop :=
  ∃ head ∈ layout.heads written, head ∈ List.intercalate [[]] blocks ∧
    ∃ block ∈ blocks, block.head? = some head

theorem DeclarationOutline.head?_block_mem (layout : Layout) (written : Text)
    (body : DeclarationBody) : ∃ head ∈ layout.heads written,
      (DeclarationOutline.block layout.indent ⟨layout.exported, written, body⟩).head? =
        some head := by
  cases body with
  | interface members => exact ⟨_, List.mem_cons_self, rfl⟩
  | union alternatives =>
      cases alternatives with
      | nil => exact ⟨_, List.mem_cons_of_mem _ (List.mem_cons_of_mem _ List.mem_cons_self), rfl⟩
      | cons first rest => exact ⟨_, List.mem_cons_of_mem _ List.mem_cons_self, rfl⟩

namespace TypeRef

theorem leafText_of_named {ref : TypeRef} {name : Text} (named : ref.leaf = .named name)
    (format : Text → Text) : ref.leafText format = .ok (format name) := by
  rw [← ref.wrapAll_markers_leaf, leafText_wrapAll, named]
  rfl

theorem leafName_of_named {ref : TypeRef} {name : Text} (named : ref.leaf = .named name) :
    ref.leafName = name := by
  rw [← ref.wrapAll_markers_leaf, leafName_wrapAll, named]
  rfl

end TypeRef

theorem AlternativeOutline.line_mem_block {layout : Layout} {written : Text}
    {alternatives : List AlternativeOutline} {alternative : AlternativeOutline}
    (member : alternative ∈ alternatives) :
    alternative.line layout.indent ∈
      DeclarationOutline.block layout.indent ⟨layout.exported, written, .union alternatives⟩ := by
  cases alternatives with
  | nil => cases member
  | cons first rest => exact List.mem_cons_of_mem _ (List.mem_map_of_mem member)

theorem MemberOutline.line_mem_block {layout : Layout} {written : Text}
    {members : List MemberOutline} {member : MemberOutline} (inside : member ∈ members) :
    member.line layout.indent ∈
      DeclarationOutline.block layout.indent ⟨layout.exported, written, .interface members⟩ :=
  List.mem_append_left _ (List.mem_cons_of_mem _ (List.mem_map_of_mem inside))

namespace Document

variable {document : Document} {layout : Layout} {blocks : List (List Text)}

theorem shapeOf_of_leafText {ref : TypeRef} {written : Text}
    (leaf : ref.leafText layout.format = .ok written) :
    shapeOf layout ref = .ok (ref.shape written) := by
  unfold shapeOf
  rw [leaf]
  rfl

theorem blocks_eq_ok (made : document.blocks layout = .ok blocks) :
    (∀ declared ∈ document.structs, ∃ block ∈ blocks, document.structBlock layout declared =
      .ok block) ∧
      ∀ declared ∈ document.variants, ∃ block ∈ blocks, document.variantBlock layout declared =
        .ok block := by
  unfold Document.blocks at made
  obtain ⟨structs, ofStructs, made⟩ := exists_of_bind_eq_ok made
  obtain ⟨variants, ofVariants, made⟩ := exists_of_bind_eq_ok made
  cases made
  refine ⟨fun declared member => ?_, fun declared member => ?_⟩
  · obtain ⟨block, inside, given⟩ := exists_mem_of_mapM ofStructs member
    exact ⟨block, List.mem_append_left variants inside, given⟩
  · obtain ⟨block, inside, given⟩ := exists_mem_of_mapM ofVariants member
    exact ⟨block, List.mem_append_right structs inside, given⟩

theorem declares_of_isDeclared (made : document.blocks layout = .ok blocks) {name : Text}
    (declared : document.isDeclared name = true) : layout.Declares blocks (layout.format name) := by
  have begun {block : List Text} (inside : block ∈ blocks)
      (begins : ∃ head ∈ layout.heads (layout.format name), block.head? = some head) :
      layout.Declares blocks (layout.format name) := by
    obtain ⟨head, known, first⟩ := begins
    exact ⟨head, known, mem_intercalate (List.mem_of_head? first) inside, block, inside, first⟩
  obtain ⟨ofStructs, ofVariants⟩ := blocks_eq_ok made
  rcases exists_of_isDeclared declared with ⟨struct, member, rfl⟩ | ⟨variant, member, rfl⟩
  · obtain ⟨block, inside, given⟩ := ofStructs struct member
    obtain ⟨_, _, _, _, rfl⟩ := structBlock_eq_block given
    exact begun inside (DeclarationOutline.head?_block_mem layout _ _)
  · obtain ⟨block, inside, given⟩ := ofVariants variant member
    obtain ⟨_, _, rfl⟩ := variantBlock_eq_block given
    exact begun inside (DeclarationOutline.head?_block_mem layout _ _)

theorem declares_of_named (made : document.blocks layout = .ok blocks) {expression : Text}
    {ref : TypeRef} (resolved : document.resolve expression = .ok ref) {name : Text}
    (named : ref.leaf = .named name) : layout.Declares blocks (layout.format name) := by
  have admitted := admits_of_resolve resolved
  obtain rfl := TypeRef.leafName_of_named named
  exact declares_of_isDeclared made (admitted.declared.1 named)

/-- The lines of a document are closed.  For each effective field, and for each alternative, whose
type has a declared name at its leaf, the lines hold the line of the field or of the alternative,
with the name at the leaf as the formatter writes it, and they hold the first line of a block that
declares just what is written there. -/
theorem references_declared {lines : List Text} (made : document.lines layout = .ok lines) :
    ∃ blocks, document.blocks layout = .ok blocks ∧ lines = List.intercalate [[]] blocks ∧
      (∀ declared ∈ document.structs, ∃ fields, document.effectiveFields declared = .ok fields ∧
        ∀ field ∈ fields, ∃ ref, document.resolve field.type = .ok ref ∧
          ∀ name, ref.leaf = .named name →
          MemberOutline.line layout.indent ⟨layout.format field.name, ref.mayBeMissing,
            ref.present.shape (layout.format name)⟩ ∈ lines ∧
          layout.Declares blocks (layout.format name)) ∧
      ∀ declared ∈ document.variants, ∀ expression ∈ declared.types,
        ∃ ref, document.resolve expression = .ok ref ∧ ∀ name, ref.leaf = .named name →
          AlternativeOutline.line layout.indent ⟨expression, ref.shape (layout.format name)⟩ ∈
            lines ∧
          layout.Declares blocks (layout.format name) := by
  obtain ⟨blocks, given, rfl⟩ := exists_of_map_eq_ok made
  obtain ⟨ofStructs, ofVariants⟩ := blocks_eq_ok given
  refine ⟨blocks, given, rfl, fun declared member => ?_, fun declared member expression typed => ?_⟩
  · obtain ⟨block, inside, written⟩ := ofStructs declared member
    obtain ⟨fields, members, found, outlined, rfl⟩ := structBlock_eq_block written
    refine ⟨fields, found, fun field effective => ?_⟩
    obtain ⟨outline, listed, outlines⟩ := exists_mem_of_mapM outlined effective
    obtain ⟨ref, shape, resolved, shaped, rfl⟩ := memberOutline_eq_ok outlines
    refine ⟨ref, resolved, fun name named => ⟨?_, declares_of_named given resolved named⟩⟩
    -- The wrapper that a member loses has nothing to do with the leaf.
    have leaf : ref.present.leafText layout.format = .ok (layout.format name) :=
      (ref.leafText_present layout.format).trans (TypeRef.leafText_of_named named layout.format)
    cases (shapeOf_of_leafText leaf).symm.trans shaped
    exact mem_intercalate (MemberOutline.line_mem_block listed) inside
  · obtain ⟨block, inside, written⟩ := ofVariants declared member
    obtain ⟨alternatives, outlined, rfl⟩ := variantBlock_eq_block written
    obtain ⟨outline, listed, outlines⟩ := exists_mem_of_mapM outlined typed
    obtain ⟨ref, shape, resolved, shaped, rfl⟩ := alternativeOutline_eq_ok outlines
    refine ⟨ref, resolved, fun name named => ⟨?_, declares_of_named given resolved named⟩⟩
    cases (shapeOf_of_leafText (TypeRef.leafText_of_named named layout.format)).symm.trans shaped
    exact mem_intercalate (AlternativeOutline.line_mem_block listed) inside

def ledger : Document where
  version := "eosio::abi/1.2"
  aliases := [⟨"causes", "entry[]"⟩]
  structs := [
    ⟨"payment", "entry", [⟨"state", "nothing$"⟩]⟩,
    ⟨"entry", [], [⟨"made_for", "causes?"⟩]⟩]
  actions := []
  tables := []
  clauses := []
  errorMessages := []
  extensions := []
  variants := [⟨"choice", ["payment?[]"]⟩, ⟨"nothing", []⟩]

def ledgerLayout : Layout := ⟨" ", 2, Convention.format .pascal (some "L_"), true⟩

def ledgerLines : List Text := [
  "export interface L_Payment \x7b", "  L_MadeFor?: L_Entry[]", "  L_State?: L_Nothing", "\x7d", "",
  "export interface L_Entry \x7b", "  L_MadeFor?: L_Entry[]", "\x7d", "",
  "export type L_Choice =", "  | [\"payment?[]\", (L_Payment | undefined)[]]", "",
  "export type L_Nothing = never"]

theorem ledger_references_declared : ledger.lines ledgerLayout = .ok ledgerLines ∧
    ∃ blocks, ledger.blocks ledgerLayout = .ok blocks ∧ ledgerLines = List.intercalate [[]] blocks ∧
      (("  L_MadeFor?: L_Entry[]" : Text) ∈ ledgerLines ∧ ledgerLayout.Declares blocks "L_Entry") ∧
      ("  | [\"payment?[]\", (L_Payment | undefined)[]]" : Text) ∈ ledgerLines ∧
        ledgerLayout.Declares blocks "L_Payment" := by
  have written : ledger.lines ledgerLayout = .ok ledgerLines := by decide +kernel
  have inherited : ledger.effectiveFields ⟨"payment", "entry", [⟨"state", "nothing$"⟩]⟩ =
    .ok [⟨"made_for", "causes?"⟩, ⟨"state", "nothing$"⟩] := by decide +kernel
  have entries : ledger.resolve "causes?" = .ok (.optional (.array (.named "entry"))) := by
    decide +kernel
  have payments : ledger.resolve "payment?[]" = .ok (.array (.optional (.named "payment"))) := by
    decide +kernel
  obtain ⟨blocks, given, whole, ofStructs, ofVariants⟩ := references_declared written
  obtain ⟨fields, found, ofFields⟩ := ofStructs _ List.mem_cons_self
  cases inherited.symm.trans found
  obtain ⟨ref, resolved, member⟩ := ofFields _ List.mem_cons_self
  cases entries.symm.trans resolved
  obtain ⟨other, alsoResolved, alternative⟩ := ofVariants _ List.mem_cons_self _ List.mem_cons_self
  cases payments.symm.trans alsoResolved
  exact ⟨written, blocks, given, whole, member "entry" rfl, alternative "payment" rfl⟩

end Document

end ContractTypes
