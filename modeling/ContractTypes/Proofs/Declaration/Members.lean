import ContractTypes.Proofs.Declaration.Outline
import ContractTypes.Proofs.Inheritance.Extension

/-!
Members of interfaces.

The line of a member is made from its field alone: the struct whose interface it stands in matters
only for errors.  So an interface has one member for each effective field of its struct, in their
order, and begins with the members that the interface of the base has.
-/

namespace ContractTypes

def Layout.interfaceBlock (layout : Layout) (name : Text) (members : List Text) : List Text :=
  (layout.exportText ++ "interface " ++ layout.format name ++ " \x7b") :: members ++
    [Text.ofString "\x7d"]

namespace Document

/-- The line of a member for a field. -/
def IsMemberLine (document : Document) (layout : Layout) (field : Field) (line : Text) : Prop :=
  ∃ ref text, document.resolve field.type = .ok ref ∧ ref.present.text layout.format = .ok text ∧
    line = layout.indent ++ layout.format field.name ++
      (if ref.mayBeMissing then Text.ofString "?" else Text.ofString "") ++ ": " ++ text

variable {document : Document} {layout : Layout}

theorem IsMemberLine.unique {field : Field} {left right : Text}
    (first : document.IsMemberLine layout field left)
    (second : document.IsMemberLine layout field right) : left = right := by
  obtain ⟨ref, text, resolved, written, rfl⟩ := first
  obtain ⟨other, also, again, rewritten, rfl⟩ := second
  cases resolved.symm.trans again
  cases written.symm.trans rewritten
  rfl

theorem isMemberLine_of_memberLine {owner : Struct} {field : Field} {line : Text}
    (made : document.memberLine layout owner field = .ok line) :
    document.IsMemberLine layout field line := by
  unfold memberLine at made
  obtain ⟨ref, resolved, made⟩ := exists_of_bind_eq_ok made
  obtain ⟨text, written, made⟩ := exists_of_bind_eq_ok made
  exact ⟨ref, text, eq_ok_of_mapError_eq_ok resolved, eq_ok_of_mapError_eq_ok written,
    (Except.ok.inj made).symm⟩

theorem structBlock_eq_ok {declared : Struct} {block : List Text}
    (made : document.structBlock layout declared = .ok block) :
    ∃ fields members, document.effectiveFields declared = .ok fields ∧
      List.Forall₂ (document.IsMemberLine layout) fields members ∧
        block = layout.interfaceBlock declared.name members := by
  unfold structBlock at made
  obtain ⟨fields, found, made⟩ := exists_of_bind_eq_ok made
  obtain ⟨members, lines, made⟩ := exists_of_bind_eq_ok made
  refine ⟨fields, members, eq_ok_of_mapError_eq_ok found, ?_, (Except.ok.inj made).symm⟩
  exact (forall₂_of_mapM lines).imp (fun _ _ made => isMemberLine_of_memberLine made)

theorem exists_members_of_structs {blocks : List (List Text)}
    (made : document.structs.mapM (document.structBlock layout) = .ok blocks) :
    ∃ members : Struct → List Text,
      blocks = document.structs.map (fun declared =>
        layout.interfaceBlock declared.name (members declared)) ∧
      ∀ declared ∈ document.structs, ∃ fields, document.effectiveFields declared = .ok fields ∧
        List.Forall₂ (document.IsMemberLine layout) fields (members declared) := by
  refine exists_choice_of_mapM (fun declared => layout.interfaceBlock declared.name)
    (fun declared members => ∃ fields, document.effectiveFields declared = .ok fields ∧
      List.Forall₂ (document.IsMemberLine layout) fields members)
        (fun declared block made => ?_) made
  obtain ⟨fields, members, found, listed, written⟩ := structBlock_eq_ok made
  exact ⟨members, written, fields, found, listed⟩

theorem lines_eq_ok {lines : List Text} (made : document.lines layout = .ok lines) :
    ∃ structs variants, document.structs.mapM (document.structBlock layout) = .ok structs ∧
      document.variants.mapM (document.variantBlock layout) = .ok variants ∧
        lines = List.intercalate [[]] (structs ++ variants) := by
  unfold Document.lines Document.blocks at made
  obtain ⟨blocks, both, rfl⟩ := exists_of_map_eq_ok made
  obtain ⟨structs, first, both⟩ := exists_of_bind_eq_ok both
  obtain ⟨variants, second, both⟩ := exists_of_bind_eq_ok both
  cases both
  exact ⟨structs, variants, first, second, rfl⟩

/-- Every struct has the effective fields of its base, if it has one, and its own behind them.  In
the lines of a document, the interface of a struct has one line of a member for each field along the
chain of the struct, from the last base down to the struct; so it begins with the members in the
interface of its base. -/
theorem fields_and_members_inherited (document : Document) :
    (∀ declared ∈ document.structs, ∀ fields, document.effectiveFields declared = .ok fields →
      (declared.base = [] → fields = declared.fields) ∧
      (declared.base ≠ [] → ∃ base inherited, document.struct? declared.base = some base ∧
        document.effectiveFields base = .ok inherited ∧ fields = inherited ++ declared.fields)) ∧
    ∀ layout lines, document.lines layout = .ok lines →
      ∃ (members : Struct → List Text) (variants : List (List Text)),
      lines = List.intercalate [[]] (document.structs.map (fun declared =>
        layout.interfaceBlock declared.name (members declared)) ++ variants) ∧
      document.variants.mapM (document.variantBlock layout) = .ok variants ∧
      ∀ declared ∈ document.structs,
        (∃ chain, document.BaseLinked declared chain ∧
          (∃ root, chain.getLast? = some root ∧ root.base = []) ∧
          List.Forall₂ (document.IsMemberLine layout) (chain.reverse.flatMap Struct.fields)
            (members declared)) ∧
        (declared.base ≠ [] → ∃ base ∈ document.structs, document.struct? declared.base =
          some base ∧
          members base <+: members declared) := by
  refine ⟨fun declared _ fields found =>
    ⟨fun baseless => effectiveFields_of_baseless baseless found, fun based =>
    effectiveFields_of_based based found⟩, ?_⟩
  intro layout lines made
  obtain ⟨structs, variants, ofStructs, ofVariants, rfl⟩ := lines_eq_ok made
  obtain ⟨members, rfl, listed⟩ := exists_members_of_structs ofStructs
  refine ⟨members, variants, rfl, ofVariants, fun declared member => ⟨?_, fun based => ?_⟩⟩
  · obtain ⟨fields, found, lines⟩ := listed declared member
    obtain ⟨chain, walked, rfl⟩ := effectiveFields_eq_ok_iff.1 found
    obtain ⟨along, root⟩ := baseLinked_of_baseChain walked
    exact ⟨chain, along, root, lines⟩
  · obtain ⟨fields, found, lines⟩ := listed declared member
    obtain ⟨base, inherited, declares, above, rfl⟩ := effectiveFields_of_based based found
    have declaredBase : base ∈ document.structs := NameTable.mem_of_first? declares
    obtain ⟨others, again, baseLines⟩ := listed base declaredBase
    cases above.symm.trans again
    refine ⟨base, declaredBase, declares, ?_⟩
    exact prefix_of_forall₂_append (fun _ _ _ first second => first.unique second) baseLines lines

/-- A document in which a struct extends one that extends another, and a second struct under a name
that is declared before. -/
def shelf : Document where
  version := "eosio::abi/1.2"
  aliases := []
  structs := [
    ⟨"box", "item", [⟨"lid", "bool?"⟩]⟩,
    ⟨"item", "thing", [⟨"tags", "string[]"⟩]⟩,
    ⟨"thing", [], [⟨"id", "uint64"⟩]⟩,
    ⟨"item", "thing", [⟨"other", "name$"⟩]⟩]
  actions := []
  tables := []
  clauses := []
  errorMessages := []
  extensions := []
  variants := []

def shelfLayout : Layout := ⟨"\t", 1, Naming.pascal, false⟩

def shelfLines : List Text := [
  "interface Box \x7b", "\tId: string", "\tTags: string[]", "\tLid?: boolean", "\x7d", "",
  "interface Item \x7b", "\tId: string", "\tTags: string[]", "\x7d", "",
  "interface Thing \x7b", "\tId: string", "\x7d", "",
  "interface Item \x7b", "\tId: string", "\tOther?: string", "\x7d"]

theorem shelf_members_inherited : shelf.lines shelfLayout = .ok shelfLines ∧
    ∃ members : Struct → List Text, shelfLines =
      List.intercalate [[]] (shelf.structs.map (fun declared =>
      shelfLayout.interfaceBlock declared.name (members declared))) ∧
    ∀ declared ∈ shelf.structs, declared.base ≠ [] →
      ∃ base ∈ shelf.structs, shelf.struct? declared.base = some base ∧
        members base <+: members declared := by
  have written : shelf.lines shelfLayout = .ok shelfLines := by decide +kernel
  obtain ⟨members, variants, whole, noVariants, each⟩ :=
    (fields_and_members_inherited shelf).2 shelfLayout shelfLines written
  have none : variants = [] := (Except.ok.inj noVariants).symm
  rw [none, List.append_nil] at whole
  exact ⟨written, members, whole, fun declared member => (each declared member).2⟩

end Document

end ContractTypes
