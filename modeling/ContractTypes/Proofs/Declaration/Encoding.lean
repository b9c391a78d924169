import ContractTypes.CommandLine.Usage
import ContractTypes.Proofs.Declaration.Names
import ContractTypes.Proofs.Declaration.References
import ContractTypes.Proofs.Text.Scalar

/-!
Declarations that can be encoded.

Tags are written in ASCII, and no casing brings a surrogate into a name.  So a surrogate in the
lines of a document comes from a declared name or from the text in front of names.  The lines of a
document whose names are scalar can be encoded exactly if that text is scalar or there is no
declaration.
-/

namespace ContractTypes

theorem Naming.keeps_scalar : Keeps (fun point => !point.isSurrogate) where
  bar := by decide
  capital := by
    intro point scalar
    rw [Bool.not_eq_true'] at scalar
    exact CodePoint.isScalar_capital scalar
  small := by
    intro point scalar
    rw [Bool.not_eq_true'] at scalar
    exact CodePoint.isScalar_small scalar

theorem Convention.isScalar_format_iff (convention : Convention) (namePrefix : Option Text)
    {name : Text} (scalar : name.isScalar = true) :
    (convention.format namePrefix name).isScalar = true ↔ (namePrefix.getD []).isScalar = true := by
  unfold format
  rw [Text.isScalar_append_iff]
  exact and_iff_left (Naming.keeps_scalar.casing convention scalar)

theorem Json.isScalar_literal (text : Text) : (literal text).isScalar = true := by
  refine List.all_eq_true.2 ?_
  intro point member
  have printable := List.all_eq_true.1 (printable_literal text) point member
  have high := (CodePoint.isBetween_iff.1 printable).2
  rw [CodePoint.isSurrogate_of_val_lt (by omega)]
  rfl

theorem Scalar.isScalar_typeText {name text : Text} (found : typeText? name = some text) :
    text.isScalar = true := by
  have all : ∀ entry ∈ table, Text.isScalar entry.2 = true := by decide
  exact all _ (mem_of_lookup found)

namespace TypeShape

theorem isScalar_withUndefined {shape : TypeShape} (scalar : shape.text.isScalar = true) :
    shape.withUndefined.text.isScalar = true := by
  cases union : shape.isUnion with
  | true =>
      rw [withUndefined_of_isUnion union]
      exact scalar
  | false =>
      rw [withUndefined_of_not_isUnion union]
      exact Text.isScalar_append_iff.2 ⟨scalar, by decide⟩

theorem isScalar_array {element : TypeShape} (scalar : element.text.isScalar = true) :
    (array element).text.isScalar = true := by
  cases union : element.isUnion with
  | true =>
      rw [text_array_of_isUnion union]
      exact Text.isScalar_append_iff.2 ⟨Text.isScalar_append_iff.2 ⟨by decide, scalar⟩, by decide⟩
  | false =>
      rw [text_array_of_not_isUnion union]
      exact Text.isScalar_append_iff.2 ⟨scalar, by decide⟩

end TypeShape

theorem TypeRef.isScalar_shape {leafText : Text} (scalar : leafText.isScalar = true)
    (ref : TypeRef) : (ref.shape leafText).text.isScalar = true := by
  induction ref with
  | scalar name => exact scalar
  | named name => exact scalar
  | optional inner ih => exact TypeShape.isScalar_withUndefined ih
  | array element ih => exact TypeShape.isScalar_array ih
  | extension inner ih => exact TypeShape.isScalar_withUndefined ih

/-- What a declaration writes, apart from its tags, is scalar. -/
def DeclarationOutline.IsScalar (declared : DeclarationOutline) : Prop :=
  declared.Holds (fun name => name.isScalar = true) (fun shape => shape.text.isScalar = true)

section Block

variable {indent : Text}

theorem MemberOutline.isScalar_line (blank : indent.isScalar = true) {member : MemberOutline}
    (named : member.name.isScalar = true) (typed : member.shape.text.isScalar = true) :
    (member.line indent).isScalar = true := by
  unfold line
  simp only [Text.isScalar_append_iff]
  refine ⟨⟨⟨⟨blank, named⟩, ?_⟩, by decide⟩, typed⟩
  cases member.mayBeMissing <;> decide

theorem AlternativeOutline.isScalar_line (blank : indent.isScalar = true)
    {alternative : AlternativeOutline} (typed : alternative.shape.text.isScalar = true) :
    (alternative.line indent).isScalar = true := by
  unfold line
  simp only [Text.isScalar_append_iff]
  have tagged := Json.isScalar_literal alternative.tag
  exact ⟨⟨⟨⟨⟨blank, by decide⟩, tagged⟩, by decide⟩, typed⟩, by decide⟩

namespace DeclarationOutline

theorem isScalar_of_mem_block (blank : indent.isScalar = true) {declared : DeclarationOutline}
    (scalar : declared.IsScalar) {line : Text} (member : line ∈ declared.block indent) :
    line.isScalar = true := by
  obtain ⟨exported, name, body⟩ := declared
  obtain ⟨named, filled⟩ := scalar
  have marked : Text.isScalar (if exported then ("export " : Text) else []) = true := by
    cases exported <;> decide
  cases body with
  | interface members =>
      rcases List.mem_append.1 member with above | last
      · rcases List.mem_cons.1 above with rfl | inside
        · simp only [Text.isScalar_append_iff]
          exact ⟨⟨⟨marked, by decide⟩, named⟩, by decide⟩
        · obtain ⟨outline, listed, rfl⟩ := List.mem_map.1 inside
          obtain ⟨written, typed⟩ := filled outline listed
          exact outline.isScalar_line blank written typed
      · rw [List.mem_singleton.1 last]
        decide
  | union alternatives =>
      have head : Text.isScalar
          ((if exported then ("export " : Text) else []) ++ "type " ++ name ++ " =") = true := by
        simp only [Text.isScalar_append_iff]
        exact ⟨⟨⟨marked, by decide⟩, named⟩, by decide⟩
      cases alternatives with
      | nil =>
          rw [List.mem_singleton.1 member]
          exact Text.isScalar_append_iff.2 ⟨head, by decide⟩
      | cons first rest =>
          rcases List.mem_cons.1 member with rfl | inside
          · exact head
          · obtain ⟨outline, listed, rfl⟩ := List.mem_map.1 inside
            exact outline.isScalar_line blank (filled outline listed)

theorem isScalar_name_of_block {declared : DeclarationOutline}
    (all : ∀ line ∈ declared.block indent, line.isScalar = true) :
    declared.name.isScalar = true := by
  obtain ⟨exported, name, body⟩ := declared
  cases body with
  | interface members =>
      have head := all _ (List.mem_append_left _ List.mem_cons_self)
      simp only [Text.isScalar_append_iff] at head
      exact head.1.2
  | union alternatives =>
      cases alternatives with
      | nil =>
          have head := all _ List.mem_cons_self
          simp only [Text.isScalar_append_iff] at head
          exact head.1.1.2
      | cons first rest =>
          have head := all _ List.mem_cons_self
          simp only [Text.isScalar_append_iff] at head
          exact head.1.2

end DeclarationOutline

end Block

/-! ### Lines of a document -/

theorem isScalar_textOfLines_iff {lines : List Text} :
    (CommandLine.textOfLines lines).isScalar = true ↔ ∀ line ∈ lines, line.isScalar = true := by
  have ended : Text.isScalar [CodePoint.ofChar '\n'] = true := by decide
  unfold CommandLine.textOfLines
  simp only [Text.isScalar_flatMap_iff, Text.isScalar_append_iff, ended, and_true]

structure Document.ScalarNames (document : Document) : Prop where
  structs : ∀ declared ∈ document.structs, declared.name.isScalar = true
  fields : ∀ declared ∈ document.structs, ∀ field ∈ declared.fields, field.name.isScalar = true
  variants : ∀ declared ∈ document.variants, declared.name.isScalar = true

namespace Document

variable {document : Document} {layout : Layout}

theorem ScalarNames.of_mem (scalar : document.ScalarNames) {name : Text}
    (member : name ∈ document.structNames ++ document.variantNames) : name.isScalar = true := by
  rcases List.mem_append.1 member with struct | variant
  · obtain ⟨declared, listed, rfl⟩ := List.mem_map.1 struct
    exact scalar.structs declared listed
  · obtain ⟨declared, listed, rfl⟩ := List.mem_map.1 variant
    exact scalar.variants declared listed

theorem ScalarNames.of_isDeclared (scalar : document.ScalarNames) {name : Text}
    (declared : document.isDeclared name = true) : name.isScalar = true := by
  rcases exists_of_isDeclared declared with ⟨struct, member, rfl⟩ | ⟨variant, member, rfl⟩
  · exact scalar.structs struct member
  · exact scalar.variants variant member

theorem ScalarNames.writes (scalar : document.ScalarNames)
    (keeps : ∀ name : Text, name.isScalar = true → (layout.format name).isScalar = true) :
    document.Writes layout (fun name => name.isScalar = true)
      (fun shape => shape.text.isScalar = true) where
  structs := fun declared member => keeps _ (scalar.structs declared member)
  fields := fun declared member field inside => keeps _ (scalar.fields declared member field inside)
  variants := fun declared member => keeps _ (scalar.variants declared member)
  declaredLeaf := fun name declared ref =>
    ref.isScalar_shape (keeps name (scalar.of_isDeclared declared))
  scalarLeaf := fun _ _ found ref => ref.isScalar_shape (Scalar.isScalar_typeText found)

theorem isScalar_layout_indent {settings : Settings} (laidOut : settings.layout = .ok layout) :
    layout.indent.isScalar = true := by
  refine List.all_eq_true.2 ?_
  intro point member
  rcases Bool.or_eq_true_iff.1
    (List.all_eq_true.1 (Settings.isIndent_layout laidOut) point member) with
    space | tab
  · rw [of_decide_eq_true space]
    decide
  · rw [of_decide_eq_true tab]
    decide

/-- The lines of a document with scalar names can be encoded, unless the text in front of names is
not scalar and there is a declaration whose name it stands in front of. -/
theorem isScalar_lines_iff {settings : Settings} {lines : List Text} (scalar : document.ScalarNames)
    (laidOut : settings.layout = .ok layout) (written : document.lines layout = .ok lines) :
    (CommandLine.textOfLines lines).isScalar = true ↔
      (settings.namePrefix.getD []).isScalar = true ∨
      document.structNames ++ document.variantNames = [] := by
  have formatted := Settings.format_layout laidOut
  rw [lines_eq_map_outline] at written
  obtain ⟨outlines, outlined, rfl⟩ := exists_of_map_eq_ok written
  have names := map_name_outline outlined
  rw [isScalar_textOfLines_iff]
  constructor
  · intro all
    cases declaredNames : document.structNames ++ document.variantNames with
    | nil => exact .inr rfl
    | cons name rest =>
        have listed : name ∈ document.structNames ++ document.variantNames := by
          rw [declaredNames]
          exact List.mem_cons_self
        have outer : layout.format name ∈ outlines.map DeclarationOutline.name := by
          rw [names]
          exact List.mem_map_of_mem listed
        obtain ⟨declared, inside, same⟩ := List.mem_map.1 outer
        have shown : declared.name.isScalar = true :=
          declared.isScalar_name_of_block (fun line within =>
          all line (mem_intercalate within (List.mem_map_of_mem inside)))
        rw [same, formatted, settings.convention.isScalar_format_iff _ (scalar.of_mem listed)]
          at shown
        exact .inl shown
  · rintro (plain | none) line member
    · rcases mem_block_of_mem_intercalate member with between | ⟨block, listed, within⟩
      · rw [List.mem_singleton.1 between]
        rfl
      · obtain ⟨declared, inside, rfl⟩ := List.mem_map.1 listed
        have keeps : ∀ name : Text, name.isScalar = true →
            (layout.format name).isScalar = true := by
          intro name shaped
          rw [formatted]
          exact (settings.convention.isScalar_format_iff _ shaped).2 plain
        exact DeclarationOutline.isScalar_of_mem_block (isScalar_layout_indent laidOut)
          ((scalar.writes keeps).outline outlined declared inside) within
    · rw [none, List.map_nil, List.map_eq_nil_iff] at names
      rw [names] at member
      cases member

end Document

end ContractTypes
