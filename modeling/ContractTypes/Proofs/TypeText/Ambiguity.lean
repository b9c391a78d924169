import ContractTypes.Naming.Casing
import ContractTypes.Proofs.TypeText.Grammar

/-!
The one reading of a written type.

The text of a type has the tree of its shape and no other one, so two types are written alike only
if they have one leaf text and one shape.
-/

namespace ContractTypes

def TypeShape.leafText : TypeShape → Text
  | leaf text => text
  | array element => element.leafText
  | orUndefined inner => inner.leafText

namespace TypeRef

/-- Whether the name at the leaf of a type, if it is that of a declaration, is written as an
identifier. -/
def HasPlainLeaf (format : Text → Text) (ref : TypeRef) : Prop :=
  ∀ name, ref.leaf = .named name → (format name).isIdentifier = true

variable {format : Text → Text} {ref other : TypeRef}

theorem HasPlainLeaf.isLeafText (plain : ref.HasPlainLeaf format) {leaf : Text}
    (written : ref.leafText format = .ok leaf) : TypeShape.isLeafText leaf = true := by
  induction ref with
  | scalar name =>
      rw [leafText] at written
      cases found : Scalar.typeText? name with
      | none =>
          rw [found] at written
          cases written
      | some text =>
          rw [found] at written
          cases written
          exact Scalar.isLeafText_typeText found
  | named name =>
      cases written
      exact Bool.or_eq_true_iff.2 (.inl (plain name rfl))
  | optional inner ih => exact ih plain written
  | array element ih => exact ih plain written
  | extension inner ih => exact ih plain written

theorem leafText_shape (leaf : Text) (ref : TypeRef) : (ref.shape leaf).leafText = leaf := by
  have joined (shape : TypeShape) : shape.withUndefined.leafText = shape.leafText := by
    cases shape <;> rfl
  induction ref with
  | scalar name => rfl
  | named name => rfl
  | optional inner ih => rw [shape, joined, ih]
  | array element ih => exact ih
  | extension inner ih => rw [shape, joined, ih]

theorem exists_shape_of_text {text : Text} (written : ref.text format = .ok text) :
    ∃ leaf, ref.leafText format = .ok leaf ∧ (ref.shape leaf).text = text := by
  rw [text_eq_map_shape] at written
  exact exists_of_map_eq_ok written

/-- The text of a type over a scalar or an identifier is read in one way only, as its leaf text
under its shape.  So another such type has the same text exactly if it has that leaf text and that
shape. -/
theorem text_unambiguous (plain : ref.HasPlainLeaf format) (otherPlain : other.HasPlainLeaf format)
    {text : Text} (written : ref.text format = .ok text) : ∃ leaf, ref.leafText format = .ok leaf ∧
      (∀ tree, TypeTree.Writes .union tree text ↔ tree = (ref.shape leaf).tree) ∧
      (other.text format = .ok text ↔
        other.leafText format = .ok leaf ∧ other.shape leaf = ref.shape leaf) := by
  obtain ⟨leaf, ofLeaf, rfl⟩ := exists_shape_of_text written
  have reading := (TypeShape.writes_tree (ref.wellFormed_shape (plain.isLeafText ofLeaf))).2
  refine ⟨leaf, ofLeaf, fun tree =>
    ⟨fun another => another.unique reading, fun same => same ▸ reading⟩, ?_⟩
  constructor
  · intro alike
    obtain ⟨otherLeaf, ofOther, same⟩ := exists_shape_of_text alike
    have again := (TypeShape.writes_tree (other.wellFormed_shape (otherPlain.isLeafText ofOther))).2
    rw [same] at again
    have shapes := TypeShape.tree_injective (again.unique reading)
    have leaves : otherLeaf = leaf := by
      rw [← leafText_shape otherLeaf other, shapes, leafText_shape]
    subst leaves
    exact ⟨ofOther, shapes⟩
  · rintro ⟨ofOther, shapes⟩
    rw [text_eq_map_shape, ofOther, ← shapes]
    rfl

def pieces : TypeRef := .array (.extension (.optional (.named "game_piece")))

def plainPieces : TypeRef := .array (.optional (.named "game_piece"))

theorem text_unambiguous_pieces :
    pieces.HasPlainLeaf Naming.pascal ∧ plainPieces.HasPlainLeaf Naming.pascal ∧
    pieces.text Naming.pascal = .ok "(GamePiece | undefined)[]" ∧
    plainPieces.text Naming.pascal = .ok "(GamePiece | undefined)[]" ∧
    (∀ tree, TypeTree.Writes .union tree "(GamePiece | undefined)[]" ↔
      tree = .array (.union (.leaf "GamePiece") (.leaf "undefined"))) ∧
    plainPieces.shape "GamePiece" = pieces.shape "GamePiece" := by
  have formatted : Naming.pascal "game_piece" = "GamePiece" := by decide +kernel
  have shaped : Text.isIdentifier (Naming.pascal "game_piece") = true := formatted ▸ rfl
  have plain : pieces.HasPlainLeaf Naming.pascal := fun name same => TypeRef.named.inj same ▸ shaped
  have alsoPlain : plainPieces.HasPlainLeaf Naming.pascal := fun name same =>
    TypeRef.named.inj same ▸ shaped
  have written : pieces.text Naming.pascal = .ok "(GamePiece | undefined)[]" := by decide +kernel
  have alike : plainPieces.text Naming.pascal = .ok "(GamePiece | undefined)[]" := by decide +kernel
  obtain ⟨leaf, ofLeaf, readings, others⟩ := text_unambiguous plain alsoPlain written
  obtain rfl : leaf = "GamePiece" := (Except.ok.inj ofLeaf).symm.trans formatted
  exact ⟨plain, alsoPlain, written, alike, readings, (others.1 alike).2⟩

end TypeRef

end ContractTypes
