import ContractTypes.Proofs.Naming.Identifier
import ContractTypes.Proofs.Result
import ContractTypes.TypeText

/-!
Shapes of written types.

The shape of a type is its leaf text under arrays and unions with `undefined`, where neighbouring
unions count as one.  The text of a type is the text of its shape, so two types are written alike if
their shapes are the same.
-/

namespace ContractTypes

/-- A type as it is written: the text of a leaf under arrays and unions with `undefined`. -/
inductive TypeShape where
  | leaf (text : Text)
  | array (element : TypeShape)
  | orUndefined (inner : TypeShape)
deriving DecidableEq

namespace TypeShape

def isUnion : TypeShape → Bool
  | leaf _ => false
  | array _ => false
  | orUndefined _ => true

def withUndefined (shape : TypeShape) : TypeShape :=
  if shape.isUnion then shape else orUndefined shape

def undefinedText : Text := " | undefined"

def text : TypeShape → Text
  | leaf text => text
  | array element => if element.isUnion then "(" ++ element.text ++ ")[]" else element.text ++ "[]"
  | orUndefined inner => inner.text ++ undefinedText

def inBraces (point : CodePoint) : Bool := point ≠ '\x7d'

def isObjectText : Text → Bool
  | [] => false
  | point :: rest => point = '\x7b' && rest.dropWhile inBraces = ("\x7d" : Text)

def isLeafText (text : Text) : Bool := text.isIdentifier || isObjectText text

/-- A shape over a proper leaf, in which no union stands directly inside another one. -/
def WellFormed : TypeShape → Prop
  | leaf text => isLeafText text = true
  | array element => element.WellFormed
  | orUndefined inner => inner.isUnion = false ∧ inner.WellFormed

theorem withUndefined_of_isUnion {shape : TypeShape} (union : shape.isUnion = true) :
    shape.withUndefined = shape := if_pos union

theorem withUndefined_of_not_isUnion {shape : TypeShape} (single : shape.isUnion = false) :
    shape.withUndefined = orUndefined shape :=
  if_neg (Bool.eq_false_iff.1 single)

theorem isUnion_withUndefined (shape : TypeShape) : shape.withUndefined.isUnion = true := by
  cases union : shape.isUnion with
  | true => rw [withUndefined_of_isUnion union, union]
  | false =>
      rw [withUndefined_of_not_isUnion union]
      rfl

theorem WellFormed.withUndefined {shape : TypeShape} (formed : shape.WellFormed) :
    shape.withUndefined.WellFormed := by
  cases union : shape.isUnion with
  | true =>
      rw [withUndefined_of_isUnion union]
      exact formed
  | false =>
      rw [withUndefined_of_not_isUnion union]
      exact ⟨union, formed⟩

theorem text_array_of_isUnion {element : TypeShape} (union : element.isUnion = true) :
    (array element).text = "(" ++ element.text ++ ")[]" := by
  rw [text, if_pos union]

theorem text_array_of_not_isUnion {element : TypeShape} (single : element.isUnion = false) :
    (array element).text = element.text ++ "[]" := by
  rw [text, if_neg (Bool.eq_false_iff.1 single)]

end TypeShape

namespace TypeRef

open TypeShape

def shape (leafText : Text) : TypeRef → TypeShape
  | scalar _ => .leaf leafText
  | named _ => .leaf leafText
  | optional inner => (inner.shape leafText).withUndefined
  | array element => .array (element.shape leafText)
  | extension inner => (inner.shape leafText).withUndefined

theorem wrapText_array (shape : TypeShape) :
    wrapText .array (shape.text, shape.isUnion) = ((TypeShape.array shape).text, false) := rfl

theorem wrapText_union {marker : Marker} (union : marker ≠ .array) (shape : TypeShape) :
    wrapText marker (shape.text, shape.isUnion) = (shape.withUndefined.text, true) := by
  have both : wrapText marker (shape.text, shape.isUnion) =
      if shape.isUnion then (shape.text, shape.isUnion) else
        (shape.text ++ " | undefined", true) := by
    cases marker with
    | array => exact absurd rfl union
    | optional => rfl
    | extension => rfl
  rw [both]
  cases single : shape.isUnion with
  | true =>
      rw [withUndefined_of_isUnion single]
      rfl
  | false =>
      rw [withUndefined_of_not_isUnion single]
      rfl

/-- The loop over the wrappers carries the text of the shape so far and whether it is a union. -/
theorem foldr_wrapText (leafText : Text) (ref : TypeRef) :
    ref.markers.foldr wrapText (leafText, false) =
      ((ref.shape leafText).text, (ref.shape leafText).isUnion) := by
  induction ref with
  | scalar name => rfl
  | named name => rfl
  | optional inner ih =>
      rw [markers, List.foldr_cons, ih, wrapText_union (by decide), shape, isUnion_withUndefined]
  | array element ih => rw [markers, List.foldr_cons, ih, wrapText_array, shape, isUnion]
  | extension inner ih =>
      rw [markers, List.foldr_cons, ih, wrapText_union (by decide), shape, isUnion_withUndefined]

theorem text_eq_map_shape (format : Text → Text) (ref : TypeRef) :
    ref.text format = (ref.leafText format).map (fun leafText => (ref.shape leafText).text) := by
  unfold text
  cases ref.leafText format with
  | error error => rfl
  | ok leafText =>
      change Except.ok (ref.markers.foldr wrapText (leafText, false)).1 = _
      rw [foldr_wrapText]
      rfl

theorem wellFormed_shape {leafText : Text} (proper : isLeafText leafText = true) (ref : TypeRef) :
    (ref.shape leafText).WellFormed := by
  induction ref with
  | scalar name => exact proper
  | named name => exact proper
  | optional inner ih => exact ih.withUndefined
  | array element ih => exact ih
  | extension inner ih => exact ih.withUndefined

end TypeRef

theorem Scalar.isLeafText_typeText {name text : Text} (found : typeText? name = some text) :
    TypeShape.isLeafText text = true := by
  have all : ∀ entry ∈ table, TypeShape.isLeafText entry.2 = true := by decide
  exact all _ (mem_of_lookup found)

end ContractTypes
