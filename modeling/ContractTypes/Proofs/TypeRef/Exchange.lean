import ContractTypes.Proofs.TypeRef.Record

/-!
Type descriptors are exchanged as records.

As far as the guard lets the reader in, the values that describe a descriptor are the ones that are
read, and their declared parts are the records that are written.  What describes a descriptor and is
nested deeper is refused for its depth alone, at the first record that is not let in.
-/

namespace ContractTypes

namespace Checked

variable {Value Result : Type} {checked : Checked Value} {step : ShapeStep}

end Checked

namespace Shape

end Shape

namespace DescriptorKind

def stepsInside : DescriptorKind → List ShapeStep
  | wrapper marker => [.reading (wrapper marker).word, .field (innerField marker)]
  | leaf => [.reading leaf.word]

end DescriptorKind

namespace NestingGuard

variable {guard : NestingGuard}

/-- Whether every record is let in where records of these kinds stand in one another. -/
def admitsAll (guard : NestingGuard) : List DescriptorKind → Bool
  | [] => true
  | kind :: inside => guard.admits [kind] && (guard.within kind).admitsAll inside

theorem admitsAll_cons_iff {kind : DescriptorKind} {inside : List DescriptorKind} :
    guard.admitsAll (kind :: inside) = true ↔
      guard.admits [kind] = true ∧ (guard.within kind).admitsAll inside = true := by
  rw [admitsAll, Bool.and_eq_true]

end NestingGuard

namespace TypeRef

def kinds : TypeRef → List DescriptorKind
  | scalar _ => [.scalar]
  | named _ => [.named]
  | optional inner => .wrapper .optional :: inner.kinds
  | array element => .wrapper .array :: element.kinds
  | extension inner => .wrapper .extension :: inner.kinds

section Writing

variable {guard : NestingGuard}

end Writing

section Reading

variable {guard : NestingGuard} {members : List (Text × Json)} {ref : TypeRef}

theorem ofJson_wrapper {marker : Marker}
    (word : Json.lookupLast "kind" members = some (.string (DescriptorKind.wrapper marker).word))
    (admitted : guard.admits [.wrapper marker] = true) :
    ofJson guard (.object members) = Checked.under (.reading (DescriptorKind.wrapper marker).word)
      ((Shape.required members (DescriptorKind.innerField marker)
        (ofJson (guard.within (.wrapper marker)))).map (wrap marker)) := by
  have known : DescriptorKind.ofJson? (.string (DescriptorKind.wrapper marker).word) =
      some (.wrapper marker) := DescriptorKind.ofJson?_eq_some_iff.2 rfl
  rw [ofJson, word]
  simp only [known, admitted]
  unfold Shape.required
  cases found : Json.lookupLast (DescriptorKind.innerField marker) members with
  | none => rfl
  | some inner => rfl

/-- A value is refused at the first record that is not let in, with the steps to it. -/
def RefusedAsTooDeep (guard : NestingGuard) (kinds : List DescriptorKind) (json : Json) : Prop :=
  ∃ passed kind deeper, kinds = passed ++ kind :: deeper ∧ guard.admitsAll passed = true ∧
    guard.admits (passed ++ [kind]) = false ∧
    ofJson guard json =
      .faulty [⟨passed.flatMap DescriptorKind.stepsInside ++ [.reading kind.word], .tooDeep⟩]

theorem RefusedAsTooDeep.wrap {marker : Marker} {json : Json} {inside : List DescriptorKind}
    (word : Json.lookupLast "kind" members = some (.string (DescriptorKind.wrapper marker).word))
    (found : Json.lookupLast (DescriptorKind.innerField marker) members = some json)
    (admitted : guard.admits [.wrapper marker] = true)
    (refused : RefusedAsTooDeep (guard.within (.wrapper marker)) inside json) :
    RefusedAsTooDeep guard (.wrapper marker :: inside) (.object members) := by
  obtain ⟨passed, kind, deeper, rfl, through, stop, read⟩ := refused
  refine ⟨.wrapper marker :: passed, kind, deeper, rfl, ?_, stop, ?_⟩
  · exact NestingGuard.admitsAll_cons_iff.2 ⟨admitted, through⟩
  · rw [ofJson_wrapper word admitted, Shape.required, found]
    simp only [read]
    rfl

end Reading

/-- Following the type inside of arrays, optional types and extensions reaches a leaf, an object of
one of two kinds with a text for its name; the kinds of the objects on the way are listed with its
own. -/
inductive LeadsToLeaf : Json → List DescriptorKind → Prop
  | scalar {members : List (Text × Json)} {text : Text}
      (kind : Json.lookupLast "kind" members = some (.string "primitive"))
      (name : Json.lookupLast "name" members = some (.string text)) :
      LeadsToLeaf (.object members) [.scalar]
  | named {members : List (Text × Json)} {text : Text}
      (kind : Json.lookupLast "kind" members = some (.string "named"))
      (name : Json.lookupLast "name" members = some (.string text)) :
      LeadsToLeaf (.object members) [.named]
  | array {members : List (Text × Json)} {element : Json} {kinds : List DescriptorKind}
      (kind : Json.lookupLast "kind" members = some (.string "array"))
      (inside : Json.lookupLast "element_type" members = some element)
      (further : LeadsToLeaf element kinds) :
      LeadsToLeaf (.object members) (.wrapper .array :: kinds)
  | optional {members : List (Text × Json)} {inner : Json} {kinds : List DescriptorKind}
      (kind : Json.lookupLast "kind" members = some (.string "optional"))
      (inside : Json.lookupLast "inner_type" members = some inner)
      (further : LeadsToLeaf inner kinds) :
      LeadsToLeaf (.object members) (.wrapper .optional :: kinds)
  | extension {members : List (Text × Json)} {inner : Json} {kinds : List DescriptorKind}
      (kind : Json.lookupLast "kind" members = some (.string "extension"))
      (inside : Json.lookupLast "inner_type" members = some inner)
      (further : LeadsToLeaf inner kinds) :
      LeadsToLeaf (.object members) (.wrapper .extension :: kinds)

theorem LeadsToLeaf.wrapper {members : List (Text × Json)} {marker : Marker} {json : Json}
    {kinds : List DescriptorKind}
    (kind : Json.lookupLast "kind" members = some (.string (DescriptorKind.wrapper marker).word))
    (found : Json.lookupLast (DescriptorKind.innerField marker) members = some json)
    (further : LeadsToLeaf json kinds) :
    LeadsToLeaf (.object members) (.wrapper marker :: kinds) := by
  cases marker with
  | optional => exact .optional kind found further
  | array => exact .array kind found further
  | extension => exact .extension kind found further

end TypeRef

end ContractTypes
