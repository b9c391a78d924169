import ContractTypes.TypeRef.Exchange

/-!
Values that describe a descriptor.

A value describes a descriptor if its kind and the field of that kind say so, whatever other members
it has.  Without its other members it is the record of the descriptor.  An object counts as what it
has under each name, so the order of its members does not matter.
-/

namespace ContractTypes

namespace Json

/-- Values that are the same where the order of members does not count, nor a member behind which
the same name is written again. -/
inductive Alike : Json → Json → Prop
  | same (json : Json) : Alike json json
  | array {items others : List Json} (count : items.length = others.length)
      (each : ∀ (position : Nat) (item other : Json), items[position]? = some item →
        others[position]? = some other → Alike item other) : Alike (.array items) (.array others)
  | object {members others : List (Text × Json)}
      (names : ∀ name, (lookupLast name members).isSome = (lookupLast name others).isSome)
      (each : ∀ (name : Text) (value other : Json), lookupLast name members = some value →
        lookupLast name others = some other → Alike value other) :
        Alike (.object members) (.object others)

end Json

namespace DescriptorKind

def fieldNames : DescriptorKind → List Text
  | scalar => ["kind", "name"]
  | named => ["kind", "name"]
  | wrapper marker => ["kind", innerField marker]

def isInner : DescriptorKind → Text → Bool
  | wrapper marker, name => decide (name = innerField marker)
  | _, _ => false

def ofMembers? (members : List (Text × Json)) : Option DescriptorKind :=
  (Json.lookupLast "kind" members).bind ofJson?

theorem ofJson?_eq_some_iff {json : Json} {kind : DescriptorKind} :
    ofJson? json = some kind ↔ json = .string kind.word := by
  constructor
  · intro found
    cases json with
    | string word =>
        have same : (kind.word == word) = true := by simpa using List.find?_some found
        rw [eq_of_beq same]
    | _ => cases found
  · rintro rfl
    rcases kind with _ | _ | _ | _ | _ <;> decide

end DescriptorKind

mutual

/-- A value without the members that its kind does not declare, at every level. -/
def Json.declaredPart : Json → Json
  | .object members =>
      match DescriptorKind.ofMembers? members with
      | some kind => .object (declaredMembers kind members)
      | none => .object members
  | other => other

def Json.declaredMembers (kind : DescriptorKind) : List (Text × Json) → List (Text × Json)
  | [] => []
  | (name, value) :: rest =>
      if name ∈ kind.fieldNames then
        (name, if kind.isInner name then declaredPart value else value) :: declaredMembers kind rest
      else declaredMembers kind rest

end

namespace TypeRef

def record : TypeRef → Json
  | scalar name => .object [("kind", .string "primitive"), ("name", .string name)]
  | named name => .object [("kind", .string "named"), ("name", .string name)]
  | optional inner => .object [("kind", .string "optional"), ("inner_type", inner.record)]
  | array element => .object [("kind", .string "array"), ("element_type", element.record)]
  | extension inner => .object [("kind", .string "extension"), ("inner_type", inner.record)]

section Part

variable {members : List (Text × Json)} {field : Text} {value json : Json}

end Part

end TypeRef

end ContractTypes
