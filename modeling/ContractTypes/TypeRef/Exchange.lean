import ContractTypes.Shape
import ContractTypes.TypeRef

/-!
Type descriptors as records.

The kind of a record says which other field it has: a leaf has its name, an array the type of its
elements, an optional type and an extension the type inside.  When a descriptor is read, the kind
that was found is a step of the location of every problem under it.

Neither the writer nor the reader goes into records that are nested too deep.  How the nesting is
counted is not decided here: a guard is asked at each record, before its other fields are looked at.
-/

namespace ContractTypes

inductive DescriptorKind where
  | scalar
  | named
  | wrapper (marker : Marker)
deriving DecidableEq

namespace DescriptorKind

def word : DescriptorKind → Text
  | scalar => "primitive"
  | named => "named"
  | wrapper .optional => "optional"
  | wrapper .array => "array"
  | wrapper .extension => "extension"

def all : List DescriptorKind :=
  [.scalar, .wrapper .optional, .wrapper .array, .wrapper .extension, .named]

def ofJson? : Json → Option DescriptorKind
  | .string word => all.find? (fun kind => kind.word == word)
  | _ => none

def innerField : Marker → Text
  | .array => "element_type"
  | .optional => "inner_type"
  | .extension => "inner_type"

end DescriptorKind

/-- A guard lets a record in or not, given the kinds of the records from the outermost one to it. -/
structure NestingGuard where
  admits : List DescriptorKind → Bool

namespace NestingGuard

def within (guard : NestingGuard) (kind : DescriptorKind) : NestingGuard :=
  ⟨fun kinds => guard.admits (kind :: kinds)⟩

def upTo (limit : Nat) : NestingGuard := ⟨fun kinds => decide (kinds.length ≤ limit)⟩

end NestingGuard

namespace TypeRef

def kind : TypeRef → DescriptorKind
  | scalar _ => .scalar
  | named _ => .named
  | optional _ => .wrapper .optional
  | array _ => .wrapper .array
  | extension _ => .wrapper .extension

def ofJson (guard : NestingGuard) (json : Json) : Checked TypeRef :=
  match json with
  | .object members =>
      match Json.lookupLast "kind" members with
      | none => .fault .noKind
      | some word =>
          match DescriptorKind.ofJson? word with
          | none => .fault .unknownKind
          | some kind =>
              Checked.under (.reading kind.word) <|
                if guard.admits [kind] then
                  match kind with
                  | .scalar => (Shape.required members "name" Shape.text).map TypeRef.scalar
                  | .named => (Shape.required members "name" Shape.text).map TypeRef.named
                  | .wrapper marker =>
                      match _found : Json.lookupLast (DescriptorKind.innerField marker) members with
                      | none => .faulty [⟨[.field (DescriptorKind.innerField marker)], .missing⟩]
                      | some inner =>
                          ((ofJson (guard.within (.wrapper marker)) inner).under
                            (.field (DescriptorKind.innerField marker))).map (wrap marker)
                else .fault .tooDeep
  | _ => .fault .notDescriptor
termination_by sizeOf json
decreasing_by
  have := Json.sizeOf_lookupLast _found
  simp only [Json.object.sizeOf_spec]
  omega

end TypeRef

end ContractTypes
