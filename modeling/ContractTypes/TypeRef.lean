import ContractTypes.Text.CodePoint

/-!
Type descriptors and the markers of type expressions.

A descriptor is a leaf, either a built-in scalar or a name declared in the document, under any
number of wrappers.  Each wrapper has a marker that a type expression carries at its end; the
markers of a descriptor are listed with the outermost first.
-/

namespace ContractTypes

inductive Marker where
  | optional
  | array
  | extension
deriving DecidableEq

def Marker.text : Marker → Text
  | optional => "?"
  | array => "[]"
  | extension => "$"

inductive TypeRef where
  | scalar (name : Text)
  | named (name : Text)
  | optional (inner : TypeRef)
  | array (element : TypeRef)
  | extension (inner : TypeRef)
deriving DecidableEq

namespace TypeRef

def wrap : Marker → TypeRef → TypeRef
  | .optional, inner => .optional inner
  | .array, inner => .array inner
  | .extension, inner => .extension inner

/-- A descriptor under wrappers, the outermost first. -/
def wrapAll (markers : List Marker) (leaf : TypeRef) : TypeRef := markers.foldr wrap leaf

/-- The wrappers of a descriptor, the outermost first. -/
def markers : TypeRef → List Marker
  | scalar _ => []
  | named _ => []
  | optional inner => .optional :: inner.markers
  | array element => .array :: element.markers
  | extension inner => .extension :: inner.markers

def mayBeMissing : TypeRef → Bool
  | optional _ => true
  | extension _ => true
  | _ => false

def present : TypeRef → TypeRef
  | optional inner => inner
  | extension inner => inner
  | other => other

def leaf : TypeRef → TypeRef
  | scalar name => .scalar name
  | named name => .named name
  | optional inner => inner.leaf
  | array element => element.leaf
  | extension inner => inner.leaf

def leafName : TypeRef → Text
  | scalar name => name
  | named name => name
  | optional inner => inner.leafName
  | array element => element.leafName
  | extension inner => inner.leafName

/-- The expression of a descriptor: the name at its leaf, then the markers of its wrappers, the
innermost first. -/
def expression : TypeRef → Text
  | scalar name => name
  | named name => name
  | optional inner => inner.expression ++ Marker.optional.text
  | array element => element.expression ++ Marker.array.text
  | extension inner => inner.expression ++ Marker.extension.text

theorem wrapAll_markers_leaf (ref : TypeRef) : wrapAll ref.markers ref.leaf = ref := by
  induction ref with
  | scalar name => rfl
  | named name => rfl
  | optional inner ih => exact congrArg TypeRef.optional ih
  | array element ih => exact congrArg TypeRef.array ih
  | extension inner ih => exact congrArg TypeRef.extension ih

end TypeRef

end ContractTypes
