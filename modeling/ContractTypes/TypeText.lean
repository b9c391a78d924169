import ContractTypes.Scalar
import ContractTypes.Text.Quoted
import ContractTypes.TypeRef

/-!
The TypeScript text of a type.

A scalar is written as its TypeScript type and a declared name as a formatter writes it.  An array
puts brackets behind its element.  An optional value and an extension both add the alternative
`undefined`; directly around another such wrapper they add nothing more, and inside an array the
alternatives stand in parentheses.
-/

namespace ContractTypes

inductive TypeTextError where
  | unknownScalar (name : Text)
  | noDescriptor
deriving DecidableEq

def TypeTextError.message : TypeTextError → Text
  | unknownScalar name => name.quoted
  | noDescriptor => "Unsupported type descriptor: None"

namespace TypeRef

def leafText (format : Text → Text) : TypeRef → Except TypeTextError Text
  | scalar name =>
      match Scalar.typeText? name with
      | some text => .ok text
      | none => .error (.unknownScalar name)
  | named name => .ok (format name)
  | optional inner => inner.leafText format
  | array element => element.leafText format
  | extension inner => inner.leafText format

/-- A text and whether it is a union with `undefined`, under one more wrapper. -/
def wrapText (marker : Marker) (inner : Text × Bool) : Text × Bool :=
  match marker with
  | .array => (if inner.2 then "(" ++ inner.1 ++ ")[]" else inner.1 ++ "[]", false)
  | .optional => if inner.2 then inner else (inner.1 ++ " | undefined", true)
  | .extension => if inner.2 then inner else (inner.1 ++ " | undefined", true)

/-- The text of a type: the text of its leaf under its wrappers, the innermost first. -/
def text (format : Text → Text) (ref : TypeRef) : Except TypeTextError Text :=
  (ref.leafText format).map (fun leaf => (ref.markers.foldr wrapText (leaf, false)).1)

def textOf? (format : Text → Text) : Option TypeRef → Except TypeTextError Text
  | none => .error .noDescriptor
  | some ref => ref.text format

end TypeRef

end ContractTypes
