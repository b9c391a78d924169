import ContractTypes.Inheritance
import ContractTypes.Json.Printer
import ContractTypes.Resolution
import ContractTypes.TypeText

/-!
TypeScript declarations.

Every struct gives an interface with its effective fields, and every variant a union of pairs of a
tag and a value.  A declaration is a block of lines.  The blocks of the structs come first, then
those of the variants, each in the order of the document, with one empty line between neighbours.

The first part of a document that cannot be written gives the error of the whole; nothing is written
then.
-/

namespace ContractTypes

/-- How declarations are laid out: what stands before each line of a body, as a text and the number
of its repetitions, how names are written, and whether declarations are exported. -/
structure Layout where
  indentUnit : Text
  indentWidth : Nat
  format : Text → Text
  exported : Bool

inductive TypePlace where
  | field (name struct : Text)
  | variant (name : Text)
deriving DecidableEq

def TypePlace.message : TypePlace → Text
  | field name struct => "field '" ++ name ++ "' of struct '" ++ struct ++ "'"
  | variant name => "variant '" ++ name ++ "'"

inductive TransformError where
  | unresolved (error : ResolveError) (place : TypePlace)
  | inheritance (error : InheritanceError)
  | unwritable (error : TypeTextError)
deriving DecidableEq

def TransformError.message : TransformError → Text
  | unresolved error place => error.message ++ " in " ++ place.message
  | inheritance error => error.message
  | unwritable error => error.message

namespace Layout

def indent (layout : Layout) : Text := (List.replicate layout.indentWidth layout.indentUnit).flatten

def exportText (layout : Layout) : Text := if layout.exported then "export " else []

end Layout

namespace Document

def resolveAt (document : Document) (place : TypePlace) (expression : Text) :
    Except TransformError TypeRef :=
  (document.resolve expression).mapError (fun error => .unresolved error place)

def writeType (layout : Layout) (ref : TypeRef) : Except TransformError Text :=
  (ref.text layout.format).mapError .unwritable

/-- A field whose value may be missing is marked at its name, and its type loses the outermost
wrapper. -/
def memberLine (document : Document) (layout : Layout) (owner : Struct) (field : Field) :
    Except TransformError Text := do
  let ref ← document.resolveAt (.field field.name owner.name) field.type
  let text ← writeType layout ref.present
  let mark : Text := if ref.mayBeMissing then "?" else ""
  return layout.indent ++ layout.format field.name ++ mark ++ ": " ++ text

def structBlock (document : Document) (layout : Layout) (declared : Struct) :
    Except TransformError (List Text) := do
  let fields ← (document.effectiveFields declared).mapError .inheritance
  let members ← fields.mapM (document.memberLine layout declared)
  let head := layout.exportText ++ "interface " ++ layout.format declared.name ++ " \x7b"
  return head :: members ++ [Text.ofString "\x7d"]

def alternativeLine (document : Document) (layout : Layout) (owner : Variant) (expression : Text) :
    Except TransformError Text := do
  let ref ← document.resolveAt (.variant owner.name) expression
  let text ← writeType layout ref
  return layout.indent ++ "| [" ++ Json.literal expression ++ ", " ++ text ++ "]"

def variantBlock (document : Document) (layout : Layout) (declared : Variant) :
    Except TransformError (List Text) := do
  let head := layout.exportText ++ "type " ++ layout.format declared.name ++ " ="
  if declared.types.isEmpty then return [head ++ " never"]
  let alternatives ← declared.types.mapM (document.alternativeLine layout declared)
  return head :: alternatives

def blocks (document : Document) (layout : Layout) : Except TransformError (List (List Text)) := do
  let structs ← document.structs.mapM (document.structBlock layout)
  let variants ← document.variants.mapM (document.variantBlock layout)
  return structs ++ variants

def lines (document : Document) (layout : Layout) : Except TransformError (List Text) :=
  (document.blocks layout).map (List.intercalate [[]])

end Document

end ContractTypes
