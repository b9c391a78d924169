import ContractTypes.Inheritance
import ContractTypes.Template

/-!
Warnings about a document.

A document may be questionable and still have declarations: a name may be declared twice, or as two
kinds of type, a field may occur twice among the effective fields of a struct, and an action or a
table may refer to a type that is neither a struct nor an alias.  Each such name is reported once.
A struct without a base chain is passed over, because no declaration can be written for it anyway.

The message about a field is a template with the name of the struct in it, so braces in that name
are read as braces of a template and may leave no message.
-/

namespace ContractTypes

inductive Warning where
  | repeatedAlias (name : Text)
  | repeatedStruct (name : Text)
  | repeatedVariant (name : Text)
  | shadowedType (name : Text)
  | structAndVariant (name : Text)
  | repeatedField (name struct : Text)
  | actionType (action type : Text)
  | tableType (table type : Text)
deriving DecidableEq

def Warning.message : Warning → Except TemplateError Text
  | repeatedAlias name =>
      .ok ("Duplicate type alias '" ++ name ++ "'; the first declaration is used")
  | repeatedStruct name => .ok ("Duplicate struct name '" ++ name ++ "'")
  | repeatedVariant name => .ok ("Duplicate variant name '" ++ name ++ "'")
  | shadowedType name =>
      .ok ("Type alias '" ++ name ++ "' shadows a struct or variant of the same name")
  | structAndVariant name =>
      .ok ("Name '" ++ name ++ "' is declared as both a struct and a variant")
  | repeatedField name struct =>
      (Template.remainder (struct ++ "'")).map (fun written =>
        "Duplicate field name '" ++ name ++ "' in struct '" ++ written)
  | actionType action type =>
      .ok ("Action '" ++ action ++ "' refers to unknown type '" ++ type ++ "'")
  | tableType table type => .ok ("Table '" ++ table ++ "' refers to unknown type '" ++ type ++ "'")

/-- The names that occur at least twice, in the order in which they occur the second time.  The
first two arguments are the names met so far and those already reported. -/
def repeatedAfter (met reported : List Text) : List Text → List Text
  | [] => []
  | name :: rest =>
      if met.contains name then
        if reported.contains name then repeatedAfter met reported rest
        else name :: repeatedAfter met (name :: reported) rest
      else repeatedAfter (name :: met) reported rest

def repeatedNames (names : List Text) : List Text := repeatedAfter [] [] names

def sortedNames (names : List Text) : List Text := Text.sorted names.eraseDups

namespace Document

def aliasNames (document : Document) : List Text := document.aliases.map Alias.name

def structNames (document : Document) : List Text := document.structs.map Struct.name

def variantNames (document : Document) : List Text := document.variants.map Variant.name

def repetitions (document : Document) : List Warning :=
  (repeatedNames document.aliasNames).map .repeatedAlias ++
    (repeatedNames document.structNames).map .repeatedStruct ++
    (repeatedNames document.variantNames).map .repeatedVariant

def conflicts (document : Document) : List Warning :=
  (sortedNames (document.aliasNames.filter document.isDeclared)).map .shadowedType ++
    (sortedNames (document.structNames.filter document.variantNames.contains)).map .structAndVariant

/-- Fields that occur more than once among the effective fields of a struct. -/
def repeatedFields (document : Document) (declared : Struct) : List Warning :=
  match document.effectiveFields declared with
  | .ok fields => (repeatedNames (fields.map Field.name)).map (.repeatedField · declared.name)
  | .error _ => []

def isRowType (document : Document) (name : Text) : Bool :=
  document.structNames.contains name || document.aliasNames.contains name

def unknownRowTypes (document : Document) : List Warning :=
  (document.actions.filter (fun action => !document.isRowType action.type)).map
      (fun action => .actionType action.name action.type) ++
    (document.tables.filter (fun table => !document.isRowType table.type)).map
      (fun table => .tableType table.name table.type)

def warnings (document : Document) : List Warning :=
  document.repetitions ++ document.conflicts ++ document.structs.flatMap document.repeatedFields ++
    document.unknownRowTypes

def warningMessages (document : Document) : Except TemplateError (List Text) :=
  document.warnings.mapM Warning.message

end Document

end ContractTypes
