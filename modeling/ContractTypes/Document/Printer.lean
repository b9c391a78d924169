import ContractTypes.Document
import ContractTypes.Json.Basic

/-!
Writing a document as JSON.

Every field of every record is written, in the order in which it is declared, also where it has the
value that it would have if it were left out.
-/

namespace ContractTypes

def Json.ofTexts (texts : List Text) : Json := .array (texts.map .string)

def Alias.toJson (declared : Alias) : Json :=
  .object [("new_type_name", .string declared.name), ("type", .string declared.target)]

def Field.toJson (field : Field) : Json :=
  .object [("name", .string field.name), ("type", .string field.type)]

def Struct.toJson (declared : Struct) : Json :=
  .object [("name", .string declared.name), ("base", .string declared.base),
    ("fields", .array (declared.fields.map Field.toJson))]

def Action.toJson (action : Action) : Json :=
  .object [("name", .string action.name), ("type", .string action.type),
    ("ricardian_contract", .string action.ricardianContract)]

def Table.toJson (table : Table) : Json :=
  .object [("name", .string table.name), ("type", .string table.type),
    ("index_type", .string table.indexType), ("key_names", Json.ofTexts table.keyNames),
    ("key_types", Json.ofTexts table.keyTypes)]

def Clause.toJson (clause : Clause) : Json :=
  .object [("id", .string clause.id), ("body", .string clause.body)]

def ErrorCode.toJson : ErrorCode → Json
  | number value => .integer value
  | text value => .string value

def ErrorMessage.toJson (errorMessage : ErrorMessage) : Json :=
  .object [("error_code", errorMessage.code.toJson), ("error_msg", .string errorMessage.message)]

def Extension.toJson (extension : Extension) : Json :=
  .object [("tag", .integer extension.tag), ("value", .string extension.value)]

def Variant.toJson (variant : Variant) : Json :=
  .object [("name", .string variant.name), ("types", Json.ofTexts variant.types)]

def Document.toJson (document : Document) : Json :=
  .object [("version", .string document.version),
    ("types", .array (document.aliases.map Alias.toJson)),
    ("structs", .array (document.structs.map Struct.toJson)),
    ("actions", .array (document.actions.map Action.toJson)),
    ("tables", .array (document.tables.map Table.toJson)),
    ("ricardian_clauses", .array (document.clauses.map Clause.toJson)),
    ("error_messages", .array (document.errorMessages.map ErrorMessage.toJson)),
    ("abi_extensions", .array (document.extensions.map Extension.toJson)),
    ("variants", .array (document.variants.map Variant.toJson))]

end ContractTypes
