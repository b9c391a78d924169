import ContractTypes.Document
import ContractTypes.Shape

/-!
Reading a document from JSON.

Every record lists its fields in the order in which their problems are reported.  Sections and most
texts may be left out; a field that is not listed here is passed over.
-/

namespace ContractTypes

open Shape

def Alias.ofJson : Json → Checked Alias :=
  record fun members =>
    ((Checked.valid Alias.mk).also (required members "new_type_name" text)).also
      (required members "type" text)

def Field.ofJson : Json → Checked Field :=
  record fun members =>
    ((Checked.valid Field.mk).also (required members "name" text)).also
      (required members "type" text)

def Struct.ofJson : Json → Checked Struct :=
  record fun members =>
    (((Checked.valid Struct.mk).also (required members "name" text)).also
      (optional members "base" [] text)).also (optional members "fields" [] (list Field.ofJson))

def Action.ofJson : Json → Checked Action :=
  record fun members =>
    (((Checked.valid Action.mk).also (required members "name" text)).also
      (required members "type" text)).also (optional members "ricardian_contract" [] text)

def Table.ofJson : Json → Checked Table :=
  record fun members =>
    (((((Checked.valid Table.mk).also (required members "name" text)).also
      (required members "type" text)).also (optional members "index_type" [] text)).also
      (optional members "key_names" [] (list text))).also
      (optional members "key_types" [] (list text))

def Clause.ofJson : Json → Checked Clause :=
  record fun members =>
    ((Checked.valid Clause.mk).also (required members "id" text)).also
      (required members "body" text)

/-- The code of an error.  A value that is no text must be a whole number, and otherwise fails in
both readings. -/
def ErrorCode.ofJson (json : Json) : Checked ErrorCode :=
  match json with
  | .string value => .valid (.text value)
  | _ =>
      match wholeNumber json with
      | .valid value => .valid (.number value)
      | .faulty problems =>
          .faulty (((Checked.faulty problems : Checked Int).under (.reading "int")).problems ++
            [⟨[.reading "str"], .notText⟩])

def ErrorMessage.ofJson : Json → Checked ErrorMessage :=
  record fun members =>
    ((Checked.valid ErrorMessage.mk).also (required members "error_code" ErrorCode.ofJson)).also
      (required members "error_msg" text)

def Extension.ofJson : Json → Checked Extension :=
  record fun members =>
    ((Checked.valid Extension.mk).also (required members "tag" wholeNumber)).also
      (required members "value" text)

def Variant.ofJson : Json → Checked Variant :=
  record fun members =>
    ((Checked.valid Variant.mk).also (required members "name" text)).also
      (optional members "types" [] (list text))

def Document.ofJson : Json → Checked Document :=
  record fun members =>
    (((((((((Checked.valid Document.mk).also (required members "version" text)).also
      (optional members "types" [] (list Alias.ofJson))).also
      (optional members "structs" [] (list Struct.ofJson))).also
      (optional members "actions" [] (list Action.ofJson))).also
      (optional members "tables" [] (list Table.ofJson))).also
      (optional members "ricardian_clauses" [] (list Clause.ofJson))).also
      (optional members "error_messages" [] (list ErrorMessage.ofJson))).also
      (optional members "abi_extensions" [] (list Extension.ofJson))).also
      (optional members "variants" [] (list Variant.ofJson))

end ContractTypes
