import ContractTypes.Document.Printer
import ContractTypes.Document.Reader
import ContractTypes.Proofs.Schema.Restatement

/-!
The schemas of a document.

Each record has a schema.  Its reader keeps to the schema, and whatever restates what its printer
writes is read back.
-/

namespace ContractTypes

open Schema

theorem tells_errorCode (json : Json) :
    Checked.Tells (readingProblems json) (ErrorCode.ofJson json) := by
  have unread (fault : WholeNumber.Fault) :
    [(⟨[.reading "int"], .notWholeNumber fault⟩ : ShapeProblem),
      ⟨[.reading "str"], .notText⟩] ≠ [] := List.cons_ne_nil _ _
  cases json with
  | null => exact .faulty (unread .kind)
  | boolean value => exact .valid (ErrorCode.number (if value then 1 else 0))
  | integer value => exact .valid (ErrorCode.number value)
  | float number =>
      cases read : WholeNumber.ofFloat number with
      | ok value =>
          simp only [readingProblems, numberProblems, ErrorCode.ofJson, Shape.wholeNumber,
            WholeNumber.ofJson, read]
          exact .valid (ErrorCode.number value)
      | error fault =>
          simp only [readingProblems, numberProblems, ErrorCode.ofJson, Shape.wholeNumber,
            WholeNumber.ofJson, read]
          exact .faulty (unread fault)
  | string value => exact .valid (ErrorCode.text value)
  | array items => exact .faulty (unread .kind)
  | object members => exact .faulty (unread .kind)

theorem codec_errorCode : Schema.numberOrText.Codec ErrorCode.ofJson ErrorCode.toJson where
  distinct := .numberOrText
  tells := by
    intro json
    rw [problems]
    exact tells_errorCode json
  agrees := by
    intro json other agrees
    cases agrees
    rfl
  restates := fun code => by rw [Restates]
  readsBack := by
    intro code given restated
    rw [Restates] at restated
    rw [← restated]
    cases code <;> rfl

def Alias.schema : Schema := .record [⟨"new_type_name", true, .text⟩, ⟨"type", true, .text⟩]

theorem Alias.codec : Alias.schema.Codec Alias.ofJson Alias.toJson :=
  (((entriesCodec_nil Alias.mk).required codec_text _ Alias.name).required
    codec_text _ Alias.target).record (by decide)

def Field.schema : Schema := .record [⟨"name", true, .text⟩, ⟨"type", true, .text⟩]

theorem Field.codec : Field.schema.Codec Field.ofJson Field.toJson :=
  (((entriesCodec_nil Field.mk).required codec_text _ Field.name).required
    codec_text _ Field.type).record (by decide)

def Struct.schema : Schema :=
  .record [⟨"name", true, .text⟩, ⟨"base", false, .text⟩, ⟨"fields", false, .list Field.schema⟩]

theorem Struct.codec : Struct.schema.Codec Struct.ofJson Struct.toJson :=
  ((((entriesCodec_nil Struct.mk).required codec_text _ Struct.name).optional
    codec_text _ rfl Struct.base).optional Field.codec.list _ rfl Struct.fields).record (by decide)

def Action.schema : Schema :=
  .record [⟨"name", true, .text⟩, ⟨"type", true, .text⟩, ⟨"ricardian_contract", false, .text⟩]

theorem Action.codec : Action.schema.Codec Action.ofJson Action.toJson :=
  ((((entriesCodec_nil Action.mk).required codec_text _ Action.name).required
    codec_text _ Action.type).optional codec_text _ rfl Action.ricardianContract).record (by decide)

def Table.schema : Schema :=
  .record [⟨"name", true, .text⟩, ⟨"type", true, .text⟩, ⟨"index_type", false, .text⟩,
    ⟨"key_names", false, .list .text⟩, ⟨"key_types", false, .list .text⟩]

theorem Table.codec : Table.schema.Codec Table.ofJson Table.toJson :=
  ((((((entriesCodec_nil Table.mk).required codec_text _ Table.name).required
    codec_text _ Table.type).optional codec_text _ rfl Table.indexType).optional
    codec_text.list _ rfl Table.keyNames).optional codec_text.list _ rfl Table.keyTypes).record
    (by decide)

def Clause.schema : Schema := .record [⟨"id", true, .text⟩, ⟨"body", true, .text⟩]

theorem Clause.codec : Clause.schema.Codec Clause.ofJson Clause.toJson :=
  (((entriesCodec_nil Clause.mk).required codec_text _ Clause.id).required
    codec_text _ Clause.body).record (by decide)

def ErrorMessage.schema : Schema :=
  .record [⟨"error_code", true, .numberOrText⟩, ⟨"error_msg", true, .text⟩]

theorem ErrorMessage.codec :
    ErrorMessage.schema.Codec ErrorMessage.ofJson ErrorMessage.toJson :=
  (((entriesCodec_nil ErrorMessage.mk).required codec_errorCode _ ErrorMessage.code).required
    codec_text _ ErrorMessage.message).record (by decide)

def Extension.schema : Schema := .record [⟨"tag", true, .wholeNumber⟩, ⟨"value", true, .text⟩]

theorem Extension.codec : Extension.schema.Codec Extension.ofJson Extension.toJson :=
  (((entriesCodec_nil Extension.mk).required codec_wholeNumber _ Extension.tag).required
    codec_text _ Extension.value).record (by decide)

def Variant.schema : Schema := .record [⟨"name", true, .text⟩, ⟨"types", false, .list .text⟩]

theorem Variant.codec : Variant.schema.Codec Variant.ofJson Variant.toJson :=
  (((entriesCodec_nil Variant.mk).required codec_text _ Variant.name).optional
    codec_text.list _ rfl Variant.types).record (by decide)

def Document.schema : Schema := .record [
  ⟨"version", true, .text⟩,
  ⟨"types", false, .list Alias.schema⟩,
  ⟨"structs", false, .list Struct.schema⟩,
  ⟨"actions", false, .list Action.schema⟩,
  ⟨"tables", false, .list Table.schema⟩,
  ⟨"ricardian_clauses", false, .list Clause.schema⟩,
  ⟨"error_messages", false, .list ErrorMessage.schema⟩,
  ⟨"abi_extensions", false, .list Extension.schema⟩,
  ⟨"variants", false, .list Variant.schema⟩]

theorem Document.codec : Document.schema.Codec Document.ofJson Document.toJson :=
  ((((((((((entriesCodec_nil Document.mk).required codec_text _ Document.version).optional
    Alias.codec.list _ rfl Document.aliases).optional
    Struct.codec.list _ rfl Document.structs).optional
    Action.codec.list _ rfl Document.actions).optional
    Table.codec.list _ rfl Document.tables).optional
    Clause.codec.list _ rfl Document.clauses).optional
    ErrorMessage.codec.list _ rfl Document.errorMessages).optional
    Extension.codec.list _ rfl Document.extensions).optional
    Variant.codec.list _ rfl Document.variants).record (by decide)

end ContractTypes
