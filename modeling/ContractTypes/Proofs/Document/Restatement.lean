import ContractTypes.Document.Loading
import ContractTypes.Proofs.Document.Schema
import ContractTypes.Proofs.Json.Grammar

/-!
Documents are read back.

A text of a document that is restated, at any depth, is loaded as that document.
-/

namespace ContractTypes

theorem Document.ofText_of_restates {document : Document} {given : Json} {text padded : Text}
    (restated : Document.schema.Restates document.toJson given) (written : given.HasText text)
    (around : Json.Padded text padded) : Document.ofText padded = .ok document := by
  have read := codec.readsBack document given restated
  rw [schema, Schema.restates_record] at restated
  obtain ⟨givens, rfl, _⟩ := restated.presents (by decide)
  unfold Document.ofText Document.ofValue
  rw [Json.ofText_of_hasText written around]
  simp only [read]

/-- A document whose integers are not too long and whose texts are scalar is loaded from its full
text, and from each text of a restatement of it.  The full value is a restatement itself, so this
holds of each of its texts. -/
theorem Document.ofText_restated (document : Document) (plain : document.toJson.IsPlain) :
    Document.ofText document.toJson.print = .ok document ∧
      Document.schema.Restates document.toJson document.toJson ∧
      ∀ given text padded, Document.schema.Restates document.toJson given → given.HasText text →
        Json.Padded text padded → Document.ofText padded = .ok document := by
  refine ⟨?_, codec.restates document, ?_⟩
  · exact ofText_of_restates (codec.restates document) (Json.hasText_print plain)
      (Json.Padded.refl _)
  · intro given text padded restated written around
    exact ofText_of_restates restated written around

def archive : Document where
  version := "contract/1.1"
  aliases := []
  structs := [⟨"entry", [], [⟨"title", "string"⟩]⟩]
  actions := []
  tables := []
  clauses := []
  errorMessages := [⟨.text "404", "no \"entry\""⟩]
  extensions := [⟨-0x10000000000000000, "limits"⟩]
  variants := []

/-- The archive without its empty sections and its empty base, with a comment, and in the opposite
order. -/
def archiveGiven : Json := .object [
  ("comment", .null),
  ("abi_extensions",
    .array [.object [("value", .string "limits"), ("tag", .integer (-0x10000000000000000))]]),
  ("error_messages",
    .array [.object [("error_msg", .string "no \"entry\""), ("error_code", .string "404")]]),
  ("structs",
    .array [.object
      [("fields", .array [.object [("type", .string "string"), ("name", .string "title")]]),
    ("name", .string "entry")]]),
  ("version", .string "contract/1.1")]

theorem archive_restated : Document.schema.Restates archive.toJson archiveGiven := by
  have field : Field.schema.Restates (Field.toJson ⟨"title", "string"⟩)
      (.object [("type", .string "string"), ("name", .string "title")]) :=
    .of_perm (.keep rfl (.keep rfl .nil)) (List.reverse_perm [_, _])
  have struct : Struct.schema.Restates (Struct.toJson ⟨"entry", [], [⟨"title", "string"⟩]⟩)
      (.object [("fields",
        .array [.object [("type", .string "string"), ("name", .string "title")]]),
        ("name", .string "entry")]) :=
    .of_perm (.keep rfl (.leave rfl (.keep (.intro (.cons field .nil)) .nil)))
      (List.reverse_perm [_, _])
  have message : ErrorMessage.schema.Restates (ErrorMessage.toJson ⟨.text "404", "no \"entry\""⟩)
      (.object [("error_msg", .string "no \"entry\""), ("error_code", .string "404")]) :=
    .of_perm (.keep rfl (.keep rfl .nil)) (List.reverse_perm [_, _])
  have extension : Extension.schema.Restates (Extension.toJson ⟨-0x10000000000000000, "limits"⟩)
      (.object [("value", .string "limits"), ("tag", .integer (-0x10000000000000000))]) :=
    .of_perm (.keep rfl (.keep rfl .nil)) (List.reverse_perm [_, _])
  exact @Recorded.intro _ _ _ [(Text.ofString "comment", Json.null)] _
    (.keep rfl (.leave rfl (.keep (.intro (.cons struct .nil)) (.leave rfl (.leave rfl (.leave rfl
      (.keep (.intro (.cons message .nil)) (.keep (.intro (.cons extension .nil))
      (.leave rfl .nil)))))))))
    (by decide) (List.reverse_perm [_, _, _, _, _])

theorem archive_plain : archive.toJson.IsPlain := by
  simp only [archive, Document.toJson, Struct.toJson, Field.toJson, ErrorMessage.toJson,
    ErrorCode.toJson, Extension.toJson, List.map_nil, List.map_cons, Json.isPlain_object_iff,
    Json.isPlain_array_iff,
    Json.isPlain_string_iff, Json.isPlain_integer_iff, List.forall_mem_cons, List.not_mem_nil,
      false_implies,
    implies_true, and_true]
  decide

theorem archiveGiven_plain : archiveGiven.IsPlain := by
  simp only [archiveGiven, Json.isPlain_object_iff, Json.isPlain_array_iff, Json.isPlain_string_iff,
    Json.isPlain_integer_iff, List.forall_mem_cons, List.not_mem_nil, false_implies, implies_true,
      and_true]
  refine ⟨⟨by decide, .null⟩, ?_⟩
  decide

theorem archive_ofText : archive.toJson.IsPlain ∧
    Document.ofText archive.toJson.print = .ok archive ∧
    Document.ofText ("\n" ++ (archiveGiven.print ++ " ")) = .ok archive := by
  obtain ⟨whole, _, restated⟩ := Document.ofText_restated archive archive_plain
  have around : Json.Padded archiveGiven.print ("\n" ++ (archiveGiven.print ++ " ")) :=
    ⟨"\n", " ", by decide, by decide, rfl⟩
  exact ⟨archive_plain, whole, restated _ _ _ archive_restated
    (Json.hasText_print archiveGiven_plain) around⟩

end ContractTypes
