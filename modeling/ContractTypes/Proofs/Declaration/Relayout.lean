import ContractTypes.Proofs.Declaration.FirstFault
import ContractTypes.Proofs.Text.Paragraphs

/-!
Declarations under different layouts.

A layout puts the export marker in front of the first line of each declaration and the indent in
front of each line of a body.  Apart from that, a line depends on the formatter alone.  So the lines
of a document come from lines apart from layouts, each of which is laid out by itself, whatever is
in the names.  Whether a document has lines depends on no layout at all.
-/

namespace ContractTypes

/-- A line of declarations apart from its layout. -/
inductive PlainLine where
  | head (text : Text)
  | body (text : Text)
  | brace
  | separator
deriving DecidableEq

namespace PlainLine

def text (layout : Layout) : PlainLine → Text
  | head text => layout.exportText ++ text
  | body text => layout.indent ++ text
  | brace => "\x7d"
  | separator => []

/-- The text of a line when declarations are exported, from its text when they are not. -/
def exportedText : PlainLine → Text → Text
  | head _, text => "export " ++ text
  | _, text => text

/-- The text of a line under a new indent, from its text under an old one. -/
def reindentedText (old new : Text) : PlainLine → Text → Text
  | body _, text => new ++ text.drop old.length
  | _, text => text

variable (layout : Layout)

theorem text_exported (line : PlainLine) : line.text { layout with exported := true } =
    line.exportedText (line.text { layout with exported := false }) := by
  cases line <;> rfl

theorem text_reindented (unit : Text) (width : Nat) (line : PlainLine) :
    line.text { layout with indentUnit := unit, indentWidth := width } =
      line.reindentedText layout.indent (List.replicate width unit).flatten (line.text layout) := by
  cases line with
  | head text => rfl
  | body text =>
      rw [reindentedText, PlainLine.text, PlainLine.text, List.drop_left]
      rfl
  | brace => rfl
  | separator => rfl

end PlainLine

def Layout.bare (format : Text → Text) : Layout := ⟨[], 0, format, false⟩

namespace Document

def plainInterface (document : Document) (format : Text → Text) (declared : Struct) :
    Except TransformError (List PlainLine) := do
  let fields ← (document.effectiveFields declared).mapError .inheritance
  let members ← fields.mapM (document.memberLine (.bare format) declared)
  return .head ("interface " ++ format declared.name ++ " \x7b") :: members.map .body ++ [.brace]

def plainUnion (document : Document) (format : Text → Text) (declared : Variant) :
    Except TransformError (List PlainLine) := do
  if declared.types.isEmpty then return [.head ("type " ++ format declared.name ++ " = never")]
  let alternatives ← declared.types.mapM (document.alternativeLine (.bare format) declared)
  return .head ("type " ++ format declared.name ++ " =") :: alternatives.map .body

def plainLines (document : Document) (format : Text → Text) :
    Except TransformError (List PlainLine) := do
  let interfaces ← document.structs.mapM (document.plainInterface format)
  let unions ← document.variants.mapM (document.plainUnion format)
  return List.intercalate [.separator] (interfaces ++ unions)

variable (document : Document) (layout : Layout)

theorem memberLine_eq_map_bare (owner : Struct) (field : Field) :
    document.memberLine layout owner field =
      (document.memberLine (.bare layout.format) owner field).map (layout.indent ++ ·) := by
  unfold memberLine
  cases document.resolveAt (.field field.name owner.name) field.type with
  | error error => rfl
  | ok ref =>
      change (writeType layout ref.present >>= _) = ((writeType layout ref.present >>= _).map _)
      cases writeType layout ref.present with
      | error error => rfl
      | ok text =>
          refine congrArg Except.ok ?_
          simp only [List.append_assoc]
          rfl

theorem alternativeLine_eq_map_bare (owner : Variant) (expression : Text) :
    document.alternativeLine layout owner expression =
      (document.alternativeLine (.bare layout.format) owner expression).map
      (layout.indent ++ ·) := by
  unfold alternativeLine
  cases document.resolveAt (.variant owner.name) expression with
  | error error => rfl
  | ok ref =>
      change (writeType layout ref >>= _) = ((writeType layout ref >>= _).map _)
      cases writeType layout ref with
      | error error => rfl
      | ok text =>
          refine congrArg Except.ok ?_
          simp only [List.append_assoc]
          rfl

theorem structBlock_eq_map_plain (declared : Struct) :
    document.structBlock layout declared =
      (document.plainInterface layout.format declared).map (List.map (PlainLine.text layout)) := by
  unfold structBlock plainInterface
  cases document.effectiveFields declared with
  | error error => rfl
  | ok fields =>
      change (fields.mapM (document.memberLine layout declared) >>= _) =
        ((fields.mapM (document.memberLine (.bare layout.format) declared) >>= _).map _)
      rw [mapM_eq_map_mapM (document.memberLine_eq_map_bare layout declared)]
      cases fields.mapM (document.memberLine (.bare layout.format) declared) with
      | error error => rfl
      | ok members =>
          refine congrArg Except.ok ?_
          simp only [List.map_append, List.map_cons, List.map_map, List.map_nil, List.append_assoc]
          rfl

theorem variantBlock_eq_map_plain (declared : Variant) :
    document.variantBlock layout declared =
      (document.plainUnion layout.format declared).map (List.map (PlainLine.text layout)) := by
  unfold variantBlock plainUnion
  cases declared.types with
  | nil =>
      refine congrArg (fun head => Except.ok [head]) ?_
      simp only [List.append_assoc]
      rfl
  | cons first rest =>
      change ((first :: rest).mapM (document.alternativeLine layout declared) >>= _) =
        (((first :: rest).mapM (document.alternativeLine (.bare layout.format) declared) >>= _).map
          _)
      rw [mapM_eq_map_mapM (document.alternativeLine_eq_map_bare layout declared)]
      cases (first :: rest).mapM (document.alternativeLine (.bare layout.format) declared) with
      | error error => rfl
      | ok alternatives =>
          refine congrArg Except.ok ?_
          simp only [List.map_cons, List.map_map, List.append_assoc]
          rfl

theorem lines_eq_map_plain : document.lines layout =
    (document.plainLines layout.format).map (List.map (PlainLine.text layout)) := by
  unfold lines blocks plainLines
  rw [mapM_eq_map_mapM (document.structBlock_eq_map_plain layout),
    mapM_eq_map_mapM (document.variantBlock_eq_map_plain layout)]
  cases document.structs.mapM (document.plainInterface layout.format) with
  | error error => rfl
  | ok interfaces =>
      cases document.variants.mapM (document.plainUnion layout.format) with
      | error error => rfl
      | ok unions =>
          refine congrArg Except.ok ?_
          rw [map_intercalate, List.map_append]
          rfl

/-- Whether a document has lines, and the error if it has none, is the same under all layouts.  Its
lines under a layout are lines apart from layouts that are laid out one by one, and all layouts with
the same formatter lay out the same ones.  So exporting puts the marker in front of the first line
of each declaration and changes no other line, and a new indent takes the place of the old one in
front of each line of a body and changes no other line. -/
theorem lines_relaid (document : Document) (layout : Layout) :
    (∀ other, faultOf (document.lines other) = faultOf (document.lines layout)) ∧
    ∀ lines, document.lines layout = .ok lines → ∃ plain,
      document.plainLines layout.format = .ok plain ∧
      lines = plain.map (PlainLine.text layout) ∧
      (∀ other : Layout, other.format = layout.format →
        document.lines other = .ok (plain.map (PlainLine.text other))) ∧
      document.lines { layout with exported := true } = .ok (plain.map (fun line =>
        line.exportedText (line.text { layout with exported := false }))) ∧
      ∀ unit width, document.lines { layout with indentUnit := unit, indentWidth := width } =
        .ok (plain.map (fun line =>
          line.reindentedText layout.indent (List.replicate width unit).flatten
            (line.text layout))) := by
  refine ⟨fun other => ?_, fun lines made => ?_⟩
  · rw [faultOf_lines, faultOf_lines]
  · rw [lines_eq_map_plain] at made
    obtain ⟨plain, given, rfl⟩ := exists_of_map_eq_ok made
    have laid (other : Layout) (same : other.format = layout.format) :
        document.lines other = .ok (plain.map (PlainLine.text other)) := by
      rw [lines_eq_map_plain, same, given]
      rfl
    refine ⟨plain, given, rfl, laid, ?_, fun unit width => ?_⟩
    · rw [laid { layout with exported := true } rfl]
      exact congrArg Except.ok (List.map_congr_left (fun line _ => line.text_exported layout))
    · rw [laid { layout with indentUnit := unit, indentWidth := width } rfl]
      exact congrArg Except.ok
        (List.map_congr_left (fun line _ => line.text_reindented layout unit width))

end Document

end ContractTypes
