import ContractTypes.Proofs.Declaration.Arrangement
import ContractTypes.Proofs.Json.Grammar

/-!
The tags of alternatives.

The line of an alternative begins with the type expression of the alternative, as a string of JSON.
Nothing in an expression breaks the line or ends the string: the string is printable ASCII, and the
reader of strings finds its end and its value from the line alone.  So the lines of a union give the
expressions of the variant back in their order.
-/

namespace ContractTypes

/-- The tag in the line of an alternative: the string of JSON that begins behind the indentation and
a bracket. -/
def Layout.tag? (layout : Layout) (line : Text) : Option Text := do
  let body ← line.strip? (layout.indent ++ "| [\"")
  let (tag, _) ← (Json.stringBody body body).toOption
  return tag

/-- A line carries an expression as its tag.  The written tag is one line of ASCII; if the
expression is scalar, it is the value of the written tag, and it can be read off the line. -/
structure Layout.Carries (layout : Layout) (expression line : Text) : Prop where
  placed : ∃ type, line = layout.indent ++ "| [" ++ Json.literal expression ++ ", " ++ type ++ "]"
  printable : (Json.literal expression).all CodePoint.isPrintableAscii = true
  decoded : expression.isScalar = true →
    Json.ofText (Json.literal expression) = .ok (.string expression)
  determined : expression.isScalar = true → layout.tag? line = some expression

theorem Json.ofText_literal {text : Text} (scalar : text.isScalar = true) :
    ofText (literal text) = .ok (.string text) :=
  ofText_of_hasText (hasText_print (isPlain_string_iff.2 scalar)) (.refl _)

namespace Layout

variable {layout : Layout}

theorem tag?_literal (expression rest : Text) :
    layout.tag? (layout.indent ++ "| [" ++ Json.literal expression ++ rest) =
      some (Json.joinPairs expression) := by
  have parts : layout.indent ++ "| [" ++ Json.literal expression ++ rest =
      (layout.indent ++ "| [\"") ++
        (expression.flatMap Json.literalStep ++ CodePoint.ofChar '"' :: rest) := by
    unfold Json.literal
    simp only [List.append_assoc]
    rfl
  rw [parts, tag?, Text.strip?_append]
  simp only [Option.bind_eq_bind, Option.bind_some, Json.stringBody_literal, Except.toOption]
  rfl

theorem carries_of_alternative (expression type : Text) :
    layout.Carries expression
      (layout.indent ++ "| [" ++ Json.literal expression ++ ", " ++ type ++ "]") where
  placed := ⟨type, rfl⟩
  printable := Json.printable_literal expression
  decoded := Json.ofText_literal
  determined := by
    intro scalar
    rw [List.append_assoc, List.append_assoc, tag?_literal,
      Json.joinPairs_eq_self (Json.hasSplitPair_of_isScalar scalar)]

theorem Carries.unique {first second line : Text} (one : layout.Carries first line)
    (other : layout.Carries second line) (firstScalar : first.isScalar = true)
    (secondScalar : second.isScalar = true) : first = second :=
  Option.some.inj ((one.determined firstScalar).symm.trans (other.determined secondScalar))

theorem map_tag?_of_carries {expressions lines : List Text}
    (carried : List.Forall₂ layout.Carries expressions lines)
    (scalar : ∀ expression ∈ expressions, expression.isScalar = true) :
    lines.map layout.tag? = expressions.map some := by
  induction carried with
  | nil => rfl
  | cons first _ ih =>
      obtain ⟨firstScalar, others⟩ := List.forall_mem_cons.1 scalar
      rw [List.map_cons, List.map_cons, first.determined firstScalar, ih others]

end Layout

/-- The block of a variant is a union whose lines carry the types of the variant, each line its
own. -/
def Layout.IsTagged (layout : Layout) (declared : Variant) (block : List Text) : Prop :=
  ∃ alternatives, block = layout.unionLines declared.name alternatives ∧
    List.Forall₂ layout.Carries declared.types alternatives ∧
    ((∀ expression ∈ declared.types, expression.isScalar = true) →
      alternatives.map layout.tag? = declared.types.map some)

namespace Document

variable {document : Document} {layout : Layout}

theorem isTagged_of_variantBlock {declared : Variant} {block : List Text}
    (made : document.variantBlock layout declared = .ok block) :
    layout.IsTagged declared block := by
  obtain ⟨alternatives, _, whole, listed⟩ := isVariantBlock_of_variantBlock made
  have carried : List.Forall₂ layout.Carries declared.types alternatives := by
    refine listed.imp ?_
    rintro expression line ⟨_, type, _, _, rfl⟩
    exact Layout.carries_of_alternative expression type
  exact ⟨alternatives, whole, carried, Layout.map_tag?_of_carries carried⟩

/-- Of the blocks of a document, those behind the blocks of its structs are the unions of its
variants, in which each line carries the type expression at its place as a string of JSON, in
printable ASCII.  A scalar expression is the value of that string and is determined by the line, so
no line belongs to two of them. -/
theorem alternatives_tagged (document : Document) (layout : Layout) {lines : List Text}
    (made : document.lines layout = .ok lines) :
    (∃ interfaces unions, Text.paragraphs lines = interfaces ++ unions ∧
      interfaces.length = document.structs.length ∧
      List.Forall₂ layout.IsTagged document.variants unions) ∧
    ∀ first second line, layout.Carries first line → layout.Carries second line →
      first.isScalar = true → second.isScalar = true → first = second := by
  refine ⟨?_, fun first second line one other => one.unique other⟩
  obtain ⟨structs, variants, ofStructs, ofVariants, rfl⟩ := lines_eq_ok made
  refine ⟨structs, variants, Text.paragraphs_intercalate (filled_blocks ofStructs ofVariants), ?_,
    ?_⟩
  · exact (forall₂_of_mapM ofStructs).length_eq.symm
  · exact (forall₂_of_mapM ofVariants).imp (fun _ _ made => isTagged_of_variantBlock made)

/-- A name with a quote, a backslash, a line break, a deletion mark and a code point above
`0xFFFF`. -/
def oddName : Text := Text.ofString "q\"\\\n" ++ [⟨0x7F, by decide⟩, ⟨0x1F600, by decide⟩]

def cabinet : Document where
  version := "eosio::abi/1.2"
  aliases := []
  structs := [⟨oddName, [], []⟩]
  actions := []
  tables := []
  clauses := []
  errorMessages := []
  extensions := []
  variants := [⟨"drawer", [oddName ++ Marker.array.text, "name", oddName ++ Marker.array.text]⟩]

def cabinetLayout : Layout := ⟨" ", 2, fun _ => "T", true⟩

def cabinetLines : List Text := [
  "export interface T \x7b", "\x7d", [], "export type T =",
    "  | [\"q\\\"\\\\\\n\\u007f\\ud83d\\ude00[]\", T[]]",
  "  | [\"name\", string]", "  | [\"q\\\"\\\\\\n\\u007f\\ud83d\\ude00[]\", T[]]"]

theorem cabinet_alternatives_tagged : cabinet.lines cabinetLayout = .ok cabinetLines ∧
    ∃ interfaces unions, Text.paragraphs cabinetLines = interfaces ++ unions ∧
      interfaces.length = 1 ∧
      List.Forall₂ cabinetLayout.IsTagged cabinet.variants unions := by
  have written : cabinet.lines cabinetLayout = .ok cabinetLines := by decide +kernel
  exact ⟨written, (alternatives_tagged cabinet cabinetLayout written).1⟩

end Document

end ContractTypes
