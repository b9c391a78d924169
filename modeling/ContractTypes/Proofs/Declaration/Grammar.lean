import ContractTypes.Proofs.Declaration.Outline
import ContractTypes.Proofs.Json.StringLiteral
import ContractTypes.Proofs.Text.Paragraphs
import ContractTypes.Proofs.TypeText.Grammar
import ContractTypes.Settings.Basic

/-!
Reading declarations.

Declarations stand in blocks with one empty line between neighbours.  The first line of a block
gives its kind and its name: an interface, whose members stand on the lines up to a closing brace; a
union, whose alternatives stand on the lines below, at least one; or the type `never` for a union
without alternatives.  A reader of this grammar finds the outline of a document in the lines of its
declarations.
-/

namespace ContractTypes

def CodePoint.isIndent (point : CodePoint) : Bool := point = ' ' || point = '\t'

def Text.unindented (line : Text) : Text := line.dropWhile CodePoint.isIndent

def MemberOutline.readMark (input : Text) : Bool × Text :=
  match input.strip? "?" with
  | some rest => (true, rest)
  | none => (false, input)

def MemberOutline.read (line : Text) : Option MemberOutline := do
  let (name, afterName) ← line.unindented.identifierAt
  let mark := readMark afterName
  let typeText ← mark.2.strip? ": "
  let (shape, rest) ← TypeShape.read typeText
  if rest.isEmpty then some ⟨name, mark.1, shape⟩ else none

def AlternativeOutline.read (line : Text) : Option AlternativeOutline := do
  let rest ← line.unindented.strip? "| [\""
  let (tag, rest) ← (Json.stringBody rest rest).toOption
  let rest ← rest.strip? ", "
  let (shape, rest) ← TypeShape.read rest
  if rest = "]" then some ⟨tag, shape⟩ else none

def DeclarationBody.readInterface (afterName : Text) (below : List Text) : Option DeclarationBody :=
  if afterName = " \x7b" ∧ below.getLast? = some (Text.ofString "\x7d") then
    (below.dropLast.mapM MemberOutline.read).map .interface
  else none

def DeclarationBody.readUnion (afterName : Text) (below : List Text) : Option DeclarationBody :=
  if below.isEmpty then if afterName = " = never" then some (.union []) else none
  else if afterName = " =" then (below.mapM AlternativeOutline.read).map .union
  else none

def DeclarationOutline.readPlain (exported : Bool) (head : Text) (below : List Text) :
    Option DeclarationOutline :=
  match head.strip? "interface " with
  | some rest => do
      let (name, afterName) ← rest.identifierAt
      let body ← DeclarationBody.readInterface afterName below
      return ⟨exported, name, body⟩
  | none => do
      let rest ← head.strip? "type "
      let (name, afterName) ← rest.identifierAt
      let body ← DeclarationBody.readUnion afterName below
      return ⟨exported, name, body⟩

def DeclarationOutline.readBlock : List Text → Option DeclarationOutline
  | [] => none
  | head :: below =>
      match head.strip? "export " with
      | some rest => readPlain true rest below
      | none => readPlain false head below

def DeclarationOutline.read (lines : List Text) : Option (List DeclarationOutline) :=
  if lines.isEmpty then some [] else (lines.splitOn []).mapM readBlock

/-- An alternative as its line carries it: the tag has its split pairs joined. -/
def AlternativeOutline.carried (alternative : AlternativeOutline) : AlternativeOutline :=
  { alternative with tag := Json.joinPairs alternative.tag }

def DeclarationBody.carried : DeclarationBody → DeclarationBody
  | interface members => interface members
  | union alternatives => union (alternatives.map AlternativeOutline.carried)

def DeclarationOutline.carried (declared : DeclarationOutline) : DeclarationOutline :=
  { declared with body := declared.body.carried }

def DeclarationBody.ForallTags (holds : Text → Prop) : DeclarationBody → Prop
  | interface _ => True
  | union alternatives => ∀ alternative ∈ alternatives, holds alternative.tag

/-! ### Lines of a body -/

section Body

variable {indent : Text}

theorem unindented_append (blank : indent.all CodePoint.isIndent = true) {rest : Text}
    (ends : Text.stops CodePoint.isIndent rest = true) : Text.unindented (indent ++ rest) = rest :=
  Text.dropWhile_append blank ends

theorem stops_isIndent_of_isIdentifier {name : Text} (shaped : name.isIdentifier = true)
    (rest : Text) : Text.stops CodePoint.isIndent (name ++ rest) = true := by
  obtain ⟨point, inside, rfl, starts, _⟩ := Text.exists_cons_of_isIdentifier shaped
  change (!point.isIndent) = true
  rw [Bool.not_eq_true']
  apply Bool.eq_false_iff.2
  intro blank
  rcases Bool.or_eq_true_iff.1 blank with space | tab
  · rw [of_decide_eq_true space] at starts
    exact absurd starts (by decide)
  · rw [of_decide_eq_true tab] at starts
    exact absurd starts (by decide)

theorem MemberOutline.readMark_append (mayBeMissing : Bool) (rest : Text) :
    readMark ((if mayBeMissing then ("?" : Text) else ("" : Text)) ++ (": " ++ rest)) =
      (mayBeMissing, ": " ++ rest) := by
  cases mayBeMissing with
  | true =>
      rw [if_pos rfl, readMark, Text.strip?_append]
  | false => rfl

theorem MemberOutline.read_line (blank : indent.all CodePoint.isIndent = true)
    {member : MemberOutline} (formed : member.WellFormed) :
    MemberOutline.read (member.line indent) = some member := by
  obtain ⟨shaped, typed⟩ := formed
  have type : TypeShape.read member.shape.text = some (member.shape, []) := by
    have closed : TypeShape.stopsType [] = true := rfl
    have whole := TypeShape.read_text typed closed
    rw [List.append_nil] at whole
    exact whole
  have ends : Text.stops CodePoint.continuesIdentifier
      ((if member.mayBeMissing then ("?" : Text) else ("" : Text)) ++ (": " ++ member.shape.text)) =
        true := by
    cases member.mayBeMissing <;> rfl
  unfold line read
  simp only [List.append_assoc]
  rw [unindented_append blank (stops_isIndent_of_isIdentifier shaped _),
    Text.identifierAt_append shaped ends]
  simp only [Option.bind_eq_bind, Option.bind_some, readMark_append, Text.strip?_append, type]
  rfl

theorem AlternativeOutline.line_eq (alternative : AlternativeOutline) : alternative.line indent =
    indent ++ ("| [\"" ++ (alternative.tag.flatMap Json.literalStep ++
      CodePoint.ofChar '"' :: (", " ++ (alternative.shape.text ++ "]")))) := by
  unfold line Json.literal
  simp only [List.append_assoc]
  rfl

theorem AlternativeOutline.read_line (blank : indent.all CodePoint.isIndent = true)
    {alternative : AlternativeOutline} (typed : alternative.shape.WellFormed) :
    AlternativeOutline.read (alternative.line indent) =
      some alternative.carried := by
  have closed : TypeShape.stopsType "]" = true := rfl
  rw [line_eq, read, unindented_append blank rfl, Text.strip?_append]
  simp only [Option.bind_eq_bind, Option.bind_some, Json.stringBody_literal, Except.toOption,
    Text.strip?_append, TypeShape.read_text typed closed]
  rfl

end Body

theorem mapM_map_eq_some {Item Source Value : Type} {write : Item → Source}
    {read : Source → Option Value} {kept : Item → Value} {items : List Item}
    (back : ∀ item ∈ items, read (write item) = some (kept item)) :
    (items.map write).mapM read = some (items.map kept) := by
  induction items with
  | nil => rfl
  | cons item items ih =>
      rw [List.map_cons, List.mapM_cons, back item List.mem_cons_self,
        ih (fun other member => back other (List.mem_cons_of_mem _ member))]
      rfl

section Block

variable {indent : Text}

theorem readInterface_lines (blank : indent.all CodePoint.isIndent = true)
    {members : List MemberOutline} (formed : (DeclarationBody.interface members).WellFormed) :
    DeclarationBody.readInterface " \x7b"
      (members.map (MemberOutline.line indent) ++ [Text.ofString "\x7d"]) =
      some (.interface members) := by
  have back : (members.map (MemberOutline.line indent)).mapM MemberOutline.read =
      some (members.map id) :=
    mapM_map_eq_some (fun member inside => MemberOutline.read_line blank (formed member inside))
  rw [DeclarationBody.readInterface, if_pos ⟨rfl, List.getLast?_concat⟩, List.dropLast_concat, back,
    List.map_id]
  rfl

theorem readUnion_lines (blank : indent.all CodePoint.isIndent = true)
    {alternatives : List AlternativeOutline}
    (formed : (DeclarationBody.union alternatives).WellFormed) (filled : alternatives ≠ []) :
    DeclarationBody.readUnion " =" (alternatives.map (AlternativeOutline.line indent)) =
      some (DeclarationBody.union alternatives).carried := by
  have back := mapM_map_eq_some (fun alternative inside =>
    AlternativeOutline.read_line blank (formed alternative inside))
  have lines : ¬(alternatives.map (AlternativeOutline.line indent)).isEmpty = true := by
    rw [List.isEmpty_iff, List.map_eq_nil_iff]
    exact filled
  rw [DeclarationBody.readUnion, if_neg lines, if_pos rfl, back]
  rfl

theorem readPlain_interface {name afterName : Text} (shaped : name.isIdentifier = true)
    (ends : Text.stops CodePoint.continuesIdentifier afterName = true) (exported : Bool)
    (below : List Text) :
    DeclarationOutline.readPlain exported ("interface " ++ (name ++ afterName)) below =
      (DeclarationBody.readInterface afterName below).map
      (DeclarationOutline.mk exported name) := by
  unfold DeclarationOutline.readPlain
  simp only [Text.strip?_append, Text.identifierAt_append shaped ends, Option.bind_eq_bind,
    Option.bind_some]
  cases DeclarationBody.readInterface afterName below <;> rfl

theorem readPlain_type {name afterName : Text} (shaped : name.isIdentifier = true)
    (ends : Text.stops CodePoint.continuesIdentifier afterName = true) (exported : Bool)
    (below : List Text) :
    DeclarationOutline.readPlain exported ("type " ++ (name ++ afterName)) below =
      (DeclarationBody.readUnion afterName below).map (DeclarationOutline.mk exported name) := by
  have other : Text.strip? ("type " ++ (name ++ afterName)) "interface " = none := rfl
  unfold DeclarationOutline.readPlain
  simp only [other, Text.strip?_append, Text.identifierAt_append shaped ends, Option.bind_eq_bind,
    Option.bind_some]
  cases DeclarationBody.readUnion afterName below <;> rfl

theorem readBlock_export {plain : Text} (other : plain.strip? "export " = none) (exported : Bool)
    (below : List Text) :
    DeclarationOutline.readBlock
      (((if exported then ("export " : Text) else []) ++ plain) :: below) =
      DeclarationOutline.readPlain exported plain below := by
  unfold DeclarationOutline.readBlock
  cases exported with
  | true => simp only [if_true, Text.strip?_append]
  | false =>
      simp only [Bool.false_eq_true, if_false, List.nil_append, other]

theorem readBlock_block (blank : indent.all CodePoint.isIndent = true)
    {declared : DeclarationOutline} (formed : declared.WellFormed) :
    DeclarationOutline.readBlock (declared.block indent) = some declared.carried := by
  obtain ⟨exported, name, body⟩ := declared
  obtain ⟨shaped, inside⟩ := formed
  cases body with
  | interface members =>
      unfold DeclarationOutline.block
      simp only [List.append_assoc]
      rw [List.cons_append, readBlock_export rfl, readPlain_interface shaped rfl,
        readInterface_lines blank inside]
      rfl
  | union alternatives =>
      cases alternatives with
      | nil =>
          unfold DeclarationOutline.block
          simp only [List.append_assoc]
          rw [readBlock_export rfl, readPlain_type shaped rfl]
          rfl
      | cons first rest =>
          unfold DeclarationOutline.block
          simp only [List.append_assoc]
          rw [readBlock_export rfl, readPlain_type shaped rfl,
            readUnion_lines blank inside (List.cons_ne_nil first rest)]
          rfl

end Block

/-! ### Whole documents -/

namespace DeclarationOutline

theorem read_eq_mapM_paragraphs (lines : List Text) :
    read lines = (Text.paragraphs lines).mapM readBlock := by
  unfold read Text.paragraphs
  split <;> rfl

theorem read_blocks {indent : Text} (blank : indent.all CodePoint.isIndent = true)
    {outlines : List DeclarationOutline} (formed : ∀ declared ∈ outlines, declared.WellFormed) :
    read (List.intercalate [[]] (outlines.map (block indent))) = some (outlines.map carried) := by
  have filled : ∀ lines ∈ outlines.map (block indent), lines ≠ [] ∧ ∀ line ∈ lines, line ≠ [] := by
    intro lines member
    obtain ⟨declared, _, rfl⟩ := List.mem_map.1 member
    exact ⟨block_ne_nil indent declared, fun line inside => ne_nil_of_mem_block inside⟩
  rw [read_eq_mapM_paragraphs, Text.paragraphs_intercalate filled]
  exact mapM_map_eq_some (fun declared member => readBlock_block blank (formed declared member))

theorem carried_eq_self {declared : DeclarationOutline}
    (whole : declared.body.ForallTags (fun tag => Json.hasSplitPair tag = false)) :
    declared.carried = declared := by
  obtain ⟨exported, name, body⟩ := declared
  cases body with
  | interface members => rfl
  | union alternatives =>
      have same (alternative : AlternativeOutline) (member : alternative ∈ alternatives) :
          alternative.carried = alternative := by
        rw [AlternativeOutline.carried, Json.joinPairs_eq_self (whole alternative member)]
      unfold carried DeclarationBody.carried
      simp only [List.map_congr_left same, List.map_id']

end DeclarationOutline

namespace Settings

variable {settings : Settings} {layout : Layout}

theorem exists_layout_eq (laidOut : settings.layout = .ok layout) : ∃ width, layout =
    ⟨[settings.indentPoint], width, settings.convention.format settings.namePrefix,
      settings.exported⟩ := by
  revert laidOut
  fun_cases Settings.layout settings with
  | case1 => nofun
  | case2 => nofun
  | case3 => nofun
  | case4 width =>
      intro laidOut
      exact ⟨width, (Except.ok.inj laidOut).symm⟩

theorem format_layout (laidOut : settings.layout = .ok layout) :
    layout.format = settings.convention.format settings.namePrefix := by
  obtain ⟨width, rfl⟩ := exists_layout_eq laidOut
  rfl

theorem keepsIdentifiers_layout (plain : Convention.isPlainPrefix settings.namePrefix = true)
    (laidOut : settings.layout = .ok layout) : layout.KeepsIdentifiers := by
  intro name shaped
  rw [format_layout laidOut]
  exact settings.convention.isIdentifier_format plain shaped

theorem isIndent_layout (laidOut : settings.layout = .ok layout) :
    layout.indent.all CodePoint.isIndent = true := by
  obtain ⟨width, rfl⟩ := exists_layout_eq laidOut
  unfold Layout.indent
  rw [List.all_eq_true]
  intro point member
  obtain ⟨unit, repeated, inside⟩ := List.mem_flatten.1 member
  rw [List.eq_of_mem_replicate repeated] at inside
  rw [List.mem_singleton.1 inside]
  unfold indentPoint
  cases settings.useTabs <;> rfl

end Settings

namespace Document

theorem forallTags_variantOutline {document : Document} {layout : Layout} {declared : Variant}
    {holds : Text → Prop} (all : ∀ expression ∈ declared.types, holds expression)
    {result : DeclarationOutline} (given : document.variantOutline layout declared = .ok result) :
    result.body.ForallTags holds := by
  obtain ⟨alternatives, planned, rfl⟩ := variantOutline_eq_ok given
  refine forall_mem_of_mapM (fun expression typed alternative outlined => ?_) planned
  obtain ⟨ref, shape, _, _, rfl⟩ := alternativeOutline_eq_ok outlined
  exact all expression typed

theorem forallTags_structOutline {document : Document} {layout : Layout} {declared : Struct}
    {result : DeclarationOutline} (given : document.structOutline layout declared = .ok result)
    (holds : Text → Prop) : result.body.ForallTags holds := by
  obtain ⟨fields, members, _, _, rfl⟩ := structOutline_eq_ok given
  exact trivial

theorem forallTags_outline {document : Document} {layout : Layout} {holds : Text → Prop}
    (all : ∀ declared ∈ document.variants, ∀ expression ∈ declared.types, holds expression)
    {outlines : List DeclarationOutline} (given : document.outline layout = .ok outlines) :
    ∀ declared ∈ outlines, declared.body.ForallTags holds := by
  obtain ⟨structs, variants, fromStructs, fromVariants, rfl⟩ := outline_eq_ok given
  have ofStructs : ∀ declared ∈ structs, declared.body.ForallTags holds :=
    forall_mem_of_mapM (fun _ _ _ outlined => forallTags_structOutline outlined holds) fromStructs
  have ofVariants : ∀ declared ∈ variants, declared.body.ForallTags holds :=
    forall_mem_of_mapM (fun _ inside _ outlined =>
      forallTags_variantOutline (all _ inside) outlined)
      fromVariants
  intro declared member
  rcases List.mem_append.1 member with first | second
  · exact ofStructs declared first
  · exact ofVariants declared second

/-- The lines of a document with plain names are read back as its outline: the formatted names, the
members that may be missing, the tags and the shapes of types, in the order of the document.  A tag
comes back with its split pairs joined, and so as it was if it has none. -/
theorem read_lines_outline {document : Document} {settings : Settings} {layout : Layout}
    {lines : List Text} (plain : document.PlainNames)
    (plainPrefix : Convention.isPlainPrefix settings.namePrefix = true)
    (laidOut : settings.layout = .ok layout) (written : document.lines layout = .ok lines) :
    ∃ outlines, document.outline layout = .ok outlines ∧
      DeclarationOutline.read lines = some (outlines.map DeclarationOutline.carried) ∧
      ((∀ declared ∈ document.variants, ∀ expression ∈ declared.types,
        Json.hasSplitPair expression = false) → DeclarationOutline.read lines = some outlines) := by
  rw [lines_eq_map_outline] at written
  cases outlined : document.outline layout with
  | error error =>
      rw [outlined] at written
      cases written
  | ok outlines =>
      rw [outlined] at written
      rw [← Except.ok.inj written]
      have keeps := Settings.keepsIdentifiers_layout plainPrefix laidOut
      have back := DeclarationOutline.read_blocks (Settings.isIndent_layout laidOut)
        (wellFormed_outline plain keeps outlined)
      refine ⟨outlines, rfl, back, fun whole => ?_⟩
      have same (declared : DeclarationOutline) (member : declared ∈ outlines) :
          declared.carried = declared :=
        DeclarationOutline.carried_eq_self (forallTags_outline whole outlined declared member)
      rw [back, List.map_congr_left same, List.map_id']

def catalogue : Document where
  version := "eosio::abi/1.2"
  aliases := [⟨"words", "string[]"⟩]
  structs := [
    ⟨"base_row", [], [⟨"owner_name", "name"⟩]⟩,
    ⟨"row", "base_row", [⟨"tags", "words?"⟩, ⟨"next", "row?$[]"⟩, ⟨"price", "extended_asset$?"⟩]⟩]
  actions := []
  tables := []
  clauses := []
  errorMessages := []
  extensions := []
  variants := [⟨"value", ["uint8", "row?[]", "words"]⟩, ⟨"nothing", []⟩]

def catalogueSettings : Settings := ⟨.pascal, some "_x", 0, false, true⟩

def catalogueLines : List Text := [
  "export interface _xBaseRow \x7b",
  "_xOwnerName: string",
  "\x7d",
  "",
  "export interface _xRow \x7b",
  "_xOwnerName: string",
  "_xTags?: string[]",
  "_xNext: (_xRow | undefined)[]",
  "_xPrice?: \x7bquantity: string, contract: string\x7d | undefined",
  "\x7d",
  "",
  "export type _xValue =",
  "| [\"uint8\", number]",
  "| [\"row?[]\", (_xRow | undefined)[]]",
  "| [\"words\", string[]]",
  "",
  "export type _xNothing = never"]

theorem read_lines_catalogue : catalogue.PlainNames ∧
    Convention.isPlainPrefix catalogueSettings.namePrefix = true ∧
    ∃ layout, catalogueSettings.layout = .ok layout ∧ catalogue.lines layout = .ok catalogueLines ∧
      ∃ outlines, catalogue.outline layout = .ok outlines ∧
        DeclarationOutline.read catalogueLines = some outlines := by
  have plain : catalogue.PlainNames := ⟨by decide, by decide, by decide⟩
  have laidOut : catalogueSettings.layout = .ok ⟨[catalogueSettings.indentPoint], 0,
    Convention.format .pascal (some "_x"), true⟩ := rfl
  have written : catalogue.lines ⟨[catalogueSettings.indentPoint], 0,
    Convention.format .pascal (some "_x"), true⟩ = .ok catalogueLines := by decide +kernel
  obtain ⟨outlines, outlined, _, whole⟩ := read_lines_outline plain rfl laidOut written
  exact ⟨plain, rfl, _, laidOut, written, outlines, outlined, whole (by decide)⟩

end Document

end ContractTypes
