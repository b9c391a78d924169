import ContractTypes.Proofs.NameTable
import ContractTypes.Proofs.Warning
import ContractTypes.Proofs.Warning.Listing

/-!
What the warnings about a document report.

A report has a list of names for each question that is asked about a document, and these lists are
determined by the document.  The warnings are those that the report leads to, in the order of the
questions.  Where no name of a struct has a brace in it, each of them has a message, in which all
names stand as they are.
-/

namespace ContractTypes

namespace Template

theorem doubled_of_braceless {text : Text} (braceless : ∀ point ∈ text, ¬isBrace point = true) :
    doubled text = text := by
  induction text with
  | nil => rfl
  | cons point rest ih =>
      obtain ⟨plain, plains⟩ := List.forall_mem_cons.1 braceless
      rw [doubled_cons, if_neg plain, ih plains]
      rfl

end Template

namespace Warning

/-- A message about a warning, in which all names stand as they are. -/
def Says : Warning → Text → Prop
  | repeatedField name struct, message =>
      message = "Duplicate field name '" ++ name ++ "' in struct '" ++ struct ++ "'"
  | warning, message => warning.message = .ok message

theorem says_repeatedField {name struct message : Text}
    (braceless : ∀ point ∈ struct, ¬Template.isBrace point = true)
    (made : (repeatedField name struct).message = .ok message) :
    (repeatedField name struct).Says message := by
  have plain : ∀ point ∈ struct ++ "'", ¬Template.isBrace point = true := by
    rw [List.forall_mem_append]
    exact ⟨braceless, by decide⟩
  have written : Template.remainder (struct ++ "'") = .ok (struct ++ "'") :=
    Template.remainder_eq_ok_iff.2 (Template.doubled_of_braceless plain).symm
  rw [Warning.message, written] at made
  cases made
  exact (List.append_assoc _ _ _).symm

end Warning

structure Report where
  aliases : List Text
  structs : List Text
  variants : List Text
  shadowing : List Text
  shared : List Text
  fields : Struct → List Text
  actions : List Action
  tables : List Table

namespace Report

def warnings (report : Report) (document : Document) : List Warning :=
  report.aliases.map .repeatedAlias ++
    report.structs.map .repeatedStruct ++
    report.variants.map .repeatedVariant ++
    report.shadowing.map .shadowedType ++
    report.shared.map .structAndVariant ++
    document.structs.flatMap (fun declared =>
      (report.fields declared).map (.repeatedField · declared.name)) ++
    report.actions.map (fun action => .actionType action.name action.type) ++
    report.tables.map (fun table => .tableType table.name table.type)

end Report

namespace Document

variable {document : Document}

/-- Whether a report is right about a document.  A name is repeated in a section that declares it
more than once, and an alias shadows the struct or the variant of its name.  A field is repeated in
a struct if it occurs more than once among the fields that the struct has or inherits; a struct
without a base chain has none.  Actions and tables are to have the types of structs or aliases. -/
structure IsReport (document : Document) (report : Report) : Prop where
  aliases : ListsRepeated document.aliasNames report.aliases
  structs : ListsRepeated document.structNames report.structs
  variants : ListsRepeated document.variantNames report.variants
  shadowing : ListsAscending
    (fun name => name ∈ document.aliasNames ∧
      (name ∈ document.structNames ∨ name ∈ document.variantNames))
    report.shadowing
  shared : ListsAscending (fun name => name ∈ document.structNames ∧ name ∈ document.variantNames)
    report.shared
  fields : ∀ declared ∈ document.structs, ∀ fields, document.effectiveFields declared = .ok fields →
    ListsRepeated (fields.map Field.name) (report.fields declared)
  chainless : ∀ declared ∈ document.structs, ∀ cause, document.effectiveFields declared =
    .error cause →
    report.fields declared = []
  actions : report.actions = document.actions.filter
    (fun action => action.type ∉ document.structNames ∧ action.type ∉ document.aliasNames)
  tables : report.tables = document.tables.filter
    (fun table => table.type ∉ document.structNames ∧ table.type ∉ document.aliasNames)

theorem isDeclared_iff {name : Text} :
    document.isDeclared name = true ↔ name ∈ document.structNames ∨
      name ∈ document.variantNames := by
  unfold isDeclared structNames variantNames NameTable.has
  simp only [Bool.or_eq_true, List.any_eq_true, beq_iff_eq, List.mem_map]

theorem listsAscending_shadowing (document : Document) :
    ListsAscending
      (fun name => name ∈ document.aliasNames ∧
        (name ∈ document.structNames ∨ name ∈ document.variantNames))
      (sortedNames (document.aliasNames.filter document.isDeclared)) := by
  refine listsAscending_sortedNames (fun name => ?_)
  rw [List.mem_filter, isDeclared_iff]

theorem listsAscending_shared (document : Document) :
    ListsAscending (fun name => name ∈ document.structNames ∧ name ∈ document.variantNames)
      (sortedNames (document.structNames.filter document.variantNames.contains)) := by
  refine listsAscending_sortedNames (fun name => ?_)
  rw [List.mem_filter, List.contains_iff_mem]

theorem not_isRowType (document : Document) (name : Text) :
    (!document.isRowType name) = decide
    (name ∉ document.structNames ∧ name ∉ document.aliasNames) := by
  simp only [isRowType, List.contains_eq_mem, Bool.not_or, Bool.decide_and, decide_not]

def repeatedFieldNames (document : Document) (declared : Struct) : List Text :=
  match document.effectiveFields declared with
  | .ok fields => repeatedNames (fields.map Field.name)
  | .error _ => []

def report (document : Document) : Report where
  aliases := repeatedNames document.aliasNames
  structs := repeatedNames document.structNames
  variants := repeatedNames document.variantNames
  shadowing := sortedNames (document.aliasNames.filter document.isDeclared)
  shared := sortedNames (document.structNames.filter document.variantNames.contains)
  fields := document.repeatedFieldNames
  actions := document.actions.filter (fun action => !document.isRowType action.type)
  tables := document.tables.filter (fun table => !document.isRowType table.type)

theorem isReport_report (document : Document) : document.IsReport document.report where
  aliases := listsRepeated_repeatedNames _
  structs := listsRepeated_repeatedNames _
  variants := listsRepeated_repeatedNames _
  shadowing := document.listsAscending_shadowing
  shared := document.listsAscending_shared
  fields declared _ fields found := by
    change ListsRepeated _ (document.repeatedFieldNames declared)
    rw [repeatedFieldNames, found]
    exact listsRepeated_repeatedNames _
  chainless declared _ cause failed := by
    change document.repeatedFieldNames declared = []
    rw [repeatedFieldNames, failed]
  actions := by simp only [report, not_isRowType]
  tables := by simp only [report, not_isRowType]

theorem IsReport.fields_eq {report : Report} (right : document.IsReport report) {declared : Struct}
    (member : declared ∈ document.structs) :
    (report.fields declared).map (.repeatedField · declared.name) =
      document.repeatedFields declared := by
  unfold repeatedFields
  cases found : document.effectiveFields declared with
  | error cause => rw [right.chainless declared member cause found, List.map_nil]
  | ok fields =>
      rw [(right.fields declared member fields found).unique (listsRepeated_repeatedNames _)]

theorem IsReport.warnings_eq {report : Report} (right : document.IsReport report) :
    report.warnings document = document.warnings := by
  unfold Report.warnings warnings repetitions conflicts unknownRowTypes
  rw [right.aliases.unique (listsRepeated_repeatedNames _),
    right.structs.unique (listsRepeated_repeatedNames _),
    right.variants.unique (listsRepeated_repeatedNames _),
    right.shadowing.unique document.listsAscending_shadowing,
    right.shared.unique document.listsAscending_shared, right.actions, right.tables,
    List.flatMap_congr (fun declared member => right.fields_eq member)]
  simp only [not_isRowType, List.append_assoc]

def Braceless (document : Document) : Prop :=
  ∀ declared ∈ document.structs, ∀ point ∈ declared.name, ¬Template.isBrace point = true

theorem Braceless.bracesPaired (braceless : document.Braceless) : document.BracesPaired :=
  fun declared member _ _ =>
    .inr ⟨declared.name, (Template.doubled_of_braceless (braceless declared member)).symm⟩

theorem exists_struct_of_repeatedField {name struct : Text}
    (member : .repeatedField name struct ∈ document.warnings) :
    ∃ declared ∈ document.structs, declared.name = struct := by
  unfold warnings repetitions conflicts unknownRowTypes at member
  simp only [List.mem_append, List.mem_map, reduceCtorEq, and_false, exists_false, or_false,
    false_or, List.mem_flatMap] at member
  obtain ⟨declared, inside, member⟩ := member
  refine ⟨declared, inside, ?_⟩
  unfold repeatedFields at member
  split at member
  · obtain ⟨_, -, same⟩ := List.mem_map.1 member
    exact (Warning.repeatedField.inj same).2
  · cases member

theorem Braceless.says (braceless : document.Braceless) {warning : Warning}
    (member : warning ∈ document.warnings) {message : Text} (made : warning.message = .ok message) :
    warning.Says message := by
  cases warning with
  | repeatedField name struct =>
      obtain ⟨declared, inside, rfl⟩ := exists_struct_of_repeatedField member
      exact Warning.says_repeatedField (braceless declared inside) made
  | _ => exact made

/-- Where no name of a struct has a brace in it, the messages about a document are there, one for
each warning that a right report about it leads to.  There is such a report, and all of them lead to
the same warnings. -/
theorem warningMessages_reported (document : Document) (braceless : document.Braceless) :
    (∃ report, document.IsReport report) ∧ ∀ report, document.IsReport report →
      ∃ messages, document.warningMessages = .ok messages ∧
        List.Forall₂ Warning.Says (report.warnings document) messages := by
  refine ⟨⟨document.report, document.isReport_report⟩, fun report right => ?_⟩
  obtain ⟨messages, made⟩ := exists_warningMessages_iff.2 braceless.bracesPaired
  obtain ⟨make, rfl, each⟩ := exists_map_of_mapM made
  refine ⟨_, made, ?_⟩
  rw [right.warnings_eq, List.forall₂_map_right_iff, List.forall₂_same]
  exact fun warning member => braceless.says member (each warning member)

/-- A document with every sort of warning.  Both aliases are declared again, in the opposite order,
the base of a struct is missing and another struct has a field that its base has too. -/
def bureau : Document where
  version := "eosio::abi/1.2"
  aliases := [⟨"b", "name"⟩, ⟨"a", "name"⟩, ⟨"a", "name"⟩, ⟨"b", "name"⟩]
  structs := [⟨"b", [], [⟨"id", "name"⟩]⟩, ⟨"row", "b", [⟨"id", "name"⟩]⟩,
    ⟨"lost", "gone", [⟨"id", "name"⟩, ⟨"id", "name"⟩]⟩, ⟨"row", [], []⟩]
  actions := [⟨"run", "lost", []⟩, ⟨"halt", "none", []⟩]
  tables := [⟨"all", "none", [], [], []⟩]
  clauses := []
  errorMessages := []
  extensions := []
  variants := [⟨"a", []⟩, ⟨"row", ["name"]⟩, ⟨"a", ["name"]⟩]

def bureauWarnings : List Warning := [
  .repeatedAlias "a", .repeatedAlias "b", .repeatedStruct "row", .repeatedVariant "a",
  .shadowedType "a", .shadowedType "b", .structAndVariant "row",
  .repeatedField "id" "row",
  .actionType "halt" "none", .tableType "all" "none"]

theorem bureau_warningMessages_reported : bureau.Braceless ∧
    (∃ report, bureau.IsReport report ∧ report.warnings bureau = bureauWarnings) ∧
    ∃ messages, bureau.warningMessages = .ok messages ∧
      List.Forall₂ Warning.Says bureauWarnings messages := by
  have braceless : bureau.Braceless := by
    unfold Braceless
    decide
  obtain ⟨⟨report, right⟩, reported⟩ := warningMessages_reported bureau braceless
  have listed : report.warnings bureau = bureauWarnings := by
    have sorted : sortedNames (bureau.aliasNames.filter bureau.isDeclared) =
        (["a", "b"] : List Text) := by
      have both : bureau.aliasNames.filter bureau.isDeclared =
          (["b", "a", "a", "b"] : List Text) := by
        decide +kernel
      refine (listsAscending_sortedNames (fun _ => Iff.rfl)).unique ⟨fun name => ?_, by decide⟩
      rw [both]
      simp only [List.mem_cons, List.not_mem_nil, or_false]
      tauto
    rw [right.warnings_eq]
    unfold warnings conflicts
    rw [sorted]
    decide +kernel
  refine ⟨braceless, ⟨report, right, listed⟩, ?_⟩
  rw [← listed]
  exact reported report right

end Document

end ContractTypes
