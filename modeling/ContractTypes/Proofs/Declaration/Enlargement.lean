import ContractTypes.Proofs.Declaration.Blocks
import ContractTypes.Proofs.NameTable

/-!
Further declarations.

A document with lines looks up known names only: names of its aliases, of its structs and variants,
and of scalars.  A further declaration of a name that is not known is never found on the way to one
of its types or along one of its base chains.  So its declarations keep their blocks among those of
the further ones.
-/

namespace ContractTypes.Document

def knows (document : Document) (name : Text) : Bool :=
  document.isAlias name || document.isDeclared name || Scalar.isScalar name

/-- Another document has further declarations, anywhere in the lists, and the document knows none of
their names. -/
structure EnlargedTo (document other : Document) : Prop where
  aliases : NameTable.Enlarged (fun declared => document.knows declared.name = false)
    document.aliases other.aliases
  structs : NameTable.Enlarged (fun declared => document.knows declared.name = false)
    document.structs other.structs
  variants : NameTable.Enlarged (fun declared => document.knows declared.name = false)
    document.variants other.variants

variable {document other : Document} {layout : Layout}

theorem knows_iff {name : Text} : document.knows name = true ↔
    document.isAlias name = true ∨ document.isDeclared name = true ∨
      Scalar.isScalar name = true := by
  unfold knows
  rw [Bool.or_eq_true, Bool.or_eq_true, or_assoc]

theorem knows_of_alias? {name : Text} {declared : Alias}
    (found : document.alias? name = some declared) : document.knows name = true :=
  knows_iff.2 (.inl (NameTable.has_of_first? found))

theorem knows_of_struct? {name : Text} {declared : Struct}
    (found : document.struct? name = some declared) : document.knows name = true :=
  knows_iff.2 (.inr (.inl (Bool.or_eq_true_iff.2 (.inl (NameTable.has_of_first? found)))))

theorem knows_of_leaf? {name : Text} {leaf : TypeRef} (stands : document.leaf? name = some leaf) :
    document.knows name = true := by
  rcases leaf?_eq_some stands with ⟨_, declared⟩ | ⟨_, _, scalar⟩
  · exact knows_iff.2 (.inr (.inl declared))
  · exact knows_iff.2 (.inr (.inr scalar))

theorem ne_of_knows {name new : Text} (known : document.knows name = true)
    (unknown : document.knows new = false) : new ≠ name := by
  rintro rfl
  exact Bool.false_ne_true (unknown.symm.trans known)

theorem EnlargedTo.alias?_eq (enlarged : document.EnlargedTo other) {name : Text}
    (known : document.knows name = true) : other.alias? name = document.alias? name :=
  enlarged.aliases.first?_eq (fun _ => ne_of_knows known)

theorem EnlargedTo.struct?_eq (enlarged : document.EnlargedTo other) {name : Text}
    (known : document.knows name = true) : other.struct? name = document.struct? name :=
  enlarged.structs.first?_eq (fun _ => ne_of_knows known)

theorem EnlargedTo.isDeclared_eq (enlarged : document.EnlargedTo other) {name : Text}
    (known : document.knows name = true) : other.isDeclared name = document.isDeclared name :=
  congrArg₂ or (enlarged.structs.has_eq (fun _ => ne_of_knows known))
    (enlarged.variants.has_eq (fun _ => ne_of_knows known))

theorem EnlargedTo.resolve_eq (enlarged : document.EnlargedTo other) {expression : Text}
    (typed : ∃ ref, document.resolve expression = .ok ref) :
    other.resolve expression = document.resolve expression := by
  obtain ⟨ref, resolved⟩ := typed
  obtain ⟨settled, leaf, ended, stands, _⟩ := resolve_eq_ok resolved
  obtain ⟨_, absent, _⟩ := settle_eq_ok ended
  -- A name that the search ends at and that stands for nothing could be a further one; this one is
  -- known.
  have known := knows_of_leaf? stands
  refine resolve_eq_resolve (fun name declared found => ?_) (fun reached again => ?_)
  · exact (enlarged.alias?_eq (knows_of_alias? found)).trans found
  · cases ended.symm.trans again
    exact ⟨(enlarged.alias?_eq known).trans absent, leaf?_congr (enlarged.isDeclared_eq known)⟩

theorem EnlargedTo.effectiveFields_eq (enlarged : document.EnlargedTo other) {declared : Struct}
    {fields : List Field} (found : document.effectiveFields declared = .ok fields) :
    other.effectiveFields declared = document.effectiveFields declared := by
  refine effectiveFields_eq_effectiveFields (fun name base present => ?_)
    (fun name base failed => ?_)
  · exact (enlarged.struct?_eq (knows_of_struct? present)).trans present
  · cases found.symm.trans failed

section Blocks

variable {lines : List Text} (enlarged : document.EnlargedTo other)
  (made : document.lines layout = .ok lines)

include enlarged made

theorem structBlock_of_enlarged {declared : Struct} (member : declared ∈ document.structs) :
    other.structBlock layout declared = document.structBlock layout declared := by
  obtain ⟨fields, found, typed⟩ := (exists_types_of_lines made).1 declared member
  refine structBlock_eq_structBlock (enlarged.effectiveFields_eq found)
    (fun others again field effective => ?_)
  cases found.symm.trans again
  exact enlarged.resolve_eq (typed field effective)

theorem variantBlock_of_enlarged {declared : Variant} (member : declared ∈ document.variants) :
    other.variantBlock layout declared = document.variantBlock layout declared :=
  variantBlock_eq_variantBlock (fun _ typed =>
    enlarged.resolve_eq (exists_type_of_alternative made member typed))

theorem writtenBy_of_enlarged {interface : Struct → List Text} {union : Variant → List Text}
    (written : other.WrittenBy layout interface union) :
    document.WrittenBy layout interface union where
  structs := fun declared member => (structBlock_of_enlarged enlarged made member).symm.trans
    (written.structs declared (enlarged.structs.sublist.subset member))
  variants := fun declared member => (variantBlock_of_enlarged enlarged made member).symm.trans
    (written.variants declared (enlarged.variants.sublist.subset member))

end Blocks

/-- Where a document has lines and still has some with further declarations of new names, each of
its own declarations has the same block in both, and the blocks follow each other in the same
order. -/
theorem lines_enlarged (enlarged : document.EnlargedTo other) {lines more : List Text}
    (made : document.lines layout = .ok lines) (again : other.lines layout = .ok more) :
    ∃ interface union,
      document.WrittenBy layout interface union ∧ other.WrittenBy layout interface union ∧
      lines = List.intercalate [[]]
        (document.structs.map interface ++ document.variants.map union) ∧
      more = List.intercalate [[]] (other.structs.map interface ++ other.variants.map union) ∧
      (document.structs.map interface).Sublist (other.structs.map interface) ∧
      (document.variants.map union).Sublist (other.variants.map union) := by
  obtain ⟨interface, union, written⟩ := exists_writtenBy again
  have old := writtenBy_of_enlarged enlarged made written
  exact ⟨interface, union, old, written, Except.ok.inj (made.symm.trans old.lines_eq),
    Except.ok.inj (again.symm.trans written.lines_eq), enlarged.structs.sublist.map interface,
    enlarged.variants.sublist.map union⟩

def registerIds : Alias := ⟨"ids", "uint64[]"⟩

def registerRow : Struct := ⟨"row", "head", [⟨"all", "ids?"⟩]⟩

def registerHead : Struct := ⟨"head", [], [⟨"made", "asset"⟩]⟩

def registerKind : Variant := ⟨"kind", ["row", "ids"]⟩

def register : Document where
  version := "eosio::abi/1.2"
  aliases := [registerIds]
  structs := [registerRow, registerHead]
  actions := []
  tables := []
  clauses := []
  errorMessages := []
  extensions := []
  variants := [registerKind]

def furtherRow : Struct := ⟨"row?", "row", [⟨"more", "kinds$"⟩, ⟨"next", "pair"⟩]⟩

def furtherPair : Variant := ⟨"pair", ["kinds"]⟩

/-- The document with further declarations that refer to old ones and to each other.  Two of them
have the name of an old declaration with a marker at its end. -/
def widerRegister : Document :=
  { register with
    aliases := [⟨"ids[]", "kinds"⟩, registerIds, ⟨"kinds", "kind[]"⟩]
    structs := [registerRow, furtherRow, registerHead]
    variants := [furtherPair, registerKind] }

def registerLayout : Layout := ⟨"  ", 1, Naming.pascal, true⟩

def registerLines : List Text := [
  "export interface Row \x7b", "  Made: string", "  All?: string[]", "\x7d", "",
  "export interface Head \x7b", "  Made: string", "\x7d", "",
  "export type Kind =", "  | [\"row\", Row]", "  | [\"ids\", string[]]"]

def widerLines : List Text := [
  "export interface Row \x7b", "  Made: string", "  All?: string[]", "\x7d", "",
  "export interface Row? \x7b", "  Made: string", "  All?: string[]", "  More?: Kind[]",
    "  Next: Pair",
  "\x7d", "",
  "export interface Head \x7b", "  Made: string", "\x7d", "",
  "export type Pair =", "  | [\"kinds\", Kind[]]", "",
  "export type Kind =", "  | [\"row\", Row]", "  | [\"ids\", string[]]"]

theorem register_lines_enlarged :
    register.EnlargedTo widerRegister ∧
    register.lines registerLayout = .ok registerLines ∧
    widerRegister.lines registerLayout = .ok widerLines ∧
    ∃ (interface : Struct → List Text) (union : Variant → List Text),
      registerLines =
        List.intercalate [[]] [interface registerRow, interface registerHead, union registerKind] ∧
      widerLines = List.intercalate [[]] [interface registerRow, interface furtherRow,
        interface registerHead, union furtherPair, union registerKind] := by
  have enlarged : register.EnlargedTo widerRegister := {
    aliases := .added _ (by decide) (.kept _ (.added _ (by decide) .nil))
    structs := .kept _ (.added _ (by decide) (.kept _ .nil))
    variants := .added _ (by decide) (.kept _ .nil) }
  have written : register.lines registerLayout = .ok registerLines := by decide +kernel
  have again : widerRegister.lines registerLayout = .ok widerLines := by decide +kernel
  obtain ⟨interface, union, _, _, whole, more, _⟩ := lines_enlarged enlarged written again
  exact ⟨enlarged, written, again, interface, union, whole, more⟩

end ContractTypes.Document
