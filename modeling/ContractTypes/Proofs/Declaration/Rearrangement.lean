import ContractTypes.Proofs.Declaration.Blocks
import ContractTypes.Proofs.NameTable

/-!
Rearranged declarations.

What stands in a block depends on the lists of a document through look-ups only, and a look-up sees
the first declaration of a name.  So aliases may be reordered, and repeated ones left out, without
any effect, as long as the first ones stay the first of their names.  When structs and variants are
reordered, or a repeated struct is left out, the blocks that are there stay as they are and go with
their declarations.
-/

namespace ContractTypes.Document

/-- Another document in which every name is looked up with the same result. -/
structure LooksUpAlike (document other : Document) : Prop where
  aliases : ∀ name, other.alias? name = document.alias? name
  structs : ∀ name, other.struct? name = document.struct? name
  declared : ∀ name, other.isDeclared name = document.isDeclared name

variable {document other : Document} {layout : Layout}

theorem LooksUpAlike.resolve_eq (alike : document.LooksUpAlike other) (expression : Text) :
    other.resolve expression = document.resolve expression :=
  resolve_congr alike.aliases alike.declared expression

theorem LooksUpAlike.structBlock_eq (alike : document.LooksUpAlike other) (declared : Struct) :
    other.structBlock layout declared = document.structBlock layout declared :=
  structBlock_eq_structBlock (effectiveFields_congr alike.structs declared)
    (fun _ _ field _ => alike.resolve_eq field.type)

theorem LooksUpAlike.variantBlock_eq (alike : document.LooksUpAlike other) (declared : Variant) :
    other.variantBlock layout declared = document.variantBlock layout declared :=
  variantBlock_eq_variantBlock (fun expression _ => alike.resolve_eq expression)

/-- With the same declarations in the same order, the lines are the same, or the error is. -/
theorem LooksUpAlike.lines_eq (alike : document.LooksUpAlike other)
    (structs : other.structs = document.structs) (variants : other.variants = document.variants) :
    other.lines layout = document.lines layout := by
  have structBlocks : other.structBlock layout = document.structBlock layout :=
    funext alike.structBlock_eq
  have variantBlocks : other.variantBlock layout = document.variantBlock layout :=
    funext alike.variantBlock_eq
  unfold lines blocks
  rw [structs, variants, structBlocks, variantBlocks]

/-- With declarations of the document only, whichever and in whatever order, each has its block. -/
theorem LooksUpAlike.writtenBy (alike : document.LooksUpAlike other)
    {interface : Struct → List Text} {union : Variant → List Text}
    (written : document.WrittenBy layout interface union)
    (structs : other.structs ⊆ document.structs) (variants : other.variants ⊆ document.variants) :
    other.WrittenBy layout interface union where
  structs := fun declared member =>
    (alike.structBlock_eq declared).trans (written.structs declared (structs member))
  variants := fun declared member =>
    (alike.variantBlock_eq declared).trans (written.variants declared (variants member))

theorem looksUpAlike_of_aliases {aliases : List Alias}
    (same : NameTable.SameFirsts Alias.name document.aliases aliases) :
    document.LooksUpAlike { document with aliases := aliases } where
  aliases := fun name => (same name).symm
  structs := fun _ => rfl
  declared := fun _ => rfl

theorem looksUpAlike_of_structs {structs : List Struct} {variants : List Variant}
    (same : NameTable.SameFirsts Struct.name document.structs structs)
    (permuted : variants.Perm document.variants) :
    document.LooksUpAlike { document with structs := structs, variants := variants } where
  aliases := fun _ => rfl
  structs := fun name => (same name).symm
  declared := fun name => congrArg₂ or (same.has_eq name).symm (permuted.any_eq)

/-- The aliases may be rearranged without any effect on the lines or on the error, as long as the
first of each name stays the first, and aliases that are not the first of their names may be left
out.  Where there are lines, each declaration has a block, and it has the same block when structs
are reordered, again with the first of each name as the first, and variants in any way, and when a
struct that is not the first of its name is left out. -/
theorem lines_rearranged (document : Document) (layout : Layout) :
    (∀ aliases, NameTable.SameFirsts Alias.name document.aliases aliases →
      { document with aliases := aliases }.lines layout = document.lines layout) ∧
    (∀ fewer, NameTable.Thinned Alias.name [] document.aliases fewer →
      { document with aliases := fewer }.lines layout = document.lines layout) ∧
    ∀ lines, document.lines layout = .ok lines → ∃ interface union,
      document.WrittenBy layout interface union ∧
      lines = List.intercalate [[]]
        (document.structs.map interface ++ document.variants.map union) ∧
      (∀ structs variants, structs.Perm document.structs →
        NameTable.SameFirsts Struct.name document.structs structs →
          variants.Perm document.variants →
        { document with structs := structs, variants := variants }.lines layout =
          .ok (List.intercalate [[]] (structs.map interface ++ variants.map union))) ∧
      ∀ before repeated after, document.structs = before ++ repeated :: after →
        NameTable.has Struct.name repeated.name before = true →
        { document with structs := before ++ after }.lines layout =
          .ok (List.intercalate [[]]
            ((before ++ after).map interface ++ document.variants.map union)) := by
  have realiased {aliases : List Alias}
    (same : NameTable.SameFirsts Alias.name document.aliases aliases) :
      { document with aliases := aliases }.lines layout = document.lines layout :=
    (looksUpAlike_of_aliases same).lines_eq rfl rfl
  refine ⟨fun aliases => realiased, fun fewer thinned =>
    realiased thinned.sameFirsts, fun lines made => ?_⟩
  obtain ⟨interface, union, written⟩ := exists_writtenBy made
  refine ⟨interface, union, written, Except.ok.inj (made.symm.trans written.lines_eq), ?_, ?_⟩
  · intro structs variants permuted same permutedVariants
    exact ((looksUpAlike_of_structs same permutedVariants).writtenBy written permuted.subset
      permutedVariants.subset).lines_eq
  · intro before repeated after split later
    have same : NameTable.SameFirsts Struct.name document.structs (before ++ after) :=
      split ▸ (NameTable.Thinned.of_repeated (.inr later)).sameFirsts
    have kept : before ++ after ⊆ document.structs :=
      split ▸ (List.Sublist.append_left (List.sublist_cons_self repeated after) before).subset
    exact ((looksUpAlike_of_structs same (List.Perm.refl document.variants)).writtenBy written kept
      (List.Subset.refl document.variants)).lines_eq

def rosterId : Alias := ⟨"id", "uint64"⟩

def rosterHolder : Alias := ⟨"holder", "owner?"⟩

def rosterSecondId : Alias := ⟨"id", "string"⟩

def rosterRow : Struct := ⟨"row", "head", [⟨"held_by", "holder"⟩]⟩

def rosterOwner : Struct := ⟨"owner", [], [⟨"key", "id"⟩]⟩

def rosterSecondOwner : Struct := ⟨"owner", "head", [⟨"others", "holder[]"⟩]⟩

def rosterHead : Struct := ⟨"head", [], [⟨"previous", "row$"⟩]⟩

def rosterKind : Variant := ⟨"kind", ["owner", "id"]⟩

def rosterNothing : Variant := ⟨"nothing", []⟩

def roster : Document where
  version := "eosio::abi/1.2"
  aliases := [rosterId, rosterHolder, rosterSecondId]
  structs := [rosterRow, rosterOwner, rosterSecondOwner, rosterHead]
  actions := []
  tables := []
  clauses := []
  errorMessages := []
  extensions := []
  variants := [rosterKind, rosterNothing]

def rosterLayout : Layout := ⟨"  ", 1, Naming.pascal, false⟩

def rosterLines : List Text := [
  "interface Row \x7b", "  Previous?: Row", "  HeldBy?: Owner", "\x7d", "",
  "interface Owner \x7b", "  Key: string", "\x7d", "",
  "interface Owner \x7b", "  Previous?: Row", "  Others: (Owner | undefined)[]", "\x7d", "",
  "interface Head \x7b", "  Previous?: Row", "\x7d", "",
  "type Kind =", "  | [\"owner\", Owner]", "  | [\"id\", string]", "",
  "type Nothing = never"]

theorem roster_lines_rearranged :
    { roster with aliases := [rosterHolder, rosterId, rosterSecondId] }.lines rosterLayout =
      .ok rosterLines ∧
    { roster with aliases := [rosterId, rosterHolder] }.lines rosterLayout = .ok rosterLines ∧
    ∃ (interface : Struct → List Text) (union : Variant → List Text),
      rosterLines = List.intercalate [[]] [interface rosterRow, interface rosterOwner,
        interface rosterSecondOwner, interface rosterHead, union rosterKind, union rosterNothing] ∧
      { roster with
        structs := [rosterOwner, rosterRow, rosterSecondOwner, rosterHead]
        variants := [rosterNothing, rosterKind] }.lines rosterLayout =
        .ok (List.intercalate [[]] [interface rosterOwner, interface rosterRow,
          interface rosterSecondOwner, interface rosterHead, union rosterNothing,
            union rosterKind]) ∧
      { roster with structs := [rosterRow, rosterOwner, rosterHead] }.lines rosterLayout =
        .ok (List.intercalate [[]]
          [interface rosterRow, interface rosterOwner, interface rosterHead, union rosterKind,
          union rosterNothing]) := by
  have written : roster.lines rosterLayout = .ok rosterLines := by decide +kernel
  have swapped : NameTable.SameFirsts Alias.name roster.aliases
      [rosterHolder, rosterId, rosterSecondId] :=
    NameTable.SameFirsts.swap (by decide) _
  have thinned : NameTable.Thinned Alias.name [] roster.aliases [rosterId, rosterHolder] :=
    .kept _ (.kept _ (.repeated _ (by decide) (.nil _)))
  obtain ⟨reordered, fewer, blocks⟩ := lines_rearranged roster rosterLayout
  obtain ⟨interface, union, _, whole, moved, dropped⟩ := blocks _ written
  exact ⟨(reordered _ swapped).trans written, (fewer _ thinned).trans written, interface, union,
    whole, moved _ _ (List.Perm.swap _ _ _) (NameTable.SameFirsts.swap (by decide) _)
    (List.Perm.swap _ _ _),
    dropped [rosterRow, rosterOwner] rosterSecondOwner [rosterHead] rfl (by decide)⟩

end ContractTypes.Document
