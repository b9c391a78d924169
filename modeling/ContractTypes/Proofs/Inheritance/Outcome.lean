import ContractTypes.Proofs.Inheritance
import ContractTypes.Proofs.Inheritance.BaseLinks

/-!
What the base links of a struct lead to, and what the search for its base chain makes of it.

The links come back to a declaration that they have passed, or they end, at a struct without a base
or at a base that is not declared.  The search gives a cycle, a chain or a missing base accordingly,
with one exception.  It tells declarations by their names, and the struct that it starts with need
not be the one that is looked up under its name.  A link to that other struct then counts as a way
back, wherever the links would lead from there.
-/

namespace ContractTypes.Document

/-- The links of a struct lead to a declaration twice.  Equal declarations have the same links, so
it makes no difference whether a declaration is met again or one that is equal to it. -/
def LinksComeBack (document : Document) (declared : Struct) : Prop :=
  ∃ early late met, early < late ∧ document.baseAfter? declared early = some met ∧
    document.baseAfter? declared late = some met

def LinksReachRoot (document : Document) (declared : Struct) : Prop :=
  ∃ links root, document.baseAfter? declared links = some root ∧ root.base = []

def LinksReachMissing (document : Document) (declared : Struct) : Prop :=
  ∃ links last, document.baseAfter? declared links = some last ∧ last.base ≠ [] ∧
    document.struct? last.base = none

/-- The links of a struct lead to one whose base has the name of the first. -/
def LinksReachOwnName (document : Document) (declared : Struct) : Prop :=
  ∃ links last, document.baseAfter? declared links = some last ∧ last.base ≠ [] ∧
    last.base = declared.name

variable {document : Document} {declared : Struct}

theorem base?_of_missing {last : Struct} (based : last.base ≠ [])
    (absent : document.struct? last.base = none) : document.base? last = none :=
  (base?_of_based based).trans absent

theorem LinksComeBack.base?_ne_none (back : document.LinksComeBack declared) {links : Nat}
    {last : Struct} (reached : document.baseAfter? declared links = some last) :
    document.base? last ≠ none := by
  obtain ⟨early, late, met, before, earlier, later⟩ := back
  exact Walk.next?_ne_none_of_met_twice before earlier later reached

theorem LinksComeBack.not_reachRoot (back : document.LinksComeBack declared) :
    ¬document.LinksReachRoot declared := by
  rintro ⟨links, root, reached, baseless⟩
  exact back.base?_ne_none reached (base?_of_baseless baseless)

theorem LinksComeBack.not_reachMissing (back : document.LinksComeBack declared) :
    ¬document.LinksReachMissing declared := by
  rintro ⟨links, last, reached, based, absent⟩
  exact back.base?_ne_none reached (base?_of_missing based absent)

theorem LinksReachRoot.not_reachMissing (rooted : document.LinksReachRoot declared) :
    ¬document.LinksReachMissing declared := by
  obtain ⟨links, root, reached, baseless⟩ := rooted
  rintro ⟨others, last, alsoReached, based, absent⟩
  have same : root = last :=
    Walk.end_unique reached (base?_of_baseless baseless) alsoReached (base?_of_missing based absent)
  exact based (same ▸ baseless)

/-- Where the names along the links all differ up to the end, and the end does not name one of them,
no base has the name of the first struct. -/
theorem BaseLinked.not_reachOwnName {passed : List Struct} {last : Struct}
    (along : document.BaseLinked declared (passed ++ [last])) (stop : document.base? last = none)
    (fresh : last.base ≠ [] → last.base ∉ (passed ++ [last]).map Struct.name) :
    ¬document.LinksReachOwnName declared := by
  rintro ⟨links, derived, reached, based, own⟩
  have first : ((passed ++ [last]).map Struct.name)[0]? = some declared.name :=
    along.getElem?_names (by simp)
  rcases Nat.lt_or_eq_of_le (Walk.le_end reached along.reached_last stop) with before | atEnd
  · -- Before the end, the base would be a second place with the name of the first struct.
    have inside : links + 1 < (passed ++ [last]).length := by
      rw [List.length_append, List.length_singleton]
      exact Nat.succ_lt_succ before
    have following := along.getElem?_names inside
    have extended : document.baseAfter? declared (links + 1) = document.base? derived := by
      rw [baseAfter?, Walk.item?_succ, ← baseAfter?, reached, Option.bind_some]
    rw [extended] at following
    cases found : document.base? derived with
    | none =>
        rw [found, List.getElem?_eq_getElem (by rwa [List.length_map])] at following
        cases following
    | some base =>
        rw [found, Option.map_some, name_of_base?_eq_some found, own] at following
        have inNames : 0 < ((passed ++ [last]).map Struct.name).length := by
          rw [List.length_map]
          exact Nat.zero_lt_of_lt inside
        cases (List.getElem?_inj inNames along.distinct).1 (first.trans following.symm)
  · subst atEnd
    have same : derived = last := Option.some.inj (reached.symm.trans along.reached_last)
    subst same
    exact fresh based (own ▸ List.mem_of_getElem? first)

theorem BaseLinked.comesBack_or_reachOwnName {passed : List Struct} {last : Struct}
    (along : document.BaseLinked declared (passed ++ [last])) (based : last.base ≠ [])
    (met : last.base ∈ (passed ++ [last]).map Struct.name) :
    document.LinksComeBack declared ∨ document.LinksReachOwnName declared := by
  obtain ⟨position, there⟩ := List.mem_iff_getElem?.1 met
  have inside : position < (passed ++ [last]).length := by
    rw [← List.length_map Struct.name]
    exact (List.getElem?_eq_some_iff.1 there).1
  rw [along.getElem?_names inside] at there
  cases position with
  | zero =>
      have own : declared.name = last.base := Option.some.inj there
      exact .inr ⟨passed.length, last, along.reached_last, based, own.symm⟩
  | succ earlier =>
      obtain ⟨base, reached, named⟩ := Option.map_eq_some_iff.1 there
      obtain ⟨derived, _, extended⟩ := Option.bind_eq_some_iff.1 reached
      -- The base met is not the first struct, so it is looked up under its name.
      have again : document.baseAfter? declared (passed.length + 1) = some base := by
        rw [baseAfter?, Walk.item?_succ, ← baseAfter?, along.reached_last, Option.bind_some,
          base?_of_based based, ← named]
        exact struct?_name_of_base? extended
      refine .inl ⟨earlier + 1, passed.length + 1, base, ?_, reached, again⟩
      rwa [List.length_append, List.length_singleton] at inside

inductive Ancestry (document : Document) (declared : Struct) : Prop where
  | root (chain : List Struct) (outcome : document.baseChain declared = .ok chain)
      (reaches : document.LinksReachRoot declared) (apart : ¬document.LinksReachOwnName declared)
  | missing (name base : Text) (outcome :
      document.baseChain declared = .error (.missingBase name base))
      (reaches : document.LinksReachMissing declared) (apart : ¬document.LinksReachOwnName declared)
  | cycle (start : Text) (path : List Text)
      (outcome : document.baseChain declared = .error (.cycle start path))
      (returns : document.LinksComeBack declared ∨ document.LinksReachOwnName declared)

theorem ancestry (document : Document) (declared : Struct) : document.Ancestry declared := by
  have stopped := chainEnd_baseChain document declared
  generalize outcome : document.baseChain declared = result at stopped
  cases stopped with
  | root passed last along baseless =>
      refine .root _ outcome ⟨passed.length, last, along.reached_last, baseless⟩ ?_
      exact along.not_reachOwnName (base?_of_baseless baseless) (fun based => absurd baseless based)
  | missing passed last along based fresh absent =>
      refine .missing _ _ outcome ⟨passed.length, last, along.reached_last, based, absent⟩ ?_
      exact along.not_reachOwnName (base?_of_missing based absent) (fun _ => fresh)
  | cycle passed last along based met =>
      exact .cycle _ _ outcome (along.comesBack_or_reachOwnName based met)

/-! ### The outcome -/

/-- The search for the fields of a struct fails with a cycle, fails with a missing base or succeeds
exactly where the links of the struct come back, reach a missing base or reach a struct without a
base. -/
def LinksDecide (document : Document) (declared : Struct) : Prop :=
  ((∃ start path, document.effectiveFields declared = .error (.cycle start path)) ↔
    document.LinksComeBack declared) ∧
  ((∃ name base, document.effectiveFields declared = .error (.missingBase name base)) ↔
    document.LinksReachMissing declared) ∧
  ((∃ fields, document.effectiveFields declared = .ok fields) ↔ document.LinksReachRoot declared)

theorem fails_as_cycle_iff :
    (∃ start path, document.effectiveFields declared = .error (.cycle start path)) ↔
      document.LinksComeBack declared ∨ document.LinksReachOwnName declared := by
  simp only [effectiveFields_eq_error_iff]
  cases ancestry document declared with
  | root chain outcome reaches apart =>
      have noWayBack : ¬document.LinksComeBack declared := fun back => back.not_reachRoot reaches
      simp [outcome, noWayBack, apart]
  | missing name base outcome reaches apart =>
      have noWayBack : ¬document.LinksComeBack declared := fun back => back.not_reachMissing reaches
      simp [outcome, noWayBack, apart]
  | cycle start path outcome returns => exact ⟨fun _ => returns, fun _ => ⟨start, path, outcome⟩⟩

theorem fails_as_missing_iff :
    (∃ name base, document.effectiveFields declared = .error (.missingBase name base)) ↔
      document.LinksReachMissing declared ∧ ¬document.LinksReachOwnName declared := by
  simp only [effectiveFields_eq_error_iff]
  cases ancestry document declared with
  | root chain outcome reaches apart => simp [outcome, reaches.not_reachMissing]
  | missing name base outcome reaches apart => simp [outcome, reaches, apart]
  | cycle start path outcome returns =>
      have never :
          ¬(document.LinksReachMissing declared ∧ ¬document.LinksReachOwnName declared) := by
        rintro ⟨reaches, apart⟩
        exact (returns.resolve_right apart).not_reachMissing reaches
      simp [outcome, never]

theorem exists_effectiveFields_iff :
    (∃ fields, document.effectiveFields declared = .ok fields) ↔
      document.LinksReachRoot declared ∧ ¬document.LinksReachOwnName declared := by
  simp only [effectiveFields_eq_ok_iff]
  cases ancestry document declared with
  | root chain outcome reaches apart => simp [outcome, reaches, apart]
  | missing name base outcome reaches apart =>
      have notRooted : ¬document.LinksReachRoot declared := fun rooted =>
        rooted.not_reachMissing reaches
      simp [outcome, notRooted]
  | cycle start path outcome returns =>
      have never : ¬(document.LinksReachRoot declared ∧ ¬document.LinksReachOwnName declared) := by
        rintro ⟨reaches, apart⟩
        exact (returns.resolve_right apart).not_reachRoot reaches
      simp [outcome, never]

/-- A struct that is looked up under its own name is the one that a link to this name leads back
to. -/
theorem LinksReachOwnName.comesBack (own : document.LinksReachOwnName declared)
    (first : document.struct? declared.name = some declared) : document.LinksComeBack declared := by
  obtain ⟨links, last, reached, based, same⟩ := own
  refine ⟨0, links + 1, declared, Nat.succ_pos links, rfl, ?_⟩
  rw [baseAfter?, Walk.item?_succ, ← baseAfter?, reached, Option.bind_some, base?_of_based based,
    same]
  exact first

theorem linksDecide_iff :
    document.LinksDecide declared ↔
      (document.LinksReachOwnName declared → document.LinksComeBack declared) := by
  unfold LinksDecide
  rw [fails_as_cycle_iff, fails_as_missing_iff, exists_effectiveFields_iff]
  constructor
  · rintro ⟨cycles, -, -⟩ own
    exact cycles.1 (.inr own)
  · intro back
    refine ⟨⟨fun returns => returns.elim id back, .inl⟩, ⟨And.left, fun reaches => ⟨reaches, ?_⟩⟩,
      ⟨And.left, fun reaches => ⟨reaches, ?_⟩⟩⟩
    · exact fun own => (back own).not_reachMissing reaches
    · exact fun own => (back own).not_reachRoot reaches

/-- The search for the fields of a struct fails with a cycle where its links come back to a
declaration or come to a base with the name of the struct; where they do neither, it fails with a
missing base or succeeds as the links end.  So the links alone decide unless they come to a base
with the name of the struct and go on from there without coming back, which takes another
declaration under that name. -/
theorem effectiveFields_outcome (document : Document) (declared : Struct) :
    ((∃ start path, document.effectiveFields declared = .error (.cycle start path)) ↔
      document.LinksComeBack declared ∨ document.LinksReachOwnName declared) ∧
    ((∃ name base, document.effectiveFields declared = .error (.missingBase name base)) ↔
      document.LinksReachMissing declared ∧ ¬document.LinksReachOwnName declared) ∧
    ((∃ fields, document.effectiveFields declared = .ok fields) ↔
      document.LinksReachRoot declared ∧ ¬document.LinksReachOwnName declared) ∧
    (document.LinksDecide declared ↔
      (document.LinksReachOwnName declared → document.LinksComeBack declared)) ∧
    (document.struct? declared.name = some declared → document.LinksDecide declared) := by
  refine ⟨fails_as_cycle_iff, fails_as_missing_iff, exists_effectiveFields_iff, linksDecide_iff, ?_⟩
  intro first
  exact linksDecide_iff.2 (fun own => own.comesBack first)

def shadowing : Document where
  version := "eosio::abi/1.2"
  aliases := []
  structs := [⟨"row", [], [⟨"id", "uint64"⟩]⟩, ⟨"row", "row", [⟨"note", "string"⟩]⟩]
  actions := []
  tables := []
  clauses := []
  errorMessages := []
  extensions := []
  variants := []

def shadowedRow : Struct := ⟨"row", "row", [⟨"note", "string"⟩]⟩

/-- The links of the second struct end at the first one, and the search takes them for a cycle. -/
theorem not_linksDecide_shadowedRow : shadowedRow ∈ shadowing.structs ∧
    shadowing.effectiveFields shadowedRow = .error (.cycle "row" ["row", "row"]) ∧
    shadowing.LinksReachRoot shadowedRow ∧ ¬shadowing.LinksComeBack shadowedRow ∧
    ¬shadowing.LinksDecide shadowedRow := by
  have fails : shadowing.effectiveFields shadowedRow = .error (.cycle "row" ["row", "row"]) := by
    decide +kernel
  have rooted : shadowing.LinksReachRoot shadowedRow := ⟨1, _, rfl, rfl⟩
  have noWayBack : ¬shadowing.LinksComeBack shadowedRow := fun back => back.not_reachRoot rooted
  refine ⟨by decide, fails, rooted, noWayBack, ?_⟩
  rintro ⟨cycles, -, -⟩
  exact noWayBack (cycles.1 ⟨_, _, fails⟩)

end ContractTypes.Document
