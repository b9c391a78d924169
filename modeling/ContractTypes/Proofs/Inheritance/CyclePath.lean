import ContractTypes.Proofs.Inheritance.Outcome

/-!
The path that a cycle of bases is reported with.

A search that fails with a cycle gives the names of the declarations that it has passed and the base
that is among them.  These are the bases along the links of the struct that it started with, up to
the first that comes back to a name before it.  The error says of that struct that it inherits from
itself.  This is so where the path comes round to the name of the struct; where it comes round to a
later name, the struct only leads to a cycle and does not lie on it.
-/

namespace ContractTypes.Document

/-- Declarations that show a cycle of bases, and the path of their names: they start with a struct,
each is followed by the first declaration under the name of its base, that name stands on the path
behind its own, and the last name of the path is the first to stand on it before. -/
structure ShowsBaseCycle (document : Document) (declared : Struct) (chain : List Struct)
    (path : List Text) : Prop where
  starts : chain.head? = some declared
  linked : chain.IsChain (fun derived base => document.struct? derived.base = some base)
  based : ∀ derived ∈ chain, derived.base ≠ []
  names : path.dropLast = chain.map Struct.name
  bases : path.tail = chain.map Struct.base
  round : Walk.ComesRound path

/-- A struct that the search accuses of inheriting from itself lies on the cycle that it reports. -/
def AccusesOnCycle (document : Document) (declared : Struct) : Prop :=
  ∀ start path, document.effectiveFields declared = .error (.cycle start path) →
    start ∈ Walk.circle path

variable {document : Document} {declared : Struct} {chain others : List Struct}
  {path other : List Text}

theorem tail_names_of_linked {passed : List Struct} {last : Struct}
    (linked : (passed ++ [last]).IsChain (fun derived base => document.base? derived = some base)) :
    ((passed ++ [last]).map Struct.name ++ [last.base]).tail =
      (passed ++ [last]).map Struct.base := by
  induction passed with
  | nil => rfl
  | cons first passed ih =>
      cases passed with
      | nil =>
          have named := name_of_base?_eq_some (List.isChain_cons_cons.1 linked).1
          exact congrArg (fun name => [name, last.base]) named
      | cons second rest =>
          obtain ⟨link, along⟩ := List.isChain_cons_cons.1 linked
          exact congrArg₂ List.cons (name_of_base?_eq_some link) (ih along)

theorem exists_base_of_linked {passed : List Struct} {last derived : Struct}
    (linked : (passed ++ [last]).IsChain (fun derived base => document.base? derived = some base))
    (member : derived ∈ passed) : ∃ base, document.base? derived = some base := by
  obtain ⟨position, inside, rfl⟩ := List.getElem_of_mem member
  have before : position + 1 < (passed ++ [last]).length := by
    rw [List.length_append, List.length_singleton]
    exact Nat.succ_lt_succ inside
  have link := List.isChain_iff_getElem.1 linked position before
  rw [List.getElem_append_left inside] at link
  exact ⟨_, link⟩

theorem BaseLinked.showsBaseCycle {passed : List Struct} {last : Struct}
    (along : document.BaseLinked declared (passed ++ [last])) (based : last.base ≠ [])
    (met : last.base ∈ (passed ++ [last]).map Struct.name) :
    document.ShowsBaseCycle declared (passed ++ [last])
      ((passed ++ [last]).map Struct.name ++ [last.base]) where
  starts := along.starts
  linked := along.linked.imp (fun _ _ link => (base?_eq_some link).2)
  based := by
    intro derived member
    rcases List.mem_append.1 member with earlier | atEnd
    · obtain ⟨base, link⟩ := exists_base_of_linked along.linked earlier
      exact (base?_eq_some link).1
    · rw [List.mem_singleton.1 atEnd]
      exact based
  names := List.dropLast_concat
  bases := tail_names_of_linked along.linked
  round := Walk.comesRound_concat along.distinct met

theorem exists_cycle_of_effectiveFields {start : Text}
    (failed : document.effectiveFields declared = .error (.cycle start path)) :
    start = declared.name ∧ ∃ chain, document.ShowsBaseCycle declared chain path := by
  have stopped := chainEnd_baseChain document declared
  rw [effectiveFields_eq_error_iff.1 failed] at stopped
  cases stopped with
  | cycle passed last along based met => exact ⟨rfl, _, along.showsBaseCycle based met⟩

/-! ### What makes a search fail -/

section ShowsBaseCycle

variable (shown : document.ShowsBaseCycle declared chain path)

include shown

theorem ShowsBaseCycle.linked_base? :
    chain.IsChain (fun derived base => document.base? derived = some base) :=
  shown.linked.imp_of_mem_imp (fun derived _ member _ found =>
    (base?_of_based (shown.based derived member)).trans found)

theorem ShowsBaseCycle.baseLinked : document.BaseLinked declared chain where
  starts := shown.starts
  linked := shown.linked_base?
  distinct := shown.names ▸ shown.round.distinct

theorem ShowsBaseCycle.eq_cons : path = declared.name :: path.tail := by
  obtain ⟨last, _, whole⟩ := shown.round.eq_concat
  obtain ⟨rest, chained⟩ := List.head?_eq_some_iff.1 shown.starts
  rw [shown.names, chained] at whole
  rw [whole]
  rfl

/-- The path ends with the base of the last declaration, which is the name of one of them. -/
theorem ShowsBaseCycle.exists_last : ∃ passed last, chain = passed ++ [last] ∧ last.base ≠ [] ∧
    path.getLast? = some last.base ∧ last.base ∈ chain.map Struct.name := by
  obtain ⟨again, ended, member⟩ := shown.round.returns
  rcases List.eq_nil_or_concat chain with rfl | ⟨passed, last, rfl⟩
  · cases shown.starts
  · have atEnd : path.tail.getLast? = some last.base := by
      rw [shown.bases, List.concat_eq_append, List.map_append, List.map_singleton,
        List.getLast?_concat]
    rw [List.getLast?_tail] at atEnd
    split at atEnd
    · cases atEnd
    · have same : again = last.base := Option.some.inj (ended.symm.trans atEnd)
      refine ⟨passed, last, List.concat_eq_append, shown.based last (by simp), atEnd, ?_⟩
      rw [← shown.names, ← same]
      exact member

theorem ShowsBaseCycle.getElem?_succ {position : Nat} (inside : position + 1 < path.length) :
    path[position + 1]? = (document.baseAfter? declared position).map Struct.base := by
  have within : position < chain.length := by
    rw [← List.length_map Struct.base, ← shown.bases, List.length_tail]
    exact Nat.lt_sub_of_add_lt inside
  rw [← List.getElem?_tail, shown.bases, List.getElem?_map, shown.baseLinked.getElem?_eq within]

theorem ShowsBaseCycle.unique (also : document.ShowsBaseCycle declared others other) :
    path = other := by
  refine shown.round.eq_of_agree also.round (fun position inside within => ?_)
  cases position with
  | zero =>
      rw [shown.eq_cons, also.eq_cons]
      rfl
  | succ position => rw [shown.getElem?_succ inside, also.getElem?_succ within]

theorem ShowsBaseCycle.effectiveFields_eq :
    document.effectiveFields declared = .error (.cycle declared.name path) := by
  obtain ⟨passed, last, rfl, based, _, met⟩ := shown.exists_last
  obtain ⟨start, other, failed⟩ := fails_as_cycle_iff.2
    (shown.baseLinked.comesBack_or_reachOwnName based met)
  obtain ⟨rfl, others, also⟩ := exists_cycle_of_effectiveFields failed
  rw [failed, shown.unique also]

/-! ### Whom the error accuses -/

theorem ShowsBaseCycle.struct?_name {found : Struct} (member : found ∈ chain)
    (apart : found.name ≠ declared.name) : document.struct? found.name = some found := by
  obtain ⟨position, inside, rfl⟩ := List.getElem_of_mem member
  cases position with
  | zero =>
      have first := shown.starts
      rw [List.head?_eq_getElem?, List.getElem?_eq_getElem inside] at first
      exact absurd (congrArg Struct.name (Option.some.inj first)) apart
  | succ position =>
      exact struct?_name_of_base? (List.isChain_iff_getElem.1 shown.linked_base? position inside)

/-- Where the path comes round to another name than its first, the links do not leave the
declarations shown. -/
theorem ShowsBaseCycle.base_mem (apart : declared.name ∉ path.tail) {derived base : Struct}
    (member : derived ∈ chain) (link : document.base? derived = some base) : base ∈ chain := by
  have there : derived.base ∈ path.tail := shown.bases ▸ List.mem_map_of_mem member
  have named : derived.base ∈ chain.map Struct.name :=
    shown.names ▸ shown.round.mem_dropLast (List.mem_of_mem_tail there)
  obtain ⟨found, onChain, same⟩ := List.mem_map.1 named
  have lookedUp : document.struct? derived.base = some found := by
    rw [← same]
    exact shown.struct?_name onChain (fun first => apart (first ▸ same.symm ▸ there))
  rw [Option.some.inj ((base?_eq_some link).2.symm.trans lookedUp)]
  exact onChain

/-- The struct that the search started with lies on the cycle shown exactly if its links lead to a
base with its name. -/
theorem ShowsBaseCycle.mem_circle_iff :
    declared.name ∈ Walk.circle path ↔ document.LinksReachOwnName declared := by
  have round := shown.round
  have whole := shown.eq_cons
  rw [whole] at round
  rw [whole, round.mem_circle_iff, ← whole]
  constructor
  · intro back
    obtain ⟨passed, last, rfl, based, ended, _⟩ := shown.exists_last
    have own : last.base = declared.name := Option.some.inj (ended.symm.trans back)
    exact ⟨passed.length, last, shown.baseLinked.reached_last, based, own⟩
  · rintro ⟨links, derived, reached, _, own⟩
    -- Otherwise the links stay among the declarations shown, and none of these has the first name
    -- as its base.
    by_contra elsewhere
    have apart : declared.name ∉ path.tail := by
      rw [round.mem_tail_iff, ← whole]
      exact elsewhere
    have inside : derived ∈ chain := Walk.mem_of_closed (List.mem_of_head? shown.starts)
      (fun _ member _ link => shown.base_mem apart member link) reached
    apply apart
    rw [shown.bases, ← own]
    exact List.mem_map_of_mem inside

/-- The declaration that the path comes round to is its own transitive base. -/
theorem ShowsBaseCycle.exists_own_base : ∃ member ∈ chain, path.getLast? = some member.name ∧
    document.LinksReachOwnName member := by
  obtain ⟨passed, last, rfl, based, ended, met⟩ := shown.exists_last
  obtain ⟨member, inside, same⟩ := List.mem_map.1 met
  obtain ⟨position, within, rfl⟩ := List.getElem_of_mem inside
  have here : document.baseAfter? declared position = some (passed ++ [last])[position] :=
    (shown.baseLinked.getElem?_eq within).symm.trans (List.getElem?_eq_getElem within)
  obtain ⟨more, length⟩ : ∃ more, passed.length = position + more := by
    rw [List.length_append, List.length_singleton] at within
    exact Nat.exists_eq_add_of_le (Nat.le_of_lt_succ within)
  have reached := shown.baseLinked.reached_last
  rw [length, baseAfter?, Walk.item?_add, ← baseAfter?, here] at reached
  exact ⟨_, inside, ended.trans (congrArg some same.symm), more, last, reached, based, same.symm⟩

end ShowsBaseCycle

theorem fails_with_path_iff {start : Text} :
    document.effectiveFields declared = .error (.cycle start path) ↔
      start = declared.name ∧ ∃ chain, document.ShowsBaseCycle declared chain path := by
  constructor
  · exact exists_cycle_of_effectiveFields
  · rintro ⟨rfl, chain, shown⟩
    exact shown.effectiveFields_eq

/-- The error accuses a struct on the cycle shown unless the links of the struct come back without
coming to a base with its name. -/
theorem accusesOnCycle_iff : document.AccusesOnCycle declared ↔
    (document.LinksComeBack declared → document.LinksReachOwnName declared) := by
  constructor
  · intro accuses back
    obtain ⟨start, path, failed⟩ := fails_as_cycle_iff.2 (.inl back)
    have onCycle := accuses start path failed
    obtain ⟨rfl, chain, shown⟩ := exists_cycle_of_effectiveFields failed
    exact shown.mem_circle_iff.1 onCycle
  · intro own start path failed
    have returns := fails_as_cycle_iff.1 ⟨start, path, failed⟩
    obtain ⟨rfl, chain, shown⟩ := exists_cycle_of_effectiveFields failed
    exact shown.mem_circle_iff.2 (returns.elim own id)

/-- The search for the fields of a struct fails with a cycle exactly where declarations show one,
and reports the path of their names.  The declaration that the path comes round to is its own
transitive base.  The error accuses the struct that the search started with instead, and this struct
lies on the cycle shown exactly if it is its own transitive base too; where its links only lead to a
cycle of other structs, the error accuses a struct that is not on it. -/
theorem cycle_path_outcome (document : Document) (declared : Struct) :
    (∀ start path, document.effectiveFields declared = .error (.cycle start path) ↔
      start = declared.name ∧ ∃ chain, document.ShowsBaseCycle declared chain path) ∧
    (∀ chain path, document.ShowsBaseCycle declared chain path →
      (∃ member ∈ chain, path.getLast? = some member.name ∧ document.LinksReachOwnName member) ∧
      (declared.name ∈ Walk.circle path ↔ document.LinksReachOwnName declared)) ∧
    (document.AccusesOnCycle declared ↔
      (document.LinksComeBack declared → document.LinksReachOwnName declared)) := by
  refine ⟨fun _ _ => fails_with_path_iff, ?_, accusesOnCycle_iff⟩
  intro chain path shown
  exact ⟨shown.exists_own_base, shown.mem_circle_iff⟩

def mirrored : Document where
  version := "eosio::abi/1.2"
  aliases := []
  structs := [⟨"guest", "mirror", []⟩, ⟨"mirror", "mirror", []⟩]
  actions := []
  tables := []
  clauses := []
  errorMessages := []
  extensions := []
  variants := []

def mirrorGuest : Struct := ⟨"guest", "mirror", []⟩

/-- The error says that the guest inherits from itself, and only its base does. -/
theorem not_accusesOnCycle_mirrorGuest : mirrorGuest ∈ mirrored.structs ∧
    mirrored.effectiveFields mirrorGuest = .error (.cycle "guest" ["guest", "mirror", "mirror"]) ∧
    (InheritanceError.cycle "guest" ["guest", "mirror", "mirror"]).message =
      "Struct 'guest' inherits from itself: guest -> mirror -> mirror" ∧
    Walk.circle (["guest", "mirror", "mirror"] : List Text) = ["mirror", "mirror"] ∧
    ¬mirrored.LinksReachOwnName mirrorGuest ∧ ¬mirrored.AccusesOnCycle mirrorGuest := by
  have fails : mirrored.effectiveFields mirrorGuest =
      .error (.cycle "guest" ["guest", "mirror", "mirror"]) := by
    decide +kernel
  have around : Walk.circle (["guest", "mirror", "mirror"] : List Text) = ["mirror", "mirror"] := by
    decide +kernel
  have apart : (Text.ofString "guest") ∉ Walk.circle
      (["guest", "mirror", "mirror"] : List Text) := by
    rw [around]
    decide
  obtain ⟨_, chain, shown⟩ := exists_cycle_of_effectiveFields fails
  refine ⟨by decide, fails, by decide +kernel, around, mt shown.mem_circle_iff.2 apart, ?_⟩
  exact fun accuses => apart (accuses _ _ fails)

end ContractTypes.Document
