import ContractTypes.Proofs.Resolution.Outcome

/-!
The aliases that a cycle is reported with.

A resolution that fails as cyclic gives the names of the aliases that it has followed and the name
that it met again.  These are the first names on the alias chain of the expression, up to the first
that stands on the chain before.  No other list of names shows a cycle on the chain, and where one
does, the resolution fails with it.
-/

namespace ContractTypes

namespace Document

/-- Names that show a cycle on the chain of an expression: they start at its bare name, each is an
alias that leads on, the next one is the bare name of its first target, and the last one is the
first to stand among them before. -/
structure ShowsAliasCycle (document : Document) (expression : Text) (chain : List Text) : Prop where
  starts : chain.head? = some (TypeExpression.bareName expression)
  leads : ∀ name ∈ chain, document.Leads name
  linked : chain.IsChain (fun name later => ∃ declared, document.alias? name = some declared ∧
    TypeExpression.bareName declared.target = later)
  round : Walk.ComesRound chain

variable {document : Document} {expression : Text} {chain other : List Text}

theorem exists_alias_of_nextName? {name later : Text}
    (next : document.nextName? name = some later) :
    ∃ declared, document.alias? name = some declared ∧
      TypeExpression.bareName declared.target = later := by
  unfold nextName? at next
  split at next
  · cases next
  · exact Option.map_eq_some_iff.1 next

theorem showsAliasCycle_of_onChain {search : Search}
    (walked : Search.OnChain document expression search) (met : search.name ∈ search.followed) :
    document.ShowsAliasCycle expression (search.followed ++ [search.name]) where
  starts := by
    rw [List.head?_eq_getElem?]
    exact walked.getElem?_eq (by simp)
  leads := by
    intro name member
    rcases List.mem_append.1 member with earlier | last
    · exact walked.leads name earlier
    · rw [List.mem_singleton.1 last]
      exact walked.leads search.name met
  linked := by
    have along : (search.followed ++ [search.name]).IsChain
        (fun name later => document.nextName? name = some later) :=
      Walk.isChain_of_getElem? (fun position inside =>
        (walked.getElem?_eq inside).trans (aliasChain_eq_item? document expression position))
    exact along.imp (fun _ _ next => exists_alias_of_nextName? next)
  round := Walk.comesRound_concat walked.distinct met

/-- What fails as cyclic is the search, not the look-up of its end. -/
theorem settle_of_resolve_cyclic {error : ResolveError}
    (failed : document.resolve expression = .error error) (cyclic : error.kind = .cyclic) :
    document.settle [] [] expression = .error error := by
  revert failed
  fun_cases resolve document expression with
  | case1 =>
      intro failed
      cases failed
      cases cyclic
  | case2 _ _ stopped =>
      intro failed
      rw [stopped, Except.error.inj failed]
  | case3 =>
      intro failed
      cases failed
  | case4 =>
      intro failed
      cases failed
      cases cyclic

theorem exists_cycle_of_resolve {error : ResolveError}
    (failed : document.resolve expression = .error error) (cyclic : error.kind = .cyclic) :
    ∃ chain, document.ShowsAliasCycle expression chain ∧ error = .cyclic chain := by
  obtain ⟨hops, last, _, reached, stopped, same⟩ := Search.exists_stop document expression
  have outcome : last.result document = .error error :=
    same.symm.trans (settle_of_resolve_cyclic failed cyclic)
  obtain ⟨onChain, _⟩ := Search.onChain_after reached
  cases Search.step document last with
  | nameless _ _ result =>
      cases outcome.symm.trans result
      cases cyclic
  | settled _ _ _ result => cases outcome.symm.trans result
  | cyclic met _ result =>
      exact ⟨_, showsAliasCycle_of_onChain onChain met,
        Except.error.inj (outcome.symm.trans result)⟩
  | emptyTarget _ _ _ _ result =>
      cases outcome.symm.trans result
      cases cyclic
  | follows _ _ _ _ _ _ _ next _ => cases stopped.symm.trans next

theorem ShowsAliasCycle.getElem?_eq (shown : document.ShowsAliasCycle expression chain)
    {position : Nat} (inside : position < chain.length) :
    chain[position]? = document.aliasChain expression position := by
  have along : chain.IsChain (fun name later => document.nextName? name = some later) := by
    refine shown.linked.imp_of_mem_imp (fun name later member _ link => ?_)
    obtain ⟨declared, found, bare⟩ := link
    rw [nextName?_of_alias (shown.leads name member).1 found, bare]
  rw [aliasChain_eq_item?]
  exact Walk.getElem?_eq_item? shown.starts along inside

theorem ShowsAliasCycle.unique (shown : document.ShowsAliasCycle expression chain)
    (also : document.ShowsAliasCycle expression other) : chain = other :=
  shown.round.eq_of_agree also.round (fun _ inside within =>
    (shown.getElem?_eq inside).trans (also.getElem?_eq within).symm)

theorem ShowsAliasCycle.failsAs (shown : document.ShowsAliasCycle expression chain) :
    document.FailsAs expression .cyclic := by
  obtain ⟨early, late, met, before, inside, earlier, later⟩ := shown.round.met_twice
  rw [shown.getElem?_eq (before.trans inside), aliasChain_eq_item?] at earlier
  rw [shown.getElem?_eq inside, aliasChain_eq_item?] at later
  have goesOn {hops : Nat} {name : Text}
    (reached : document.aliasChain expression hops = some name) :
      document.nextName? name ≠ none := by
    rw [aliasChain_eq_item?] at reached
    exact Walk.next?_ne_none_of_met_twice before earlier later reached
  -- A chain that goes on everywhere has no end, so only one of its fates is left.
  cases fate document expression with
  | breaks ends _ =>
      obtain ⟨hops, reached⟩ := chainBreaks_iff.1 ends
      exact absurd (nextName?_nil document) (goesOn reached)
  | endless _ outcome => exact outcome
  | unknown name ends _ _ =>
      obtain ⟨_, absent, hops, reached⟩ := ends
      exact absurd (nextName?_of_no_alias absent) (goesOn reached)
  | typed name ends _ _ _ =>
      obtain ⟨_, absent, hops, reached⟩ := ends
      exact absurd (nextName?_of_no_alias absent) (goesOn reached)

/-- A resolution fails as cyclic exactly where names show a cycle on the chain of the expression,
and these are the names that it is reported with. -/
theorem resolve_cyclic_iff (document : Document) (expression : Text) (error : ResolveError) :
    (document.resolve expression = .error error ∧ error.kind = .cyclic) ↔
      ∃ chain, document.ShowsAliasCycle expression chain ∧ error = .cyclic chain ∧
        error.message = "Cyclic type alias: " ++ Text.joined " -> " chain := by
  constructor
  · rintro ⟨failed, cyclic⟩
    obtain ⟨chain, shown, rfl⟩ := exists_cycle_of_resolve failed cyclic
    exact ⟨chain, shown, rfl, rfl⟩
  · rintro ⟨chain, shown, rfl, _⟩
    obtain ⟨error, failed, cyclic⟩ := shown.failsAs
    obtain ⟨other, also, rfl⟩ := exists_cycle_of_resolve failed cyclic
    rw [shown.unique also]
    exact ⟨failed, rfl⟩

end Document

end ContractTypes
