import ContractTypes.Proofs.Resolution.AliasChain

/-!
What an expression resolves to, read off its alias chain.

The search comes to a stop after at most as many aliases as there are names of aliases.  Where it
stops tells how the chain goes on: it comes to an empty name, it ends at a name that is no alias, or
it has come back to a name that it passed and so never ends.  These three exclude each other, and so
each of the four outcomes of a resolution belongs to one of them.
-/

namespace ContractTypes

namespace Search

variable {document : Document} {expression : Text}

theorem exists_stop_after (supply : Nat) {hops : Nat} {search : Search}
    (walked : (start expression).after? document hops = some search)
    (covered : document.aliasNameCount < hops + supply) :
    ∃ total last, (start expression).after? document total = some last ∧
      last.next? document = none ∧ search.result document = last.result document := by
  induction supply generalizing hops search with
  | zero =>
      obtain ⟨onChain, length⟩ := onChain_after walked
      have bound := onChain.length_le
      omega
  | succ supply ih =>
      cases next : search.next? document with
      | none => exact ⟨hops, search, walked, next, rfl⟩
      | some later =>
          have further : (start expression).after? document (hops + 1) = some later := by
            rw [after?, walked, Option.bind_some, next]
          obtain ⟨total, last, reached, stopped, same⟩ := ih further (by omega)
          exact ⟨total, last, reached, stopped, (result_of_next? next).trans same⟩

/-- The search of an expression stops after at most as many aliases as there are names of
aliases. -/
theorem exists_stop (document : Document) (expression : Text) :
    ∃ hops last, hops ≤ document.aliasNameCount ∧
      (start expression).after? document hops = some last ∧ last.next? document = none ∧
        document.settle [] [] expression = last.result document := by
  have begun : (start expression).after? document 0 = some (start expression) := rfl
  obtain ⟨hops, last, reached, stopped, same⟩ :=
    exists_stop_after (document.aliasNameCount + 1) begun (by omega)
  obtain ⟨onChain, length⟩ := onChain_after reached
  exact ⟨hops, last, length ▸ onChain.length_le, reached, stopped, same⟩

/-- A search that comes back to a name which it has followed stays among these names for ever. -/
theorem OnChain.stays {search : Search} (walked : OnChain document expression search)
    (met : search.name ∈ search.followed) (hops : Nat) :
    ∃ name ∈ search.followed, document.aliasChain expression hops = some name := by
  induction hops with
  | zero =>
      have nonempty : 0 < search.followed.length := List.length_pos_of_mem met
      have first := walked.passed 0 nonempty
      rw [List.getElem?_eq_getElem nonempty] at first
      exact ⟨_, List.getElem_mem nonempty, first.symm⟩
  | succ hops ih =>
      obtain ⟨name, member, reached⟩ := ih
      obtain ⟨position, before, rfl⟩ := List.getElem_of_mem member
      have place := walked.passed position before
      rw [List.getElem?_eq_getElem before] at place
      -- The chain goes on from a name as it did when the search passed that name.
      have onward : document.aliasChain expression (hops + 1) =
          document.aliasChain expression (position + 1) := by
        rw [Document.aliasChain_succ, Document.aliasChain_succ, reached, place]
      rcases Nat.lt_or_eq_of_le (Nat.succ_le_of_lt before) with inside | last
      · have later := walked.passed (position + 1) inside
        rw [List.getElem?_eq_getElem inside] at later
        exact ⟨_, List.getElem_mem inside, onward.trans later.symm⟩
      · have end_ : document.aliasChain expression (position + 1) = some search.name := by
          rw [← walked.reached]
          exact congrArg (document.aliasChain expression) last
        exact ⟨search.name, met, onward.trans end_⟩

end Search

namespace Document

/-- Every name on the chain of an expression is an alias that leads on. -/
def ChainNeverEnds (document : Document) (expression : Text) : Prop :=
  ∀ hops, ∃ name, document.aliasChain expression hops = some name ∧ document.Leads name

/-- An expression is empty, its chain comes to an empty name, or to an alias for the empty text. -/
def ChainBreaks (document : Document) (expression : Text) : Prop :=
  expression = [] ∨ (∃ hops, document.aliasChain expression hops = some []) ∨
    ∃ hops name declared, document.aliasChain expression hops = some name ∧
      document.alias? name = some declared ∧ declared.target = []

/-- The chain of an expression ends at a name that is not empty and is no alias. -/
def ChainEndsAt (document : Document) (expression name : Text) : Prop :=
  name ≠ [] ∧ document.alias? name = none ∧ ∃ hops, document.aliasChain expression hops = some name

/-- An expression has no type, for a reason of some kind. -/
def FailsAs (document : Document) (expression : Text) (kind : ResolveError.Kind) : Prop :=
  ∃ error, document.resolve expression = .error error ∧ error.kind = kind

variable {document : Document} {expression : Text}

theorem chainBreaks_iff :
    document.ChainBreaks expression ↔ ∃ hops, document.aliasChain expression hops = some [] := by
  constructor
  · intro breaks
    rcases breaks with empty | reached | ⟨hops, name, declared, reached, found, empty⟩
    · subst empty
      exact ⟨0, rfl⟩
    · exact reached
    · exact aliasChain_empty_of_empty_target reached found empty
  · intro reached
    exact Or.inr (Or.inl reached)

theorem not_chainBreaks_of_chainNeverEnds (endless : document.ChainNeverEnds expression) :
    ¬document.ChainBreaks expression := by
  intro breaks
  obtain ⟨hops, reached⟩ := chainBreaks_iff.1 breaks
  obtain ⟨name, same, named, _⟩ := endless hops
  exact named (Option.some.inj (same.symm.trans reached))

theorem not_chainEndsAt_of_chainNeverEnds (endless : document.ChainNeverEnds expression)
    (name : Text) : ¬document.ChainEndsAt expression name := by
  intro ends
  obtain ⟨_, absent, hops, reached⟩ := ends
  obtain ⟨other, same, _, declared, found, _⟩ := endless hops
  rw [Option.some.inj (same.symm.trans reached), absent] at found
  cases found

theorem not_chainEndsAt_of_chainBreaks (breaks : document.ChainBreaks expression) (name : Text) :
    ¬document.ChainEndsAt expression name := by
  intro ends
  obtain ⟨named, absent, _, reached⟩ := ends
  obtain ⟨_, empty⟩ := chainBreaks_iff.1 breaks
  exact named
    (aliasChain_end_unique reached (nextName?_of_no_alias absent) empty (nextName?_nil document))

theorem ChainEndsAt.unique {left right : Text} (first : document.ChainEndsAt expression left)
    (second : document.ChainEndsAt expression right) : left = right := by
  obtain ⟨_, leftAbsent, _, leftReached⟩ := first
  obtain ⟨_, rightAbsent, _, rightReached⟩ := second
  exact aliasChain_end_unique leftReached (nextName?_of_no_alias leftAbsent) rightReached
    (nextName?_of_no_alias rightAbsent)

/-! ### The outcome -/

theorem failsAs_of_settle {error : ResolveError} (filled : expression ≠ [])
    (stopped : document.settle [] [] expression = .error error) :
    document.FailsAs expression error.kind := by
  refine ⟨error, ?_, rfl⟩
  unfold resolve
  rw [if_neg (mt List.isEmpty_iff.1 filled), stopped]

theorem resolve_of_settle {settled : Settled} (filled : expression ≠ [])
    (stopped : document.settle [] [] expression = .ok settled) :
    document.resolve expression =
      match document.leaf? settled.name with
      | some leaf => .ok (TypeRef.wrapAll settled.markers leaf)
      | none => .error (.unknown settled.name settled.expression) := by
  unfold resolve
  rewrite [if_neg (mt List.isEmpty_iff.1 filled), stopped]
  rfl

theorem resolve_eq_ok {ref : TypeRef} (resolved : document.resolve expression = .ok ref) :
    ∃ settled leaf, document.settle [] [] expression = .ok settled ∧
      document.leaf? settled.name = some leaf ∧ ref = TypeRef.wrapAll settled.markers leaf := by
  revert resolved
  fun_cases resolve document expression with
  | case1 => nofun
  | case2 => nofun
  | case3 _ settled ended leaf known =>
      intro resolved
      exact ⟨settled, leaf, ended, known, (Except.ok.inj resolved).symm⟩
  | case4 => nofun

theorem leaf?_eq_none_iff (document : Document) (name : Text) :
    document.leaf? name = none ↔
      document.isDeclared name = false ∧ Scalar.isScalar name = false := by
  unfold leaf?
  cases document.isDeclared name <;> cases Scalar.isScalar name <;> simp

theorem leaf?_eq_some {name : Text} {leaf : TypeRef} (known : document.leaf? name = some leaf) :
    (leaf = .named name ∧ document.isDeclared name = true) ∨
      (leaf = .scalar name ∧ document.isDeclared name = false ∧ Scalar.isScalar name = true) := by
  unfold leaf? at known
  cases declared : document.isDeclared name with
  | true =>
      rw [declared] at known
      exact .inl ⟨(Option.some.inj known).symm, rfl⟩
  | false =>
      rw [declared] at known
      cases scalar : Scalar.isScalar name with
      | true =>
          rw [scalar] at known
          exact .inr ⟨(Option.some.inj known).symm, rfl, rfl⟩
      | false =>
          rw [scalar] at known
          cases known

inductive Fate (document : Document) (expression : Text) : Prop where
  | breaks (chain : document.ChainBreaks expression)
      (outcome : document.FailsAs expression .malformed)
  | endless (chain : document.ChainNeverEnds expression)
      (outcome : document.FailsAs expression .cyclic)
  | unknown (name : Text) (chain : document.ChainEndsAt expression name)
      (strange : document.leaf? name = none) (outcome : document.FailsAs expression .unknown)
  | typed (name : Text) (chain : document.ChainEndsAt expression name)
      (known : document.leaf? name ≠ none) (ref : TypeRef)
        (outcome : document.resolve expression = .ok ref)

theorem fate (document : Document) (expression : Text) : Fate document expression := by
  by_cases filled : expression = []
  · subst filled
    exact .breaks (Or.inl rfl) ⟨.empty, rfl, rfl⟩
  obtain ⟨hops, last, _, reached, stopped, same⟩ := Search.exists_stop document expression
  obtain ⟨onChain, _⟩ := Search.onChain_after reached
  cases Search.step document last with
  | nameless empty _ result =>
      refine .breaks (Or.inr (Or.inl ⟨_, empty ▸ onChain.reached⟩)) ?_
      exact failsAs_of_settle filled (same.trans result)
  | settled named absent _ result =>
      have ends : document.ChainEndsAt expression last.name := ⟨named, absent, _, onChain.reached⟩
      have resolved := resolve_of_settle filled (same.trans result)
      cases leaf : document.leaf? last.name with
      | none =>
          rw [leaf] at resolved
          exact .unknown last.name ends leaf ⟨_, resolved, rfl⟩
      | some ref =>
          rw [leaf] at resolved
          exact .typed last.name ends (by rw [leaf]; exact Option.some_ne_none ref) _ resolved
  | cyclic met _ result =>
      refine .endless (fun hops => ?_) (failsAs_of_settle filled (same.trans result))
      obtain ⟨name, member, there⟩ := onChain.stays met hops
      exact ⟨name, there, onChain.leads name member⟩
  | emptyTarget declared found empty _ result =>
      refine .breaks (Or.inr (Or.inr ⟨_, _, declared, onChain.reached, found, empty⟩)) ?_
      exact failsAs_of_settle filled (same.trans result)
  | follows _ _ _ _ _ _ _ next _ => cases stopped.symm.trans next

theorem FailsAs.kind_unique {left right : ResolveError.Kind}
    (first : document.FailsAs expression left) (second : document.FailsAs expression right) :
    left = right := by
  obtain ⟨error, failed, rfl⟩ := first
  obtain ⟨other, also, rfl⟩ := second
  rw [failed] at also
  cases also
  rfl

theorem FailsAs.ne_ok {kind : ResolveError.Kind} {ref : TypeRef}
    (failed : document.FailsAs expression kind) : document.resolve expression ≠ .ok ref := by
  obtain ⟨error, failed, _⟩ := failed
  rw [failed]
  exact fun same => nomatch same

theorem FailsAs.mapError_kind {kind : ResolveError.Kind}
    (failed : document.FailsAs expression kind) :
    (document.resolve expression).mapError ResolveError.kind = .error kind := by
  obtain ⟨error, failed, rfl⟩ := failed
  rw [failed]
  rfl

theorem failsAs_cyclic_iff :
    document.FailsAs expression .cyclic ↔ document.ChainNeverEnds expression := by
  constructor
  · intro failed
    cases fate document expression with
    | breaks _ outcome => cases failed.kind_unique outcome
    | endless chain _ => exact chain
    | unknown _ _ _ outcome => cases failed.kind_unique outcome
    | typed _ _ _ _ outcome => exact absurd outcome failed.ne_ok
  · intro never
    cases fate document expression with
    | breaks chain _ => exact absurd chain (not_chainBreaks_of_chainNeverEnds never)
    | endless _ outcome => exact outcome
    | unknown name chain _ _ => exact absurd chain (not_chainEndsAt_of_chainNeverEnds never name)
    | typed name chain _ _ _ => exact absurd chain (not_chainEndsAt_of_chainNeverEnds never name)

theorem failsAs_malformed_iff :
    document.FailsAs expression .malformed ↔ document.ChainBreaks expression := by
  constructor
  · intro failed
    cases fate document expression with
    | breaks chain _ => exact chain
    | endless _ outcome => cases failed.kind_unique outcome
    | unknown _ _ _ outcome => cases failed.kind_unique outcome
    | typed _ _ _ _ outcome => exact absurd outcome failed.ne_ok
  · intro broken
    cases fate document expression with
    | breaks _ outcome => exact outcome
    | endless chain _ => exact absurd broken (not_chainBreaks_of_chainNeverEnds chain)
    | unknown name chain _ _ => exact absurd chain (not_chainEndsAt_of_chainBreaks broken name)
    | typed name chain _ _ _ => exact absurd chain (not_chainEndsAt_of_chainBreaks broken name)

theorem failsAs_unknown_iff :
    document.FailsAs expression .unknown ↔
      ∃ name, document.ChainEndsAt expression name ∧ document.leaf? name = none := by
  constructor
  · intro failed
    cases fate document expression with
    | breaks _ outcome => cases failed.kind_unique outcome
    | endless _ outcome => cases failed.kind_unique outcome
    | unknown name chain strange _ => exact ⟨name, chain, strange⟩
    | typed _ _ _ _ outcome => exact absurd outcome failed.ne_ok
  · rintro ⟨last, ends, stranger⟩
    cases fate document expression with
    | breaks chain _ => exact absurd ends (not_chainEndsAt_of_chainBreaks chain last)
    | endless chain _ => exact absurd ends (not_chainEndsAt_of_chainNeverEnds chain last)
    | unknown _ _ _ outcome => exact outcome
    | typed name chain known _ _ => exact absurd (ends.unique chain ▸ stranger) known

theorem exists_resolve_ok_iff :
    (∃ ref, document.resolve expression = .ok ref) ↔
      ∃ name, document.ChainEndsAt expression name ∧ document.leaf? name ≠ none := by
  constructor
  · rintro ⟨ref, resolved⟩
    cases fate document expression with
    | breaks _ outcome => exact absurd resolved outcome.ne_ok
    | endless _ outcome => exact absurd resolved outcome.ne_ok
    | unknown _ _ _ outcome => exact absurd resolved outcome.ne_ok
    | typed name chain known _ _ => exact ⟨name, chain, known⟩
  · rintro ⟨last, ends, familiar⟩
    cases fate document expression with
    | breaks chain _ => exact absurd ends (not_chainEndsAt_of_chainBreaks chain last)
    | endless chain _ => exact absurd ends (not_chainEndsAt_of_chainNeverEnds chain last)
    | unknown name chain strange _ => exact absurd strange (ends.unique chain ▸ familiar)
    | typed _ _ _ ref outcome => exact ⟨ref, outcome⟩

/-- The alias chain decides the outcome: an expression fails as cyclic exactly where the chain never
ends, as malformed where it breaks, and as unknown where it ends at a name that is neither declared
nor a scalar; where it ends at any other name there is a type.  The search stops after at most as
many aliases as there are different names of aliases. -/
theorem resolve_outcome (document : Document) (expression : Text) :
    (document.FailsAs expression .cyclic ↔ document.ChainNeverEnds expression) ∧
      (document.FailsAs expression .malformed ↔ document.ChainBreaks expression) ∧
      (document.FailsAs expression .unknown ↔
        ∃ name, document.ChainEndsAt expression name ∧
          document.isDeclared name = false ∧ Scalar.isScalar name = false) ∧
      ((∃ ref, document.resolve expression = .ok ref) ↔
        ∃ name, document.ChainEndsAt expression name ∧
          (document.isDeclared name = true ∨ Scalar.isScalar name = true)) ∧
      ∃ hops last, hops ≤ document.aliasNameCount ∧
        (Search.start expression).after? document hops = some last ∧ last.next? document = none ∧
          document.settle [] [] expression = last.result document := by
  refine ⟨failsAs_cyclic_iff, failsAs_malformed_iff, ?_, ?_, Search.exists_stop document expression⟩
  · simp only [failsAs_unknown_iff, leaf?_eq_none_iff]
  · simp only [exists_resolve_ok_iff, ne_eq, leaf?_eq_none_iff, not_and_or, Bool.not_eq_false]

end Document

end ContractTypes
