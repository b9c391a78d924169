import ContractTypes.Proofs.Resolution.RoundTrip

/-!
Resolution in one document and in another.

The search for the leaf of an expression looks up aliases one after another, and at its end it finds
that a name is no alias.  Where another document has the same aliases under the names that are
found, and no alias under the name at the end, the search goes the same way there, and it fails in
the same way.  So does the resolution if the name at the end stands for the same leaf.
-/

namespace ContractTypes.Document

variable {document other : Document}

/-- A search goes the same way in a document that has the aliases found, and none under the name at
the end. -/
theorem settle_eq_settle
    (aliases : ∀ name declared, document.alias? name = some declared →
      other.alias? name = some declared)
    {outer : List Marker} {followed : List Text} {expression : Text}
    (stops : ∀ settled, document.settle outer followed expression = .ok settled →
      other.alias? settled.name = none) :
    other.settle outer followed expression = document.settle outer followed expression := by
  fun_induction settle document outer followed expression with
  | case1 outer followed expression name empty =>
      exact settle_of_nameless (List.isEmpty_iff.1 empty)
  | case2 outer followed expression name markers named absent =>
      exact settle_of_no_alias (mt List.isEmpty_iff.2 named) (stops _ rfl)
  | case3 outer followed expression name named declared found met =>
      rw [settle_of_alias (mt List.isEmpty_iff.2 named) (aliases _ _ found), if_pos met]
  | case4 outer followed expression name named declared found fresh empty =>
      rw [settle_of_alias (mt List.isEmpty_iff.2 named) (aliases _ _ found), if_neg fresh,
        if_pos empty]
  | case5 outer followed expression name markers named declared found fresh filled ih =>
      rw [settle_of_alias (mt List.isEmpty_iff.2 named) (aliases _ _ found), if_neg fresh,
        if_neg filled]
      exact ih stops

theorem resolve_eq_resolve {expression : Text}
    (aliases : ∀ name declared, document.alias? name = some declared →
      other.alias? name = some declared)
    (ends : ∀ settled, document.settle [] [] expression = .ok settled →
      other.alias? settled.name = none ∧ other.leaf? settled.name = document.leaf? settled.name) :
    other.resolve expression = document.resolve expression := by
  have searched := settle_eq_settle aliases (fun settled ended => (ends settled ended).1)
  unfold resolve
  rw [searched]
  cases ended : document.settle [] [] expression with
  | error error => rfl
  | ok settled =>
      dsimp only
      rw [(ends settled ended).2]

theorem leaf?_congr {name : Text} (declared : other.isDeclared name = document.isDeclared name) :
    other.leaf? name = document.leaf? name := by
  unfold leaf?
  rw [declared]

theorem resolve_congr (aliases : ∀ name, other.alias? name = document.alias? name)
    (declared : ∀ name, other.isDeclared name = document.isDeclared name) (expression : Text) :
    other.resolve expression = document.resolve expression := by
  refine resolve_eq_resolve (fun name found present => (aliases name).trans present) ?_
  intro settled ended
  obtain ⟨_, absent, _⟩ := settle_eq_ok ended
  exact ⟨(aliases settled.name).trans absent, leaf?_congr (declared settled.name)⟩

theorem Admits.transfer {ref : TypeRef} (admitted : document.Admits ref)
    (declared : other.isDeclared ref.leafName = document.isDeclared ref.leafName)
    (noAlias : other.isAlias ref.leafName = false) : other.Admits ref where
  named := admitted.named
  markless := admitted.markless
  noAlias := noAlias
  declared := declared ▸ admitted.declared
  scalar := declared ▸ admitted.scalar

end ContractTypes.Document
