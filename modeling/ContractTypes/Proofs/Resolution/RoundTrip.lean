import ContractTypes.Proofs.Resolution.Outcome

/-!
Descriptors and the expressions that stand for them.

A document admits a descriptor if the name at its leaf is a bare name that no alias has, and the
leaf is what this name stands for.  Just these descriptors come out of resolution, from whatever
expression and along whatever aliases, and each of them comes out of its own expression.
-/

namespace ContractTypes

namespace TypeRef

theorem leaf_eq (ref : TypeRef) : ref.leaf = .scalar ref.leafName ∨
    ref.leaf = .named ref.leafName := by
  induction ref with
  | scalar name => exact .inl rfl
  | named name => exact .inr rfl
  | optional inner ih => exact ih
  | array element ih => exact ih
  | extension inner ih => exact ih

theorem leaf_wrapAll (markers : List Marker) (ref : TypeRef) :
    (wrapAll markers ref).leaf = ref.leaf := by
  induction markers with
  | nil => rfl
  | cons marker markers ih => cases marker <;> exact ih

theorem leafName_wrapAll (markers : List Marker) (ref : TypeRef) :
    (wrapAll markers ref).leafName = ref.leafName := by
  induction markers with
  | nil => rfl
  | cons marker markers ih => cases marker <;> exact ih

theorem expression_eq_marked (ref : TypeRef) :
    ref.expression = TypeExpression.marked ref.markers ref.leafName := by
  induction ref with
  | scalar name => rfl
  | named name => rfl
  | optional inner ih => exact congrArg (· ++ Marker.optional.text) ih
  | array element ih => exact congrArg (· ++ Marker.array.text) ih
  | extension inner ih => exact congrArg (· ++ Marker.extension.text) ih

end TypeRef

namespace Document

/-- The name at the leaf of a descriptor is a bare name and no alias, and the leaf is what the name
stands for: a declared type if there is one, and otherwise a built-in scalar. -/
structure Admits (document : Document) (ref : TypeRef) : Prop where
  named : ref.leafName ≠ []
  markless : ∀ marker : Marker, ¬marker.text <:+ ref.leafName
  noAlias : document.isAlias ref.leafName = false
  declared : ref.leaf = .named ref.leafName ↔ document.isDeclared ref.leafName = true
  scalar : ref.leaf = .scalar ref.leafName ↔
    document.isDeclared ref.leafName = false ∧ Scalar.isScalar ref.leafName = true

variable {document : Document}

theorem alias?_eq_none_iff {name : Text} : document.alias? name = none ↔
    document.isAlias name = false := by
  unfold alias? isAlias NameTable.first? NameTable.has
  rw [List.find?_eq_none, List.any_eq_false]

theorem settle_eq_ok {outer : List Marker} {followed : List Text} {expression : Text}
    {settled : Settled} (ended : document.settle outer followed expression = .ok settled) :
    settled.name ≠ [] ∧ document.alias? settled.name = none ∧
      ∀ marker : Marker, ¬marker.text <:+ settled.name := by
  fun_induction settle document outer followed expression with
  | case1 outer followed expression name empty => cases ended
  | case2 outer followed expression name markers named absent =>
      rw [← Except.ok.inj ended]
      refine ⟨mt List.isEmpty_iff.2 named, absent, ?_⟩
      rintro marker ⟨rest, same⟩
      exact TypeExpression.bareName_ne_append expression rest marker same.symm
  | case3 outer followed expression name named declared found met => cases ended
  | case4 outer followed expression name named declared found fresh empty => cases ended
  | case5 outer followed expression name markers named declared found fresh filled ih =>
      exact ih ended

theorem Admits.wrapAll {ref : TypeRef} (admitted : document.Admits ref) (markers : List Marker) :
    document.Admits (TypeRef.wrapAll markers ref) := by
  constructor
  case named =>
    rw [TypeRef.leafName_wrapAll]
    exact admitted.named
  case markless =>
    rw [TypeRef.leafName_wrapAll]
    exact admitted.markless
  case noAlias =>
    rw [TypeRef.leafName_wrapAll]
    exact admitted.noAlias
  case declared =>
    rw [TypeRef.leaf_wrapAll, TypeRef.leafName_wrapAll]
    exact admitted.declared
  case scalar =>
    rw [TypeRef.leaf_wrapAll, TypeRef.leafName_wrapAll]
    exact admitted.scalar

theorem admits_of_leaf? {name : Text} {leaf : TypeRef} (named : name ≠ [])
    (markless : ∀ marker : Marker, ¬marker.text <:+ name) (absent : document.alias? name = none)
    (known : document.leaf? name = some leaf) : document.Admits leaf := by
  have noAlias := alias?_eq_none_iff.1 absent
  rcases leaf?_eq_some known with ⟨rfl, declared⟩ | ⟨rfl, undeclared, scalar⟩
  · refine ⟨named, markless, noAlias, ⟨fun _ => declared, fun _ => rfl⟩, ⟨?_, ?_⟩⟩
    · intro same
      cases same
    · rintro ⟨undeclared, _⟩
      exact absurd declared (Bool.eq_false_iff.1 undeclared)
  · refine ⟨named, markless, noAlias, ⟨?_, ?_⟩, ⟨fun _ => ⟨undeclared, scalar⟩, fun _ => rfl⟩⟩
    · intro same
      cases same
    · intro declared
      exact absurd declared (Bool.eq_false_iff.1 undeclared)

theorem admits_of_resolve {expression : Text} {ref : TypeRef}
    (resolved : document.resolve expression = .ok ref) : document.Admits ref := by
  obtain ⟨settled, leaf, ended, known, rfl⟩ := resolve_eq_ok resolved
  obtain ⟨named, absent, markless⟩ := settle_eq_ok ended
  exact (admits_of_leaf? named markless absent known).wrapAll settled.markers

theorem Admits.leaf? {ref : TypeRef} (admitted : document.Admits ref) :
    document.leaf? ref.leafName = some ref.leaf := by
  unfold Document.leaf?
  rcases ref.leaf_eq with scalar | named
  · obtain ⟨undeclared, known⟩ := admitted.scalar.1 scalar
    rw [undeclared, known, scalar]
    rfl
  · rw [admitted.declared.1 named, named]
    rfl

theorem Admits.resolve_expression {ref : TypeRef} (admitted : document.Admits ref) :
    document.resolve ref.expression = .ok ref := by
  obtain ⟨markers, bare⟩ := TypeExpression.parts_marked admitted.markless ref.markers
  rw [← TypeRef.expression_eq_marked] at markers bare
  have settled : document.settle [] [] ref.expression =
      .ok ⟨ref.markers, ref.leafName, ref.expression⟩ := by
    rw [settle_of_no_alias (bare.symm ▸ admitted.named)
      (bare.symm ▸ alias?_eq_none_iff.2 admitted.noAlias), bare, markers]
    rfl
  have filled : ref.expression ≠ [] := by
    intro empty
    rw [empty] at bare
    exact admitted.named bare.symm
  rw [resolve_of_settle filled settled]
  simp only [admitted.leaf?]
  exact congrArg Except.ok ref.wrapAll_markers_leaf

/-- The descriptors that expressions resolve to are those that the document admits, and these are
the ones that come back from their own expressions. -/
theorem resolve_expression_iff (document : Document) (ref : TypeRef) :
    ((∃ expression, document.resolve expression = .ok ref) ↔ document.Admits ref) ∧
      (document.Admits ref ↔ document.resolve ref.expression = .ok ref) := by
  refine ⟨⟨?_, ?_⟩, Admits.resolve_expression, admits_of_resolve⟩
  · rintro ⟨expression, resolved⟩
    exact admits_of_resolve resolved
  · intro admitted
    exact ⟨ref.expression, admitted.resolve_expression⟩

end Document

end ContractTypes
