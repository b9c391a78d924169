import ContractTypes.Proofs.Resolution.Transfer

/-!
An alias and its target.

An expression whose bare name is an alias resolves as the target of the alias does under the same
markers.  The two searches keep different lists of aliases that they have followed, and on a cycle
they stop at different places.  Yet the chain of the target is the chain of the alias from its
second name on, so either both chains never end or neither does; and a search that comes to an end
does not depend on the aliases behind it.
-/

namespace ContractTypes.Document

open TypeExpression

variable {document : Document}

/-- A search that ends has met none of the aliases behind it, so it ends in the same way behind
fewer of them. -/
theorem settle_of_subset {outer : List Marker} {followed : List Text} {expression : Text}
    {settled : Settled} (ended : document.settle outer followed expression = .ok settled) :
    ∀ fewer, fewer ⊆ followed → document.settle outer fewer expression = .ok settled := by
  fun_induction settle document outer followed expression with
  | case1 outer followed expression name empty => cases ended
  | case2 outer followed expression name markers named absent =>
      intro fewer _
      rw [settle_of_no_alias (mt List.isEmpty_iff.2 named) absent]
      exact ended
  | case3 outer followed expression name named declared found met => cases ended
  | case4 outer followed expression name named declared found fresh empty => cases ended
  | case5 outer followed expression name markers named declared found fresh filled ih =>
      intro fewer subset
      have alsoFresh : ¬fewer.contains declared.name = true := by
        intro met
        exact fresh (List.contains_iff_mem.2 (subset (List.contains_iff_mem.1 met)))
      rw [settle_of_alias (mt List.isEmpty_iff.2 named) found, if_neg alsoFresh, if_neg filled]
      apply ih ended
      exact List.append_subset.2
        ⟨List.subset_append_of_subset_left _ subset, List.subset_append_right _ _⟩

/-- Of an expression a search sees the bare name and the markers, which join those that it has
met. -/
theorem settle_of_parts {outer wider : List Marker} {followed : List Text} {expression later : Text}
    {settled : Settled} (bare : bareName later = bareName expression)
    (marks : wider ++ markers later = outer ++ markers expression)
    (ended : document.settle outer followed expression = .ok settled) :
    ∃ other, document.settle wider followed later = .ok other ∧ other.name = settled.name ∧
      other.markers = settled.markers := by
  have named : bareName expression ≠ [] := by
    intro nameless
    rw [settle_of_nameless nameless] at ended
    cases ended
  cases found : document.alias? (bareName expression) with
  | none =>
      rw [settle_of_no_alias named found] at ended
      cases ended
      exact ⟨_, settle_of_no_alias (bare ▸ named) (bare ▸ found), bare, marks⟩
  | some declared =>
      rw [settle_of_alias named found] at ended
      refine ⟨settled, ?_, rfl, rfl⟩
      rw [settle_of_alias (bare ▸ named) (bare ▸ found), marks]
      exact ended

/-- The bare name of an expression is an alias, and another expression stands for what the alias
leads to: it has the bare name of the target, and the markers of both. -/
structure Hop (document : Document) (expression later : Text) : Prop where
  named : bareName expression ≠ []
  leads : ∃ declared, document.alias? (bareName expression) = some declared ∧
    bareName later = bareName declared.target ∧
      markers later = markers expression ++ markers declared.target

section Hop

variable {expression later : Text} (hop : document.Hop expression later)

include hop

theorem Hop.aliasChain_succ (hops : Nat) :
    document.aliasChain expression (hops + 1) = document.aliasChain later hops := by
  obtain ⟨declared, found, bare, _⟩ := hop.leads
  rw [aliasChain_eq_item?, aliasChain_eq_item?, bare]
  exact Walk.item?_of_next? (nextName?_of_alias hop.named found) hops

theorem Hop.chainBreaks_later (breaks : document.ChainBreaks expression) :
    document.ChainBreaks later := by
  obtain ⟨hops, reached⟩ := chainBreaks_iff.1 breaks
  cases hops with
  | zero => exact absurd (Option.some.inj reached) hop.named
  | succ hops => exact chainBreaks_iff.2 ⟨hops, (hop.aliasChain_succ hops).symm.trans reached⟩

theorem Hop.chainNeverEnds_later (endless : document.ChainNeverEnds expression) :
    document.ChainNeverEnds later := by
  intro hops
  rw [← hop.aliasChain_succ]
  exact endless (hops + 1)

theorem Hop.chainEndsAt_later {name : Text} (ends : document.ChainEndsAt expression name) :
    document.ChainEndsAt later name := by
  obtain ⟨named, absent, hops, reached⟩ := ends
  cases hops with
  | zero =>
      obtain ⟨declared, found, _⟩ := hop.leads
      rw [Option.some.inj reached, absent] at found
      cases found
  | succ hops => exact ⟨named, absent, hops, (hop.aliasChain_succ hops).symm.trans reached⟩

theorem Hop.settle_later {settled : Settled}
    (ended : document.settle [] [] expression = .ok settled) :
    ∃ other, document.settle [] [] later = .ok other ∧ other.name = settled.name ∧
      other.markers = settled.markers := by
  obtain ⟨declared, found, bare, marks⟩ := hop.leads
  rw [settle_of_alias hop.named found, if_neg (by exact Bool.false_ne_true)] at ended
  split at ended
  · cases ended
  · exact settle_of_parts bare marks (settle_of_subset ended [] (List.nil_subset _))

theorem Hop.resolve_later {ref : TypeRef} (resolved : document.resolve expression = .ok ref) :
    document.resolve later = .ok ref := by
  obtain ⟨settled, leaf, ended, known, rfl⟩ := resolve_eq_ok resolved
  obtain ⟨other, alsoEnded, name, marks⟩ := hop.settle_later ended
  have filled : later ≠ [] := by
    rintro rfl
    rw [settle_of_nameless rfl] at alsoEnded
    cases alsoEnded
  rw [resolve_of_settle filled alsoEnded]
  simp only [name, known, marks]

theorem Hop.mapError_kind_resolve : (document.resolve expression).mapError ResolveError.kind =
    (document.resolve later).mapError ResolveError.kind := by
  cases fate document expression with
  | breaks chain outcome =>
      rw [outcome.mapError_kind,
        (failsAs_malformed_iff.2 (hop.chainBreaks_later chain)).mapError_kind]
  | endless chain outcome =>
      rw [outcome.mapError_kind,
        (failsAs_cyclic_iff.2 (hop.chainNeverEnds_later chain)).mapError_kind]
  | unknown name chain strange outcome =>
      have ends := hop.chainEndsAt_later chain
      rw [outcome.mapError_kind, (failsAs_unknown_iff.2 ⟨name, ends, strange⟩).mapError_kind]
  | typed name chain known ref outcome => rw [outcome, hop.resolve_later outcome]

end Hop

theorem hop_of_alias {name : Text} {declared : Alias} (named : name ≠ [])
    (markless : ∀ marker : Marker, ¬marker.text <:+ name)
    (found : document.alias? name = some declared) (outer : List Marker) :
    document.Hop (marked outer name) (marked outer declared.target) := by
  obtain ⟨marks, bare⟩ := parts_marked markless outer
  constructor
  case named =>
    rw [bare]
    exact named
  case leads =>
    refine ⟨declared, ?_, bareName_marked outer _, ?_⟩
    · rw [bare]
      exact found
    · rw [marks, markers_marked]

/-- An alias whose name is bare resolves as its first target does, under the same markers: to the
same type, or to none for a reason of the same kind. -/
theorem resolve_alias_target {name : Text} {declared : Alias} (named : name ≠ [])
    (markless : ∀ marker : Marker, ¬marker.text <:+ name)
    (found : document.alias? name = some declared) (written : List Marker) :
    (document.resolve (name ++ written.flatMap Marker.text)).mapError ResolveError.kind =
      (document.resolve (declared.target ++ written.flatMap Marker.text)).mapError
      ResolveError.kind := by
  rw [append_flatMap_text, append_flatMap_text]
  exact (hop_of_alias named markless found written.reverse).mapError_kind_resolve

def carousel : Document where
  version := "eosio::abi/1.2"
  aliases :=
    [⟨"gate", "horse[]"⟩, ⟨"horse", "coach?"⟩, ⟨"ticket", "name$"⟩, ⟨"ticket", ""⟩,
      ⟨"coach", "horse"⟩]
  structs := []
  actions := []
  tables := []
  clauses := []
  errorMessages := []
  extensions := []
  variants := []

theorem carousel_resolve_alias_target :
    (carousel.alias? "gate" = some ⟨"gate", "horse[]"⟩ ∧
      carousel.alias? "ticket" = some ⟨"ticket", "name$"⟩) ∧
      (carousel.resolve "gate[]?").mapError ResolveError.kind = .error .cyclic ∧
      (carousel.resolve "ticket[]?").mapError ResolveError.kind =
        .ok (.optional (.array (.extension (.scalar "name")))) := by
  have around : (carousel.resolve "horse[][]?").mapError ResolveError.kind = .error .cyclic := by
    decide +kernel
  have out : (carousel.resolve "name$[]?").mapError ResolveError.kind =
      .ok (.optional (.array (.extension (.scalar "name")))) := by decide +kernel
  have gate : carousel.alias? "gate" = some ⟨"gate", "horse[]"⟩ := by decide +kernel
  have ticket : carousel.alias? "ticket" = some ⟨"ticket", "name$"⟩ := by decide +kernel
  have gateBare : ∀ marker : Marker, ¬marker.text <:+ Text.ofString "gate" := by
    intro marker
    cases marker <;> decide
  have ticketBare : ∀ marker : Marker, ¬marker.text <:+ Text.ofString "ticket" := by
    intro marker
    cases marker <;> decide
  have cyclic := resolve_alias_target (by decide) gateBare gate [.array, .optional]
  have typed := resolve_alias_target (by decide) ticketBare ticket [.array, .optional]
  exact ⟨⟨gate, ticket⟩, cyclic.trans around, typed.trans out⟩

end ContractTypes.Document
