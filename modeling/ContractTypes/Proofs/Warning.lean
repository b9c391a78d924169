import ContractTypes.Proofs.Template
import ContractTypes.Warning

/-!
Documents whose warnings have messages.

Only the message about a repeated field is a template, with the name of its struct in it.  All
warnings about a document have messages exactly where each struct with a repeated field has a name
in which braces stand in pairs.
-/

namespace ContractTypes

section repeatedNames

variable {met names : List Text}

theorem repeatedAfter_eq_nil_iff :
    repeatedAfter met [] names = [] ↔ names.Nodup ∧ ∀ name ∈ names, name ∉ met := by
  induction names generalizing met with
  | nil => exact ⟨fun _ => ⟨List.nodup_nil, List.forall_mem_nil _⟩, fun _ => rfl⟩
  | cons name names ih =>
      rw [repeatedAfter, List.nodup_cons, List.forall_mem_cons]
      by_cases again : name ∈ met
      · rw [if_pos (List.contains_iff_mem.2 again), if_neg (by exact Bool.false_ne_true)]
        exact ⟨fun nil => absurd nil (List.cons_ne_nil _ _), fun fresh => absurd again fresh.2.1⟩
      · rw [if_neg (mt List.contains_iff_mem.1 again), ih]
        constructor
        · rintro ⟨nodup, fresh⟩
          refine ⟨⟨?_, nodup⟩, again, ?_⟩
          · exact fun member => fresh name member List.mem_cons_self
          · exact fun later member old => fresh later member (List.mem_cons_of_mem _ old)
        · rintro ⟨⟨once, nodup⟩, -, fresh⟩
          refine ⟨nodup, fun later member old => ?_⟩
          rcases List.mem_cons.1 old with rfl | old
          · exact once member
          · exact fresh later member old

theorem repeatedNames_eq_nil_iff : repeatedNames names = [] ↔ names.Nodup := by
  unfold repeatedNames
  rw [repeatedAfter_eq_nil_iff]
  exact and_iff_left (fun _ _ => List.not_mem_nil)

theorem sortedNames_eq_nil_iff : sortedNames names = [] ↔ names = [] := by
  unfold sortedNames Text.sorted
  rw [← List.length_eq_zero_iff, List.length_mergeSort, List.length_eq_zero_iff]
  cases names with
  | nil => exact ⟨fun _ => rfl, fun _ => rfl⟩
  | cons name names =>
      rw [List.eraseDups_cons]
      exact ⟨fun none => absurd none (List.cons_ne_nil _ _), fun none =>
        absurd none (List.cons_ne_nil _ _)⟩

end repeatedNames

namespace Warning

def HasMessage (warning : Warning) : Prop := ∃ message, warning.message = .ok message

/-- The text of a template behind its field ends in a quote, which pairs no brace. -/
theorem hasMessage_repeatedField_iff {name struct : Text} :
    (repeatedField name struct).HasMessage ↔ ∃ written, struct = Template.doubled written := by
  have plain : ¬Template.isBrace '\'' = true := by decide
  rw [← Template.exists_doubled_append_plain_iff plain]
  unfold HasMessage
  simp only [← Template.remainder_eq_ok_iff, ← faultOf_eq_none_iff]
  rw [message, faultOf_map]
  rfl

end Warning

namespace Document

variable {document : Document}

/-- Each struct in which a field is repeated has a name with every brace written twice. -/
def BracesPaired (document : Document) : Prop :=
  ∀ declared ∈ document.structs, ∀ fields, document.effectiveFields declared = .ok fields →
    (fields.map Field.name).Nodup ∨ ∃ written, declared.name = Template.doubled written

theorem hasMessage_of_mem_repetitions {warning : Warning}
    (member : warning ∈ document.repetitions) : warning.HasMessage := by
  unfold repetitions at member
  simp only [List.mem_append, List.mem_map] at member
  rcases member with (⟨name, -, rfl⟩ | ⟨name, -, rfl⟩) | ⟨name, -, rfl⟩ <;> exact ⟨_, rfl⟩

theorem hasMessage_of_mem_conflicts {warning : Warning} (member : warning ∈ document.conflicts) :
    warning.HasMessage := by
  unfold conflicts at member
  simp only [List.mem_append, List.mem_map] at member
  rcases member with ⟨name, -, rfl⟩ | ⟨name, -, rfl⟩ <;> exact ⟨_, rfl⟩

theorem hasMessage_of_mem_unknownRowTypes {warning : Warning}
    (member : warning ∈ document.unknownRowTypes) : warning.HasMessage := by
  unfold unknownRowTypes at member
  simp only [List.mem_append, List.mem_map] at member
  rcases member with ⟨action, -, rfl⟩ | ⟨table, -, rfl⟩ <;> exact ⟨_, rfl⟩

theorem hasMessage_repeatedFields_iff {declared : Struct} :
    (∀ warning ∈ document.repeatedFields declared, warning.HasMessage) ↔
      ∀ fields, document.effectiveFields declared = .ok fields →
        (fields.map Field.name).Nodup ∨ ∃ written, declared.name = Template.doubled written := by
  unfold repeatedFields
  cases document.effectiveFields declared with
  | error cause =>
      refine ⟨fun _ fields found => ?_, fun _ => List.forall_mem_nil _⟩
      cases found
  | ok fields =>
      simp only [List.forall_mem_map, Warning.hasMessage_repeatedField_iff, Except.ok.injEq,
        forall_eq']
      rw [← repeatedNames_eq_nil_iff]
      cases repeatedNames (fields.map Field.name) with
      | nil => exact ⟨fun _ => .inl rfl, fun _ => List.forall_mem_nil _⟩
      | cons name names =>
          constructor
          · intro each
            exact .inr (each name List.mem_cons_self)
          · rintro (none | paired) _ _
            · cases none
            · exact paired

theorem exists_warningMessages_iff :
    (∃ messages, document.warningMessages = .ok messages) ↔ document.BracesPaired := by
  have each : (∃ messages, document.warningMessages = .ok messages) ↔
      ∀ warning ∈ document.warnings, warning.HasMessage := by
    unfold warningMessages
    rw [← faultOf_eq_none_iff, faultOf_mapM, List.findSome?_eq_none_iff]
    simp only [faultOf_eq_none_iff]
    rfl
  rw [each]
  unfold warnings BracesPaired
  simp only [List.forall_mem_append, List.forall_mem_flatMap, hasMessage_repeatedFields_iff]
  constructor
  · intro all
    exact all.1.2
  · intro paired
    refine ⟨⟨⟨?_, ?_⟩, paired⟩, ?_⟩
    · intro warning
      exact hasMessage_of_mem_repetitions
    · intro warning
      exact hasMessage_of_mem_conflicts
    · intro warning
      exact hasMessage_of_mem_unknownRowTypes

theorem warnings_eq_nil_of_messages (unwarned : document.warningMessages = .ok []) :
    document.warnings = [] :=
  List.forall₂_nil_right_iff.1 (forall₂_of_mapM unwarned)

/-- Without warnings no two structs or variants have the same name, and neither do a struct and a
variant. -/
theorem nodup_declaredNames (unwarned : document.warnings = []) :
    (document.structNames ++ document.variantNames).Nodup := by
  unfold warnings repetitions conflicts at unwarned
  simp only [List.append_eq_nil_iff, List.map_eq_nil_iff, repeatedNames_eq_nil_iff,
    sortedNames_eq_nil_iff, List.filter_eq_nil_iff] at unwarned
  obtain ⟨⟨⟨⟨⟨-, structs⟩, variants⟩, -, apart⟩, -⟩, -⟩ := unwarned
  refine List.nodup_append.2 ⟨structs, variants, fun name struct other variant same => ?_⟩
  exact apart name struct (List.contains_iff_mem.2 (same ▸ variant))

/-- Without warnings no field occurs twice among the effective fields of a struct. -/
theorem nodup_fieldNames (unwarned : document.warnings = []) {declared : Struct}
    (member : declared ∈ document.structs) {fields : List Field}
    (found : document.effectiveFields declared = .ok fields) : (fields.map Field.name).Nodup := by
  unfold warnings at unwarned
  simp only [List.append_eq_nil_iff, List.flatMap_eq_nil_iff] at unwarned
  have unrepeated := unwarned.1.2 declared member
  unfold repeatedFields at unrepeated
  rw [found] at unrepeated
  exact repeatedNames_eq_nil_iff.1 (List.map_eq_nil_iff.1 unrepeated)

end Document

end ContractTypes
