import ContractTypes.Proofs.Inheritance.Outcome

/-!
The fields that a struct takes from its base.

The search for the chain of a struct goes on at its base as the search for the chain of that base
does, only with more names passed.  It passes none of them twice, so the chain of the struct is the
struct itself before the chain of its base, and its effective fields are those of the base followed
by its own.
-/

namespace ContractTypes.Document

variable {document : Document} {declared : Struct}

theorem chainAfter_of_baseless {current : Struct} (baseless : current.base = []) (start : Text)
    (passed : List Struct) : document.chainAfter start passed current =
      .ok (passed ++ [current]) := by
  rw [chainAfter, if_pos (List.isEmpty_iff.2 baseless)]

theorem chainAfter_of_base? {passed : List Struct} {current base : Struct}
    (extended : document.base? current = some base)
    (fresh : current.base ∉ (passed ++ [current]).map Struct.name) (start : Text) :
    document.chainAfter start passed current = document.chainAfter start
      (passed ++ [current]) base := by
  obtain ⟨based, found⟩ := base?_eq_some extended
  fun_cases chainAfter document start passed current with
  | case1 _ baseless => exact absurd (List.isEmpty_iff.1 baseless) based
  | case2 _ _ met => exact absurd (List.contains_iff_mem.1 met) fresh
  | case3 _ _ _ absent => cases found.symm.trans absent
  | case4 _ _ _ other present =>
      cases found.symm.trans present
      rfl

/-- A search that finds a chain finds the same rest of it when fewer names are passed, under
whatever name it started. -/
theorem exists_rest_of_chainAfter {start : Text} {passed chain : List Struct} {current : Struct}
    (found : document.chainAfter start passed current = .ok chain) :
    ∃ rest, chain = passed ++ rest ∧ ∀ (other : Text) (fewer : List Struct),
      (∀ name ∈ fewer.map Struct.name, name ∈ passed.map Struct.name) →
        document.chainAfter other fewer current = .ok (fewer ++ rest) := by
  fun_induction chainAfter document start passed current with
  | case1 passed current members baseless =>
      refine ⟨[current], (Except.ok.inj found).symm, fun other fewer _ => ?_⟩
      exact chainAfter_of_baseless (List.isEmpty_iff.1 baseless) other fewer
  | case2 passed current members based met => cases found
  | case3 passed current members based fresh absent => cases found
  | case4 passed current members based fresh base declares ih =>
      obtain ⟨rest, whole, again⟩ := ih found
      refine ⟨current :: rest, whole.trans (List.append_assoc passed [current] rest), ?_⟩
      intro other fewer within
      -- The names passed matter only for whether a base is fresh, and fewer of them leave more
      -- bases fresh.
      have wider : ∀ name ∈ (fewer ++ [current]).map Struct.name,
          name ∈ members.map Struct.name := by
        intro name member
        rw [List.map_append, List.mem_append] at member
        rw [List.map_append, List.mem_append]
        exact member.imp (within name) id
      have extended : document.base? current = some base :=
        (base?_of_based (mt List.isEmpty_iff.2 based)).trans declares
      have stillFresh : current.base ∉ (fewer ++ [current]).map Struct.name :=
        fun met => fresh (List.contains_iff_mem.2 (wider current.base met))
      rw [chainAfter_of_base? extended stillFresh, again other (fewer ++ [current]) wider,
        List.append_assoc, List.singleton_append]

theorem baseChain_eq_ok {chain : List Struct} (found : document.baseChain declared = .ok chain) :
    (declared.base = [] ∧ chain = [declared]) ∨ ∃ base rest, document.base? declared = some base ∧
      document.baseChain base = .ok rest ∧ chain = declared :: rest := by
  unfold baseChain at found
  revert found
  fun_cases chainAfter document declared.name [] declared with
  | case1 _ baseless =>
      intro found
      exact .inl ⟨List.isEmpty_iff.1 baseless, (Except.ok.inj found).symm⟩
  | case2 => nofun
  | case3 => nofun
  | case4 _ based _ base declares =>
      intro found
      obtain ⟨rest, whole, again⟩ := exists_rest_of_chainAfter found
      refine .inr ⟨base, rest, (base?_of_based (mt List.isEmpty_iff.2 based)).trans declares, ?_,
        whole⟩
      exact again base.name [] (fun name member => absurd member List.not_mem_nil)

theorem baseLinked_of_baseChain {chain : List Struct}
    (found : document.baseChain declared = .ok chain) :
    document.BaseLinked declared chain ∧ ∃ root, chain.getLast? = some root ∧ root.base = [] := by
  have stopped := chainEnd_baseChain document declared
  rw [found] at stopped
  cases stopped with
  | root passed last along baseless => exact ⟨along, last, List.getLast?_concat, baseless⟩

theorem effectiveFields_of_baseless {fields : List Field} (baseless : declared.base = [])
    (found : document.effectiveFields declared = .ok fields) : fields = declared.fields := by
  obtain ⟨chain, walked, rfl⟩ := effectiveFields_eq_ok_iff.1 found
  rcases baseChain_eq_ok walked with ⟨_, rfl⟩ | ⟨base, rest, extended, _, _⟩
  · exact List.append_nil declared.fields
  · rw [base?_of_baseless baseless] at extended
    cases extended

theorem effectiveFields_of_based {fields : List Field} (based : declared.base ≠ [])
    (found : document.effectiveFields declared = .ok fields) :
    ∃ base inherited, document.struct? declared.base = some base ∧
      document.effectiveFields base = .ok inherited ∧ fields = inherited ++ declared.fields := by
  obtain ⟨chain, walked, rfl⟩ := effectiveFields_eq_ok_iff.1 found
  rcases baseChain_eq_ok walked with ⟨baseless, _⟩ | ⟨base, rest, extended, above, rfl⟩
  · exact absurd baseless based
  · refine ⟨base, rest.reverse.flatMap Struct.fields, (base?_eq_some extended).2, ?_, ?_⟩
    · exact effectiveFields_eq_ok_iff.2 ⟨rest, above, rfl⟩
    · rw [List.reverse_cons, List.flatMap_append, List.flatMap_singleton]

theorem mem_effectiveFields_of_mem_fields {fields : List Field}
    (found : document.effectiveFields declared = .ok fields) {field : Field}
    (own : field ∈ declared.fields) : field ∈ fields := by
  by_cases baseless : declared.base = []
  · rwa [effectiveFields_of_baseless baseless found]
  · obtain ⟨_, inherited, _, _, rfl⟩ := effectiveFields_of_based baseless found
    exact List.mem_append_right inherited own

end ContractTypes.Document
