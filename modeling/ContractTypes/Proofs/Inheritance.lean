import ContractTypes.Inheritance
import ContractTypes.Proofs.Result

/-!
Base chains.

Every member of a base chain is the struct that it starts with or a struct of the document, and so
are the owners of the effective fields.
-/

namespace ContractTypes.Document

variable {document : Document}

theorem mem_of_mem_chainAfter {start : Text} {passed chain : List Struct} {current : Struct}
    (found : document.chainAfter start passed current = .ok chain)
    (inside : ∀ member ∈ passed ++ [current], member ∈ document.structs) :
    ∀ member ∈ chain, member ∈ document.structs := by
  fun_induction chainAfter document start passed current with
  | case1 passed current members root =>
      rw [← Except.ok.inj found]
      exact inside
  | case2 passed current members derived stale => cases found
  | case3 passed current members derived fresh missing => cases found
  | case4 passed current members derived fresh base declared ih =>
      apply ih found
      intro member atEnd
      rcases List.mem_append.1 atEnd with before | last
      · exact inside member before
      · rw [List.mem_singleton.1 last]
        exact NameTable.mem_of_first? declared

theorem mem_of_mem_baseChain {declared : Struct} {chain : List Struct}
    (found : document.baseChain declared = .ok chain) (member : declared ∈ document.structs) :
    ∀ ancestor ∈ chain, ancestor ∈ document.structs := by
  refine mem_of_mem_chainAfter found ?_
  intro first start
  rw [List.mem_singleton.1 start]
  exact member

theorem effectiveFields_eq_error_iff {declared : Struct} {error : InheritanceError} :
    document.effectiveFields declared = .error error ↔
      document.baseChain declared = .error error := by
  rw [← faultOf_eq_some_iff, ← faultOf_eq_some_iff]
  unfold effectiveFields
  rw [faultOf_map]

theorem effectiveFields_eq_ok_iff {declared : Struct} {fields : List Field} :
    document.effectiveFields declared = .ok fields ↔
      ∃ chain, document.baseChain declared = .ok chain ∧
        chain.reverse.flatMap Struct.fields = fields := by
  unfold effectiveFields
  constructor
  · intro found
    exact exists_of_map_eq_ok found
  · rintro ⟨chain, walked, rfl⟩
    rw [walked]
    rfl

theorem exists_owner_of_mem_effectiveFields {declared : Struct} {fields : List Field}
    {field : Field} (found : document.effectiveFields declared = .ok fields)
    (member : declared ∈ document.structs) (effective : field ∈ fields) :
    ∃ owner ∈ document.structs, field ∈ owner.fields := by
  obtain ⟨chain, walked, rfl⟩ := effectiveFields_eq_ok_iff.1 found
  obtain ⟨owner, onChain, owned⟩ := List.mem_flatMap.1 effective
  exact ⟨owner, mem_of_mem_baseChain walked member owner (List.mem_reverse.1 onChain), owned⟩

end ContractTypes.Document
