import ContractTypes.Inheritance
import ContractTypes.Proofs.Walk
import Mathlib.Data.List.Nodup

/-!
Base links.

A base link goes from a struct to the first declaration under the name of its base.  The search of
`Document.chainAfter` walks along the links and keeps the names that it has passed, which all
differ.  It stops at a struct without a base, at a base that is not declared, or at a base whose
name it has passed.
-/

namespace ContractTypes.Document

def base? (document : Document) (declared : Struct) : Option Struct :=
  if declared.base.isEmpty then none else document.struct? declared.base

def baseAfter? (document : Document) (declared : Struct) : Nat → Option Struct :=
  Walk.item? document.base? declared

variable {document : Document} {declared : Struct}

theorem base?_of_baseless {last : Struct} (baseless : last.base = []) :
    document.base? last = none := by
  unfold base?
  rw [baseless]
  rfl

theorem base?_of_based {last : Struct} (based : last.base ≠ []) :
    document.base? last = document.struct? last.base := by
  unfold base?
  rw [if_neg (mt List.isEmpty_iff.1 based)]

theorem base?_eq_some {derived base : Struct} (extended : document.base? derived = some base) :
    derived.base ≠ [] ∧ document.struct? derived.base = some base := by
  have based : derived.base ≠ [] := by
    intro baseless
    rw [base?_of_baseless baseless] at extended
    cases extended
  exact ⟨based, (base?_of_based based).symm.trans extended⟩

theorem name_of_base?_eq_some {derived base : Struct}
    (extended : document.base? derived = some base) : base.name = derived.base :=
  NameTable.key_eq_of_first? (base?_eq_some extended).2

theorem struct?_name_of_base? {derived base : Struct}
    (extended : document.base? derived = some base) : document.struct? base.name = some base := by
  rw [name_of_base?_eq_some extended]
  exact (base?_eq_some extended).2

/-- A list of declarations along the links of a struct, whose names all differ. -/
structure BaseLinked (document : Document) (declared : Struct) (chain : List Struct) : Prop where
  starts : chain.head? = some declared
  linked : chain.IsChain (fun derived base => document.base? derived = some base)
  distinct : (chain.map Struct.name).Nodup

theorem BaseLinked.start (document : Document) (declared : Struct) :
    document.BaseLinked declared [declared] where
  starts := rfl
  linked := List.isChain_singleton declared
  distinct := List.nodup_singleton declared.name

theorem BaseLinked.next {passed : List Struct} {current base : Struct}
    (along : document.BaseLinked declared (passed ++ [current]))
    (extended : document.base? current = some base)
    (fresh : current.base ∉ (passed ++ [current]).map Struct.name) :
    document.BaseLinked declared (passed ++ [current] ++ [base]) where
  starts := by
    rw [List.head?_append_of_ne_nil _ (List.append_ne_nil_of_right_ne_nil _ (List.cons_ne_nil _ _))]
    exact along.starts
  linked := by
    rw [List.append_assoc]
    exact List.isChain_append_cons_cons.2 ⟨along.linked, extended, List.isChain_singleton base⟩
  distinct := by
    rw [List.map_append, List.map_singleton, name_of_base?_eq_some extended,
      ← List.concat_eq_append]
    exact along.distinct.concat fresh

theorem BaseLinked.getElem?_eq {chain : List Struct} (along : document.BaseLinked declared chain)
    {position : Nat} (inside : position < chain.length) :
    chain[position]? = document.baseAfter? declared position :=
  Walk.getElem?_eq_item? along.starts along.linked inside

theorem BaseLinked.getElem?_names {chain : List Struct} (along : document.BaseLinked declared chain)
    {position : Nat} (inside : position < chain.length) :
    (chain.map Struct.name)[position]? =
      (document.baseAfter? declared position).map Struct.name := by
  rw [List.getElem?_map, along.getElem?_eq inside]

theorem BaseLinked.reached_last {passed : List Struct} {last : Struct}
    (along : document.BaseLinked declared (passed ++ [last])) :
    document.baseAfter? declared passed.length = some last := by
  rw [← along.getElem?_eq (by simp), List.getElem?_concat_length]

/-- Where the search along the links of a struct stops, and what it gives there. -/
inductive ChainEnd (document : Document) (declared : Struct) :
    Except InheritanceError (List Struct) → Prop where
  | root (passed : List Struct) (last : Struct)
      (along : document.BaseLinked declared (passed ++ [last]))
      (baseless : last.base = []) : ChainEnd document declared (.ok (passed ++ [last]))
  | missing (passed : List Struct) (last : Struct)
      (along : document.BaseLinked declared (passed ++ [last])) (based : last.base ≠ [])
      (fresh : last.base ∉ (passed ++ [last]).map Struct.name)
      (absent : document.struct? last.base = none) :
      ChainEnd document declared (.error (.missingBase last.name last.base))
  | cycle (passed : List Struct) (last : Struct)
      (along : document.BaseLinked declared (passed ++ [last])) (based : last.base ≠ [])
      (met : last.base ∈ (passed ++ [last]).map Struct.name) :
      ChainEnd document declared
        (.error (.cycle declared.name ((passed ++ [last]).map Struct.name ++ [last.base])))

theorem chainEnd_chainAfter {start : Text} {passed : List Struct} {current : Struct}
    (named : start = declared.name) (along : document.BaseLinked declared (passed ++ [current])) :
    document.ChainEnd declared (document.chainAfter start passed current) := by
  fun_induction chainAfter document start passed current with
  | case1 passed current members baseless =>
      exact .root passed current along (List.isEmpty_iff.1 baseless)
  | case2 passed current members based met =>
      subst named
      exact .cycle passed current along (mt List.isEmpty_iff.2 based) (List.contains_iff_mem.1 met)
  | case3 passed current members based fresh absent =>
      exact .missing passed current along (mt List.isEmpty_iff.2 based)
        (mt List.contains_iff_mem.2 fresh)
        absent
  | case4 passed current members based fresh base found ih =>
      have extended : document.base? current = some base :=
        (base?_of_based (mt List.isEmpty_iff.2 based)).trans found
      exact ih (along.next extended (mt List.contains_iff_mem.2 fresh))

theorem chainEnd_baseChain (document : Document) (declared : Struct) :
    document.ChainEnd declared (document.baseChain declared) :=
  chainEnd_chainAfter rfl (BaseLinked.start document declared)

end ContractTypes.Document
