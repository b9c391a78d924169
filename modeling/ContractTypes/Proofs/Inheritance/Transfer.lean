import ContractTypes.Proofs.Inheritance.Extension

/-!
Base chains in one document and in another.

The search for the chain of a struct looks up bases by name and sees nothing of the types of fields.
Where another document has the same structs under the names that are found, be it with other types
of fields, and misses the base that is missed, the search goes the same way there.
-/

namespace ContractTypes

def Field.retyped (retype : Text → Text) (field : Field) : Field :=
  { field with type := retype field.type }

def Struct.retyped (retype : Text → Text) (declared : Struct) : Struct :=
  { declared with fields := declared.fields.map (Field.retyped retype) }

theorem Struct.retyped_id (declared : Struct) : declared.retyped id = declared := by
  have same : declared.fields.map (Field.retyped id) = declared.fields :=
    List.map_id declared.fields
  unfold Struct.retyped
  rw [same]

theorem Field.map_retyped_id {Error : Type} (result : Except Error (List Field)) :
    result.map (List.map (Field.retyped id)) = result := by
  cases result with
  | error error => rfl
  | ok fields => exact congrArg Except.ok (List.map_id fields)

theorem Struct.map_name_retyped (retype : Text → Text) (structs : List Struct) :
    (structs.map (Struct.retyped retype)).map Struct.name = structs.map Struct.name := by
  rw [List.map_map]
  rfl

namespace Document

variable {document other : Document}

theorem chainAfter_of_met {passed : List Struct} {current : Struct} (based : current.base ≠ [])
    (met : current.base ∈ (passed ++ [current]).map Struct.name) (start : Text) :
    document.chainAfter start passed current =
      .error (.cycle start ((passed ++ [current]).map Struct.name ++ [current.base])) := by
  rw [chainAfter, if_neg (mt List.isEmpty_iff.1 based), dif_pos (List.contains_iff_mem.2 met)]

theorem chainAfter_of_missing {passed : List Struct} {current : Struct} (based : current.base ≠ [])
    (fresh : current.base ∉ (passed ++ [current]).map Struct.name)
    (absent : document.struct? current.base = none) (start : Text) :
    document.chainAfter start passed current = .error (.missingBase current.name current.base) := by
  fun_cases chainAfter document start passed current with
  | case1 _ baseless => exact absurd (List.isEmpty_iff.1 baseless) based
  | case2 _ _ met => exact absurd (List.contains_iff_mem.1 met) fresh
  | case3 => rfl
  | case4 _ _ _ base present => cases absent.symm.trans present

/-- The search for a base chain goes the same way in a document that has the bases found, with other
types of fields, and does not have the base missed. -/
theorem chainAfter_retyped (retype : Text → Text)
    (structs : ∀ name base, document.struct? name = some base →
      other.struct? name = some (base.retyped retype))
    {start : Text} {passed : List Struct} {current : Struct}
    (missing : ∀ name base, document.chainAfter start passed current =
      .error (.missingBase name base) →
      other.struct? base = none) :
    other.chainAfter start (passed.map (Struct.retyped retype)) (current.retyped retype) =
      (document.chainAfter start passed current).map (List.map (Struct.retyped retype)) := by
  have chained (passed : List Struct) (current : Struct) :
      passed.map (Struct.retyped retype) ++ [current.retyped retype] =
        (passed ++ [current]).map (Struct.retyped retype) := by
    rw [List.map_append, List.map_singleton]
  have names (passed : List Struct) (current : Struct) :
      (passed.map (Struct.retyped retype) ++ [current.retyped retype]).map Struct.name =
        (passed ++ [current]).map Struct.name := by
    rw [chained, Struct.map_name_retyped]
  fun_induction chainAfter document start passed current with
  | case1 passed current members baseless =>
      have alsoBaseless : (current.retyped retype).base = [] := List.isEmpty_iff.1 baseless
      rw [chainAfter_of_baseless alsoBaseless, chained]
      rfl
  | case2 passed current members based met =>
      have alsoBased : (current.retyped retype).base ≠ [] := mt List.isEmpty_iff.2 based
      rw [chainAfter_of_met alsoBased ((names passed current).symm ▸ List.contains_iff_mem.1 met),
        names]
      rfl
  | case3 passed current members based fresh absent =>
      have alsoBased : (current.retyped retype).base ≠ [] := mt List.isEmpty_iff.2 based
      rw [chainAfter_of_missing alsoBased
        ((names passed current).symm ▸ mt List.contains_iff_mem.2 fresh)
        (missing _ _ rfl)]
      rfl
  | case4 passed current members based fresh base declares ih =>
      have alsoBased : (current.retyped retype).base ≠ [] := mt List.isEmpty_iff.2 based
      have extended : other.base? (current.retyped retype) = some (base.retyped retype) :=
        (base?_of_based alsoBased).trans (structs _ _ declares)
      rw [chainAfter_of_base? extended
        ((names passed current).symm ▸ mt List.contains_iff_mem.2 fresh), chained]
      exact ih missing

theorem effectiveFields_retyped (retype : Text → Text) {declared : Struct}
    (structs : ∀ name base, document.struct? name = some base →
      other.struct? name = some (base.retyped retype))
    (missing : ∀ name base, document.effectiveFields declared = .error (.missingBase name base) →
      other.struct? base = none) :
    other.effectiveFields (declared.retyped retype) =
      (document.effectiveFields declared).map (List.map (Field.retyped retype)) := by
  have walked : other.baseChain (declared.retyped retype) =
      (document.baseChain declared).map (List.map (Struct.retyped retype)) :=
    chainAfter_retyped retype structs (fun name base failed =>
      missing name base (effectiveFields_eq_error_iff.2 failed))
  unfold effectiveFields
  rw [walked]
  cases document.baseChain declared with
  | error error => rfl
  | ok chain =>
      change Except.ok ((chain.map (Struct.retyped retype)).reverse.flatMap Struct.fields) =
        Except.ok ((chain.reverse.flatMap Struct.fields).map (Field.retyped retype))
      rw [← List.map_reverse, List.flatMap_map, List.map_flatMap]
      rfl

theorem effectiveFields_eq_effectiveFields {declared : Struct}
    (structs : ∀ name base, document.struct? name = some base → other.struct? name = some base)
    (missing : ∀ name base, document.effectiveFields declared = .error (.missingBase name base) →
      other.struct? base = none) :
    other.effectiveFields declared = document.effectiveFields declared := by
  have retyped := effectiveFields_retyped id
    (fun name base found => (structs name base found).trans (congrArg some base.retyped_id.symm))
      missing
  rwa [declared.retyped_id, Field.map_retyped_id] at retyped

theorem struct?_of_missingBase {declared : Struct} {name base : Text}
    (failed : document.effectiveFields declared = .error (.missingBase name base)) :
    document.struct? base = none := by
  have ended := chainEnd_baseChain document declared
  rw [effectiveFields_eq_error_iff.1 failed] at ended
  cases ended with
  | missing passed last along based fresh absent => exact absent

theorem effectiveFields_congr (structs : ∀ name, other.struct? name = document.struct? name)
    (declared : Struct) : other.effectiveFields declared = document.effectiveFields declared :=
  effectiveFields_eq_effectiveFields (fun name _ found => (structs name).trans found)
    (fun _ base failed => (structs base).trans (struct?_of_missingBase failed))

end Document

end ContractTypes
