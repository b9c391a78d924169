import ContractTypes.Text.CodePoint
import ContractTypes.Number.Binary64

/-!
JSON values.

Integers and floating-point numbers are kept apart, as their written forms are.  An object keeps all
its members in the order in which they were written; where a name is written twice the last member
counts.
-/

namespace ContractTypes

inductive Json where
  | null
  | boolean (value : Bool)
  | integer (value : Int)
  | float (value : Binary64)
  | string (value : Text)
  | array (items : List Json)
  | object (members : List (Text × Json))

namespace Json

def lookupLast (name : Text) : List (Text × Json) → Option Json
  | [] => none
  | member :: rest =>
      match lookupLast name rest with
      | some value => some value
      | none => if member.1 = name then some member.2 else none

def member? (name : Text) : Json → Option Json
  | object members => lookupLast name members
  | _ => none

theorem sizeOf_lookupLast {name : Text} {members : List (Text × Json)} {value : Json}
    (found : lookupLast name members = some value) : sizeOf value < sizeOf members := by
  induction members with
  | nil => simp [lookupLast] at found
  | cons member rest ih =>
      obtain ⟨key, content⟩ := member
      rw [lookupLast] at found
      cases later : lookupLast name rest with
      | some last =>
          rw [later] at found
          have := ih (later.trans found)
          simp only [List.cons.sizeOf_spec]
          omega
      | none =>
          rw [later] at found
          by_cases same : key = name
          · cases (if_pos same).symm.trans found
            simp only [List.cons.sizeOf_spec, Prod.mk.sizeOf_spec]
            omega
          · cases (if_neg same).symm.trans found

theorem mem_of_lookupLast {name : Text} {members : List (Text × Json)} {value : Json}
    (found : lookupLast name members = some value) : (name, value) ∈ members := by
  induction members with
  | nil => cases found
  | cons member rest ih =>
      rw [lookupLast] at found
      cases later : lookupLast name rest with
      | some last =>
          rw [later] at found
          exact List.mem_cons_of_mem member (ih (later.trans found))
      | none =>
          rw [later] at found
          by_cases same : member.1 = name
          · have last := (if_pos same).symm.trans found
            rw [← same, ← Option.some.inj last]
            exact List.mem_cons_self
          · cases (if_neg same).symm.trans found

theorem exists_lookupLast_of_mem {name : Text} {members : List (Text × Json)} {value : Json}
    (listed : (name, value) ∈ members) : ∃ last, lookupLast name members = some last := by
  induction members with
  | nil => cases listed
  | cons member rest ih =>
      rw [lookupLast]
      cases later : lookupLast name rest with
      | some last => exact ⟨last, rfl⟩
      | none =>
          rcases List.mem_cons.1 listed with rfl | behind
          · exact ⟨value, if_pos rfl⟩
          · obtain ⟨last, found⟩ := ih behind
            rw [later] at found
            cases found

def kindWord : Json → Text
  | null => "NoneType"
  | boolean _ => "bool"
  | integer _ => "int"
  | float _ => "float"
  | string _ => "str"
  | array _ => "list"
  | object _ => "dict"

end Json

end ContractTypes
