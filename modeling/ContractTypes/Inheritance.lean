import ContractTypes.Document

/-!
Inheritance of structs.

The base chain of a struct goes from the struct to the first declaration under the name of its base,
and so on to a struct without a base.  The effective fields of a struct are the fields along its
chain, those of the last struct first.

The names on a chain differ, because a base whose name is on the chain already ends the search as a
cycle.
-/

namespace ContractTypes

inductive InheritanceError where
  /-- The names on the chain of a struct and, at the end, a base that is among them. -/
  | cycle (start : Text) (path : List Text)
  | missingBase (name base : Text)
deriving DecidableEq

def InheritanceError.message : InheritanceError → Text
  | cycle start path => "Struct '" ++ start ++ "' inherits from itself: " ++ Text.joined " -> " path
  | missingBase name base => "Struct '" ++ name ++ "' has undeclared base '" ++ base ++ "'"

namespace Document

/-- A base that is not yet on a chain leaves fewer structs off it. -/
theorem length_unpassed_chain_lt {document : Document} {chain : List Struct} {name : Text}
    {base : Struct} (found : document.struct? name = some base)
    (fresh : (chain.map Struct.name).contains name = false) :
    (NameTable.unpassed Struct.name ((chain ++ [base]).map Struct.name) document.structs).length <
      (NameTable.unpassed Struct.name (chain.map Struct.name) document.structs).length := by
  have named := NameTable.key_eq_of_first? found
  rw [List.map_append, List.map_singleton]
  exact NameTable.length_unpassed_lt (NameTable.mem_of_first? found) (named.symm ▸ fresh)

def chainAfter (document : Document) (start : Text) (passed : List Struct) (current : Struct) :
    Except InheritanceError (List Struct) :=
  let chain := passed ++ [current]
  if current.base.isEmpty then .ok chain
  else if _fresh : (chain.map Struct.name).contains current.base then
    .error (.cycle start (chain.map Struct.name ++ [current.base]))
  else
    match _found : document.struct? current.base with
    | none => .error (.missingBase current.name current.base)
    | some base => chainAfter document start chain base
termination_by
  (NameTable.unpassed Struct.name ((passed ++ [current]).map Struct.name) document.structs).length
decreasing_by exact length_unpassed_chain_lt _found (Bool.eq_false_iff.2 _fresh)

def baseChain (document : Document) (declared : Struct) : Except InheritanceError (List Struct) :=
  document.chainAfter declared.name [] declared

/-- The fields of a struct and of its bases, those of the last base first. -/
def effectiveFields (document : Document) (declared : Struct) :
    Except InheritanceError (List Field) :=
  (document.baseChain declared).map (fun chain => chain.reverse.flatMap Struct.fields)

/-- The structs that are looked up by name, each with its place in the document. -/
def structIndex (document : Document) : List (Nat × Text) :=
  (document.structs.zipIdx.filter (fun entry =>
    !NameTable.has Struct.name entry.1.name (document.structs.take entry.2))).map
      (fun entry => (entry.2, entry.1.name))

end Document

end ContractTypes
