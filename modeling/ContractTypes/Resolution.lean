import ContractTypes.Document
import ContractTypes.Scalar
import ContractTypes.TypeExpression

/-!
Resolution of type expressions.

An expression is resolved against the declarations of a document.  Its markers are put aside and its
bare name is looked up: an alias is followed to its target, whose markers join those put aside; a
declared struct or variant, and otherwise a built-in scalar, ends the search.  The markers then wrap
the leaf, those put aside first outermost.

The names of the aliases followed are kept.  An alias met a second time ends the search, so the
number of aliases not yet followed bounds it.
-/

namespace ContractTypes

inductive ResolveError where
  | empty
  | nameless (expression : Text)
  | emptyTarget (name : Text)
  /-- The aliases followed, the last of which was followed before. -/
  | cyclic (chain : List Text)
  /-- A name that is not known, and the expression that it was met in. -/
  | unknown (name expression : Text)
deriving DecidableEq

namespace ResolveError

inductive Kind where
  | malformed
  | unknown
  | cyclic
deriving DecidableEq

def kind : ResolveError → Kind
  | empty => .malformed
  | nameless _ => .malformed
  | emptyTarget _ => .malformed
  | cyclic _ => .cyclic
  | unknown _ _ => .unknown

def message : ResolveError → Text
  | empty => "Empty type expression"
  | nameless expression => "Type expression '" ++ expression ++ "' does not name a type"
  | emptyTarget name => "Type alias '" ++ name ++ "' has an empty target type"
  | cyclic chain => "Cyclic type alias: " ++ Text.joined " -> " chain
  | unknown name expression =>
      if expression = name then "Unknown type '" ++ name ++ "'"
      else "Unknown type '" ++ name ++ "' in type expression '" ++ expression ++ "'"

end ResolveError

/-- The end of a search: the markers met, the name at its end and the expression that held the
name. -/
structure Settled where
  markers : List Marker
  name : Text
  expression : Text
deriving DecidableEq

namespace Document

def settle (document : Document) (outer : List Marker) (followed : List Text) (expression : Text) :
    Except ResolveError Settled :=
  let name := TypeExpression.bareName expression
  let markers := outer ++ TypeExpression.markers expression
  if name.isEmpty then .error (.nameless expression)
  else
    match _found : document.alias? name with
    | none => .ok ⟨markers, name, expression⟩
    | some declared =>
        if _fresh : followed.contains declared.name then
          .error (.cyclic (followed ++ [declared.name]))
        else if declared.target.isEmpty then .error (.emptyTarget declared.name)
        else settle document markers (followed ++ [declared.name]) declared.target
termination_by (NameTable.unpassed Alias.name followed document.aliases).length
decreasing_by
  exact NameTable.length_unpassed_lt (NameTable.mem_of_first? _found) (Bool.eq_false_iff.2 _fresh)

/-- The leaf that a name stands for when it is no alias. -/
def leaf? (document : Document) (name : Text) : Option TypeRef :=
  if document.isDeclared name then some (.named name)
  else if Scalar.isScalar name then some (.scalar name)
  else none

def resolve (document : Document) (expression : Text) : Except ResolveError TypeRef :=
  if expression.isEmpty then .error .empty
  else
    match document.settle [] [] expression with
    | .error error => .error error
    | .ok settled =>
        match document.leaf? settled.name with
        | some leaf => .ok (TypeRef.wrapAll settled.markers leaf)
        | none => .error (.unknown settled.name settled.expression)

end Document

end ContractTypes
