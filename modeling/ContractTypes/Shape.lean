import ContractTypes.Json.Basic
import ContractTypes.Number.WholeNumber

/-!
Shapes of JSON values.

A reader of a shape gives either the value read or every problem met, in the order of the fields and
the items.  A problem is located by the steps that lead to it from the outermost value.  Readers are
put together so that a problem in one part hides none in another.
-/

namespace ContractTypes

inductive ShapeStep where
  | field (name : Text)
  | index (position : Nat)
  /-- To one of several readings of the same value. -/
  | reading (name : Text)
deriving DecidableEq

inductive ShapeFault where
  | missing
  | notText
  | notList
  | notRecord
  | notWholeNumber (fault : WholeNumber.Fault)
  | notDescriptor
  | noKind
  | unknownKind
  | tooDeep
deriving DecidableEq

structure ShapeProblem where
  location : List ShapeStep
  fault : ShapeFault
deriving DecidableEq

/-- A value read from JSON, or the problems met. -/
inductive Checked (Value : Type) where
  | valid (value : Value)
  | faulty (problems : List ShapeProblem)

namespace Checked

variable {Value Result : Type}

def problems : Checked Value → List ShapeProblem
  | valid _ => []
  | faulty problems => problems

def toOption : Checked Value → Option Value
  | valid value => some value
  | faulty _ => none

def fault (fault : ShapeFault) : Checked Value := .faulty [⟨[], fault⟩]

def under (step : ShapeStep) : Checked Value → Checked Value
  | valid value => .valid value
  | faulty problems =>
      .faulty (problems.map (fun problem => ⟨step :: problem.location, problem.fault⟩))

def map (function : Value → Result) : Checked Value → Checked Result
  | valid value => .valid (function value)
  | faulty problems => .faulty problems

def also (function : Checked (Value → Result)) (part : Checked Value) : Checked Result :=
  match function, part with
  | .valid apply, .valid value => .valid (apply value)
  | .valid _, .faulty problems => .faulty problems
  | .faulty problems, .valid _ => .faulty problems
  | .faulty earlier, .faulty later => .faulty (earlier ++ later)

end Checked

namespace Shape

variable {Value : Type}

def text : Json → Checked Text
  | .string value => .valid value
  | _ => .fault .notText

def wholeNumber (json : Json) : Checked Int :=
  match WholeNumber.ofJson json with
  | .ok value => .valid value
  | .error fault => .fault (.notWholeNumber fault)

def itemsFrom (read : Json → Checked Value) : Nat → List Json → Checked (List Value)
  | _, [] => .valid []
  | position, item :: rest =>
      (((read item).under (.index position)).map List.cons).also
      (itemsFrom read (position + 1) rest)

def list (read : Json → Checked Value) : Json → Checked (List Value)
  | .array items => itemsFrom read 0 items
  | _ => .fault .notList

def record (read : List (Text × Json) → Checked Value) : Json → Checked Value
  | .object members => read members
  | _ => .fault .notRecord

def required (members : List (Text × Json)) (name : Text) (read : Json → Checked Value) :
    Checked Value :=
  match Json.lookupLast name members with
  | some value => (read value).under (.field name)
  | none => .faulty [⟨[.field name], .missing⟩]

def optional (members : List (Text × Json)) (name : Text) (absent : Value)
    (read : Json → Checked Value) : Checked Value :=
  match Json.lookupLast name members with
  | some value => (read value).under (.field name)
  | none => .valid absent

end Shape

end ContractTypes
