import ContractTypes.Naming.Casing

/-!
Naming conventions and the formatters that they give.

A formatter is any function on names.  The ones built here put a fixed text in front of the cased
name; the casing never touches that text.
-/

namespace ContractTypes

inductive Convention where
  | pascal
  | camel
  | snake
deriving DecidableEq

namespace Convention

def all : List Convention := [.pascal, .camel, .snake]

def word : Convention → Text
  | pascal => "pascal"
  | camel => "camel"
  | snake => "snake"

def ofWord? (word : Text) : Option Convention :=
  all.find? (fun convention => convention.word == word)

def casing : Convention → Text → Text
  | pascal => Naming.pascal
  | camel => Naming.camel
  | snake => Naming.snake

def format (convention : Convention) (namePrefix : Option Text) (name : Text) : Text :=
  namePrefix.getD [] ++ convention.casing name

end Convention

end ContractTypes
