import ContractTypes.NameTable

/-!
The declaration document of a contract.

A document lists type aliases, structs and variants, and further sections that refer to them.  The
names in a list need not differ; where a name is looked up, its first declaration counts.
-/

namespace ContractTypes

structure Alias where
  name : Text
  target : Text
deriving DecidableEq

structure Field where
  name : Text
  type : Text
deriving DecidableEq

/-- A struct, which extends another one unless its base is empty. -/
structure Struct where
  name : Text
  base : Text
  fields : List Field
deriving DecidableEq

structure Action where
  name : Text
  type : Text
  ricardianContract : Text
deriving DecidableEq

structure Table where
  name : Text
  type : Text
  indexType : Text
  keyNames : List Text
  keyTypes : List Text
deriving DecidableEq

structure Clause where
  id : Text
  body : Text
deriving DecidableEq

/-- The code of an error, a number or a text; a text is never read as a number. -/
inductive ErrorCode where
  | number (value : Int)
  | text (value : Text)
deriving DecidableEq

structure ErrorMessage where
  code : ErrorCode
  message : Text
deriving DecidableEq

structure Extension where
  tag : Int
  value : Text
deriving DecidableEq

/-- A tagged union; the place of a type in the list is its tag. -/
structure Variant where
  name : Text
  types : List Text
deriving DecidableEq

structure Document where
  version : Text
  aliases : List Alias
  structs : List Struct
  actions : List Action
  tables : List Table
  clauses : List Clause
  errorMessages : List ErrorMessage
  extensions : List Extension
  variants : List Variant
deriving DecidableEq

namespace Document

def alias? (document : Document) (name : Text) : Option Alias :=
  NameTable.first? Alias.name name document.aliases

def isAlias (document : Document) (name : Text) : Bool :=
  NameTable.has Alias.name name document.aliases

def isDeclared (document : Document) (name : Text) : Bool :=
  NameTable.has Struct.name name document.structs ||
    NameTable.has Variant.name name document.variants

def struct? (document : Document) (name : Text) : Option Struct :=
  NameTable.first? Struct.name name document.structs

end Document

end ContractTypes
