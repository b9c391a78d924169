import ContractTypes.Text.CodePoint

/-!
The built-in scalars of a contract and their TypeScript types.

Integers of at most 32 bits and floating-point numbers of 32 and 64 bits fit a number of TypeScript.
Wider numbers, and every scalar whose written form is a text, are strings there.
-/

namespace ContractTypes.Scalar

def table : List (Text × Text) := [
  ("bool", "boolean"),
  ("int8", "number"),
  ("uint8", "number"),
  ("int16", "number"),
  ("uint16", "number"),
  ("int32", "number"),
  ("uint32", "number"),
  ("varint32", "number"),
  ("varuint32", "number"),
  ("int64", "string"),
  ("uint64", "string"),
  ("int128", "string"),
  ("uint128", "string"),
  ("float32", "number"),
  ("float64", "number"),
  ("float128", "string"),
  ("time_point", "string"),
  ("time_point_sec", "string"),
  ("block_timestamp_type", "string"),
  ("name", "string"),
  ("bytes", "string"),
  ("string", "string"),
  ("checksum160", "string"),
  ("checksum256", "string"),
  ("checksum512", "string"),
  ("public_key", "string"),
  ("signature", "string"),
  ("symbol", "string"),
  ("symbol_code", "string"),
  ("asset", "string"),
  ("extended_asset", "\x7bquantity: string, contract: string\x7d")]

def typeText? (name : Text) : Option Text := table.lookup name

def isScalar (name : Text) : Bool := (typeText? name).isSome

def names : List Text := Text.sorted (table.map (·.1))

end ContractTypes.Scalar
