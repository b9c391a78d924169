import ContractTypes.Json.Basic
import ContractTypes.Number.Shortest

/-!
Writing JSON text.

A string is written in printable ASCII alone: every other code point is escaped by its number, one
above `0xFFFF` as a pair of surrogates.  So a written string holds no line break, and it stays one
line wherever it is put.
-/

namespace ContractTypes.Json

def unitEscape (number : Nat) : Text := "\\u" ++ Text.ofHex 4 number

def literalStep (point : CodePoint) : Text :=
  if point = '"' then "\\\""
  else if point = '\\' then "\\\\"
  else if point = '\n' then "\\n"
  else if point = '\r' then "\\r"
  else if point = '\t' then "\\t"
  else if point.val = 0x08 then "\\b"
  else if point.val = 0x0C then "\\f"
  else if point.isBetween 0x20 0x7E then [point]
  else if point.val < 0x10000 then unitEscape point.val
  else
    unitEscape (0xD800 + (point.val - 0x10000) / 0x400) ++
      unitEscape (0xDC00 + (point.val - 0x10000) % 0x400)

def literal (text : Text) : Text := "\"" ++ text.flatMap literalStep ++ "\""

def floatText : Binary64 → Text
  | .infinite isNegative => if isNegative then "-Infinity" else "Infinity"
  | .notANumber => "NaN"
  | number => number.written

mutual

def print : Json → Text
  | null => "null"
  | boolean value => if value then "true" else "false"
  | integer value => Text.ofInt value
  | float value => floatText value
  | string value => literal value
  | array items => "[" ++ printItems items ++ "]"
  | object members => "\x7b" ++ printMembers members ++ "\x7d"

def printItems : List Json → Text
  | [] => []
  | [item] => print item
  | item :: next :: rest => print item ++ "," ++ printItems (next :: rest)

def printMembers : List (Text × Json) → Text
  | [] => []
  | [(name, value)] => literal name ++ ":" ++ print value
  | (name, value) :: next :: rest =>
      literal name ++ ":" ++ print value ++ "," ++ printMembers (next :: rest)

end

end ContractTypes.Json
