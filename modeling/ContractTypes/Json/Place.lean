import ContractTypes.Json.Reader

/-!
Places in a text, and the wording of what is wrong there.

A place is found from the text that is left there: its offset is the difference of two lengths, its
line counts the line feeds before it, and its column counts code points from the last of these.
-/

namespace ContractTypes.Json

/-- A place in a text; offsets count from zero, lines and columns from one. -/
structure Place where
  offset : Nat
  line : Nat
  column : Nat
deriving DecidableEq

def Place.ofRest (whole rest : Text) : Place :=
  let before := whole.take (whole.length - rest.length)
  let lineFeed : CodePoint := '\n'
  ⟨before.length, before.count lineFeed + 1,
    (before.reverse.takeWhile (fun point => decide (point ≠ lineFeed))).length + 1⟩

def Fault.message : Fault → Text
  | byteOrderMark => "Unexpected UTF-8 BOM (decode using utf-8-sig)"
  | expectedValue => "Expecting value"
  | expectedName => "Expecting property name enclosed in double quotes"
  | expectedColon => "Expecting ':' delimiter"
  | expectedComma => "Expecting ',' delimiter"
  | extraData => "Extra data"
  | unterminatedString => "Unterminated string starting at"
  | controlCharacter => "Invalid control character at"
  | escapeLetter => "Invalid \\escape"
  | escapeNumber => "Invalid \\uXXXX escape"

def Fault.messageAt (fault : Fault) (place : Place) : Text :=
  fault.message ++ ": line " ++ Text.ofNat place.line ++ " column " ++ Text.ofNat place.column ++
    " (char " ++ Text.ofNat place.offset ++ ")"

end ContractTypes.Json
