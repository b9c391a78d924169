import ContractTypes.Json.Basic
import ContractTypes.Text.DecimalDigit
import ContractTypes.Text.WhiteSpace

/-!
Whole numbers in a document.

Where a document has a whole number it may give an integer, a truth value for one or zero, a
floating-point number that is an integer of 64 bits, or a numeral.  A numeral has white space around
it, a sign, digits with single underscores between them, and a point with zeros behind it, all but
the digits as it likes.
-/

namespace ContractTypes.WholeNumber

inductive Fault where
  | kind
  | numeral
  | size
  | fraction
  | notFinite
  | surrogate
deriving DecidableEq

/-- The digits of a numeral without the underscores, each of which must stand between two digits. -/
def joinedDigits? : Text → Option Text
  | [] => none
  | [point] => if point.isDigit then some [point] else none
  | point :: next :: rest =>
      if point.isDigit then
        if next = '_' then (joinedDigits? rest).map (point :: ·)
        else (joinedDigits? (next :: rest)).map (point :: ·)
      else none

def withoutZeroFraction (text : Text) : Text :=
  let whole := text.takeWhile (fun point : CodePoint => decide (point ≠ '.'))
  let fraction := text.drop (whole.length + 1)
  if !fraction.isEmpty && fraction.all (fun point : CodePoint => point = '0') then whole else text

def ofNumeral (text : Text) : Except Fault Int :=
  if !text.isScalar then .error .surrogate
  else
    let parts := (text.trimmed CodePoint.isWhiteSpace).signed
    match joinedDigits? (withoutZeroFraction parts.2) with
    | none => .error .numeral
    | some digits =>
        let counted := digits.dropWhile (fun point : CodePoint => point = '0')
        if Text.digitLimit < counted.length then .error .size
        else
          let size : Int := digits.decimalNumber
          .ok (if parts.1 then -size else size)

def ofFloat (number : Binary64) : Except Fault Int :=
  match number with
  | .finite isNegative mantissa exponent =>
      match (Binary64.finite isNegative mantissa exponent).toInt? with
      | none => .error .fraction
      | some value =>
          if -0x8000000000000000 < value ∧ value < 0x8000000000000000 then .ok value else
            .error .size
  | .infinite _ => .error .notFinite
  | .notANumber => .error .notFinite

def ofJson : Json → Except Fault Int
  | .integer value => .ok value
  | .boolean value => .ok (if value then 1 else 0)
  | .float number => ofFloat number
  | .string text => ofNumeral text
  | .null => .error .kind
  | .array _ => .error .kind
  | .object _ => .error .kind

end ContractTypes.WholeNumber
