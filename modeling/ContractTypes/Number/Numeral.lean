import ContractTypes.Number.Binary64
import ContractTypes.Text.WhiteSpace
import ContractTypes.Text.Case
import ContractTypes.Text.DecimalDigit

/-!
Numerals.

A numeral has white space around it and a sign before it.  Its digits may be those of any script,
and single underscores may stand between the digits of an integer.  An integer of base two, eight or
sixteen may announce its base after a zero.  A numeral of too many digits is refused as such,
whatever comes after the digits, unless the base is a power of two.
-/

namespace ContractTypes.Numeral

inductive Fault where
  | invalid
  | long (digits : Nat)
deriving DecidableEq

/-- A text without the white space around it, with digits of other scripts written in ASCII. -/
def plain (text : Text) : Text :=
  (text.trimmed CodePoint.isWhiteSpace).map (fun point =>
    match point.decimalValue? with
    | some value => CodePoint.ofDigit value
    | none => point)

def digitValue? (base : Nat) (point : CodePoint) : Option Nat :=
  match point.hexValue? with
  | some value => if value < base then some value else none
  | none => none

def baseLetter? (base : Nat) : Option CodePoint :=
  if base = 2 then some 'b' else if base = 8 then some 'o' else if base = 16 then some 'x' else none

/-- A text without the announcement of its base, after which one underscore may stand. -/
def afterBase (base : Nat) (text : Text) : Text :=
  match text with
  | [] => []
  | [point] => [point]
  | point :: letter :: rest =>
      if point = '0' && (baseLetter? base).any (fun small => letter.small == [small]) then
        match rest with
        | [] => []
        | next :: more => if next = '_' then more else next :: more
      else point :: letter :: rest

def hasSingleUnderscores : Text → Bool
  | [] => true
  | [point] => point ≠ '_'
  | point :: next :: rest =>
      !(decide (point = '_') && decide (next = '_')) && hasSingleUnderscores (next :: rest)

def integer (base : Nat) (text : Text) : Except Fault Int :=
  let parts := (plain text).signed
  let body := afterBase base parts.2
  let isDigitOrLine (point : CodePoint) : Bool :=
    (digitValue? base point).isSome || decide (point = '_')
  let written := body.takeWhile isDigitOrLine
  let digits := written.filterMap (digitValue? base)
  if body.head? = some (CodePoint.ofChar '_') || !hasSingleUnderscores written ||
    digits.isEmpty then
    .error .invalid
  else if (base = 10) && decide (Text.digitLimit < digits.length) then .error (.long digits.length)
  else if written.length < body.length then .error .invalid
  else
    let size : Nat := digits.foldl (fun number digit => number * base + digit) 0
    .ok (if parts.1 then -Int.ofNat size else Int.ofNat size)

def floatWords : List (Text × (Bool → Binary64)) := [
  ("inf", .infinite),
  ("infinity", .infinite),
  ("nan", fun _ => .notANumber)]

/-- The exponent that the end of a numeral writes; nothing if it is malformed. -/
def exponent? (text : Text) : Option Int :=
  match text with
  | [] => some 0
  | letter :: rest =>
      if letter = 'e' || letter = 'E' then
        let parts := Text.signed rest
        if !parts.2.isEmpty && parts.2.all CodePoint.isDigit then
          let size : Int := parts.2.decimalNumber
          some (if parts.1 then -size else size)
        else none
      else none

def float? (text : Text) : Option Binary64 :=
  let parts := (plain text).signed
  match floatWords.lookup (parts.2.flatMap CodePoint.small) with
  | some number => some (number parts.1)
  | none =>
      let whole := parts.2.takeWhile CodePoint.isDigit
      let afterWhole := parts.2.drop whole.length
      let hasPoint := afterWhole.head? == some (CodePoint.ofChar '.')
      let fraction := if hasPoint then (afterWhole.drop 1).takeWhile CodePoint.isDigit else []
      let afterFraction := if hasPoint then afterWhole.drop (fraction.length + 1) else afterWhole
      if whole.isEmpty && fraction.isEmpty then none
      else
        (exponent? afterFraction).map (fun power =>
          Binary64.ofDecimal parts.1 (Text.decimalNumber (whole ++ fraction))
            (power - fraction.length))

end ContractTypes.Numeral
